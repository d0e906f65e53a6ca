import MatchVet.Artifacts.Store

/-!
# The catalog and the object store agree

Every step of a publication leaves the catalog, the authority and the objects alone,
but for the one object it installs and the one transaction it commits.
-/

namespace MatchVet.Artifacts.Consistency

open MatchVet.Artifacts.Manifest
open MatchVet.Artifacts.Store
open MatchVet.Artifacts.Tables
open MatchVet.Foundation.CanonicalJson
open MatchVet.Foundation.CrashLogic
open MatchVet.Foundation.Identifier
open MatchVet.Foundation.KeySort
open MatchVet.Foundation.Runtime

variable {ω : Type}

/-! ## Objects -/

theorem lookup_append_of_some {α β : Type} [BEq α] {first second : List (α × β)} {key : α}
    {value : β} (hlookup : first.lookup key = some value) :
    (first ++ second).lookup key = some value := by
  rw [List.lookup_append, hlookup]
  rfl

theorem lookup_append_of_none {α β : Type} [BEq α] [LawfulBEq α] {first : List (α × β)} {key : α}
    (hlookup : first.lookup key = none) (value : β) :
    (first ++ [(key, value)]).lookup key = some value := by
  rw [List.lookup_append, hlookup]
  simp

/-- Nothing but the staged files changed. -/
def Untouched (start world : World ω) : Prop :=
  world.catalog = start.catalog ∧ world.authority = start.authority ∧
    world.objects = start.objects

theorem Untouched.refl (world : World ω) : Untouched world world := ⟨rfl, rfl, rfl⟩

/-- Nothing changed but the staged files and, where there was none, the object of a
path. -/
def Placed (path : String) (content : Content) (start world : World ω) : Prop :=
  world.catalog = start.catalog ∧ world.authority = start.authority ∧
    (world.objects = start.objects ∨
      start.objects.lookup path = none ∧ world.objects = start.objects ++ [(path, content)])

theorem Untouched.placed {path : String} {content : Content} {start world : World ω}
    (hsame : Untouched start world) : Placed path content start world :=
  ⟨hsame.1, hsame.2.1, Or.inl hsame.2.2⟩

/-- An object that is there stays. -/
theorem Placed.untouched {path : String} {content : Content} {start world : World ω}
    (hplaced : Placed path content start world) (hthere : start.objects.lookup path ≠ none) :
    Untouched start world := by
  obtain ⟨hcatalog, hauthority, hobjects | ⟨hnone, -⟩⟩ := hplaced
  · exact ⟨hcatalog, hauthority, hobjects⟩
  · exact absurd hnone hthere

theorem Placed.link {path : String} {content : Content} {start world : World ω}
    (hplaced : Placed path content start world) (hnone : world.objects.lookup path = none) :
    Placed path content start (world.link path content) := by
  obtain ⟨hcatalog, hauthority, hobjects | ⟨hfirst, hobjects⟩⟩ := hplaced
  · refine ⟨hcatalog, hauthority, Or.inr ⟨hobjects ▸ hnone, ?_⟩⟩
    change world.objects ++ [(path, content)] = _
    rw [hobjects]
  · rw [hobjects, lookup_append_of_none hfirst] at hnone
    cases hnone

theorem writeStage_meets {path : String} {content : Content} {start : World ω} (name : String) :
    Meets (Placed path content start) (writeStage name content)
      (fun _ world => Placed path content start world ∧
        world.staging.lookup name = some content)
      (Placed path content start) := by
  refine Meets.effect ?_ (fun _ => id) ?_
  · intro world next _ hplaced hwrite
    split at hwrite
    · rename_i hnone
      cases hwrite
      exact ⟨hplaced, lookup_append_of_none hnone content⟩
    · cases hwrite
  · intro left world hplaced
    split
    · split
      · exact hplaced
      · exact hplaced
    · exact hplaced

theorem unlinkStage_meets {before : World ω → Prop} (name : String)
    (hbefore : ∀ world, before world → before (world.unstage name)) :
    Meets before (unlinkStage name) (fun _ => before) before := by
  refine Meets.atomic ?_ fun _ => id
  rintro world next _ hworld ⟨⟩
  exact hbefore world hworld

/-- Objects are only added. -/
theorem Placed.grows {path : String} {content : Content} {start world : World ω}
    (hplaced : Placed path content start world) : start.objects <+: world.objects := by
  obtain ⟨-, -, hobjects | ⟨-, hobjects⟩⟩ := hplaced
  · rw [hobjects]
  · rw [hobjects]
    exact List.prefix_append _ _

theorem discardIncompleteStaging_meets {start : World ω} :
    Meets (Untouched start) discardIncompleteStaging (fun _ => Untouched start)
      (Untouched start) := by
  refine Meets.bind (Meets.pass fun _ => id) fun _ => ?_
  refine Meets.bind (Meets.observe fun _ => id) fun names => ?_
  refine Meets.bind (Meets.each fun name _ => unlinkStage_meets name fun _ => id) fun _ => ?_
  exact Meets.bind (Meets.pass fun _ => id) fun _ => Meets.keep names

theorem reported_eq_nil {world : World ω} {condition : ArtifactMetadata → Bool}
    (hnone : ∀ metadata ∈ world.catalog.artifacts, condition metadata = false) :
    reported world condition = [] := by
  have hfilter : world.catalog.artifacts.filter condition = [] :=
    List.filter_eq_nil_iff.mpr fun metadata hmem => by simp [hnone metadata hmem]
  rw [reported, hfilter]
  rfl

section Objects

variable [ContentAddressing]

/-- The object of a digest is there, with the digest and the length. -/
def Stored (objects : List (String × Content)) (digest : Digest) (byteLength : ℕ) : Prop :=
  ∃ content, objects.lookup (relativeObjectPath digest) = some content ∧
    digestOf content = digest ∧ lengthOf content = byteLength

theorem stored_of_checkObject {digest : Digest} {byteLength : ℕ} {world : World ω} {done : Unit}
    (hcheck : checkObject digest byteLength world = .ok done) :
    Stored world.objects digest byteLength := by
  unfold checkObject at hcheck
  cases hlookup : world.objects.lookup (relativeObjectPath digest) with
  | none =>
      rw [hlookup] at hcheck
      cases hcheck
  | some content =>
      rw [hlookup] at hcheck
      obtain ⟨hlength, hdigest⟩ := require_ok_iff.mp hcheck
      exact ⟨content, hlookup, hdigest, hlength⟩

variable {start : World ω} {content : Content} {record : ArtifactMetadata}

/-- The record is that of the content. -/
def Describes (record : ArtifactMetadata) (content : Content) : Prop :=
  record.digest = digestOf content ∧ record.byteLength = lengthOf content

abbrev path (record : ArtifactMetadata) : String := relativeObjectPath record.digest

abbrev AtPath (record : ArtifactMetadata) (content : Content) (start world : World ω) : Prop :=
  Placed (path record) content start world

abbrev RecordStored (record : ArtifactMetadata) (world : World ω) : Prop :=
  Stored world.objects record.digest record.byteLength

theorem verifyFile_meets {before : World ω → Prop} (digest : Digest) (byteLength : ℕ) :
    Meets before (verifyFile digest byteLength)
      (fun _ world => before world ∧ Stored world.objects digest byteLength) before :=
  Meets.reading (fun _ _ hbefore hcheck => ⟨hbefore, stored_of_checkObject hcheck⟩) fun _ => id

theorem installNoReplace_meets (name : String) (hdescribes : Describes record content) :
    Meets
      (fun world => AtPath record content start world ∧ world.staging.lookup name = some content)
      (installNoReplace name (path record))
      (fun installed world => AtPath record content start world ∧
        (installed = true → RecordStored record world))
      (AtPath record content start) := by
  refine Meets.effect ?_ (fun _ hbefore => hbefore.1) ?_
  · rintro world next installed ⟨hplaced, hstaged⟩ hinstall
    rw [hstaged] at hinstall
    dsimp only at hinstall
    split at hinstall
    · rename_i hnone
      cases hinstall
      exact ⟨hplaced.link hnone, fun _ =>
        ⟨content, lookup_append_of_none hnone content, hdescribes.1.symm, hdescribes.2.symm⟩⟩
    · cases hinstall
      exact ⟨hplaced, nofun⟩
  · rintro left world ⟨hplaced, hstaged⟩
    rw [hstaged]
    dsimp only
    split
    · rename_i hlink
      exact hplaced.link hlink.2
    · exact hplaced

theorem settleInstall_meets (installed : Bool) :
    Meets
      (fun world => AtPath record content start world ∧
        (installed = true → RecordStored record world))
      (settleInstall record installed)
      (fun _ world => AtPath record content start world ∧ RecordStored record world)
      (AtPath record content start) := by
  cases installed with
  | true => exact Meets.ret fun _ hbefore => ⟨hbefore.1, hbefore.2 rfl⟩
  | false =>
      exact (verifyFile_meets record.digest record.byteLength).weaken
        (fun _ hbefore => hbefore.1) (fun _ _ => id) fun _ => id

theorem placeObject_meets (name : String) (hdescribes : Describes record content) (target : Bool) :
    Meets
      (fun world => AtPath record content start world ∧ world.staging.lookup name = some content)
      (placeObject name record target)
      (fun _ world => AtPath record content start world ∧ RecordStored record world)
      (AtPath record content start) := by
  cases target with
  | true =>
      exact (verifyFile_meets record.digest record.byteLength).weaken
        (fun _ hbefore => hbefore.1) (fun _ _ => id) fun _ => id
  | false =>
      refine Meets.bind (installNoReplace_meets name hdescribes) fun installed => ?_
      refine Meets.bind (settleInstall_meets installed) fun _ => ?_
      exact Meets.pass fun _ hbefore => hbefore.1

theorem installObject_meets (name : String) (hdescribes : Describes record content) :
    Meets (AtPath record content start) (installObject content record name)
      (fun _ world => AtPath record content start world ∧ RecordStored record world)
      (AtPath record content start) := by
  refine Meets.bind (writeStage_meets name) fun _ => ?_
  refine Meets.bind (Meets.observe fun _ hbefore => hbefore.1) fun _ => ?_
  refine Meets.bind (Meets.pass fun _ hbefore => hbefore.1) fun _ => ?_
  refine Meets.bind (Meets.observe fun _ hbefore => hbefore.1) fun target => ?_
  refine Meets.bind (placeObject_meets name hdescribes target) fun _ => ?_
  refine Meets.bind ((unlinkStage_meets name fun _ => id).weaken (fun _ => id) (fun _ _ => id)
    fun _ hbefore => hbefore.1) fun _ => ?_
  exact Meets.pass fun _ hbefore => hbefore.1

/-- A published object is there in the end, and nothing else has changed. -/
theorem publishObject_meets (nonce : String) (hdescribes : Describes record content) :
    Meets (Untouched start) (publishObject content record nonce)
      (fun _ world => AtPath record content start world ∧ RecordStored record world)
      (AtPath record content start) := by
  suffices hcall : Meets (AtPath record content start) (publishObject content record nonce)
      (fun _ world => AtPath record content start world ∧ RecordStored record world)
      (AtPath record content start) from
    hcall.weaken (fun _ => Untouched.placed) (fun _ _ => id) fun _ => id
  refine Meets.bind (Meets.pass fun _ => id) fun _ => ?_
  refine Meets.bind (Meets.pass fun _ => id) fun _ => ?_
  exact Meets.recover (installObject_meets _ hdescribes) (unlinkStage_meets _ fun _ => id)

end Objects

/-! ## Consistent stores -/

section Consistent

variable [ContentAddressing]

/-- A manifest row and the rows of its members say what the stored manifest says. -/
structure Published (objects : List (String × Content)) (catalog : Catalog) (found : ManifestRow)
    (manifest : SnapshotManifest) : Prop where
  object : objects.lookup (relativeObjectPath found.manifestDigest) = some manifest.toBytes
  row : found = row manifest
  verified : manifest.verifiedAtUtc.isSome = true
  catalogued : ∃ metadata ∈ catalog.artifacts, metadata.digest = found.manifestDigest ∧
    metadata.mediaType = manifestMediaType
  members : catalog.membersOf found.manifestDigest = Catalog.memberRows manifest
  versions : catalog.versionsOf found.manifestDigest = Catalog.memberVersionRows manifest
  memberCatalogued : ∀ item ∈ manifest.artifacts, ∃ metadata ∈ catalog.artifacts,
    metadata.artifactId = item.artifactId ∧ metadata.digest = item.digest

/-- What holds between two calls.  The objects are contents that were offered. -/
structure Consistent (offered : Set Content) (objects : List (String × Content))
    (catalog : Catalog) : Prop where
  offered : ∀ file ∈ objects, file.2 ∈ offered
  artifacts : ∀ metadata ∈ catalog.artifacts,
    metadata.relativePath = relativeObjectPath metadata.digest ∧
      Stored objects metadata.digest metadata.byteLength
  digests : (catalog.artifacts.map ArtifactMetadata.digest).Nodup
  manifests : ∀ found ∈ catalog.manifests, ∃ manifest, Published objects catalog found manifest
  snapshots : (catalog.manifests.map ManifestRow.snapshotId).Nodup
  memberManifests : ∀ member ∈ catalog.memberArtifacts,
    member.manifestDigest ∈ catalog.manifests.map ManifestRow.manifestDigest
  versionManifests : ∀ member ∈ catalog.memberVersions,
    member.manifestDigest ∈ catalog.manifests.map ManifestRow.manifestDigest

variable {offered : Set Content} {objects : List (String × Content)} {catalog : Catalog}

/-- A store without artifacts. -/
theorem consistent_empty (identifiers : List (Uuid × EntityKind))
    (versions : List ManifestVersion) :
    Consistent offered [] ⟨identifiers, versions, [], [], [], []⟩ := by
  constructor
  · intro file hmem
    cases hmem
  · intro metadata hmem
    cases hmem
  · exact List.nodup_nil
  · intro found hmem
    cases hmem
  · exact List.nodup_nil
  · intro member hmem
    cases hmem
  · intro member hmem
    cases hmem

theorem Stored.append {digest : Digest} {byteLength : ℕ} (hstored : Stored objects digest byteLength)
    (more : List (String × Content)) : Stored (objects ++ more) digest byteLength := by
  obtain ⟨content, hlookup, hcontent⟩ := hstored
  exact ⟨content, lookup_append_of_some hlookup, hcontent⟩

theorem Published.append {found : ManifestRow} {manifest : SnapshotManifest}
    (hpublished : Published objects catalog found manifest) (more : List (String × Content)) :
    Published (objects ++ more) catalog found manifest :=
  { hpublished with object := lookup_append_of_some hpublished.object }

/-- One more object of an offered content keeps a store consistent. -/
theorem Consistent.append (hconsistent : Consistent offered objects catalog)
    {file : String × Content} (hfile : file.2 ∈ offered) :
    Consistent offered (objects ++ [file]) catalog where
  offered := by
    intro other hmem
    rcases List.mem_append.mp hmem with hmem | hmem
    · exact hconsistent.offered other hmem
    · rwa [List.mem_singleton.mp hmem]
  artifacts metadata hmem :=
    ⟨(hconsistent.artifacts metadata hmem).1, (hconsistent.artifacts metadata hmem).2.append _⟩
  digests := hconsistent.digests
  manifests found hmem := by
    obtain ⟨manifest, hpublished⟩ := hconsistent.manifests found hmem
    exact ⟨manifest, hpublished.append _⟩
  snapshots := hconsistent.snapshots
  memberManifests := hconsistent.memberManifests
  versionManifests := hconsistent.versionManifests

theorem Consistent.placed {path : String} {content : Content} {start world : World ω}
    (hconsistent : Consistent offered start.objects start.catalog) (hoffered : content ∈ offered)
    (hplaced : Placed path content start world) :
    Consistent offered world.objects world.catalog := by
  obtain ⟨hcatalog, -, hobjects | ⟨-, hobjects⟩⟩ := hplaced
  · rwa [hcatalog, hobjects]
  · rw [hcatalog, hobjects]
    exact hconsistent.append hoffered

theorem Consistent.sameTables (hconsistent : Consistent offered objects catalog) {next : Catalog}
    (hsame : Catalog.SameTables catalog next) : Consistent offered objects next := by
  obtain ⟨identifiers, rfl⟩ := hsame
  obtain ⟨hoffered, hartifacts, hdigests, hmanifests, hsnapshots, hmembers, hversions⟩ :=
    hconsistent
  refine ⟨hoffered, hartifacts, hdigests, ?_, hsnapshots, hmembers, hversions⟩
  intro found hmem
  obtain ⟨manifest, hpublished⟩ := hmanifests found hmem
  exact ⟨manifest, ⟨hpublished.object, hpublished.row, hpublished.verified, hpublished.catalogued,
    hpublished.members, hpublished.versions, hpublished.memberCatalogued⟩⟩

/-- Cataloguing an artifact whose object is stored. -/
theorem Consistent.recordArtifact (hconsistent : Consistent offered objects catalog)
    {record : ArtifactMetadata} {next : Catalog}
    (hpath : record.relativePath = relativeObjectPath record.digest)
    (hstored : Stored objects record.digest record.byteLength)
    (hrecord : catalog.recordArtifact record = .ok next) : Consistent offered objects next := by
  rcases Catalog.recordArtifact_ok hrecord with ⟨rfl, -⟩ | ⟨hfresh, identifiers, rfl⟩
  · exact hconsistent
  · refine ⟨hconsistent.offered, ?_, ?_, ?_, hconsistent.snapshots, hconsistent.memberManifests,
      hconsistent.versionManifests⟩
    · intro metadata hmem
      rcases List.mem_append.mp hmem with hmem | hmem
      · exact hconsistent.artifacts metadata hmem
      · rw [List.mem_singleton.mp hmem]
        exact ⟨hpath, hstored⟩
    · rw [List.map_append]
      exact List.nodup_append.mpr ⟨hconsistent.digests, List.nodup_singleton _, by
        rintro digest hmem other hother rfl
        rw [List.map_singleton, List.mem_singleton] at hother
        exact hfresh (hother ▸ hmem)⟩
    · intro found hmem
      obtain ⟨manifest, hpublished⟩ := hconsistent.manifests found hmem
      refine ⟨manifest, hpublished.object, hpublished.row, hpublished.verified, ?_,
        hpublished.members, hpublished.versions, ?_⟩
      · obtain ⟨metadata, hmem, hcatalogued⟩ := hpublished.catalogued
        exact ⟨metadata, List.mem_append_left _ hmem, hcatalogued⟩
      · intro item hitem
        obtain ⟨metadata, hmem, hcatalogued⟩ := hpublished.memberCatalogued item hitem
        exact ⟨metadata, List.mem_append_left _ hmem, hcatalogued⟩

/-- A row under the digest of a stored manifest is that of the manifest. -/
theorem Consistent.published (hconsistent : Consistent offered objects catalog)
    {found : ManifestRow} (hmem : found ∈ catalog.manifests) {manifest : SnapshotManifest}
    (hobject : objects.lookup (relativeObjectPath found.manifestDigest) = some manifest.toBytes) :
    Published objects catalog found manifest := by
  obtain ⟨other, hpublished⟩ := hconsistent.manifests found hmem
  have hbytes := hpublished.object
  rw [hobject, Option.some.injEq] at hbytes
  cases SnapshotManifest.toBytes_injective hbytes
  exact hpublished

theorem Consistent.recordManifestObject (hconsistent : Consistent offered objects catalog)
    {manifest : SnapshotManifest} {next : Catalog}
    (hstored : Stored objects manifest.digest (lengthOf manifest.toBytes))
    (hrecord : catalog.recordManifestObject manifest (manifestRecord manifest) = .ok next) :
    Consistent offered objects next ∧ ∃ metadata ∈ next.artifacts,
      metadata.digest = manifest.digest ∧ metadata.mediaType = manifestMediaType := by
  simp only [Catalog.recordManifestObject, bind_eq_ok] at hrecord
  obtain ⟨named, hnamed, hrecord⟩ := hrecord
  have hpath : (manifestRecord manifest).relativePath =
      relativeObjectPath (manifestRecord manifest).digest := rfl
  refine ⟨(hconsistent.sameTables (Catalog.addIdentifiers_ok hnamed)).recordArtifact hpath
    hstored hrecord, ?_⟩
  obtain ⟨metadata, hmem, hdigest, hsame⟩ := Catalog.recordArtifact_recorded hrecord
  exact ⟨metadata, hmem, hdigest, hsame.1⟩

/-- A published manifest is not recorded again. -/
theorem recordMembership_present {manifest : SnapshotManifest} {next : Catalog}
    (hpublished : Published objects catalog (row manifest) manifest)
    (hrow : catalog.snapshotManifestMetadata manifest.digest = some (row manifest))
    (hrecord : catalog.recordMembership manifest = .ok next) : next = catalog := by
  simp only [Catalog.recordMembership, bind_eq_ok] at hrecord
  obtain ⟨published, hpublish, filled, hfilled, hrecord⟩ := hrecord
  have hsame : published = catalog := by
    rcases Catalog.recordSnapshotManifest_ok hpublish with ⟨hsame, -⟩ | ⟨hfresh, -⟩
    · exact hsame
    · obtain ⟨hmem, hdigest⟩ := Catalog.mem_of_snapshotManifestMetadata hrow
      exact absurd (List.mem_map_of_mem hmem) hfresh
  subst hsame
  have hfilled : filled = published := by
    refine Catalog.recordManifestArtifacts_present (fun member hmem => ?_) hfilled
    rw [← hpublished.members] at hmem
    exact List.mem_of_mem_filter hmem
  subst hfilled
  refine Catalog.recordManifestVersions_present (fun member hmem => ?_) hrecord
  rw [← hpublished.versions] at hmem
  exact List.mem_of_mem_filter hmem

theorem membersOf_eq_nil {digest : Digest} (hconsistent : Consistent offered objects catalog)
    (hfresh : digest ∉ catalog.manifests.map ManifestRow.manifestDigest) :
    catalog.membersOf digest = [] := by
  refine List.filter_eq_nil_iff.mpr fun member hmem => ?_
  rw [decide_eq_true_iff]
  intro hdigest
  exact hfresh (hdigest ▸ hconsistent.memberManifests member hmem)

theorem versionsOf_eq_nil {digest : Digest} (hconsistent : Consistent offered objects catalog)
    (hfresh : digest ∉ catalog.manifests.map ManifestRow.manifestDigest) :
    catalog.versionsOf digest = [] := by
  refine List.filter_eq_nil_iff.mpr fun member hmem => ?_
  rw [decide_eq_true_iff]
  intro hdigest
  exact hfresh (hdigest ▸ hconsistent.versionManifests member hmem)

/-- A row that was there is published as before. -/
theorem Published.withManifest {found : ManifestRow} {other manifest : SnapshotManifest}
    (hpublished : Published objects catalog found other)
    (hdigest : manifest.digest ≠ found.manifestDigest) :
    Published objects (catalog.withManifest manifest) found other where
  object := hpublished.object
  row := hpublished.row
  verified := hpublished.verified
  catalogued := hpublished.catalogued
  members := by
    rw [Catalog.withManifest_membersOf, if_neg hdigest, List.append_nil]
    exact hpublished.members
  versions := by
    rw [Catalog.withManifest_versionsOf, if_neg hdigest, List.append_nil]
    exact hpublished.versions
  memberCatalogued := hpublished.memberCatalogued

/-- Recording the membership of a verified manifest whose object is stored. -/
theorem Consistent.recordMembership (hconsistent : Consistent offered objects catalog)
    {manifest : SnapshotManifest} {next : Catalog}
    (hverified : manifest.verifiedAtUtc.isSome = true)
    (hobject : objects.lookup (relativeObjectPath manifest.digest) = some manifest.toBytes)
    (hcatalogued : ∃ metadata ∈ catalog.artifacts, metadata.digest = manifest.digest ∧
      metadata.mediaType = manifestMediaType)
    (hrecord : catalog.recordMembership manifest = .ok next) :
    Consistent offered objects next := by
  cases hfind : catalog.snapshotManifestMetadata manifest.digest with
  | some found =>
      obtain ⟨hmem, hdigest⟩ := Catalog.mem_of_snapshotManifestMetadata hfind
      have hpublished := hconsistent.published hmem
        (show objects.lookup (relativeObjectPath found.manifestDigest) = some manifest.toBytes by
          rwa [hdigest])
      have hrow := hpublished.row
      subst hrow
      rwa [recordMembership_present hpublished hfind hrecord]
  | none =>
      have hfresh := Catalog.not_mem_of_snapshotManifestMetadata hfind
      have hmembers := membersOf_eq_nil hconsistent hfresh
      have hversions := versionsOf_eq_nil hconsistent hfresh
      obtain ⟨rfl, hsnapshot, hmemberCatalogued⟩ :=
        Catalog.recordMembership_fresh hfresh hmembers hversions hrecord
      refine ⟨hconsistent.offered, hconsistent.artifacts, hconsistent.digests, ?_, ?_, ?_, ?_⟩
      · intro found hmem
        rcases List.mem_append.mp hmem with hmem | hmem
        · obtain ⟨other, hpublished⟩ := hconsistent.manifests found hmem
          refine ⟨other, hpublished.withManifest fun hdigest => hfresh ?_⟩
          rw [hdigest]
          exact List.mem_map_of_mem hmem
        · cases List.mem_singleton.mp hmem
          refine ⟨manifest, hobject, rfl, hverified, hcatalogued, ?_, ?_, hmemberCatalogued⟩
          · change (catalog.withManifest manifest).membersOf manifest.digest = _
            rw [Catalog.withManifest_membersOf, if_pos rfl, hmembers, List.nil_append]
          · change (catalog.withManifest manifest).versionsOf manifest.digest = _
            rw [Catalog.withManifest_versionsOf, if_pos rfl, hversions, List.nil_append]
      · change ((catalog.manifests ++ [row manifest]).map ManifestRow.snapshotId).Nodup
        rw [List.map_append]
        refine List.nodup_append.mpr ⟨hconsistent.snapshots, List.nodup_singleton _, ?_⟩
        rintro snapshotId hmem other hother rfl
        obtain ⟨found, hfound, rfl⟩ := List.mem_map.mp hmem
        rw [List.map_singleton, List.mem_singleton] at hother
        exact hsnapshot found hfound hother
      · intro member hmem
        change member.manifestDigest ∈ (catalog.manifests ++ [row manifest]).map _
        rw [List.map_append]
        rcases List.mem_append.mp hmem with hmem | hmem
        · exact List.mem_append_left _ (hconsistent.memberManifests member hmem)
        · rw [Catalog.memberRows_digest hmem]
          exact List.mem_append_right _ (List.mem_singleton.mpr rfl)
      · intro member hmem
        change member.manifestDigest ∈ (catalog.manifests ++ [row manifest]).map _
        rw [List.map_append]
        rcases List.mem_append.mp hmem with hmem | hmem
        · exact List.mem_append_left _ (hconsistent.versionManifests member hmem)
        · rw [Catalog.memberVersionRows_digest hmem]
          exact List.mem_append_right _ (List.mem_singleton.mpr rfl)

/-- The object of an offered content is that content where digests tell them apart. -/
theorem Consistent.lookup_eq (hconsistent : Consistent offered objects catalog)
    (hfree : Set.InjOn digestOf offered) {content : Content} (hoffered : content ∈ offered)
    {byteLength : ℕ} (hstored : Stored objects (digestOf content) byteLength) :
    objects.lookup (relativeObjectPath (digestOf content)) = some content := by
  obtain ⟨found, hlookup, hdigest, -⟩ := hstored
  have hmem : (relativeObjectPath (digestOf content), found) ∈ objects := by
    obtain ⟨before, after, rfl, -⟩ := List.lookup_eq_some_iff.mp hlookup
    exact List.mem_append_right _ List.mem_cons_self
  have hsame : found = content := hfree (hconsistent.offered _ hmem) hoffered hdigest
  rw [hlookup, hsame]

end Consistent

/-! ## Transactions -/

section Transactions

variable {before stopped : World ω → Prop} {failure : ArtifactError}

theorem begin_meets (hstopped : ∀ world, before world → stopped world) :
    Meets before (begin failure) (fun catalog world => before world ∧ catalog = world.catalog)
      stopped := by
  refine Meets.reading ?_ hstopped
  rintro world catalog hbefore ⟨⟩
  exact ⟨hbefore, rfl⟩

theorem inTransaction_meets {α : Type} {result : Except String α}
    (hstopped : ∀ world, before world → stopped world) :
    Meets before (inTransaction failure result) (fun value world => before world ∧
      result = .ok value) stopped := by
  cases result with
  | ok value => exact Meets.ret fun _ hbefore => ⟨hbefore, rfl⟩
  | error message => exact Meets.raise hstopped

theorem commit_meets {after : World ω → Prop} {catalog : Catalog}
    (hafter : ∀ world, before world → after { world with catalog })
    (hstopped : ∀ world, before world → stopped world) :
    Meets before (commit failure catalog) (fun _ => after) stopped := by
  refine Meets.atomic ?_ hstopped
  rintro world next _ hbefore ⟨⟩
  exact hafter world hbefore

end Transactions

/-! ## Publications -/

theorem cataloguedArtifact_digest {digest : Digest} {world : World ω} {record : ArtifactMetadata}
    (hread : cataloguedArtifact digest world = .ok record) : record.digest = digest := by
  unfold cataloguedArtifact at hread
  cases hfind : world.catalog.artifactMetadata digest with
  | none =>
      rw [hfind] at hread
      cases hread
  | some metadata =>
      rw [hfind] at hread
      simp only [bind_eq_ok, require_ok_iff] at hread
      obtain ⟨_, -, hread⟩ := hread
      cases hread
      exact (Catalog.mem_of_artifactMetadata hfind).2

section Publications

variable [ContentAddressing] {offered : Set Content} {start : World ω}

theorem artifactRecord_ok {request : ArtifactRequest} {record : ArtifactMetadata}
    (hrecord : artifactRecord request = .ok record) :
    Describes record request.content ∧
      record.relativePath = relativeObjectPath record.digest := by
  simp only [artifactRecord, bind_eq_ok] at hrecord
  obtain ⟨_, -, mediaType, -, retentionClass, -, hrecord⟩ := hrecord
  cases hrecord
  exact ⟨⟨rfl, rfl⟩, rfl⟩

/-- The object of the content of an artifact. -/
abbrev artifactPath (request : ArtifactRequest) : String :=
  relativeObjectPath (digestOf request.content)

/-- A transaction that records an artifact. -/
def RecordsArtifact (request : ArtifactRequest) (catalog next : Catalog) : Prop :=
  ∃ record, artifactRecord request = .ok record ∧ catalog.recordArtifact record = .ok next

/-- What a committed publication leaves: its object and its whole transaction. -/
def Committed (offered : Set Content) (path : String) (content : Content)
    (records : Catalog → Catalog → Prop) (start world : World ω) : Prop :=
  Placed path content { start with catalog := world.catalog } world ∧
    records start.catalog world.catalog ∧ Consistent offered world.objects world.catalog

theorem commitArtifact_meets {request : ArtifactRequest}
    (hstart : Consistent offered start.objects start.catalog)
    (hoffered : request.content ∈ offered) :
    Meets (Untouched start) (commitArtifact request)
      (fun _ => Committed offered (artifactPath request) request.content
        (RecordsArtifact request) start)
      (Placed (artifactPath request) request.content start) := by
  refine Meets.bind (Meets.pass fun _ => Untouched.placed) fun _ => ?_
  refine Meets.bind (Meets.pass fun _ => Untouched.placed) fun _ => ?_
  refine Meets.bind (Meets.computed fun _ => Untouched.placed) fun record =>
    Meets.given fun hrecord => ?_
  obtain ⟨hdescribes, hpath⟩ := artifactRecord_ok hrecord
  have hplace : artifactPath request = path record := by rw [path, hdescribes.1]
  rw [hplace]
  refine Meets.bind (publishObject_meets request.nonce hdescribes) fun _ => ?_
  refine Meets.bind (Meets.pass fun _ hbefore => hbefore.1) fun _ => ?_
  refine Meets.bind (begin_meets fun _ hbefore => hbefore.1) fun catalog => ?_
  refine Meets.bind (inTransaction_meets fun _ hbefore => hbefore.1.1) fun recorded => ?_
  refine Meets.bind (Meets.pass fun _ hbefore => hbefore.1.1.1) fun _ => ?_
  refine Meets.bind (commit_meets ?_ fun _ hbefore => hbefore.1.1.1) fun _ => Meets.ret fun _ => id
  rintro world ⟨⟨⟨hplaced, hstored⟩, rfl⟩, hrecorded⟩
  have hconsistent := hstart.placed hoffered hplaced
  refine ⟨⟨rfl, hplaced.2⟩, ⟨record, hrecord, ?_⟩,
    hconsistent.recordArtifact hpath hstored hrecorded⟩
  rw [← hplaced.1]
  exact hrecorded

/-! ### Manifests -/

/-- A transaction that records a manifest. -/
def RecordsManifest (manifest : SnapshotManifest) (catalog next : Catalog) : Prop :=
  ∃ stored, catalog.recordManifestObject manifest (manifestRecord manifest) = .ok stored ∧
    stored.recordMembership manifest = .ok next

abbrev manifestPath (manifest : SnapshotManifest) : String := relativeObjectPath manifest.digest

theorem commitVerified_meets {manifest : SnapshotManifest} (nonce : String)
    (hfree : Set.InjOn digestOf offered)
    (hstart : Consistent offered start.objects start.catalog)
    (hverified : manifest.verifiedAtUtc.isSome = true) (hoffered : manifest.toBytes ∈ offered) :
    Meets (Untouched start) (commitVerified none manifest nonce)
      (fun _ => Committed offered (manifestPath manifest) manifest.toBytes
        (RecordsManifest manifest) start)
      (Placed (manifestPath manifest) manifest.toBytes start) := by
  have hdescribes : Describes (manifestRecord manifest) manifest.toBytes := ⟨rfl, rfl⟩
  refine Meets.bind (Meets.keep ()) fun _ => ?_
  refine Meets.bind (publishObject_meets nonce hdescribes) fun _ => ?_
  refine Meets.bind (Meets.keep ()) fun _ => ?_
  refine Meets.bind (begin_meets fun _ hbefore => hbefore.1) fun catalog => ?_
  refine Meets.bind (inTransaction_meets fun _ hbefore => hbefore.1.1) fun stored => ?_
  refine Meets.bind (inTransaction_meets fun _ hbefore => hbefore.1.1.1) fun _ => ?_
  refine Meets.bind (inTransaction_meets fun _ hbefore => hbefore.1.1.1.1) fun recorded => ?_
  refine Meets.bind (commit_meets ?_ fun _ hbefore => hbefore.1.1.1.1.1) fun _ =>
    Meets.ret fun _ => id
  rintro world ⟨⟨⟨⟨⟨hplaced, hstored⟩, rfl⟩, hobject⟩, -⟩, hmembership⟩
  have hplace := hstart.placed hoffered hplaced
  have hlookup := hplace.lookup_eq hfree hoffered hstored
  obtain ⟨hconsistent, hcatalogued⟩ := hplace.recordManifestObject hstored hobject
  refine ⟨⟨rfl, hplaced.2⟩, ⟨stored, ?_, hmembership⟩,
    hconsistent.recordMembership hverified hlookup hcatalogued hmembership⟩
  rw [← hplaced.1]
  exact hobject

/-- Verifying an artifact changes nothing. -/
theorem verifyArtifact_meets (digest : Digest) :
    Meets (Untouched start) (verifyArtifact digest)
      (fun record world => Untouched start world ∧ record.digest = digest) (Untouched start) := by
  have hcatalogued : Meets (Untouched start)
      (Call.reading (runtimeError "sqlite3.DatabaseError") (cataloguedArtifact digest) :
        StoreCall ω ArtifactMetadata)
      (fun record world => Untouched start world ∧ record.digest = digest) (Untouched start) :=
    Meets.reading (fun _ _ hsame hread => ⟨hsame, cataloguedArtifact_digest hread⟩) fun _ => id
  refine Meets.bind (Meets.pass fun _ => id) fun _ => ?_
  refine Meets.bind hcatalogued fun record => Meets.given fun hdigest => ?_
  refine Meets.bind (Meets.pass fun _ => id) fun _ => ?_
  refine Meets.bind (verifyFile_meets digest record.byteLength) fun _ => ?_
  exact Meets.ret fun _ hbefore => ⟨hbefore.1, hdigest⟩

/-- What is read is the object of the digest. -/
theorem readArtifact_meets (digest : Digest) :
    Meets (Untouched start) (readArtifact digest)
      (fun content world => Untouched start world ∧
        start.objects.lookup (relativeObjectPath digest) = some content)
      (Untouched start) := by
  refine Meets.bind (verifyArtifact_meets digest) fun record => Meets.given fun hdigest => ?_
  refine Meets.reading ?_ fun _ => id
  intro world content hsame hread
  unfold objectContent at hread
  rw [hdigest, hsame.2.2] at hread
  cases hlookup : start.objects.lookup (relativeObjectPath digest) with
  | none =>
      rw [hlookup] at hread
      cases hread
  | some found =>
      rw [hlookup] at hread
      simp only [bind_eq_ok, require_ok_iff] at hread
      obtain ⟨_, -, hread⟩ := hread
      cases hread
      exact ⟨hsame, rfl⟩

/-- A verified manifest is the one that its object is. -/
theorem verifyManifest_meets (digest : Digest) :
    Meets (Untouched start) (verifyManifest digest)
      (fun manifest world => Untouched start world ∧
        start.objects.lookup (relativeObjectPath digest) = some manifest.toBytes)
      (Untouched start) := by
  refine Meets.bind (verifyArtifact_meets digest) fun record => Meets.given fun _ => ?_
  refine Meets.bind (Meets.checked fun _ => id) fun _ => ?_
  refine Meets.bind (readArtifact_meets digest) fun content => Meets.given fun hlookup => ?_
  refine Meets.bind (Meets.computed fun _ => id) fun manifest => Meets.given fun hread => ?_
  refine Meets.bind (Meets.checked fun _ => id) fun _ => ?_
  refine Meets.bind (Meets.observe fun _ => id) fun _ => ?_
  refine Meets.ret fun _ hsame => ⟨hsame, ?_⟩
  rw [hlookup, SnapshotManifest.toBytes_of_fromBytes hread]

theorem verifyMember_meets (reference : ManifestArtifact) :
    Meets (Untouched start) (verifyMember reference) (fun _ => Untouched start)
      (Untouched start) := by
  refine Meets.bind (verifyArtifact_meets reference.digest) fun record => Meets.given fun _ => ?_
  refine Meets.bind (Meets.checked fun _ => id) fun _ => ?_
  exact Meets.checked fun _ => id

/-- A manifest counts as published where the stored one of its snapshot has its key. -/
theorem alreadyPublished_meets (authority : Option (PublicationAuthority ω))
    (manifest : SnapshotManifest) (existing : Option Digest) :
    Meets (Untouched start) (alreadyPublished authority manifest existing)
      (fun published world => Untouched start world ∧
        ((authority.isSome = true → published = none) ∧ ∀ digest ∈ existing, ∃ stored,
          start.objects.lookup (relativeObjectPath digest) = some stored.toBytes ∧
          published = if manifestPublicationKey stored = manifestPublicationKey manifest then
            some digest else none))
      (Untouched start) := by
  cases existing with
  | none => exact Meets.ret fun _ hsame => ⟨hsame, fun _ => rfl, nofun⟩
  | some digest =>
      refine Meets.bind (Meets.computed fun _ => id) fun _ => Meets.given fun hprivate => ?_
      refine Meets.bind (verifyManifest_meets digest) fun stored => Meets.given fun hlookup => ?_
      refine Meets.ret fun _ hsame => ⟨hsame, fun hauthority => ?_, ?_⟩
      · rw [Option.isNone_iff_eq_none.mp (require_ok_iff.mp hprivate)] at hauthority
        cases hauthority
      · rintro _ ⟨⟩
        exact ⟨stored, hlookup, rfl⟩

/-- The stored manifest of a snapshot decides whether its manifest is published; a
private publication is never one that was made already. -/
def Decides (authority : Option (PublicationAuthority ω)) (start : World ω)
    (manifest : SnapshotManifest) (published : Option Digest) : Prop :=
  (authority.isSome = true → published = none) ∧ ∀ digest ∈ start.catalog.snapshotManifestDigestForSnapshot manifest.snapshotId, ∃ stored,
    start.objects.lookup (relativeObjectPath digest) = some stored.toBytes ∧
      published = if manifestPublicationKey stored = manifestPublicationKey manifest then
        some digest else none

/-- Everything before the publication itself changes nothing. -/
theorem commitManifest_meets {authority : Option (PublicationAuthority ω)}
    {request : ManifestRequest} {after : Digest → World ω → Prop} {stopped : World ω → Prop}
    (hstopped : ∀ world, Untouched start world → stopped world)
    (hpublish : ∀ published, Decides authority start request.manifest published →
      Meets (Untouched start) (commitUnlessPublished authority request published) after stopped) :
    Meets (Untouched start) (commitManifest authority request) after stopped := by
  have hexisting : Meets (Untouched start) (Call.reading (runtimeError "sqlite3.DatabaseError")
      (fun world => .ok
        (world.catalog.snapshotManifestDigestForSnapshot request.manifest.snapshotId)) :
        StoreCall ω (Option Digest))
      (fun existing world => Untouched start world ∧
        existing = start.catalog.snapshotManifestDigestForSnapshot request.manifest.snapshotId)
      stopped := by
    refine Meets.reading ?_ hstopped
    rintro world existing hsame ⟨⟩
    exact ⟨hsame, by rw [hsame.1]⟩
  refine Meets.bind (Meets.pass hstopped) fun _ => ?_
  refine Meets.bind (Meets.checked hstopped) fun _ => ?_
  refine Meets.bind ((Meets.each fun reference _ => verifyMember_meets reference).stopsIn
    hstopped) fun _ => ?_
  refine Meets.bind (Meets.each fun version _ => Meets.observe hstopped) fun _ => ?_
  refine Meets.bind hexisting fun existing => Meets.given fun hdigest => ?_
  refine Meets.bind ((alreadyPublished_meets authority request.manifest existing).stopsIn
    hstopped) fun published => Meets.given fun hdecides => ?_
  refine hpublish published ⟨hdecides.1, fun digest hmem => hdecides.2 digest ?_⟩
  rw [hdigest]
  exact hmem

/-- A public publication of a manifest. -/
def Publishes (offered : Set Content) (request : ManifestRequest) (start world : World ω) : Prop :=
  ∃ time, verificationTime request = .ok time ∧
    Committed offered (manifestPath (request.manifest.verified time))
      (request.manifest.verified time).toBytes
      (RecordsManifest (request.manifest.verified time)) start world

/-- The object of a manifest may be installed already. -/
def Prepares (request : ManifestRequest) (start world : World ω) : Prop :=
  ∃ time, verificationTime request = .ok time ∧
    Placed (manifestPath (request.manifest.verified time))
      (request.manifest.verified time).toBytes start world

theorem commitManifest_public {request : ManifestRequest} (hfree : Set.InjOn digestOf offered)
    (hstart : Consistent offered start.objects start.catalog)
    (hoffered : ∀ time, verificationTime request = .ok time →
      (request.manifest.verified time).toBytes ∈ offered) :
    Meets (Untouched start) (commitManifest none request)
      (fun _ world => Untouched start world ∨ Publishes offered request start world)
      (fun world => Untouched start world ∨ Prepares request start world) := by
  refine commitManifest_meets (fun _ => Or.inl) fun published _ => ?_
  cases published with
  | some digest => exact Meets.ret fun _ => Or.inl
  | none =>
      refine Meets.bind (Meets.computed fun _ => Or.inl) fun time => Meets.given fun htime => ?_
      refine (commitVerified_meets request.nonce hfree hstart rfl (hoffered time htime)).weaken
        (fun _ => id) (fun _ _ hcommitted => Or.inr ⟨time, htime, hcommitted⟩)
        fun _ hplaced => Or.inr ⟨time, htime, hplaced⟩

/-- A manifest whose key is that of the stored manifest of its snapshot. -/
theorem commitManifest_repeated {authority : Option (PublicationAuthority ω)}
    {request : ManifestRequest} {digest : Digest} {stored : SnapshotManifest}
    (hfind : start.catalog.snapshotManifestDigestForSnapshot request.manifest.snapshotId =
      some digest)
    (hlookup : start.objects.lookup (relativeObjectPath digest) = some stored.toBytes)
    (hkey : manifestPublicationKey stored = manifestPublicationKey request.manifest) :
    Meets (Untouched start) (commitManifest authority request) (fun _ => Untouched start)
      (Untouched start) := by
  refine commitManifest_meets (fun _ => id) fun published hdecides => ?_
  obtain ⟨other, hother, hpublished⟩ := hdecides.2 digest hfind
  rw [hlookup, Option.some.injEq] at hother
  cases SnapshotManifest.toBytes_injective hother
  rw [if_pos hkey] at hpublished
  subst hpublished
  exact Meets.keep digest

end Publications

end MatchVet.Artifacts.Consistency
