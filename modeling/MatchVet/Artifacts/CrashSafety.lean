import MatchVet.Artifacts.Consistency

/-!
# Publication through crashes

In every sequence of publications and clean-ups, each of which may stop at any effect,
the catalog describes objects that are there, and an inspection finds nothing wrong.
-/

namespace MatchVet.Artifacts.CrashSafety

open MatchVet.Artifacts.Consistency
open MatchVet.Artifacts.Manifest
open MatchVet.Artifacts.Store
open MatchVet.Artifacts.Tables
open MatchVet.Foundation.CanonicalJson
open MatchVet.Foundation.CrashLogic
open MatchVet.Foundation.Identifier
open MatchVet.Foundation.KeySort
open MatchVet.Foundation.Runtime

/-! ## Calls on a store -/

inductive Request where
  | artifact (request : ArtifactRequest)
  | manifest (request : ManifestRequest)
  | discardStaging

section Runs

variable {ω : Type} [ContentAddressing]

/-- The public call of a request. -/
def Request.call : Request → StoreCall ω Unit
  | .artifact request => do
      let _ ← publishArtifact request
      Call.ret ()
  | .manifest request => do
      let _ ← publishManifest request
      Call.ret ()
  | .discardStaging => do
      let _ ← discardIncompleteStaging
      Call.ret ()

/-- The part of a call that ends with its transaction. -/
def Request.commit : Request → StoreCall ω (Option Digest)
  | .artifact request => do
      let digest ← commitArtifact request
      Call.ret (some digest)
  | .manifest request => do
      ensureWriteable
      Call.lift (checkPublicSlot request.manifest)
      let digest ← commitManifest none request
      Call.ret (some digest)
  | .discardStaging => do
      let _ ← discardIncompleteStaging
      Call.ret none

/-- What a call does after its transaction. -/
def readBack : Option Digest → StoreCall ω Unit
  | some digest => do
      let _ ← recordOrRaise digest
      Call.ret ()
  | none => Call.ret ()

theorem Request.call_eq (request : Request) :
    (request.call : StoreCall ω Unit) = request.commit >>= readBack := by
  cases request with
  | artifact request =>
      change ((commitArtifact request >>= fun digest => recordOrRaise digest) >>= _) =
        (commitArtifact request >>= fun digest => pure (some digest)) >>= _
      rw [bind_assoc, bind_assoc]
      rfl
  | manifest request =>
      change (ensureWriteable >>= fun _ => Call.lift (checkPublicSlot request.manifest) >>= fun _ =>
          commitManifest none request >>= fun digest => confirmCommitted digest none >>= fun _ =>
            recordOrRaise digest) >>= _ =
        (ensureWriteable >>= fun _ => Call.lift (checkPublicSlot request.manifest) >>= fun _ =>
          commitManifest none request >>= fun digest => pure (some digest)) >>= _
      simp only [bind_assoc]
      rfl
  | discardStaging =>
      change (discardIncompleteStaging >>= _) = (discardIncompleteStaging >>= fun _ => pure none) >>= _
      rw [bind_assoc]
      rfl

/-- The contents that a request may install are among the offered ones. -/
def Request.Offers (offered : Set Content) : Request → Prop
  | .artifact request => request.content ∈ offered
  | .manifest request => ∀ time, verificationTime request = .ok time →
      (request.manifest.verified time).toBytes ∈ offered
  | .discardStaging => True

/-- The whole transaction of a request turns one catalog into the other. -/
def Request.Records : Request → Catalog → Catalog → Prop
  | .artifact request, catalog, next => RecordsArtifact request catalog next
  | .manifest request, catalog, next => ∃ time, verificationTime request = .ok time ∧
      RecordsManifest (request.manifest.verified time) catalog next
  | .discardStaging, _, _ => False

/-- The content of the request is catalogued, or the stored manifest of its snapshot has
its publication key. -/
def Request.IsRepeated (world : World ω) : Request → Prop
  | .artifact request =>
      digestOf request.content ∈ world.catalog.artifacts.map ArtifactMetadata.digest
  | .manifest request => ∃ found ∈ world.catalog.manifests,
      found.snapshotId = request.manifest.snapshotId ∧ ∃ stored : SnapshotManifest,
        world.objects.lookup (relativeObjectPath found.manifestDigest) = some stored.toBytes ∧
        manifestPublicationKey stored = manifestPublicationKey request.manifest
  | .discardStaging => True

/-! ## One call -/

variable {offered : Set Content} {start : World ω}

/-- A call that stops before the end of its transaction: one offered object may be new. -/
def Halted (offered : Set Content) (start world : World ω) : Prop :=
  world.catalog = start.catalog ∧ start.objects <+: world.objects ∧
    Consistent offered world.objects world.catalog

/-- A call that is past its transaction. -/
def Request.Done (request : Request) (offered : Set Content) (start world : World ω) : Prop :=
  (world.catalog = start.catalog ∨ request.Records start.catalog world.catalog) ∧
    start.objects <+: world.objects ∧ Consistent offered world.objects world.catalog

theorem Untouched.halted {world : World ω} (hstart : Consistent offered start.objects start.catalog)
    (hsame : Untouched start world) : Halted offered start world := by
  obtain ⟨hcatalog, -, hobjects⟩ := hsame
  refine ⟨hcatalog, by rw [hobjects], ?_⟩
  rw [hcatalog, hobjects]
  exact hstart

theorem Placed.halted {path : String} {content : Content} {world : World ω}
    (hstart : Consistent offered start.objects start.catalog) (hoffered : content ∈ offered)
    (hplaced : Placed path content start world) : Halted offered start world :=
  ⟨hplaced.1, hplaced.grows, hstart.placed hoffered hplaced⟩

theorem Halted.done {world : World ω} (request : Request) (hhalted : Halted offered start world) :
    request.Done offered start world :=
  ⟨Or.inl hhalted.1, hhalted.2⟩

/-- Up to its transaction a request does what it records, or leaves the catalog alone. -/
theorem Request.commit_meets {request : Request} (hfree : Set.InjOn digestOf offered)
    (hstart : Consistent offered start.objects start.catalog) (hoffers : request.Offers offered) :
    Meets (Untouched start) request.commit (fun _ => request.Done offered start)
      (Halted offered start) := by
  cases request with
  | artifact request =>
      refine Meets.bind ((commitArtifact_meets hstart hoffers).weaken (fun _ => id) ?_ ?_)
        fun digest => Meets.keep _
      · rintro _ world ⟨hplaced, hrecords, hconsistent⟩
        have hgrows := hplaced.grows
        exact ⟨Or.inr hrecords, hgrows, hconsistent⟩
      · exact fun _ => Placed.halted hstart hoffers
  | manifest request =>
      refine Meets.bind (Meets.pass fun _ => Untouched.halted hstart) fun _ => ?_
      refine Meets.bind (Meets.checked fun _ => Untouched.halted hstart) fun _ => ?_
      refine Meets.bind ((commitManifest_public hfree hstart hoffers).weaken (fun _ => id) ?_ ?_)
        fun digest => Meets.keep _
      · rintro _ world (hsame | ⟨time, htime, hplaced, hrecords, hconsistent⟩)
        · exact (Untouched.halted hstart hsame).done _
        · have hgrows := hplaced.grows
          exact ⟨Or.inr ⟨time, htime, hrecords⟩, hgrows, hconsistent⟩
      · rintro world (hsame | ⟨time, htime, hplaced⟩)
        · exact Untouched.halted hstart hsame
        · exact Placed.halted hstart (hoffers time htime) hplaced
  | discardStaging =>
      refine Meets.bind (discardIncompleteStaging_meets.weaken (fun _ => id) ?_ ?_)
        fun _ => Meets.keep _
      · exact fun _ _ hsame => (Untouched.halted hstart hsame).done _
      · exact fun _ => Untouched.halted hstart

theorem Request.call_meets {request : Request} (hfree : Set.InjOn digestOf offered)
    (hstart : Consistent offered start.objects start.catalog) (hoffers : request.Offers offered) :
    Meets (Untouched start) request.call (fun _ => request.Done offered start)
      (request.Done offered start) := by
  rw [Request.call_eq]
  refine Meets.bind ((commit_meets hfree hstart hoffers).stopsIn fun _ => Halted.done request)
    fun digest => ?_
  cases digest with
  | none => exact Meets.keep ()
  | some digest => exact Meets.bind (Meets.observe fun _ => id) fun _ => Meets.keep ()

/-- A catalogued artifact is not recorded again. -/
theorem RecordsArtifact.repeated {request : ArtifactRequest} {catalog next : Catalog}
    (hrecords : RecordsArtifact request catalog next)
    (hthere : digestOf request.content ∈ catalog.artifacts.map ArtifactMetadata.digest) :
    next = catalog := by
  obtain ⟨record, hrecord, hnext⟩ := hrecords
  rcases Catalog.recordArtifact_ok hnext with ⟨hsame, -⟩ | ⟨hfresh, -⟩
  · exact hsame
  · rw [(artifactRecord_ok hrecord).1.1] at hfresh
    exact absurd hthere hfresh

theorem Request.commit_repeated {request : Request}
    (hstart : Consistent offered start.objects start.catalog) (hoffers : request.Offers offered)
    (hrepeated : request.IsRepeated start) :
    Meets (Untouched start) request.commit (fun _ => Untouched start) (Untouched start) := by
  cases request with
  | artifact request =>
      obtain ⟨metadata, hmetadata, hdigest⟩ := List.mem_map.mp hrepeated
      obtain ⟨content, hlookup, -⟩ := (hstart.artifacts metadata hmetadata).2
      have hthere : start.objects.lookup (artifactPath request) ≠ none := by
        rw [artifactPath, ← hdigest, hlookup]
        exact nofun
      refine Meets.bind ((commitArtifact_meets hstart hoffers).weaken (fun _ => id) ?_ ?_)
        fun digest => Meets.keep _
      · rintro _ world ⟨hplaced, hrecords, -⟩
        have hobjects := (Placed.untouched hplaced hthere).2
        exact ⟨RecordsArtifact.repeated hrecords hrepeated, hobjects⟩
      · exact fun _ hplaced => hplaced.untouched hthere
  | manifest request =>
      obtain ⟨found, hfound, hsnapshot, stored, hlookup, hkey⟩ := hrepeated
      have hfind : start.catalog.snapshotManifestDigestForSnapshot request.manifest.snapshotId =
          some found.manifestDigest := by
        rw [Catalog.snapshotManifestDigestForSnapshot,
          (find?_key_iff hstart.snapshots).mpr ⟨hfound, hsnapshot⟩]
        rfl
      refine Meets.bind (Meets.pass fun _ => id) fun _ => ?_
      refine Meets.bind (Meets.checked fun _ => id) fun _ => ?_
      exact Meets.bind (commitManifest_repeated hfind hlookup hkey) fun _ => Meets.keep _
  | discardStaging => exact Meets.bind discardIncompleteStaging_meets fun _ => Meets.keep _

/-- A repeated publication changes nothing. -/
theorem Request.call_repeated {request : Request}
    (hstart : Consistent offered start.objects start.catalog) (hoffers : request.Offers offered)
    (hrepeated : request.IsRepeated start) :
    Meets (Untouched start) request.call (fun _ => Untouched start) (Untouched start) := by
  rw [Request.call_eq]
  refine Meets.bind (commit_repeated hstart hoffers hrepeated) fun digest => ?_
  cases digest with
  | none => exact Meets.keep ()
  | some digest => exact Meets.bind (Meets.observe fun _ => id) fun _ => Meets.keep ()

/-! ## Inspection -/

variable {world : World ω}

/-- The rows of the members of a manifest read back in its order. -/
theorem published_readMembers {found : ManifestRow} {manifest : SnapshotManifest}
    (hpublished : Published world.objects world.catalog found manifest) :
    world.catalog.snapshotManifestArtifacts found.manifestDigest =
      manifest.artifacts.map fun item => (item.artifactId, item.digest) := by
  have hrows : (Catalog.memberRows manifest).map (fun item =>
      (item.artifactId, item.artifactDigest)) =
      manifest.artifacts.map fun item => (item.artifactId, item.digest) := by
    rw [Catalog.memberRows, List.map_map]
    rfl
  rw [Catalog.snapshotManifestArtifacts, hpublished.members, hrows]
  refine sortedOn_of_pairwise _ (List.pairwise_map.mpr ?_)
  exact (List.pairwise_map.mp manifest.artifacts_sorted).imp fun hlt => le_of_lt hlt

theorem published_readVersions {found : ManifestRow} {manifest : SnapshotManifest}
    (hpublished : Published world.objects world.catalog found manifest) :
    world.catalog.snapshotManifestVersions found.manifestDigest = manifest.versions := by
  have hrows : (Catalog.memberVersionRows manifest).map MemberVersionRow.version =
      manifest.versions := by
    rw [Catalog.memberVersionRows, List.map_map]
    exact List.map_id _
  rw [Catalog.snapshotManifestVersions, hpublished.versions, hrows]
  refine sortedOn_of_pairwise _ ?_
  exact (List.pairwise_map.mp manifest.versions_sorted).imp fun hlt => le_of_lt hlt

theorem isMissing_eq_false (hconsistent : Consistent offered world.objects world.catalog)
    {metadata : ArtifactMetadata} (hmem : metadata ∈ world.catalog.artifacts) :
    isMissing world metadata = false := by
  obtain ⟨hpath, content, hlookup, -⟩ := hconsistent.artifacts metadata hmem
  rw [isMissing, hpath, hlookup]
  exact Bool.and_false _

theorem isCorrupt_eq_false (hconsistent : Consistent offered world.objects world.catalog)
    {metadata : ArtifactMetadata} (hmem : metadata ∈ world.catalog.artifacts) :
    isCorrupt world metadata = false := by
  obtain ⟨hpath, content, hlookup, hdigest, hlength⟩ := hconsistent.artifacts metadata hmem
  rw [isCorrupt, hpath, hlookup]
  simp [hdigest, hlength]

/-- A published manifest is borne out by its object. -/
theorem isMalformed_eq_false (hconsistent : Consistent offered world.objects world.catalog)
    {metadata : ArtifactMetadata} (hmem : metadata ∈ world.catalog.artifacts) :
    isMalformed world metadata = false := by
  have hpath := (hconsistent.artifacts metadata hmem).1
  unfold isMalformed
  cases hfind : world.catalog.snapshotManifestMetadata metadata.digest with
  | none => exact Bool.and_false _
  | some found =>
      obtain ⟨hfound, hdigest⟩ := Catalog.mem_of_snapshotManifestMetadata hfind
      obtain ⟨manifest, hpublished⟩ := hconsistent.manifests found hfound
      obtain ⟨record, hrecord, hsame, hmedia⟩ := hpublished.catalogued
      have hmetadata : record = metadata :=
        List.inj_on_of_nodup_map hconsistent.digests hrecord hmem (hsame.trans hdigest)
      subst hmetadata
      have hread : readManifest world record = some manifest := by
        rw [readManifest, hpath, ← hdigest, hpublished.object, Option.bind_some,
          SnapshotManifest.fromBytes_toBytes]
        rfl
      have hmanifest : manifest.digest = record.digest := by
        rw [← hdigest, hpublished.row]
        rfl
      have hwell : wellPublished world record found manifest = true := by
        unfold wellPublished
        rw [← hdigest, published_readMembers hpublished, published_readVersions hpublished]
        simp [hmedia, hpublished.verified, hmanifest, hdigest, ← hpublished.row]
      simp [hread, hwell]

/-! ## Runs -/

/-- A store whose catalog and objects agree. -/
structure Sound (world : World ω) : Prop where
  /-- A catalogued artifact has its object. -/
  catalogued : ∀ metadata ∈ world.catalog.artifacts,
    metadata.relativePath = relativeObjectPath metadata.digest ∧
      Stored world.objects metadata.digest metadata.byteLength
  /-- A published manifest has the members and the versions of its stored bytes. -/
  manifests : ∀ found ∈ world.catalog.manifests, ∃ manifest : SnapshotManifest,
    world.objects.lookup (relativeObjectPath found.manifestDigest) = some manifest.toBytes ∧
    found = row manifest ∧
    world.catalog.snapshotManifestArtifacts found.manifestDigest =
      (manifest.artifacts.map fun item => (item.artifactId, item.digest)) ∧
    world.catalog.snapshotManifestVersions found.manifestDigest = manifest.versions ∧
    ∀ item ∈ manifest.artifacts, ∃ metadata ∈ world.catalog.artifacts,
      metadata.artifactId = item.artifactId ∧ metadata.digest = item.digest
  /-- No snapshot has two manifests. -/
  snapshots : (world.catalog.manifests.map ManifestRow.snapshotId).Nodup
  /-- An inspection reports at most orphans and unreferenced artifacts. -/
  inspection : ∀ otherReferences, (inspect world otherReferences).missing = [] ∧
    (inspect world otherReferences).corrupt = [] ∧
    (inspect world otherReferences).malformedManifests = []

/-- What any call does to a store. -/
structure Transactional (world : World ω) (request : Request) : Prop where
  /-- A call that stops before its commit leaves the catalog unchanged. -/
  stopped : ∀ fates next later stop, request.commit fates 0 world = (next, later, .error stop) →
    next.catalog = world.catalog
  /-- A call commits its whole transaction or nothing. -/
  whole : ∀ fates, (request.call.leaves fates world).catalog = world.catalog ∨
    request.Records world.catalog (request.call.leaves fates world).catalog
  /-- A repeated publication changes nothing. -/
  repeated : request.IsRepeated world → ∀ fates,
    (request.call.leaves fates world).catalog = world.catalog ∧
      (request.call.leaves fates world).objects = world.objects

theorem consistent_sound (hconsistent : Consistent offered world.objects world.catalog) :
    Sound world where
  catalogued := hconsistent.artifacts
  manifests found hfound := by
    obtain ⟨manifest, hpublished⟩ := hconsistent.manifests found hfound
    exact ⟨manifest, hpublished.object, hpublished.row, published_readMembers hpublished,
      published_readVersions hpublished, hpublished.memberCatalogued⟩
  snapshots := hconsistent.snapshots
  inspection _ :=
    ⟨reported_eq_nil fun _ => isMissing_eq_false hconsistent,
      reported_eq_nil fun _ => isCorrupt_eq_false hconsistent,
      reported_eq_nil fun _ => isMalformed_eq_false hconsistent⟩

theorem consistent_transactional (hfree : Set.InjOn digestOf offered)
    (hconsistent : Consistent offered world.objects world.catalog) {request : Request}
    (hoffers : request.Offers offered) : Transactional world request where
  stopped fates next later stop hcall :=
    ((Request.commit_meets hfree hconsistent hoffers fates 0 world (Untouched.refl world)).2
      next later stop hcall).1
  whole fates :=
    ((Request.call_meets hfree hconsistent hoffers).leaves (Untouched.refl world) fates).1
  repeated hrepeated fates := by
    have hsame := (Request.call_repeated hconsistent hoffers hrepeated).leaves
      (Untouched.refl world) fates
    exact ⟨hsame.1, hsame.2.2⟩

/-- A call and what happens at each of its effects. -/
structure Step where
  request : Request
  fates : ℕ → Fate Leftover

def Step.run (world : World ω) (step : Step) : World ω :=
  step.request.call.leaves step.fates world

def run (start : World ω) (steps : List Step) : World ω := steps.foldl Step.run start

theorem run_append (start : World ω) (earlier later : List Step) :
    run start (earlier ++ later) = run (run start earlier) later :=
  List.foldl_append

/-- A run keeps a store consistent and only adds objects. -/
theorem run_keeps (hfree : Set.InjOn digestOf offered)
    (hstart : Consistent offered start.objects start.catalog) {steps : List Step}
    (hoffers : ∀ step ∈ steps, step.request.Offers offered) :
    Consistent offered (run start steps).objects (run start steps).catalog ∧
      start.objects <+: (run start steps).objects := by
  induction steps generalizing start with
  | nil => exact ⟨hstart, List.prefix_rfl⟩
  | cons step rest ih =>
      obtain ⟨hstep, hrest⟩ := List.forall_mem_cons.mp hoffers
      obtain ⟨-, hgrows, hnext⟩ := (Request.call_meets hfree hstart hstep).leaves
        (Untouched.refl start) step.fates
      obtain ⟨hlast, hobjects⟩ := ih hnext hrest
      exact ⟨hlast, hgrows.trans hobjects⟩

end Runs

/-! ## A run with a crash -/

namespace Rehearsal

/-- Digests that tell JSON from other bytes. -/
@[reducible]
def kindAddressing : ContentAddressing where
  digestOf
    | .json _ => ⟨String.ofList (List.replicate 64 '1'), Foundation.Identifier.isDigest_ones⟩
    | .bytes _ => ⟨String.ofList (List.replicate 64 '0'), Foundation.Identifier.isDigest_zeros⟩
  lengthOf
    | .json _ => 2
    | .bytes octets => octets.length
  urlUuid name := if name.toList.getLast? = some '1' then
      ⟨"00000000-0000-0000-0000-000000000001", Foundation.Identifier.canonicalUuid_one⟩
    else ⟨"00000000-0000-0000-0000-000000000000", Foundation.Identifier.canonicalUuid_zero⟩

local instance : ContentAddressing := kindAddressing

def named (digit : Char) (hdigit : canonicalUuid
    ("00000000-0000-0000-0000-00000000000" ++ digit.toString) = true) : Uuid :=
  ⟨"00000000-0000-0000-0000-00000000000" ++ digit.toString, hdigit⟩

def epoch : UtcTime := ⟨0, Foundation.Timestamp.inRange_zero⟩

def page : Content := .bytes [104, 105]

def pageRequest : ArtifactRequest where
  content := page
  mediaType := "text/plain"
  expectedDigest := none
  retentionClass := "PROTECTED"
  now := epoch
  nonce := "1"

def manifest : SnapshotManifest where
  snapshotId := named '2' (by decide +kernel)
  matchweekId := named '3' (by decide +kernel)
  researchCutoffId := named '4' (by decide +kernel)
  versionManifestId := named '5' (by decide +kernel)
  researchCutoffUtc := epoch
  artifacts := [⟨artifactIdentifier (digestOf page), digestOf page,
    ⟨"text/plain", by decide +kernel⟩, 2⟩]
  versions := []
  retentionOmissions := []
  missing := []
  createdAtUtc := epoch
  verifiedAtUtc := none
  parentSnapshotId := none
  artifacts_sorted := List.pairwise_singleton _ _
  versions_sorted := noTexts_sorted
  omissions_sorted := noKeys_sorted
  missing_sorted := noTexts_sorted

def manifestRequest : ManifestRequest where
  manifest := manifest
  verifiedAtUtc := none
  now := epoch
  nonce := "2"

def empty : World Unit := ⟨[], [], ⟨[], [], [], [], [], []⟩, ()⟩

def smooth (request : Request) : Step := ⟨request, fun _ => .proceed⟩

/-- The process ends at the effect of the clock. -/
def crashing (request : Request) (clock : ℕ) : Step :=
  ⟨request, fun now => if now = clock then .crash ⟨some (.bytes []), true, false⟩ else .proceed⟩

def steps : List Step :=
  [crashing (.artifact pageRequest) 9, smooth .discardStaging, smooth (.artifact pageRequest),
    smooth (.manifest manifestRequest)]

def contents : Set Content := {page, (manifest.verified epoch).toBytes}

theorem page_digest_ne : digestOf page ≠ digestOf (manifest.verified epoch).toBytes := by
  intro heq
  have htext := congrArg Digest.text heq
  revert htext
  decide +kernel

theorem contents_injOn : Set.InjOn digestOf contents := by
  rintro first (rfl | rfl) second (rfl | rfl) heq
  · rfl
  · exact absurd heq page_digest_ne
  · exact absurd heq.symm page_digest_ne
  · rfl

theorem page_offered : Request.Offers contents (.artifact pageRequest) := Or.inl rfl

theorem manifest_offered : Request.Offers contents (.manifest manifestRequest) := by
  rintro time ⟨⟩
  exact Or.inr rfl

theorem steps_offered : ∀ step ∈ steps, step.request.Offers contents := by
  intro step hmem
  simp only [steps, List.mem_cons, List.not_mem_nil, or_false] at hmem
  rcases hmem with rfl | rfl | rfl | rfl
  · exact page_offered
  · exact trivial
  · exact page_offered
  · exact manifest_offered

example : (run empty [smooth (.artifact pageRequest)]).catalog.artifacts.length = 1 := by
  decide +kernel

end Rehearsal

end MatchVet.Artifacts.CrashSafety
