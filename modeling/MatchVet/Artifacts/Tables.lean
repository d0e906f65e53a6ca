import MatchVet.Artifacts.Manifest
import MatchVet.Foundation.KeySort

/-!
# The catalog tables

Rows of artifacts and of snapshot manifests with their members.  Every insertion
checks the constraints and the triggers of its table.
-/

namespace MatchVet.Artifacts.Tables

open MatchVet.Artifacts.Manifest
open MatchVet.Foundation.Identifier
open MatchVet.Foundation.KeySort
open MatchVet.Foundation.Runtime

/-! ## Rows -/

inductive EntityKind where
  | artifact
  | snapshotManifest
  | matchweek
  | researchCutoff
  | versionManifest
  | version
  | versionDefinition
  deriving DecidableEq, Repr

inductive RetentionClass where
  | protect
  | reusable
  | disposable
  deriving DecidableEq, Repr

def RetentionClass.ofText? : String → Option RetentionClass
  | "PROTECTED" => some .protect
  | "REUSABLE" => some .reusable
  | "DISPOSABLE" => some .disposable
  | _ => none

/-- An `ArtifactRecord` and a row of `artifacts`. -/
structure ArtifactMetadata where
  artifactId : Uuid
  digest : Digest
  mediaType : MediaType
  byteLength : ℕ
  relativePath : String
  createdAtUtc : UtcTime
  retentionClass : RetentionClass
  deriving DecidableEq

/-- A row of `snapshot_manifests`. -/
structure ManifestRow where
  manifestDigest : Digest
  snapshotId : Uuid
  matchweekId : Uuid
  researchCutoffId : Uuid
  versionManifestId : Uuid
  researchCutoffUtc : UtcTime
  aggregateSha256 : Digest
  completenessState : String
  manifestSchemaVersion : ℕ
  createdAtUtc : UtcTime
  verificationState : String
  verifiedAtUtc : Option UtcTime
  parentSnapshotId : Option Uuid
  deriving DecidableEq

/-- A row of `manifest_artifacts`. -/
structure MemberRow where
  manifestDigest : Digest
  artifactId : Uuid
  artifactDigest : Digest
  deriving DecidableEq

/-- A row of `manifest_versions`. -/
structure MemberVersionRow where
  manifestDigest : Digest
  version : ManifestVersion
  deriving DecidableEq

structure Catalog where
  identifiers : List (Uuid × EntityKind)
  versions : List ManifestVersion
  artifacts : List ArtifactMetadata
  manifests : List ManifestRow
  memberArtifacts : List MemberRow
  memberVersions : List MemberVersionRow
  deriving DecidableEq

section Rows

variable [ContentAddressing]

/-- The metadata that a manifest is recorded and checked with. -/
def row (manifest : SnapshotManifest) : ManifestRow where
  manifestDigest := manifest.digest
  snapshotId := manifest.snapshotId
  matchweekId := manifest.matchweekId
  researchCutoffId := manifest.researchCutoffId
  versionManifestId := manifest.versionManifestId
  researchCutoffUtc := manifest.researchCutoffUtc
  aggregateSha256 := manifest.aggregateSha256
  completenessState := manifest.completenessState
  manifestSchemaVersion := manifestSchemaVersion
  createdAtUtc := manifest.createdAtUtc
  verificationState := manifest.verificationState
  verifiedAtUtc := manifest.verifiedAtUtc
  parentSnapshotId := manifest.parentSnapshotId

/-- `selection_slot`. -/
def selectionSlot (matchweekId : String) : Uuid :=
  urlUuid ("matchvet:matchweek-research-selection:" ++ matchweekId)

/-- `completion_slot`. -/
def completionSlot (matchweekId : String) : Uuid :=
  urlUuid ("matchvet:matchweek-research-completion:" ++ matchweekId)

def isReservedResearchSlot (snapshotId matchweekId : Uuid) : Prop :=
  snapshotId = selectionSlot matchweekId.text ∨ snapshotId = completionSlot matchweekId.text

instance (snapshotId matchweekId : Uuid) : Decidable (isReservedResearchSlot snapshotId matchweekId) :=
  inferInstanceAs (Decidable (_ ∨ _))

end Rows

namespace Catalog

/-! ## Queries -/

def artifactMetadata (catalog : Catalog) (digest : Digest) : Option ArtifactMetadata :=
  catalog.artifacts.find? fun item => item.digest = digest

def version (catalog : Catalog) (versionId : Uuid) : Option ManifestVersion :=
  catalog.versions.find? fun item => item.versionId = versionId

def snapshotManifestMetadata (catalog : Catalog) (digest : Digest) : Option ManifestRow :=
  catalog.manifests.find? fun item => item.manifestDigest = digest

def snapshotManifestDigestForSnapshot (catalog : Catalog) (snapshotId : Uuid) : Option Digest :=
  (catalog.manifests.find? fun item => item.snapshotId = snapshotId).map ManifestRow.manifestDigest

def membersOf (catalog : Catalog) (digest : Digest) : List MemberRow :=
  catalog.memberArtifacts.filter fun item => item.manifestDigest = digest

def versionsOf (catalog : Catalog) (digest : Digest) : List MemberVersionRow :=
  catalog.memberVersions.filter fun item => item.manifestDigest = digest

/-- The members of a manifest in the order of their digests. -/
def snapshotManifestArtifacts (catalog : Catalog) (digest : Digest) : List (Uuid × Digest) :=
  sortedOn (fun item => item.2.text)
    ((catalog.membersOf digest).map fun item => (item.artifactId, item.artifactDigest))

/-- The versions of a manifest in the order of their identifiers. -/
def snapshotManifestVersions (catalog : Catalog) (digest : Digest) : List ManifestVersion :=
  sortedOn (fun item => item.versionId.text)
    ((catalog.versionsOf digest).map MemberVersionRow.version)

/-! ## Insertions -/

/-- Abort with a message unless the condition holds. -/
def check (condition : Prop) [Decidable condition] (message : String) : Except String Unit :=
  if condition then .ok () else .error message

@[simp]
theorem check_ok_iff {condition : Prop} [Decidable condition] {message : String} {done : Unit} :
    check condition message = .ok done ↔ condition := by
  unfold check
  split
  · exact ⟨fun _ => ‹_›, fun _ => rfl⟩
  · exact ⟨nofun, fun hcondition => absurd hcondition ‹_›⟩

def addIdentifier (catalog : Catalog) (identifier : Uuid × EntityKind) :
    Except String Catalog := do
  check (identifier.1 ∉ catalog.identifiers.map Prod.fst)
    "UNIQUE constraint failed: canonical_identifiers.canonical_id"
  .ok { catalog with identifiers := catalog.identifiers ++ [identifier] }

def addIdentifierIfMissing (catalog : Catalog) (identifier : Uuid × EntityKind) :
    Except String Catalog :=
  if identifier ∈ catalog.identifiers then .ok catalog else catalog.addIdentifier identifier

def insertArtifact (catalog : Catalog) (artifact : ArtifactMetadata) : Except String Catalog := do
  check ((artifact.artifactId, .artifact) ∈ catalog.identifiers)
    "artifacts require typed canonical identifiers"
  check (∀ item ∈ catalog.artifacts, item.artifactId ≠ artifact.artifactId)
    "UNIQUE constraint failed: artifacts.artifact_id"
  check (∀ item ∈ catalog.artifacts, item.relativePath ≠ artifact.relativePath)
    "UNIQUE constraint failed: artifacts.relative_path"
  .ok { catalog with artifacts := catalog.artifacts ++ [artifact] }

def SameArtifact (existing artifact : ArtifactMetadata) : Prop :=
  existing.mediaType = artifact.mediaType ∧ existing.byteLength = artifact.byteLength ∧
    existing.relativePath = artifact.relativePath ∧
    existing.retentionClass = artifact.retentionClass

instance (existing artifact : ArtifactMetadata) : Decidable (SameArtifact existing artifact) :=
  inferInstanceAs (Decidable (_ ∧ _))

/-- `record_artifact`. -/
def recordArtifact (catalog : Catalog) (artifact : ArtifactMetadata) : Except String Catalog :=
  match catalog.artifactMetadata artifact.digest with
  | some existing => do
      check (SameArtifact existing artifact)
        "artifact catalog metadata does not match its digest"
      .ok catalog
  | none => do
      let named ← catalog.addIdentifierIfMissing (artifact.artifactId, .artifact)
      named.insertArtifact artifact

def Typed (catalog : Catalog) (row : ManifestRow) : Prop :=
  (row.snapshotId, .snapshotManifest) ∈ catalog.identifiers ∧
    (row.matchweekId, .matchweek) ∈ catalog.identifiers ∧
    (row.researchCutoffId, .researchCutoff) ∈ catalog.identifiers ∧
    (row.versionManifestId, .versionManifest) ∈ catalog.identifiers ∧
    ∀ parent ∈ row.parentSnapshotId, (parent, .snapshotManifest) ∈ catalog.identifiers

instance (catalog : Catalog) (row : ManifestRow) : Decidable (catalog.Typed row) :=
  inferInstanceAs (Decidable (_ ∧ _))

def insertManifest (catalog : Catalog) (row : ManifestRow) : Except String Catalog := do
  check (∀ item ∈ catalog.manifests, item.snapshotId ≠ row.snapshotId)
    "UNIQUE constraint failed: snapshot_manifests.snapshot_id"
  check (row.manifestDigest ∈ catalog.artifacts.map ArtifactMetadata.digest)
    "FOREIGN KEY constraint failed"
  .ok { catalog with manifests := catalog.manifests ++ [row] }

/-- `_record_snapshot_manifest`: nothing is inserted under a digest that has a row,
which then must be the same row. -/
def recordSnapshotManifest (catalog : Catalog) (row : ManifestRow) : Except String Catalog := do
  check (catalog.Typed row) "snapshot manifests require typed canonical identifiers"
  check (row.verificationState = "VERIFIED" ↔ row.verifiedAtUtc.isSome)
    "snapshot manifest verification metadata is inconsistent"
  match catalog.snapshotManifestMetadata row.manifestDigest with
  | some found => do
      check (found = row) "snapshot manifest metadata does not match its digest"
      .ok catalog
  | none => catalog.insertManifest row

def insertMember (catalog : Catalog) (member : MemberRow) : Except String Catalog := do
  check (∀ item ∈ catalog.membersOf member.manifestDigest,
      item.artifactDigest ≠ member.artifactDigest)
    "UNIQUE constraint failed: manifest_artifacts.manifest_digest, manifest_artifacts.artifact_digest"
  check (member.manifestDigest ∈ catalog.manifests.map ManifestRow.manifestDigest)
    "FOREIGN KEY constraint failed"
  .ok { catalog with memberArtifacts := catalog.memberArtifacts ++ [member] }

/-- `record_manifest_artifact`. -/
def recordManifestArtifact (catalog : Catalog) (member : MemberRow) : Except String Catalog := do
  check (∃ item ∈ catalog.artifacts, item.artifactId = member.artifactId ∧
      item.digest = member.artifactDigest)
    "manifest artifact ID and digest must identify one object"
  match (catalog.membersOf member.manifestDigest).find? fun item =>
      item.artifactId = member.artifactId with
  | some found => do
      check (found.artifactDigest = member.artifactDigest)
        "manifest artifact identity does not match its digest"
      .ok catalog
  | none => catalog.insertMember member

def insertMemberVersion (catalog : Catalog) (member : MemberVersionRow) :
    Except String Catalog := do
  check (member.version.versionId ∈ catalog.versions.map ManifestVersion.versionId)
    "FOREIGN KEY constraint failed"
  check (member.manifestDigest ∈ catalog.manifests.map ManifestRow.manifestDigest)
    "FOREIGN KEY constraint failed"
  .ok { catalog with memberVersions := catalog.memberVersions ++ [member] }

/-- `record_manifest_version`. -/
def recordManifestVersion (catalog : Catalog) (member : MemberVersionRow) :
    Except String Catalog :=
  match (catalog.versionsOf member.manifestDigest).find? fun item =>
      item.version.versionId = member.version.versionId with
  | some found => do
      check (found.version = member.version)
        "manifest version metadata does not match its identity"
      .ok catalog
  | none => catalog.insertMemberVersion member

/-! ## A publication -/

/-- The identifiers of a manifest in the order of their registration. -/
def identifiersOf (manifest : SnapshotManifest) : List (Uuid × EntityKind) :=
  [(manifest.snapshotId, .snapshotManifest), (manifest.matchweekId, .matchweek),
    (manifest.researchCutoffId, .researchCutoff), (manifest.versionManifestId, .versionManifest)] ++
    manifest.parentSnapshotId.toList.map fun parent => (parent, .snapshotManifest)

section Publication

variable [ContentAddressing]

/-- Register the identifiers of a manifest and catalog its object. -/
def recordManifestObject (catalog : Catalog) (manifest : SnapshotManifest)
    (record : ArtifactMetadata) : Except String Catalog := do
  let named ← (identifiersOf manifest).foldlM addIdentifierIfMissing catalog
  named.recordArtifact record

def memberRows (manifest : SnapshotManifest) : List MemberRow :=
  manifest.artifacts.map fun item => ⟨manifest.digest, item.artifactId, item.digest⟩

def memberVersionRows (manifest : SnapshotManifest) : List MemberVersionRow :=
  manifest.versions.map fun item => ⟨manifest.digest, item⟩

/-- Insert the row of a manifest and the rows of its members. -/
def recordMembership (catalog : Catalog) (manifest : SnapshotManifest) :
    Except String Catalog := do
  let published ← catalog.recordSnapshotManifest (row manifest)
  let filled ← (memberRows manifest).foldlM recordManifestArtifact published
  (memberVersionRows manifest).foldlM recordManifestVersion filled

end Publication

/-! ## What an insertion changes -/

/-- Everything but the registered identifiers is the same. -/
def SameTables (catalog next : Catalog) : Prop :=
  ∃ identifiers, next = { catalog with identifiers }

theorem SameTables.refl (catalog : Catalog) : SameTables catalog catalog :=
  ⟨catalog.identifiers, rfl⟩

theorem SameTables.trans {first second third : Catalog} (hfirst : SameTables first second)
    (hsecond : SameTables second third) : SameTables first third := by
  obtain ⟨_, rfl⟩ := hfirst
  obtain ⟨identifiers, rfl⟩ := hsecond
  exact ⟨identifiers, rfl⟩

theorem addIdentifierIfMissing_ok {catalog next : Catalog} {identifier : Uuid × EntityKind}
    (hadd : catalog.addIdentifierIfMissing identifier = .ok next) : SameTables catalog next := by
  unfold addIdentifierIfMissing at hadd
  split at hadd
  · cases hadd
    exact SameTables.refl catalog
  · simp only [addIdentifier, bind_eq_ok, check_ok_iff] at hadd
    obtain ⟨_, _, hadd⟩ := hadd
    cases hadd
    exact ⟨_, rfl⟩

theorem addIdentifiers_ok {catalog next : Catalog} {identifiers : List (Uuid × EntityKind)}
    (hadd : identifiers.foldlM addIdentifierIfMissing catalog = .ok next) :
    SameTables catalog next :=
  foldlM_keeps SameTables SameTables.refl (fun _ _ _ => SameTables.trans)
    (fun _ _ _ _ => addIdentifierIfMissing_ok) hadd

theorem mem_of_artifactMetadata {catalog : Catalog} {digest : Digest} {metadata : ArtifactMetadata}
    (hfind : catalog.artifactMetadata digest = some metadata) :
    metadata ∈ catalog.artifacts ∧ metadata.digest = digest := by
  unfold artifactMetadata at hfind
  exact ⟨List.mem_of_find?_eq_some hfind, by simpa using List.find?_some hfind⟩

theorem not_mem_of_artifactMetadata {catalog : Catalog} {digest : Digest}
    (hfind : catalog.artifactMetadata digest = none) :
    digest ∉ catalog.artifacts.map ArtifactMetadata.digest := by
  intro hmem
  obtain ⟨metadata, hmetadata, hdigest⟩ := List.mem_map.mp hmem
  have hnone := List.find?_eq_none.mp hfind metadata hmetadata
  simp [hdigest] at hnone

/-- Recording an artifact finds a row that agrees with it, or appends its row. -/
theorem recordArtifact_ok {catalog next : Catalog} {artifact : ArtifactMetadata}
    (hrecord : catalog.recordArtifact artifact = .ok next) :
    (next = catalog ∧ ∃ existing, catalog.artifactMetadata artifact.digest = some existing ∧
        SameArtifact existing artifact) ∨
      (artifact.digest ∉ catalog.artifacts.map ArtifactMetadata.digest ∧
        ∃ identifiers, next =
          { catalog with identifiers, artifacts := catalog.artifacts ++ [artifact] }) := by
  unfold recordArtifact at hrecord
  cases hfind : catalog.artifactMetadata artifact.digest with
  | some existing =>
      rw [hfind] at hrecord
      simp only [bind_eq_ok, check_ok_iff] at hrecord
      obtain ⟨_, hsame, hrecord⟩ := hrecord
      cases hrecord
      exact Or.inl ⟨rfl, existing, rfl, hsame⟩
  | none =>
      rw [hfind] at hrecord
      simp only [bind_eq_ok, insertArtifact, check_ok_iff] at hrecord
      obtain ⟨named, hnamed, _, -, _, -, _, -, hrecord⟩ := hrecord
      obtain ⟨identifiers, rfl⟩ := addIdentifierIfMissing_ok hnamed
      cases hrecord
      exact Or.inr ⟨not_mem_of_artifactMetadata hfind, identifiers, rfl⟩

/-- A recorded artifact has a row. -/
theorem recordArtifact_recorded {catalog next : Catalog} {artifact : ArtifactMetadata}
    (hrecord : catalog.recordArtifact artifact = .ok next) :
    ∃ metadata ∈ next.artifacts, metadata.digest = artifact.digest ∧
      SameArtifact metadata artifact := by
  rcases recordArtifact_ok hrecord with ⟨rfl, existing, hfind, hsame⟩ | ⟨-, identifiers, rfl⟩
  · obtain ⟨hmem, hdigest⟩ := mem_of_artifactMetadata hfind
    exact ⟨existing, hmem, hdigest, hsame⟩
  · exact ⟨artifact, List.mem_append_right _ (List.mem_singleton.mpr rfl), rfl, rfl, rfl, rfl, rfl⟩

theorem mem_of_snapshotManifestMetadata {catalog : Catalog} {digest : Digest} {found : ManifestRow}
    (hfind : catalog.snapshotManifestMetadata digest = some found) :
    found ∈ catalog.manifests ∧ found.manifestDigest = digest := by
  unfold snapshotManifestMetadata at hfind
  exact ⟨List.mem_of_find?_eq_some hfind, by simpa using List.find?_some hfind⟩

theorem not_mem_of_snapshotManifestMetadata {catalog : Catalog} {digest : Digest}
    (hfind : catalog.snapshotManifestMetadata digest = none) :
    digest ∉ catalog.manifests.map ManifestRow.manifestDigest := by
  intro hmem
  obtain ⟨found, hfound, hdigest⟩ := List.mem_map.mp hmem
  have hnone := List.find?_eq_none.mp hfind found hfound
  simp [hdigest] at hnone

/-- Recording a manifest finds its row, or appends it under a new snapshot. -/
theorem recordSnapshotManifest_ok {catalog next : Catalog} {row : ManifestRow}
    (hrecord : catalog.recordSnapshotManifest row = .ok next) :
    (next = catalog ∧ catalog.snapshotManifestMetadata row.manifestDigest = some row) ∨
      (row.manifestDigest ∉ catalog.manifests.map ManifestRow.manifestDigest ∧
        (∀ item ∈ catalog.manifests, item.snapshotId ≠ row.snapshotId) ∧
        next = { catalog with manifests := catalog.manifests ++ [row] }) := by
  simp only [recordSnapshotManifest, bind_eq_ok, check_ok_iff] at hrecord
  obtain ⟨_, -, _, -, hrecord⟩ := hrecord
  cases hfind : catalog.snapshotManifestMetadata row.manifestDigest with
  | some found =>
      rw [hfind] at hrecord
      simp only [bind_eq_ok, check_ok_iff] at hrecord
      obtain ⟨_, rfl, hrecord⟩ := hrecord
      cases hrecord
      exact Or.inl ⟨rfl, rfl⟩
  | none =>
      rw [hfind] at hrecord
      simp only [insertManifest, bind_eq_ok, check_ok_iff] at hrecord
      obtain ⟨_, hsnapshot, _, -, hrecord⟩ := hrecord
      cases hrecord
      exact Or.inr ⟨not_mem_of_snapshotManifestMetadata hfind, hsnapshot, rfl⟩

/-- A recorded member is a catalogued artifact. -/
theorem recordManifestArtifact_ok {catalog next : Catalog} {member : MemberRow}
    (hrecord : catalog.recordManifestArtifact member = .ok next) :
    next.artifacts = catalog.artifacts ∧ next.manifests = catalog.manifests ∧
      ∃ item ∈ catalog.artifacts, item.artifactId = member.artifactId ∧
        item.digest = member.artifactDigest := by
  simp only [recordManifestArtifact, bind_eq_ok, check_ok_iff] at hrecord
  obtain ⟨_, hcatalogued, hrecord⟩ := hrecord
  suffices hsame : next.artifacts = catalog.artifacts ∧ next.manifests = catalog.manifests from
    ⟨hsame.1, hsame.2, hcatalogued⟩
  split at hrecord
  · simp only [bind_eq_ok, check_ok_iff] at hrecord
    obtain ⟨_, -, hrecord⟩ := hrecord
    cases hrecord
    exact ⟨rfl, rfl⟩
  · simp only [insertMember, bind_eq_ok, check_ok_iff] at hrecord
    obtain ⟨_, -, _, -, hrecord⟩ := hrecord
    cases hrecord
    exact ⟨rfl, rfl⟩

theorem recordManifestArtifacts_catalogued {catalog next : Catalog} {members : List MemberRow}
    (hrecord : members.foldlM recordManifestArtifact catalog = .ok next) :
    ∀ member ∈ members, ∃ item ∈ catalog.artifacts,
      item.artifactId = member.artifactId ∧ item.digest = member.artifactDigest := by
  intro member hmem
  obtain ⟨done, rest, rfl⟩ := List.append_of_mem hmem
  rw [List.foldlM_append, bind_eq_ok] at hrecord
  obtain ⟨middle, hdone, hrecord⟩ := hrecord
  rw [List.foldlM_cons, bind_eq_ok] at hrecord
  obtain ⟨_, hmember, -⟩ := hrecord
  have hsame : middle.artifacts = catalog.artifacts := by
    refine foldlM_keeps (fun first second => second.artifacts = first.artifacts) (fun _ => rfl)
      ?_ (fun _ _ _ _ hcall => (recordManifestArtifact_ok hcall).1) hdone
    intro first second third hfirst hsecond
    exact hsecond.trans hfirst
  rw [← hsame]
  exact (recordManifestArtifact_ok hmember).2.2

theorem recordManifestVersion_manifests {catalog next : Catalog} {member : MemberVersionRow}
    (hrecord : catalog.recordManifestVersion member = .ok next) :
    next.manifests = catalog.manifests := by
  unfold recordManifestVersion at hrecord
  split at hrecord
  · simp only [bind_eq_ok, check_ok_iff] at hrecord
    obtain ⟨_, -, hrecord⟩ := hrecord
    cases hrecord
    rfl
  · simp only [insertMemberVersion, bind_eq_ok, check_ok_iff] at hrecord
    obtain ⟨_, -, _, -, hrecord⟩ := hrecord
    cases hrecord
    rfl

/-- A member that has a row is not inserted again. -/
theorem recordManifestArtifact_present {catalog next : Catalog} {member : MemberRow}
    (hmem : member ∈ catalog.memberArtifacts)
    (hrecord : catalog.recordManifestArtifact member = .ok next) : next = catalog := by
  simp only [recordManifestArtifact, bind_eq_ok, check_ok_iff] at hrecord
  obtain ⟨_, -, hrecord⟩ := hrecord
  cases hfind : (catalog.membersOf member.manifestDigest).find? fun item =>
      item.artifactId = member.artifactId with
  | some found =>
      rw [hfind] at hrecord
      simp only [bind_eq_ok, check_ok_iff] at hrecord
      obtain ⟨_, -, hrecord⟩ := hrecord
      cases hrecord
      rfl
  | none =>
      have hown : member ∈ catalog.membersOf member.manifestDigest :=
        List.mem_filter.mpr ⟨hmem, by simp⟩
      have hnone := List.find?_eq_none.mp hfind member hown
      simp at hnone

/-- A member with a new digest is appended. -/
theorem recordManifestArtifact_fresh {catalog next : Catalog} {member : MemberRow}
    (hfresh : ∀ item ∈ catalog.membersOf member.manifestDigest,
      item.artifactDigest ≠ member.artifactDigest)
    (hrecord : catalog.recordManifestArtifact member = .ok next) :
    next = { catalog with memberArtifacts := catalog.memberArtifacts ++ [member] } := by
  simp only [recordManifestArtifact, bind_eq_ok, check_ok_iff] at hrecord
  obtain ⟨_, -, hrecord⟩ := hrecord
  cases hfind : (catalog.membersOf member.manifestDigest).find? fun item =>
      item.artifactId = member.artifactId with
  | some found =>
      rw [hfind] at hrecord
      simp only [bind_eq_ok, check_ok_iff] at hrecord
      obtain ⟨_, hsame, -⟩ := hrecord
      exact absurd hsame (hfresh found (List.mem_of_find?_eq_some hfind))
  | none =>
      rw [hfind] at hrecord
      simp only [insertMember, bind_eq_ok, check_ok_iff] at hrecord
      obtain ⟨_, -, _, -, hrecord⟩ := hrecord
      cases hrecord
      rfl

theorem recordManifestArtifacts_present {catalog next : Catalog} {members : List MemberRow}
    (hpresent : ∀ member ∈ members, member ∈ catalog.memberArtifacts)
    (hrecord : members.foldlM recordManifestArtifact catalog = .ok next) : next = catalog := by
  refine foldlM_collects (fun _ => catalog) rfl ?_ hrecord
  intro done member rest hitems following hrow
  refine recordManifestArtifact_present (hpresent member ?_) hrow
  rw [hitems]
  exact List.mem_append_right _ List.mem_cons_self

theorem recordManifestVersion_present {catalog next : Catalog} {member : MemberVersionRow}
    (hmem : member ∈ catalog.memberVersions)
    (hrecord : catalog.recordManifestVersion member = .ok next) : next = catalog := by
  unfold recordManifestVersion at hrecord
  cases hfind : (catalog.versionsOf member.manifestDigest).find? fun item =>
      item.version.versionId = member.version.versionId with
  | some found =>
      rw [hfind] at hrecord
      simp only [bind_eq_ok, check_ok_iff] at hrecord
      obtain ⟨_, -, hrecord⟩ := hrecord
      cases hrecord
      rfl
  | none =>
      have hown : member ∈ catalog.versionsOf member.manifestDigest :=
        List.mem_filter.mpr ⟨hmem, by simp⟩
      have hnone := List.find?_eq_none.mp hfind member hown
      simp at hnone

theorem recordManifestVersions_present {catalog next : Catalog} {members : List MemberVersionRow}
    (hpresent : ∀ member ∈ members, member ∈ catalog.memberVersions)
    (hrecord : members.foldlM recordManifestVersion catalog = .ok next) : next = catalog := by
  refine foldlM_collects (fun _ => catalog) rfl ?_ hrecord
  intro done member rest hitems following hrow
  refine recordManifestVersion_present (hpresent member ?_) hrow
  rw [hitems]
  exact List.mem_append_right _ List.mem_cons_self

theorem recordManifestVersion_fresh {catalog next : Catalog} {member : MemberVersionRow}
    (hfresh : ∀ item ∈ catalog.versionsOf member.manifestDigest,
      item.version.versionId ≠ member.version.versionId)
    (hrecord : catalog.recordManifestVersion member = .ok next) :
    next = { catalog with memberVersions := catalog.memberVersions ++ [member] } := by
  unfold recordManifestVersion at hrecord
  cases hfind : (catalog.versionsOf member.manifestDigest).find? fun item =>
      item.version.versionId = member.version.versionId with
  | some found =>
      have hsame : found.version.versionId = member.version.versionId := by
        simpa using List.find?_some hfind
      exact absurd hsame (hfresh found (List.mem_of_find?_eq_some hfind))
  | none =>
      rw [hfind] at hrecord
      simp only [insertMemberVersion, bind_eq_ok, check_ok_iff] at hrecord
      obtain ⟨_, -, _, -, hrecord⟩ := hrecord
      cases hrecord
      rfl

theorem recordManifestObject_manifests {catalog next : Catalog} {manifest : SnapshotManifest}
    {record : ArtifactMetadata}
    (hrecord : catalog.recordManifestObject manifest record = .ok next) :
    next.manifests = catalog.manifests := by
  simp only [recordManifestObject, bind_eq_ok] at hrecord
  obtain ⟨named, hnamed, hrecord⟩ := hrecord
  obtain ⟨_, rfl⟩ := addIdentifiers_ok hnamed
  rcases recordArtifact_ok hrecord with ⟨rfl, -⟩ | ⟨-, identifiers, rfl⟩
  · rfl
  · rfl

section Membership

variable [ContentAddressing]

theorem memberRows_digest {manifest : SnapshotManifest} {member : MemberRow}
    (hmem : member ∈ memberRows manifest) : member.manifestDigest = manifest.digest := by
  obtain ⟨item, -, rfl⟩ := List.mem_map.mp hmem
  rfl

theorem memberVersionRows_digest {manifest : SnapshotManifest} {member : MemberVersionRow}
    (hmem : member ∈ memberVersionRows manifest) : member.manifestDigest = manifest.digest := by
  obtain ⟨item, -, rfl⟩ := List.mem_map.mp hmem
  rfl

/-- The members of a manifest have different digests. -/
theorem memberRows_pairwise (manifest : SnapshotManifest) :
    (memberRows manifest).Pairwise fun first second =>
      first.artifactDigest ≠ second.artifactDigest := by
  refine List.pairwise_map.mpr ((List.pairwise_map.mp manifest.artifacts_sorted).imp ?_)
  intro first second hlt heq
  exact absurd (congrArg Digest.text heq) (ne_of_lt hlt)

theorem memberVersionRows_pairwise (manifest : SnapshotManifest) :
    (memberVersionRows manifest).Pairwise fun first second =>
      first.version.versionId ≠ second.version.versionId := by
  refine List.pairwise_map.mpr ((List.pairwise_map.mp manifest.versions_sorted).imp ?_)
  intro first second hlt heq
  exact absurd (congrArg Uuid.text heq) (ne_of_lt hlt)

/-- The members of a manifest without rows are all inserted in order. -/
theorem recordManifestArtifacts_fresh {catalog next : Catalog} {manifest : SnapshotManifest}
    (hfresh : catalog.membersOf manifest.digest = [])
    (hrecord : (memberRows manifest).foldlM recordManifestArtifact catalog = .ok next) :
    next = { catalog with
      memberArtifacts := catalog.memberArtifacts ++ memberRows manifest } := by
  refine foldlM_collects (fun done =>
    { catalog with memberArtifacts := catalog.memberArtifacts ++ done }) ?_ ?_ hrecord
  · rw [List.append_nil]
  · intro done member rest hitems following hrow
    have hmem : member ∈ memberRows manifest := by
      rw [hitems]
      exact List.mem_append_right _ List.mem_cons_self
    have hdifferent := memberRows_pairwise manifest
    rw [hitems, List.pairwise_append] at hdifferent
    rw [recordManifestArtifact_fresh ?_ hrow, List.append_assoc]
    intro item hitem
    rw [memberRows_digest hmem, membersOf, List.filter_append] at hitem
    rcases List.mem_append.mp hitem with hitem | hitem
    · change item ∈ catalog.membersOf manifest.digest at hitem
      rw [hfresh] at hitem
      cases hitem
    · exact hdifferent.2.2 item (List.mem_of_mem_filter hitem) member List.mem_cons_self

theorem recordManifestVersions_fresh {catalog next : Catalog} {manifest : SnapshotManifest}
    (hfresh : catalog.versionsOf manifest.digest = [])
    (hrecord : (memberVersionRows manifest).foldlM recordManifestVersion catalog = .ok next) :
    next = { catalog with
      memberVersions := catalog.memberVersions ++ memberVersionRows manifest } := by
  refine foldlM_collects (fun done =>
    { catalog with memberVersions := catalog.memberVersions ++ done }) ?_ ?_ hrecord
  · rw [List.append_nil]
  · intro done member rest hitems following hrow
    have hmem : member ∈ memberVersionRows manifest := by
      rw [hitems]
      exact List.mem_append_right _ List.mem_cons_self
    have hdifferent := memberVersionRows_pairwise manifest
    rw [hitems, List.pairwise_append] at hdifferent
    rw [recordManifestVersion_fresh ?_ hrow, List.append_assoc]
    intro item hitem
    rw [memberVersionRows_digest hmem, versionsOf, List.filter_append] at hitem
    rcases List.mem_append.mp hitem with hitem | hitem
    · change item ∈ catalog.versionsOf manifest.digest at hitem
      rw [hfresh] at hitem
      cases hitem
    · exact hdifferent.2.2 item (List.mem_of_mem_filter hitem) member List.mem_cons_self

/-- The members of a manifest are appended to its own. -/
theorem filter_memberRows (manifest : SnapshotManifest) (digest : Digest) :
    (memberRows manifest).filter (fun item => item.manifestDigest = digest) =
      if manifest.digest = digest then memberRows manifest else [] := by
  split
  · rename_i hdigest
    refine List.filter_eq_self.mpr fun item hitem => ?_
    rw [memberRows_digest hitem, decide_eq_true hdigest]
  · rename_i hdigest
    refine List.filter_eq_nil_iff.mpr fun item hitem => ?_
    rw [memberRows_digest hitem, decide_eq_true_iff]
    exact hdigest

theorem filter_memberVersionRows (manifest : SnapshotManifest) (digest : Digest) :
    (memberVersionRows manifest).filter (fun item => item.manifestDigest = digest) =
      if manifest.digest = digest then memberVersionRows manifest else [] := by
  split
  · rename_i hdigest
    refine List.filter_eq_self.mpr fun item hitem => ?_
    rw [memberVersionRows_digest hitem, decide_eq_true hdigest]
  · rename_i hdigest
    refine List.filter_eq_nil_iff.mpr fun item hitem => ?_
    rw [memberVersionRows_digest hitem, decide_eq_true_iff]
    exact hdigest

/-- The catalog with the row of a manifest and the rows of its members. -/
def withManifest (catalog : Catalog) (manifest : SnapshotManifest) : Catalog :=
  { catalog with
    manifests := catalog.manifests ++ [row manifest]
    memberArtifacts := catalog.memberArtifacts ++ memberRows manifest
    memberVersions := catalog.memberVersions ++ memberVersionRows manifest }

theorem withManifest_membersOf (catalog : Catalog) (manifest : SnapshotManifest) (digest : Digest) :
    (catalog.withManifest manifest).membersOf digest = catalog.membersOf digest ++
      if manifest.digest = digest then memberRows manifest else [] := by
  rw [← filter_memberRows]
  exact List.filter_append _ _

theorem withManifest_versionsOf (catalog : Catalog) (manifest : SnapshotManifest)
    (digest : Digest) :
    (catalog.withManifest manifest).versionsOf digest = catalog.versionsOf digest ++
      if manifest.digest = digest then memberVersionRows manifest else [] := by
  rw [← filter_memberVersionRows]
  exact List.filter_append _ _

/-- Recording a manifest in a snapshot without one appends its row. -/
theorem recordMembership_manifests {catalog next : Catalog} {manifest : SnapshotManifest}
    (hvacant : manifest.snapshotId ∉ catalog.manifests.map ManifestRow.snapshotId)
    (hrecord : catalog.recordMembership manifest = .ok next) :
    next.manifests = catalog.manifests ++ [row manifest] := by
  simp only [recordMembership, bind_eq_ok] at hrecord
  obtain ⟨published, hpublish, filled, hfilled, hrecord⟩ := hrecord
  have hmembers : filled.manifests = published.manifests := by
    refine foldlM_keeps (fun first second => second.manifests = first.manifests) (fun _ => rfl)
      ?_ (fun _ _ _ _ hcall => (recordManifestArtifact_ok hcall).2.1) hfilled
    intro first second third hfirst hsecond
    exact hsecond.trans hfirst
  have hversions : next.manifests = filled.manifests := by
    refine foldlM_keeps (fun first second => second.manifests = first.manifests) (fun _ => rfl)
      ?_ (fun _ _ _ _ => recordManifestVersion_manifests) hrecord
    intro first second third hfirst hsecond
    exact hsecond.trans hfirst
  rw [hversions, hmembers]
  rcases recordSnapshotManifest_ok hpublish with ⟨-, hfind⟩ | ⟨-, -, rfl⟩
  · obtain ⟨hmem, -⟩ := mem_of_snapshotManifestMetadata hfind
    exact absurd (List.mem_map_of_mem hmem) hvacant
  · rfl

/-- Recording the membership of a new manifest appends its row and those of its
members, which are catalogued artifacts. -/
theorem recordMembership_fresh {catalog next : Catalog} {manifest : SnapshotManifest}
    (hdigest : manifest.digest ∉ catalog.manifests.map ManifestRow.manifestDigest)
    (hmembers : catalog.membersOf manifest.digest = [])
    (hversions : catalog.versionsOf manifest.digest = [])
    (hrecord : catalog.recordMembership manifest = .ok next) :
    next = catalog.withManifest manifest ∧
      (∀ item ∈ catalog.manifests, item.snapshotId ≠ manifest.snapshotId) ∧
      ∀ item ∈ manifest.artifacts, ∃ metadata ∈ catalog.artifacts,
        metadata.artifactId = item.artifactId ∧ metadata.digest = item.digest := by
  simp only [recordMembership, bind_eq_ok] at hrecord
  obtain ⟨published, hpublish, filled, hfilled, hrecord⟩ := hrecord
  rcases recordSnapshotManifest_ok hpublish with ⟨-, hfind⟩ | ⟨-, hsnapshot, rfl⟩
  · obtain ⟨hmem, -⟩ := mem_of_snapshotManifestMetadata hfind
    exact absurd (List.mem_map_of_mem hmem) hdigest
  · have hcatalogued := recordManifestArtifacts_catalogued hfilled
    cases recordManifestArtifacts_fresh (by exact hmembers) hfilled
    cases recordManifestVersions_fresh (by exact hversions) hrecord
    refine ⟨rfl, hsnapshot, fun item hitem => ?_⟩
    exact hcatalogued ⟨manifest.digest, item.artifactId, item.digest⟩
      (List.mem_map.mpr ⟨item, hitem, rfl⟩)

end Membership

end Catalog

end MatchVet.Artifacts.Tables
