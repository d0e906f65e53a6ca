import Mathlib
import MatchVet.Foundation.CanonicalJson
import MatchVet.Foundation.Gregorian
import MatchVet.Foundation.Identifier

/-!
# Snapshot manifests

A manifest lists the artifacts and the versions of a snapshot.  Its bytes are
canonical JSON that carries a digest of the rest, and reading them gives the
manifest back.
-/

namespace MatchVet.Artifacts.Manifest

open MatchVet.Foundation.CanonicalJson
open MatchVet.Foundation.Gregorian
open MatchVet.Foundation.Identifier
open MatchVet.Foundation.Runtime
open MatchVet.Foundation.Timestamp

/-- An `ArtifactError` under its code, or another exception under its class. -/
structure ArtifactError where
  code : String
  message : String
  deriving DecidableEq, Repr

def refuse {α : Type} (code message : String) : Except ArtifactError α := .error ⟨code, message⟩

/-- Raise unless the condition holds. -/
def require (condition : Prop) [Decidable condition] (code message : String) :
    Except ArtifactError Unit :=
  if condition then .ok () else refuse code message

@[simp]
theorem require_ok_iff {condition : Prop} [Decidable condition] {code message : String}
    {done : Unit} : require condition code message = .ok done ↔ condition := by
  unfold require
  split
  · exact ⟨fun _ => ‹_›, fun _ => rfl⟩
  · exact ⟨nofun, fun hcondition => absurd hcondition ‹_›⟩

/-! ## Contents -/

/-- The bytes of an object: JSON text without white space, in the member order of the
tree, or any other bytes. -/
inductive Content where
  | json (tree : Json)
  | bytes (octets : List UInt8)
  deriving DecidableEq

/-- SHA-256 and the length of bytes, and `uuid5(NAMESPACE_URL, name)`. -/
class ContentAddressing where
  digestOf : Content → Digest
  lengthOf : Content → ℕ
  urlUuid : String → Uuid

export ContentAddressing (digestOf lengthOf urlUuid)

/-! ## Parts of a manifest -/

/-- `[^\x00-\x20\x7f]+`. -/
def mediaTypeForm (text : String) : Bool :=
  !text.toList.isEmpty && text.toList.all fun char => 32 < char.toNat && char.toNat ≠ 127

structure MediaType where
  text : String
  form : mediaTypeForm text = true
  deriving DecidableEq

def MediaType.ofText? (text : String) : Option MediaType :=
  if hform : mediaTypeForm text = true then some ⟨text, hform⟩ else none

@[simp]
theorem MediaType.ofText?_text (mediaType : MediaType) :
    MediaType.ofText? mediaType.text = some mediaType :=
  dif_pos mediaType.form

/-- A UTC time in canonical text. -/
structure UtcTime where
  instant : Instant
  inRange : InRange instant
  deriving DecidableEq

def UtcTime.text (time : UtcTime) : String := gregorianText time.instant

/-- `_require_utc_timestamp`. -/
def UtcTime.ofText? (text : String) : Option UtcTime :=
  match gregorianReading text with
  | some ⟨clock, some 0⟩ =>
      if hvalid : InRange clock ∧ gregorianText clock = text then some ⟨clock, hvalid.1⟩ else none
  | _ => none

@[simp]
theorem UtcTime.ofText?_text (time : UtcTime) : UtcTime.ofText? time.text = some time := by
  unfold UtcTime.ofText? UtcTime.text
  rw [gregorianReading_gregorianText time.inRange]
  exact dif_pos ⟨time.inRange, rfl⟩

structure ManifestArtifact where
  artifactId : Uuid
  digest : Digest
  mediaType : MediaType
  byteLength : ℕ
  deriving DecidableEq

/-- `[a-z][a-z0-9_]{0,63}`. -/
def versionKindForm (text : String) : Bool :=
  match text.toList with
  | [] => false
  | first :: rest =>
      (97 ≤ first.toNat && first.toNat ≤ 122) && rest.length ≤ 63 &&
        rest.all fun char => (97 ≤ char.toNat && char.toNat ≤ 122) ||
          (48 ≤ char.toNat && char.toNat ≤ 57) || char = '_'

structure ManifestVersion where
  versionId : Uuid
  definitionId : Uuid
  kind : String
  name : String
  contentSha256 : Digest
  canonicalContractVersion : ℕ
  complete : versionKindForm kind = true ∧ name ≠ "" ∧ 1 ≤ canonicalContractVersion
  deriving DecidableEq

structure RetentionOmission where
  identifier : String
  reason : String
  explained : identifier ≠ "" ∧ reason ≠ ""
  deriving DecidableEq

def RetentionOmission.key (omission : RetentionOmission) : String ×ₗ String :=
  toLex (omission.identifier, omission.reason)

theorem noTexts_sorted : ([] : List String).Pairwise (· < ·) := .nil

theorem noKeys_sorted : ([] : List (String ×ₗ String)).Pairwise (· < ·) := .nil

/-- A manifest.  It is verified when it has a verification time and complete when
nothing is missing; its lists are sorted without repetition. -/
structure SnapshotManifest where
  snapshotId : Uuid
  matchweekId : Uuid
  researchCutoffId : Uuid
  versionManifestId : Uuid
  researchCutoffUtc : UtcTime
  artifacts : List ManifestArtifact
  versions : List ManifestVersion
  retentionOmissions : List RetentionOmission
  missing : List String
  createdAtUtc : UtcTime
  verifiedAtUtc : Option UtcTime
  parentSnapshotId : Option Uuid
  artifacts_sorted : (artifacts.map fun item => item.digest.text).Pairwise (· < ·)
  versions_sorted : (versions.map fun item => item.versionId.text).Pairwise (· < ·)
  omissions_sorted : (retentionOmissions.map RetentionOmission.key).Pairwise (· < ·)
  missing_sorted : missing.Pairwise (· < ·)
  deriving DecidableEq

def manifestSchemaVersion : ℕ := 1

namespace SnapshotManifest

def completenessState (manifest : SnapshotManifest) : String :=
  if manifest.missing = [] then "COMPLETE" else "INCOMPLETE"

def verificationState (manifest : SnapshotManifest) : String :=
  if manifest.verifiedAtUtc.isSome then "VERIFIED" else "UNVERIFIED"

/-- `dataclasses.replace` with the verification metadata of a publication. -/
def verified (manifest : SnapshotManifest) (time : UtcTime) : SnapshotManifest :=
  { manifest with verifiedAtUtc := some time }

end SnapshotManifest

/-! ## Writing -/

def optionTree (text : Option String) : Json := text.elim .null .str

def ManifestArtifact.tree (item : ManifestArtifact) : Json :=
  .object [("artifact_id", .str item.artifactId.text), ("byte_length", .int item.byteLength),
    ("digest", .str item.digest.text), ("media_type", .str item.mediaType.text)]

def ManifestVersion.tree (item : ManifestVersion) : Json :=
  .object [("canonical_contract_version", .int item.canonicalContractVersion),
    ("content_sha256", .str item.contentSha256.text),
    ("definition_id", .str item.definitionId.text), ("kind", .str item.kind),
    ("name", .str item.name), ("version_id", .str item.versionId.text)]

def RetentionOmission.tree (omission : RetentionOmission) : Json :=
  .object [("identifier", .str omission.identifier), ("reason", .str omission.reason)]

namespace SnapshotManifest

/-- The members of `_payload` in key order. -/
def payload (manifest : SnapshotManifest) : List (String × Json) :=
  [("artifacts", .array (manifest.artifacts.map ManifestArtifact.tree)),
    ("completeness", .object [("missing", .array (manifest.missing.map Json.str)),
      ("state", .str manifest.completenessState)]),
    ("created_at_utc", .str manifest.createdAtUtc.text),
    ("matchweek_id", .str manifest.matchweekId.text),
    ("parent_snapshot_id", optionTree (manifest.parentSnapshotId.map Uuid.text)),
    ("research_cutoff_id", .str manifest.researchCutoffId.text),
    ("research_cutoff_utc", .str manifest.researchCutoffUtc.text),
    ("retention_omissions", .array (manifest.retentionOmissions.map RetentionOmission.tree)),
    ("schema_version", .int manifestSchemaVersion),
    ("snapshot_id", .str manifest.snapshotId.text),
    ("verification_state", .str manifest.verificationState),
    ("verified_at_utc", optionTree (manifest.verifiedAtUtc.map UtcTime.text)),
    ("version_manifest_id", .str manifest.versionManifestId.text),
    ("versions", .array (manifest.versions.map ManifestVersion.tree))]

variable [ContentAddressing]

def aggregateSha256 (manifest : SnapshotManifest) : Digest :=
  digestOf (.json (.object manifest.payload))

def toBytes (manifest : SnapshotManifest) : Content :=
  .json (.object (("aggregate_sha256", .str manifest.aggregateSha256.text) :: manifest.payload))

def digest (manifest : SnapshotManifest) : Digest := digestOf manifest.toBytes

end SnapshotManifest

/-! ## Reading -/

def readString : Json → Option String
  | .str text => some text
  | _ => none

def readNatural : Json → Option ℕ
  | .int value => if 0 ≤ value then some value.toNat else none
  | _ => none

def readList : Json → Option (List Json)
  | .array items => some items
  | _ => none

/-- The object has exactly these keys. -/
def exactKeys (tree : Json) (keys : List String) : Option Unit :=
  if sortedSet (tree.members.map Prod.fst) = keys then some () else none

/-- The member under a key, read. -/
def member {α : Type} (tree : Json) (key : String) (read : Json → Option α) : Option α :=
  (tree.get? key).bind read

/-- A string that has the form of what it stands for. -/
def readText {α : Type} (ofText? : String → Option α) (tree : Json) : Option α :=
  (readString tree).bind ofText?

/-- Null, or a string that has the form of what it stands for. -/
def readOptionalText {α : Type} (ofText? : String → Option α) (tree : Json) : Option (Option α) :=
  match tree with
  | .null => some none
  | tree => (readText ofText? tree).map some

def readItems {α : Type} (read : Json → Option α) (tree : Json) : Option (List α) :=
  (readList tree).bind fun items => items.mapM read

def ManifestArtifact.ofTree? (tree : Json) : Option ManifestArtifact := do
  exactKeys tree ["artifact_id", "byte_length", "digest", "media_type"]
  let artifactId ← member tree "artifact_id" (readText Uuid.ofText?)
  let digest ← member tree "digest" (readText Digest.ofText?)
  let mediaType ← member tree "media_type" (readText MediaType.ofText?)
  let byteLength ← member tree "byte_length" readNatural
  some ⟨artifactId, digest, mediaType, byteLength⟩

/-- The constructor of a version checks its kind, its name and its contract. -/
def ManifestVersion.make? (versionId definitionId : Uuid) (kind name : String)
    (contentSha256 : Digest) (contract : ℕ) : Option ManifestVersion :=
  if hcomplete : versionKindForm kind = true ∧ name ≠ "" ∧ 1 ≤ contract then
    some ⟨versionId, definitionId, kind, name, contentSha256, contract, hcomplete⟩
  else none

def ManifestVersion.ofTree? (tree : Json) : Option ManifestVersion := do
  exactKeys tree ["canonical_contract_version", "content_sha256", "definition_id", "kind", "name",
    "version_id"]
  let versionId ← member tree "version_id" (readText Uuid.ofText?)
  let definitionId ← member tree "definition_id" (readText Uuid.ofText?)
  let kind ← member tree "kind" readString
  let name ← member tree "name" readString
  let contentSha256 ← member tree "content_sha256" (readText Digest.ofText?)
  let contract ← member tree "canonical_contract_version" readNatural
  ManifestVersion.make? versionId definitionId kind name contentSha256 contract

def RetentionOmission.make? (identifier reason : String) : Option RetentionOmission :=
  if hexplained : identifier ≠ "" ∧ reason ≠ "" then some ⟨identifier, reason, hexplained⟩
  else none

def RetentionOmission.ofTree? (tree : Json) : Option RetentionOmission := do
  exactKeys tree ["identifier", "reason"]
  let identifier ← member tree "identifier" readString
  let reason ← member tree "reason" readString
  RetentionOmission.make? identifier reason

/-- The missing items of a completeness that its state agrees with. -/
def completenessOfTree? (tree : Json) : Option (List String) := do
  exactKeys tree ["missing", "state"]
  let state ← member tree "state" readString
  let missing ← member tree "missing" (readItems readString)
  if state = if missing = [] then "COMPLETE" else "INCOMPLETE" then some missing else none

def manifestKeys : List String :=
  ["aggregate_sha256", "artifacts", "completeness", "created_at_utc", "matchweek_id",
    "parent_snapshot_id", "research_cutoff_id", "research_cutoff_utc", "retention_omissions",
    "schema_version", "snapshot_id", "verification_state", "verified_at_utc",
    "version_manifest_id", "versions"]

/-- The verification time that the verification state agrees with. -/
def verificationOfTree? (tree : Json) : Option (Option UtcTime) := do
  let state ← member tree "verification_state" readString
  let time ← member tree "verified_at_utc" (readOptionalText UtcTime.ofText?)
  if state = if time.isSome then "VERIFIED" else "UNVERIFIED" then some time else none

/-- The constructor of a manifest checks that its lists are sorted. -/
def SnapshotManifest.make? (snapshotId matchweekId researchCutoffId versionManifestId : Uuid)
    (researchCutoffUtc : UtcTime) (artifacts : List ManifestArtifact)
    (versions : List ManifestVersion) (omissions : List RetentionOmission) (missing : List String)
    (createdAtUtc : UtcTime) (verifiedAtUtc : Option UtcTime) (parentSnapshotId : Option Uuid) :
    Option SnapshotManifest :=
  if hsorted : (artifacts.map fun item => item.digest.text).Pairwise (· < ·) ∧
      (versions.map fun item => item.versionId.text).Pairwise (· < ·) ∧
      (omissions.map RetentionOmission.key).Pairwise (· < ·) ∧ missing.Pairwise (· < ·) then
    some
      { snapshotId, matchweekId, researchCutoffId, versionManifestId, researchCutoffUtc, artifacts
        versions, retentionOmissions := omissions, missing, createdAtUtc, verifiedAtUtc
        parentSnapshotId, artifacts_sorted := hsorted.1, versions_sorted := hsorted.2.1
        omissions_sorted := hsorted.2.2.1, missing_sorted := hsorted.2.2.2 }
  else none

def SnapshotManifest.ofTree? (tree : Json) : Option SnapshotManifest := do
  exactKeys tree manifestKeys
  let artifacts ← member tree "artifacts" (readItems ManifestArtifact.ofTree?)
  let versions ← member tree "versions" (readItems ManifestVersion.ofTree?)
  let omissions ← member tree "retention_omissions" (readItems RetentionOmission.ofTree?)
  let missing ← member tree "completeness" completenessOfTree?
  let snapshotId ← member tree "snapshot_id" (readText Uuid.ofText?)
  let matchweekId ← member tree "matchweek_id" (readText Uuid.ofText?)
  let researchCutoffUtc ← member tree "research_cutoff_utc" (readText UtcTime.ofText?)
  let createdAtUtc ← member tree "created_at_utc" (readText UtcTime.ofText?)
  let researchCutoffId ← member tree "research_cutoff_id" (readText Uuid.ofText?)
  let versionManifestId ← member tree "version_manifest_id" (readText Uuid.ofText?)
  let verifiedAtUtc ← verificationOfTree? tree
  let parentSnapshotId ← member tree "parent_snapshot_id" (readOptionalText Uuid.ofText?)
  SnapshotManifest.make? snapshotId matchweekId researchCutoffId versionManifestId
    researchCutoffUtc artifacts versions omissions missing createdAtUtc verifiedAtUtc
    parentSnapshotId

section Reading

variable [ContentAddressing]

/-- The checks of `from_bytes` on a parsed manifest. -/
def checkRead (tree : Json) (manifest : SnapshotManifest) :
    Except ArtifactError SnapshotManifest := do
  require (tree.get? "schema_version" = some (.int manifestSchemaVersion))
    "MV-MANIFEST-SCHEMA_UNSUPPORTED" "Snapshot manifest schema is unsupported."
  require (tree.get? "aggregate_sha256" = some (.str manifest.aggregateSha256.text))
    "MV-MANIFEST-AGGREGATE_MISMATCH" "Manifest aggregate digest is invalid."
  require (manifest.toBytes = .json tree)
    "MV-MANIFEST-NONCANONICAL" "Manifest JSON is not canonical UTF-8 JSON."
  .ok manifest

/-- `SnapshotManifest.from_bytes`. -/
def SnapshotManifest.fromBytes : Content → Except ArtifactError SnapshotManifest
  | .bytes _ => refuse "MV-MANIFEST-MALFORMED" "Snapshot manifest JSON is malformed."
  | .json tree =>
      match SnapshotManifest.ofTree? tree with
      | none => refuse "MV-MANIFEST-MALFORMED" "Snapshot manifest JSON is malformed."
      | some manifest => checkRead tree manifest

end Reading

/-! ## Reading what was written -/

theorem mapM_ofTree {α : Type} {write : α → Json} {read : Json → Option α}
    (hread : ∀ item, read (write item) = some item) (items : List α) :
    (items.map write).mapM read = some items := by
  induction items with
  | nil => rfl
  | cons item rest ih =>
      rw [List.map_cons, List.mapM_cons, hread, ih]
      rfl

theorem readItems_array {α : Type} {write : α → Json} {read : Json → Option α}
    (hread : ∀ item, read (write item) = some item) (items : List α) :
    readItems read (.array (items.map write)) = some items :=
  mapM_ofTree hread items

theorem readText_str {α : Type} {ofText? : String → Option α} {text : String} {value : α}
    (hread : ofText? text = some value) : readText ofText? (.str text) = some value := hread

theorem readOptionalText_tree {α : Type} {ofText? : String → Option α} {write : α → String}
    (hread : ∀ value, ofText? (write value) = some value) (value : Option α) :
    readOptionalText ofText? (optionTree (value.map write)) = some value := by
  cases value with
  | none => rfl
  | some value =>
      change (ofText? (write value)).map some = _
      rw [hread]
      rfl

/-- Members in key order have exactly their keys. -/
theorem exactKeys_object {members : List (String × Json)} {keys : List String}
    (hkeys : members.map Prod.fst = keys) (hsorted : sortedSet keys = keys) :
    exactKeys (.object members) keys = some () := by
  refine if_pos ?_
  change sortedSet (members.map Prod.fst) = keys
  rw [hkeys, hsorted]

/-- The keys of every object of a manifest are in order. -/
theorem objectKeys_sorted : ∀ keys ∈ [["artifact_id", "byte_length", "digest", "media_type"],
    ["canonical_contract_version", "content_sha256", "definition_id", "kind", "name",
      "version_id"], ["identifier", "reason"], ["missing", "state"], manifestKeys],
    sortedSet keys = keys := by
  decide

theorem ManifestArtifact.ofTree?_tree (item : ManifestArtifact) :
    ManifestArtifact.ofTree? item.tree = some item := by
  have hkeys : exactKeys item.tree ["artifact_id", "byte_length", "digest", "media_type"] =
      some () := exactKeys_object rfl (objectKeys_sorted _ (.head _))
  have hnatural : readNatural (.int item.byteLength) = some item.byteLength := by
    simp [readNatural]
  rw [ManifestArtifact.ofTree?, hkeys]
  simp [member, ManifestArtifact.tree, Json.get?, Json.members, List.lookup, readText, readString,
    hnatural]

theorem ManifestVersion.ofTree?_tree (item : ManifestVersion) :
    ManifestVersion.ofTree? item.tree = some item := by
  have hkeys : exactKeys item.tree ["canonical_contract_version", "content_sha256",
      "definition_id", "kind", "name", "version_id"] = some () :=
    exactKeys_object rfl (objectKeys_sorted _ (.tail _ (.head _)))
  have hnatural : readNatural (.int item.canonicalContractVersion) =
      some item.canonicalContractVersion := by simp [readNatural]
  have hmake : ManifestVersion.make? item.versionId item.definitionId item.kind item.name
      item.contentSha256 item.canonicalContractVersion = some item := dif_pos item.complete
  rw [ManifestVersion.ofTree?, hkeys]
  simp [member, ManifestVersion.tree, Json.get?, Json.members, List.lookup, readText, readString,
    hnatural, hmake]

theorem RetentionOmission.ofTree?_tree (omission : RetentionOmission) :
    RetentionOmission.ofTree? omission.tree = some omission := by
  have hkeys : exactKeys omission.tree ["identifier", "reason"] = some () :=
    exactKeys_object rfl (objectKeys_sorted _ (.tail _ (.tail _ (.head _))))
  have hmake : RetentionOmission.make? omission.identifier omission.reason = some omission :=
    dif_pos omission.explained
  rw [RetentionOmission.ofTree?, hkeys]
  simp [member, RetentionOmission.tree, Json.get?, Json.members, List.lookup, readString, hmake]

theorem completenessOfTree?_tree (manifest : SnapshotManifest) :
    completenessOfTree? (.object [("missing", .array (manifest.missing.map Json.str)),
      ("state", .str manifest.completenessState)]) = some manifest.missing := by
  have hkeys : exactKeys (.object [("missing", .array (manifest.missing.map Json.str)),
      ("state", .str manifest.completenessState)]) ["missing", "state"] = some () :=
    exactKeys_object rfl (objectKeys_sorted _ (.tail _ (.tail _ (.tail _ (.head _)))))
  have hmissing : readItems readString (.array (manifest.missing.map Json.str)) =
      some manifest.missing := @readItems_array _ Json.str readString (fun _ => rfl) manifest.missing
  rw [completenessOfTree?, hkeys]
  simp [member, Json.get?, Json.members, List.lookup, readString, hmissing,
    SnapshotManifest.completenessState]

section Written

variable [ContentAddressing]

/-- The tree that the bytes of a manifest are. -/
def SnapshotManifest.tree (manifest : SnapshotManifest) : Json :=
  .object (("aggregate_sha256", .str manifest.aggregateSha256.text) :: manifest.payload)

theorem verificationOfTree?_tree (manifest : SnapshotManifest) :
    verificationOfTree? manifest.tree = some manifest.verifiedAtUtc := by
  have htime := readOptionalText_tree UtcTime.ofText?_text manifest.verifiedAtUtc
  rw [verificationOfTree?]
  simp [member, SnapshotManifest.tree, SnapshotManifest.payload, Json.get?, Json.members,
    List.lookup, readString, htime, SnapshotManifest.verificationState]

theorem SnapshotManifest.ofTree?_tree (manifest : SnapshotManifest) :
    SnapshotManifest.ofTree? manifest.tree = some manifest := by
  have hkeys : exactKeys manifest.tree manifestKeys = some () :=
    exactKeys_object rfl (objectKeys_sorted _ (.tail _ (.tail _ (.tail _ (.tail _ (.head _))))))
  have hartifacts := readItems_array ManifestArtifact.ofTree?_tree manifest.artifacts
  have hversions := readItems_array ManifestVersion.ofTree?_tree manifest.versions
  have homissions := readItems_array RetentionOmission.ofTree?_tree manifest.retentionOmissions
  have hparent := readOptionalText_tree Uuid.ofText?_text manifest.parentSnapshotId
  have hmake : SnapshotManifest.make? manifest.snapshotId manifest.matchweekId
      manifest.researchCutoffId manifest.versionManifestId manifest.researchCutoffUtc
      manifest.artifacts manifest.versions manifest.retentionOmissions manifest.missing
      manifest.createdAtUtc manifest.verifiedAtUtc manifest.parentSnapshotId = some manifest :=
    dif_pos ⟨manifest.artifacts_sorted, manifest.versions_sorted, manifest.omissions_sorted,
      manifest.missing_sorted⟩
  rw [SnapshotManifest.ofTree?, hkeys, verificationOfTree?_tree]
  simp [member, SnapshotManifest.tree, SnapshotManifest.payload, Json.get?, Json.members,
    List.lookup, readText, readString, hartifacts, hversions, homissions, hparent, hmake,
    completenessOfTree?_tree]

@[simp]
theorem SnapshotManifest.tree_schemaVersion (manifest : SnapshotManifest) :
    manifest.tree.get? "schema_version" = some (.int manifestSchemaVersion) := by
  simp [SnapshotManifest.tree, SnapshotManifest.payload, Json.get?, Json.members, List.lookup]

@[simp]
theorem SnapshotManifest.tree_aggregateSha256 (manifest : SnapshotManifest) :
    manifest.tree.get? "aggregate_sha256" = some (.str manifest.aggregateSha256.text) := by
  simp [SnapshotManifest.tree, Json.get?, Json.members]

theorem SnapshotManifest.toBytes_eq (manifest : SnapshotManifest) :
    manifest.toBytes = .json manifest.tree := rfl

theorem checkRead_tree (manifest : SnapshotManifest) :
    checkRead manifest.tree manifest = .ok manifest := by
  simp only [checkRead, bind_eq_ok, require_ok_iff]
  exact ⟨(), manifest.tree_schemaVersion, (), manifest.tree_aggregateSha256, (),
    manifest.toBytes_eq, trivial⟩

/-- Reading the bytes of a manifest gives the manifest. -/
theorem SnapshotManifest.fromBytes_toBytes (manifest : SnapshotManifest) :
    SnapshotManifest.fromBytes manifest.toBytes = .ok manifest := by
  rw [SnapshotManifest.toBytes_eq]
  unfold SnapshotManifest.fromBytes
  dsimp only
  rw [SnapshotManifest.ofTree?_tree]
  exact checkRead_tree manifest

/-- Bytes that read as a manifest are the bytes of it. -/
theorem SnapshotManifest.toBytes_of_fromBytes {data : Content} {manifest : SnapshotManifest}
    (hread : SnapshotManifest.fromBytes data = .ok manifest) : manifest.toBytes = data := by
  cases data with
  | bytes octets => cases hread
  | json tree =>
      unfold SnapshotManifest.fromBytes at hread
      dsimp only at hread
      cases hfind : SnapshotManifest.ofTree? tree with
      | none =>
          rw [hfind] at hread
          cases hread
      | some found =>
          rw [hfind] at hread
          simp only [checkRead, bind_eq_ok, require_ok_iff] at hread
          obtain ⟨_, -, _, -, _, hbytes, hdone⟩ := hread
          cases hdone
          exact hbytes

theorem SnapshotManifest.toBytes_injective :
    Function.Injective (SnapshotManifest.toBytes : SnapshotManifest → Content) := by
  intro first second heq
  have hread := SnapshotManifest.fromBytes_toBytes first
  rw [heq, SnapshotManifest.fromBytes_toBytes] at hread
  cases hread
  rfl

end Written

end MatchVet.Artifacts.Manifest
