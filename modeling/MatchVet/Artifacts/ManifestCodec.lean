import MatchVet.Artifacts.Manifest
import MatchVet.Foundation.JsonTree

/-!
# The bytes of a manifest

A manifest is written as canonical UTF-8 JSON and read back.  The constructor takes
a boolean for an integer, which is one of Python's integers; the reader does not.
-/

namespace MatchVet.Artifacts.ManifestCodec

open MatchVet.Artifacts.Manifest
open MatchVet.Foundation.CanonicalJson
open MatchVet.Foundation.Identifier
open MatchVet.Foundation.JsonDocument
open MatchVet.Foundation.JsonTree
open MatchVet.Foundation.Runtime (bind_eq_ok)

/-! ## Constructed manifests -/

/-- A manifest that the constructor has accepted: its values, and its integers as they
were given. -/
structure Built where
  manifest : SnapshotManifest
  lengths : List PyInteger
  contracts : List PyInteger
  schemaVersion : PyInteger
  lengths_eq : lengths.map PyInteger.value = manifest.artifacts.map ManifestArtifact.byteLength
  contracts_eq : contracts.map PyInteger.value =
    manifest.versions.map ManifestVersion.canonicalContractVersion
  schema_eq : schemaVersion.value = manifestSchemaVersion
  deriving DecidableEq

/-- The manifest of values that are given as integers. -/
def Built.ofManifest (manifest : SnapshotManifest) : Built where
  manifest := manifest
  lengths := manifest.artifacts.map fun item => .int item.byteLength
  contracts := manifest.versions.map fun item => .int item.canonicalContractVersion
  schemaVersion := .int manifestSchemaVersion
  lengths_eq := by rw [List.map_map]; rfl
  contracts_eq := by rw [List.map_map]; rfl
  schema_eq := rfl

def artifactTree (item : ManifestArtifact) (length : PyInteger) : Json :=
  .object [("artifact_id", .str item.artifactId.text), ("byte_length", length.tree),
    ("digest", .str item.digest.text), ("media_type", .str item.mediaType.text)]

def versionTree (item : ManifestVersion) (contract : PyInteger) : Json :=
  .object [("canonical_contract_version", contract.tree),
    ("content_sha256", .str item.contentSha256.text),
    ("definition_id", .str item.definitionId.text), ("kind", .str item.kind),
    ("name", .str item.name), ("version_id", .str item.versionId.text)]

namespace Built

/-- The members of `_payload` in key order. -/
def payload (built : Built) : List (String × Json) :=
  let manifest := built.manifest
  [("artifacts", .array (List.zipWith artifactTree manifest.artifacts built.lengths)),
    ("completeness", .object [("missing", .array (manifest.missing.map Json.str)),
      ("state", .str manifest.completenessState)]),
    ("created_at_utc", .str manifest.createdAtUtc.text),
    ("matchweek_id", .str manifest.matchweekId.text),
    ("parent_snapshot_id", optionTree (manifest.parentSnapshotId.map Uuid.text)),
    ("research_cutoff_id", .str manifest.researchCutoffId.text),
    ("research_cutoff_utc", .str manifest.researchCutoffUtc.text),
    ("retention_omissions", .array (manifest.retentionOmissions.map RetentionOmission.tree)),
    ("schema_version", built.schemaVersion.tree),
    ("snapshot_id", .str manifest.snapshotId.text),
    ("verification_state", .str manifest.verificationState),
    ("verified_at_utc", optionTree (manifest.verifiedAtUtc.map UtcTime.text)),
    ("version_manifest_id", .str manifest.versionManifestId.text),
    ("versions", .array (List.zipWith versionTree manifest.versions built.contracts))]

/-- Every integer is given as one, and not as a boolean. -/
def plain (built : Built) : Bool :=
  built.lengths.all PyInteger.plain && built.contracts.all PyInteger.plain &&
    built.schemaVersion.plain

/-- Every integer can be written. -/
def printable (built : Built) : Bool :=
  built.lengths.all PyInteger.printable && built.contracts.all PyInteger.printable &&
    built.schemaVersion.printable

end Built

/-! ## Plain manifests -/

theorem eq_int_of_plain {integers : List PyInteger} {numbers : List ℕ}
    (hplain : integers.all PyInteger.plain = true)
    (hvalues : integers.map PyInteger.value = numbers) :
    integers = numbers.map PyInteger.int := by
  subst hvalues
  induction integers with
  | nil => rfl
  | cons integer rest ih =>
      rw [List.all_cons, Bool.and_eq_true] at hplain
      cases integer with
      | int value =>
          rw [List.map_cons, List.map_cons, ← ih hplain.2]
          rfl
      | bool value => exact absurd hplain.1 Bool.false_ne_true

theorem Built.eq_ofManifest {built : Built} (hplain : built.plain = true) :
    built = Built.ofManifest built.manifest := by
  obtain ⟨manifest, lengths, contracts, schema, hlengths, hcontracts, hschema⟩ := built
  unfold Built.plain at hplain
  rw [Bool.and_eq_true, Bool.and_eq_true] at hplain
  obtain ⟨⟨hlength, hcontract⟩, hversion⟩ := hplain
  have hlengths' := eq_int_of_plain hlength hlengths
  have hcontracts' := eq_int_of_plain hcontract hcontracts
  rw [List.map_map] at hlengths' hcontracts'
  cases schema with
  | int version =>
      obtain rfl : version = manifestSchemaVersion := hschema
      subst hlengths' hcontracts'
      rfl
  | bool value => exact absurd hversion Bool.false_ne_true

theorem Built.plain_ofManifest (manifest : SnapshotManifest) :
    (Built.ofManifest manifest).plain = true := by
  simp [Built.plain, Built.ofManifest, PyInteger.plain]

theorem zipWith_int {α : Type} {write : α → Json} {writeGiven : α → PyInteger → Json}
    {number : α → ℕ} (hwrite : ∀ item, writeGiven item (.int (number item)) = write item)
    (items : List α) :
    List.zipWith writeGiven items (items.map fun item => .int (number item)) =
      items.map write := by
  induction items with
  | nil => rfl
  | cons item rest ih => rw [List.map_cons, List.map_cons, List.zipWith_cons_cons, ih, hwrite]

theorem Built.payload_ofManifest (manifest : SnapshotManifest) :
    (Built.ofManifest manifest).payload = manifest.payload := by
  have hartifacts := @zipWith_int _ ManifestArtifact.tree artifactTree
    ManifestArtifact.byteLength (fun _ => rfl) manifest.artifacts
  have hversions := @zipWith_int _ ManifestVersion.tree versionTree
    ManifestVersion.canonicalContractVersion (fun _ => rfl) manifest.versions
  unfold Built.payload Built.ofManifest SnapshotManifest.payload
  dsimp only
  rw [hartifacts, hversions]
  rfl

/-! ## Writing and reading -/

/-- SHA-256 of bytes; the digest of a tree is that of its canonical bytes. -/
class Sha256 extends ContentAddressing where
  sha256 : ByteArray → Digest
  digestOf_json : ∀ value, digestOf (.json value) = sha256 (jsonBytes value)

export Sha256 (sha256)

section
variable [Sha256]

namespace Built

/-- `aggregate_sha256`; an integer of too many digits cannot be written. -/
def aggregateSha256 (built : Built) : Except ArtifactError Digest :=
  if built.printable then .ok (sha256 (jsonBytes (.object built.payload)))
  else refuse "ValueError" "Exceeds the limit (4300 digits) for integer string conversion"

/-- The tree that the bytes of a manifest are. -/
def tree (built : Built) (aggregate : Digest) : Json :=
  .object (("aggregate_sha256", .str aggregate.text) :: built.payload)

/-- `to_bytes`. -/
def toBytes (built : Built) : Except ArtifactError ByteArray := do
  let aggregate ← built.aggregateSha256
  .ok (jsonBytes (built.tree aggregate))

end Built

def malformed {α : Type} : Except ArtifactError α :=
  refuse "MV-MANIFEST-MALFORMED" "Snapshot manifest JSON is malformed."

/-- A `ValueError` of the reader is a malformed manifest. -/
def orMalformed {α : Type} (result : Except ArtifactError α) : Except ArtifactError α :=
  match result with
  | .ok value => .ok value
  | .error _ => malformed

/-- The schema version of a tree, which is an integer and not a boolean. -/
def readSchema (value : Json) : Except ArtifactError Unit :=
  match value.get? "schema_version" with
  | some (.int version) =>
      require (version = manifestSchemaVersion) "MV-MANIFEST-SCHEMA_UNSUPPORTED"
        "Snapshot manifest schema is unsupported."
  | _ => malformed

def readAggregate (value : Json) : Except ArtifactError String :=
  match value.get? "aggregate_sha256" with
  | some (.str text) => .ok text
  | _ => malformed

/-- `SnapshotManifest.from_bytes`. -/
def fromBytes (data : ByteArray) : Except ArtifactError Built :=
  match parse data with
  | none => malformed
  | some value =>
      match SnapshotManifest.ofTree? value with
      | none => malformed
      | some manifest => do
          readSchema value
          let built := Built.ofManifest manifest
          let given ← readAggregate value
          let aggregate ← orMalformed built.aggregateSha256
          require (given = aggregate.text) "MV-MANIFEST-AGGREGATE_MISMATCH"
            "Manifest aggregate digest is invalid."
          let bytes ← orMalformed built.toBytes
          require (bytes = data) "MV-MANIFEST-NONCANONICAL"
            "Manifest JSON is not canonical UTF-8 JSON."
          .ok built

theorem Built.tree_ofManifest (manifest : SnapshotManifest) :
    (Built.ofManifest manifest).tree (sha256 (jsonBytes (.object manifest.payload))) =
      manifest.tree := by
  have haggregate : sha256 (jsonBytes (.object manifest.payload)) = manifest.aggregateSha256 :=
    (Sha256.digestOf_json _).symm
  unfold Built.tree SnapshotManifest.tree
  rw [Built.payload_ofManifest, haggregate]

/-! ## Canonical trees -/

omit [Sha256] in
theorem canonical_optionTree (text : Option String) : Canonical (optionTree text) := by
  cases text with
  | none => exact canonical_null
  | some text => exact canonical_str text

omit [Sha256] in
theorem canonical_integer (integer : PyInteger) : Canonical integer.tree := by
  cases integer with
  | int value => exact canonical_int value
  | bool value => exact canonical_bool value

omit [Sha256] in
theorem canonical_zipWith {α : Type} {write : α → PyInteger → Json}
    (hwrite : ∀ item integer, Canonical (write item integer)) (items : List α)
    (integers : List PyInteger) : Canonical (.array (List.zipWith write items integers)) := by
  refine canonical_array fun value hvalue => ?_
  rw [← List.map_uncurry_zip_eq_zipWith] at hvalue
  obtain ⟨pair, -, rfl⟩ := List.mem_map.mp hvalue
  exact hwrite pair.1 pair.2

omit [Sha256] in
theorem canonical_map {α : Type} {write : α → Json} (hwrite : ∀ item, Canonical (write item))
    (items : List α) : Canonical (.array (items.map write)) := by
  refine canonical_array fun value hvalue => ?_
  obtain ⟨item, -, rfl⟩ := List.mem_map.mp hvalue
  exact hwrite item

omit [Sha256] in
/-- The keys of every object of a manifest increase. -/
theorem objectKeys_increasing : ∀ keys ∈ [["artifact_id", "byte_length", "digest", "media_type"],
    ["canonical_contract_version", "content_sha256", "definition_id", "kind", "name",
      "version_id"], ["identifier", "reason"], ["missing", "state"], manifestKeys],
    keys.Pairwise (· < ·) := by
  decide

omit [Sha256] in
theorem canonical_artifact (item : ManifestArtifact) (length : PyInteger) :
    Canonical (artifactTree item length) := by
  refine @canonical_object _ ["artifact_id", "byte_length", "digest", "media_type"] rfl
    (objectKeys_increasing _ (.head _)) ?_
  simp only [List.forall_mem_cons, List.not_mem_nil, false_imp_iff, implies_true, and_true]
  exact ⟨canonical_str _, canonical_integer _, canonical_str _, canonical_str _⟩

omit [Sha256] in
theorem canonical_version (item : ManifestVersion) (contract : PyInteger) :
    Canonical (versionTree item contract) := by
  refine @canonical_object _ ["canonical_contract_version", "content_sha256",
    "definition_id", "kind", "name", "version_id"] rfl
    (objectKeys_increasing _ (.tail _ (.head _))) ?_
  simp only [List.forall_mem_cons, List.not_mem_nil, false_imp_iff, implies_true, and_true]
  exact ⟨canonical_integer _, canonical_str _, canonical_str _, canonical_str _, canonical_str _,
    canonical_str _⟩

omit [Sha256] in
theorem canonical_omission (omission : RetentionOmission) : Canonical omission.tree := by
  refine @canonical_object _ ["identifier", "reason"] rfl
    (objectKeys_increasing _ (.tail _ (.tail _ (.head _)))) ?_
  simp only [List.forall_mem_cons, List.not_mem_nil, false_imp_iff, implies_true, and_true]
  exact ⟨canonical_str _, canonical_str _⟩

omit [Sha256] in
theorem canonical_tree (built : Built) (aggregate : Digest) : Canonical (built.tree aggregate) := by
  have hcompleteness : Canonical (.object [("missing",
      .array (built.manifest.missing.map Json.str)),
        ("state", .str built.manifest.completenessState)]) := by
    refine @canonical_object _ ["missing", "state"] rfl
      (objectKeys_increasing _ (.tail _ (.tail _ (.tail _ (.head _))))) ?_
    simp only [List.forall_mem_cons, List.not_mem_nil, false_imp_iff, implies_true, and_true]
    exact ⟨canonical_map canonical_str _, canonical_str _⟩
  refine @canonical_object _ manifestKeys rfl
    (objectKeys_increasing _ (.tail _ (.tail _ (.tail _ (.tail _ (.head _)))))) ?_
  simp only [Built.payload, List.forall_mem_cons, List.not_mem_nil, false_imp_iff, implies_true,
    and_true]
  exact ⟨canonical_str _, canonical_zipWith canonical_artifact _ _, hcompleteness,
    canonical_str _, canonical_str _, canonical_optionTree _, canonical_str _, canonical_str _,
    canonical_map canonical_omission _, canonical_integer _, canonical_str _, canonical_str _,
    canonical_optionTree _, canonical_str _, canonical_zipWith canonical_version _ _⟩

/-! ## The round trip -/

theorem Built.aggregateSha256_eq {built : Built} (hprintable : built.printable = true) :
    built.aggregateSha256 = .ok (sha256 (jsonBytes (.object built.payload))) := if_pos hprintable

theorem Built.toBytes_eq {built : Built} (hprintable : built.printable = true) :
    built.toBytes =
      .ok (jsonBytes (built.tree (sha256 (jsonBytes (.object built.payload))))) := by
  unfold Built.toBytes
  rw [Built.aggregateSha256_eq hprintable]
  rfl

/-- A manifest whose integers are integers that can be written is read back. -/
theorem fromBytes_plain {built : Built} (hplain : built.plain = true)
    (hprintable : built.printable = true) : (built.toBytes >>= fromBytes) = .ok built := by
  obtain ⟨manifest, hmanifest⟩ : ∃ manifest, built = Built.ofManifest manifest :=
    ⟨built.manifest, Built.eq_ofManifest hplain⟩
  subst hmanifest
  have hparse := parse_jsonBytes (canonical_tree (Built.ofManifest manifest)
    (sha256 (jsonBytes (.object (Built.ofManifest manifest).payload))))
  have htree := Built.tree_ofManifest manifest
  have hbytes := Built.toBytes_eq hprintable
  have haggregate := Built.aggregateSha256_eq hprintable
  rw [Built.payload_ofManifest] at hparse hbytes haggregate
  rw [htree] at hparse hbytes
  rw [hbytes]
  refine bind_eq_ok.mpr ⟨_, rfl, ?_⟩
  unfold fromBytes
  rw [hparse]
  dsimp only
  rw [SnapshotManifest.ofTree?_tree]
  dsimp only
  have hschema : readSchema manifest.tree = .ok () := by
    unfold readSchema
    rw [SnapshotManifest.tree_schemaVersion]
    exact if_pos rfl
  have hgiven : readAggregate manifest.tree =
      .ok (sha256 (jsonBytes (.object manifest.payload))).text := by
    unfold readAggregate
    rw [SnapshotManifest.tree_aggregateSha256, SnapshotManifest.aggregateSha256,
      Sha256.digestOf_json]
  simp only [bind_eq_ok]
  refine ⟨(), hschema, _, hgiven, sha256 (jsonBytes (.object manifest.payload)), ?_, (), ?_,
    jsonBytes manifest.tree, ?_, (), ?_, trivial⟩
  · rw [haggregate]
    rfl
  · exact require_ok_iff.mpr rfl
  · rw [hbytes]
    rfl
  · exact require_ok_iff.mpr rfl

theorem Built.printable_of_toBytes {built : Built} {data : ByteArray}
    (hbytes : built.toBytes = .ok data) :
    built.printable = true ∧
      data = jsonBytes (built.tree (sha256 (jsonBytes (.object built.payload)))) := by
  have hprintable : built.printable = true := by
    by_contra hlong
    have herror : built.aggregateSha256 = refuse "ValueError"
        "Exceeds the limit (4300 digits) for integer string conversion" := if_neg hlong
    unfold Built.toBytes at hbytes
    rw [herror] at hbytes
    cases hbytes
  rw [Built.toBytes_eq hprintable] at hbytes
  exact ⟨hprintable, (Except.ok.inj hbytes).symm⟩

/-- Bytes that are read are the bytes of the manifest, whose integers are integers. -/
theorem toBytes_of_fromBytes {data : ByteArray} {built : Built}
    (hread : fromBytes data = .ok built) : built.toBytes = .ok data ∧ built.plain = true := by
  unfold fromBytes at hread
  split at hread
  next => cases hread
  next value hparse =>
    split at hread
    next => cases hread
    next manifest htree =>
      simp only [bind_eq_ok] at hread
      obtain ⟨_, -, given, -, aggregate, -, _, -, bytes, hbytes, _, hsame, hdone⟩ := hread
      obtain rfl := Except.ok.inj hdone
      refine ⟨?_, Built.plain_ofManifest manifest⟩
      rw [← require_ok_iff.mp hsame]
      cases hwritten : (Built.ofManifest manifest).toBytes with
      | error error =>
          rw [hwritten] at hbytes
          cases hbytes
      | ok written =>
          rw [hwritten] at hbytes
          exact hbytes

omit [Sha256] in
theorem plain_of_tree {integer : PyInteger} {value : ℤ} (htree : integer.tree = .int value) :
    integer.plain = true := by
  cases integer with
  | int number => rfl
  | bool flag => cases htree

omit [Sha256] in
/-- Integers that are written like plain ones are plain. -/
theorem plain_of_zipWith {α : Type} {write : α → PyInteger → Json} {number : α → ℕ}
    (hwrite : ∀ item integer other, write item integer = write item (.int other) →
      integer.plain = true) {items : List α} {integers : List PyInteger}
    (hnumbers : integers.map PyInteger.value = items.map number)
    (htrees : List.zipWith write items integers =
      List.zipWith write items (items.map fun item => .int (number item))) :
    integers.all PyInteger.plain = true := by
  induction items generalizing integers with
  | nil =>
      obtain rfl := List.map_eq_nil_iff.mp hnumbers
      rfl
  | cons item rest ih =>
      cases integers with
      | nil => rfl
      | cons integer more =>
          obtain ⟨-, hmore⟩ := List.cons.inj hnumbers
          rw [List.map_cons, List.zipWith_cons_cons, List.zipWith_cons_cons] at htrees
          obtain ⟨hhead, htail⟩ := List.cons.inj htrees
          rw [List.all_cons, hwrite item integer _ hhead, ih hmore htail]
          rfl

omit [Sha256] in
/-- A manifest that is written like a plain one with its values is plain. -/
theorem Built.plain_of_payload {built : Built}
    (hpayload : built.payload = (Built.ofManifest built.manifest).payload) :
    built.plain = true := by
  unfold Built.payload Built.ofManifest at hpayload
  dsimp only at hpayload
  simp only [List.cons.injEq, Prod.mk.injEq, true_and, and_true, Json.array.injEq] at hpayload
  obtain ⟨hartifacts, hschema, hversions⟩ := hpayload
  have hlengths := @plain_of_zipWith _ artifactTree _ (by
    intro item integer other heq
    simp only [artifactTree, Json.object.injEq, List.cons.injEq, Prod.mk.injEq, true_and,
      and_true] at heq
    exact plain_of_tree heq) _ _ built.lengths_eq hartifacts
  have hcontracts := @plain_of_zipWith _ versionTree _ (by
    intro item integer other heq
    simp only [versionTree, Json.object.injEq, List.cons.injEq, Prod.mk.injEq, true_and,
      and_true] at heq
    exact plain_of_tree heq) _ _ built.contracts_eq hversions
  unfold Built.plain
  rw [hlengths, hcontracts, plain_of_tree hschema]
  rfl

/-- What is read back with its values was plain and could be written. -/
theorem plain_of_round {built read : Built} (hround : (built.toBytes >>= fromBytes) = .ok read)
    (hvalues : read.manifest = built.manifest) :
    built.plain = true ∧ built.printable = true := by
  obtain ⟨data, hbytes, hread⟩ := bind_eq_ok.mp hround
  obtain ⟨hwritten, hplain⟩ := toBytes_of_fromBytes hread
  obtain ⟨hprintable, hdata⟩ := Built.printable_of_toBytes hbytes
  obtain ⟨-, hdata'⟩ := Built.printable_of_toBytes hwritten
  have hparse := parse_jsonBytes (canonical_tree built (sha256 (jsonBytes (.object built.payload))))
  rw [← hdata, hdata', parse_jsonBytes (canonical_tree read _)] at hparse
  have hpayload : read.payload = built.payload :=
    (List.cons.inj (Json.object.inj (Option.some.inj hparse))).2
  rw [Built.eq_ofManifest hplain, hvalues] at hpayload
  exact ⟨Built.plain_of_payload hpayload.symm, hprintable⟩

/-- The round trip is exact for the manifests whose integers are given as integers of 4300
digits at most, and bytes that are read are the only bytes of their manifest. -/
theorem fromBytes_exact :
    (∀ built : Built,
      (∃ read, (built.toBytes >>= fromBytes) = .ok read ∧ read.manifest = built.manifest) ↔
        built.plain = true ∧ built.printable = true) ∧
    (∀ data read, fromBytes data = .ok read → read.toBytes = .ok data) := by
  refine ⟨?_, ?_⟩
  · intro built
    constructor
    · rintro ⟨read, hround, hvalues⟩
      exact plain_of_round hround hvalues
    · rintro ⟨hplain, hprintable⟩
      exact ⟨built, fromBytes_plain hplain hprintable, rfl⟩
  · intro data read hread
    exact (toBytes_of_fromBytes hread).1

end

/-! ## A length that is given as a boolean -/

namespace Flagged

def identifier (digit : Char) (hform : canonicalUuid
    ("00000000-0000-0000-0000-00000000000" ++ digit.toString) = true) : Uuid := ⟨_, hform⟩

theorem first_form : canonicalUuid
    ("00000000-0000-0000-0000-00000000000" ++ '1'.toString) = true := by
  decide

theorem second_form : canonicalUuid
    ("00000000-0000-0000-0000-00000000000" ++ '2'.toString) = true := by
  decide

theorem third_form : canonicalUuid
    ("00000000-0000-0000-0000-00000000000" ++ '3'.toString) = true := by
  decide

theorem fourth_form : canonicalUuid
    ("00000000-0000-0000-0000-00000000000" ++ '4'.toString) = true := by
  decide

theorem fifth_form : canonicalUuid
    ("00000000-0000-0000-0000-00000000000" ++ '5'.toString) = true := by
  decide

theorem plainText_form : mediaTypeForm "text/plain" = true := by decide

theorem one_schema : (PyInteger.int 1).value = manifestSchemaVersion := rfl

def epoch : UtcTime := ⟨0, Foundation.Timestamp.inRange_zero⟩

/-- The digest of a zero byte. -/
def zeroByte : Digest :=
  ⟨"6e340b9cffb37a989ca544e6bb780a2c78901d3fb33738768511a30617afa01d", by decide⟩

/-- A manifest of one artifact, whose length is the boolean true. -/
def built : Built where
  manifest :=
    { snapshotId := identifier '1' first_form
      matchweekId := identifier '2' second_form
      researchCutoffId := identifier '3' third_form
      versionManifestId := identifier '4' fourth_form
      researchCutoffUtc := epoch
      artifacts := [⟨identifier '5' fifth_form, zeroByte, ⟨"text/plain", plainText_form⟩, 1⟩]
      versions := []
      retentionOmissions := []
      missing := []
      createdAtUtc := epoch
      verifiedAtUtc := none
      parentSnapshotId := none
      artifacts_sorted := List.pairwise_singleton _ _
      versions_sorted := noTexts_sorted
      omissions_sorted := noKeys_sorted
      missing_sorted := noTexts_sorted }
  lengths := [.bool true]
  contracts := []
  schemaVersion := .int 1
  lengths_eq := rfl
  contracts_eq := rfl
  schema_eq := one_schema

/-- The manifest is written, and its bytes are not read as the manifest. -/
theorem flagged_length_refused :
    built.lengths = [.bool true] ∧ built.printable = true ∧
      ∀ _ : Sha256, ¬∃ read, (built.toBytes >>= fromBytes) = .ok read ∧
        read.manifest = built.manifest := by
  refine ⟨rfl, rfl, ?_⟩
  rintro services ⟨read, hround, hvalues⟩
  exact absurd (plain_of_round hround hvalues).1 Bool.false_ne_true

end Flagged

end MatchVet.Artifacts.ManifestCodec
