import MatchVet.Foundation.KeySort
import MatchVet.Runs.Preflight

/-!
# Run inputs and work keys

A run is identified by its input contract: eleven identity values and two lists of
digests.  Each phase has a stable key, and its input digest covers the contract, the
key and the output of the phase before.
-/

namespace MatchVet.Runs.Contract

open MatchVet.Artifacts.Manifest
open MatchVet.Foundation.CanonicalJson
open MatchVet.Foundation.Identifier
open MatchVet.Foundation.KeySort
open MatchVet.Foundation.Runtime
open MatchVet.Runs.Preflight

/-! ## Phases -/

inductive RunPhase where
  | preflight
  | evidenceAcquisition
  | frozenEvidenceState
  | preferenceVetting
  | adversarialReview
  | auditVerification
  | atomicPublication
  deriving DecidableEq, Repr

def RunPhase.value : RunPhase → String
  | .preflight => "preflight"
  | .evidenceAcquisition => "evidence_acquisition_and_cutoff_classification"
  | .frozenEvidenceState => "frozen_evidence_state_construction"
  | .preferenceVetting => "full_preference_set_vetting"
  | .adversarialReview => "adversarial_review_gates_and_ranking"
  | .auditVerification => "audit_verification"
  | .atomicPublication => "atomic_report_and_audit_publication"

def runPhases : List RunPhase :=
  [.preflight, .evidenceAcquisition, .frozenEvidenceState, .preferenceVetting,
    .adversarialReview, .auditVerification, .atomicPublication]

/-- A character of `[a-zA-Z0-9_.-]`. -/
def keyChar (char : Char) : Bool := char.isAlphanum || char = '_' || char = '.' || char = '-'

/-- `re.sub(r"[^a-zA-Z0-9_.-]", "_", matchweek)`. -/
def keySubject (matchweek : String) : String :=
  String.ofList (matchweek.toList.map fun char => if keyChar char then char else '_')

/-- `f"{number:02d}"`. -/
def twoDigits (number : ℕ) : String := if number < 10 then "0" ++ toString number else toString number

def keyHead (index : ℕ) (phase : RunPhase) : String :=
  twoDigits (index + 1) ++ ":" ++ phase.value ++ ":matchweek:"

/-- `_work_key`. -/
def workKey (index : ℕ) (phase : RunPhase) (matchweek : String) : String :=
  keyHead index phase ++ keySubject matchweek

/-- The keys of one Matchweek tell the heads apart. -/
theorem workKey_inj {index other : ℕ} {phase later : RunPhase} {matchweek : String}
    (hkey : workKey index phase matchweek = workKey other later matchweek) :
    keyHead index phase = keyHead other later := by
  have hchars := congrArg String.toList hkey
  unfold workKey at hchars
  rw [String.toList_append, String.toList_append] at hchars
  exact String.toList_injective (List.append_cancel_right hchars)

/-- The place of a phase in the plan of a run. -/
structure Slot where
  stableKey : String
  phase : RunPhase
  phaseOrder : ℕ
  deriving DecidableEq, Repr

/-- `enumerate(RUN_PHASES)` with the key of each phase. -/
def plan (matchweek : String) : List Slot :=
  runPhases.zipIdx.map fun entry => ⟨workKey entry.2 entry.1 matchweek, entry.1, entry.2⟩

theorem plan_length (matchweek : String) : (plan matchweek).length = 7 := rfl

theorem plan_phases (matchweek : String) : (plan matchweek).map Slot.phase = runPhases := rfl

theorem keyHeads_nodup : (runPhases.zipIdx.map fun entry => keyHead entry.2 entry.1).Nodup := by
  decide +kernel

theorem plan_keys_nodup (matchweek : String) : ((plan matchweek).map Slot.stableKey).Nodup := by
  have hheads := keyHeads_nodup
  unfold plan
  rw [List.map_map]
  rw [List.Nodup, List.pairwise_map] at hheads ⊢
  exact hheads.imp fun hne hkey => hne (workKey_inj hkey)

theorem plan_orders (matchweek : String) :
    (plan matchweek).map Slot.phaseOrder = List.range 7 := rfl

/-! ## Digest lists -/

/-- `_require_digest`. -/
def requireDigest (value label : String) : Except RunFault Digest :=
  match Digest.ofText? value with
  | some digest => .ok digest
  | none => .error (.value (label ++ " digests must be lowercase SHA-256 values."))

/-- `_require_digest_list`. -/
def requireDigestList (values : List String) (label : String) : Except RunFault (List Digest) :=
  if values.Nodup then values.mapM fun value => requireDigest value label
  else .error (.value (label ++ " digests must be unique."))

@[simp]
theorem requireDigest_text (digest : Digest) (label : String) :
    requireDigest digest.text label = .ok digest := by
  unfold requireDigest
  rw [Digest.ofText?_text]

theorem requireDigest_ok {value label : String} {digest : Digest}
    (hdigest : requireDigest value label = .ok digest) : digest.text = value := by
  unfold requireDigest Digest.ofText? at hdigest
  split at hdigest
  · next heq =>
      split at heq
      · cases heq
        cases hdigest
        rfl
      · cases heq
  · cases hdigest

theorem mapM_requireDigest_ok {values : List String} {label : String} {digests : List Digest}
    (hdigests : values.mapM (fun value => requireDigest value label) = .ok digests) :
    digests.map Digest.text = values := by
  induction values generalizing digests with
  | nil =>
      cases hdigests
      rfl
  | cons value rest ih =>
      rw [List.mapM_cons] at hdigests
      obtain ⟨first, hfirst, hdigests⟩ := bind_eq_ok.mp hdigests
      obtain ⟨others, hothers, hdigests⟩ := bind_eq_ok.mp hdigests
      cases hdigests
      rw [List.map_cons, requireDigest_ok hfirst, ih hothers]

theorem mapM_requireDigest_text (digests : List Digest) (label : String) :
    (digests.map Digest.text).mapM (fun value => requireDigest value label) = .ok digests := by
  induction digests with
  | nil => rfl
  | cons digest rest ih =>
      rw [List.map_cons, List.mapM_cons, requireDigest_text, ih]
      rfl

theorem requireDigestList_ok {values : List String} {label : String} {digests : List Digest}
    (hdigests : requireDigestList values label = .ok digests) :
    digests.map Digest.text = values ∧ values.Nodup := by
  unfold requireDigestList at hdigests
  split at hdigests
  · exact ⟨mapM_requireDigest_ok hdigests, ‹_›⟩
  · cases hdigests

theorem requireDigestList_text {digests : List Digest} (label : String)
    (hdistinct : (digests.map Digest.text).Nodup) :
    requireDigestList (digests.map Digest.text) label = .ok digests := by
  unfold requireDigestList
  rw [if_pos hdistinct, mapM_requireDigest_text]

/-! ## Input contracts -/

inductive IdentityInput where
  | source
  | cutoff
  | preferenceSet
  | policy
  | model
  | feature
  | researchRule
  | canonicalContract
  | schema
  | environment
  | software
  deriving DecidableEq, Repr

def IdentityInput.name : IdentityInput → String
  | .source => "source"
  | .cutoff => "cutoff"
  | .preferenceSet => "preference_set"
  | .policy => "policy"
  | .model => "model"
  | .feature => "feature"
  | .researchRule => "research_rule"
  | .canonicalContract => "canonical_contract"
  | .schema => "schema"
  | .environment => "environment"
  | .software => "software"

def requiredIdentityInputs : List IdentityInput :=
  [.source, .cutoff, .preferenceSet, .policy, .model, .feature, .researchRule,
    .canonicalContract, .schema, .environment, .software]

/-- The thirteen kinds of input digests. -/
inductive InputKind where
  | identity (input : IdentityInput)
  | artifacts
  | predecessors
  deriving DecidableEq, Repr

def InputKind.name : InputKind → String
  | .identity input => input.name
  | .artifacts => "artifacts"
  | .predecessors => "predecessors"

def inputKinds : List InputKind :=
  requiredIdentityInputs.map .identity ++ [.artifacts, .predecessors]

theorem mem_inputKinds (kind : InputKind) : kind ∈ inputKinds := by
  cases kind with
  | identity input => cases input <;> decide
  | artifacts => decide
  | predecessors => decide

/-- Distinct digests in the order of their texts. -/
structure DigestList where
  digests : List Digest
  distinct : (digests.map Digest.text).Nodup
  sorted : digests.Pairwise fun first second => first.text ≤ second.text

theorem DigestList.ext_digests {first second : DigestList}
    (hdigests : first.digests = second.digests) : first = second := by
  cases first
  cases second
  cases hdigests
  rfl

/-- `tuple(sorted(values))` of a valid list of digests. -/
def DigestList.ofValid (digests : List Digest) (hdistinct : (digests.map Digest.text).Nodup) :
    DigestList where
  digests := sortedOn Digest.text digests
  distinct := (((sortedOn_perm Digest.text digests).map Digest.text).nodup_iff).mpr hdistinct
  sorted := sortedOn_pairwise Digest.text digests

def DigestList.fromValues (values : List String) (label : String) : Except RunFault DigestList :=
  match hdigests : requireDigestList values label with
  | .error fault => .error fault
  | .ok digests => .ok (DigestList.ofValid digests (by
      obtain ⟨htexts, hdistinct⟩ := requireDigestList_ok hdigests
      rw [htexts]
      exact hdistinct))

def DigestList.texts (list : DigestList) : List String := list.digests.map Digest.text

theorem DigestList.fromValues_texts (list : DigestList) (label : String) :
    DigestList.fromValues list.texts label = .ok list := by
  have hlist := requireDigestList_text label list.distinct
  unfold DigestList.fromValues
  split
  · next hfault =>
      rw [texts, hlist] at hfault
      cases hfault
  · next digests hdigests =>
      rw [texts, hlist] at hdigests
      cases hdigests
      exact congrArg Except.ok (DigestList.ext_digests
        (sortedOn_of_pairwise Digest.text list.sorted))

structure RunInputContract where
  identityValues : IdentityInput → String
  artifactDigests : DigestList
  predecessorDigests : DigestList

/-- The names that are given and not required, or required and not given. -/
def namesBeyond (names others : List String) : List String :=
  sortedOn id (names.dedup.filter fun name => !others.contains name)

/-- `RunInputContract.from_values`. -/
def RunInputContract.fromValues (identityValues : List (String × String))
    (artifactDigests predecessorDigests : List String) : Except RunFault RunInputContract := do
  let required := requiredIdentityInputs.map IdentityInput.name
  let names := identityValues.map Prod.fst
  if namesBeyond required names ≠ [] ∨ namesBeyond names required ≠ [] then
    .error (.inexactIdentities (namesBeyond required names) (namesBeyond names required))
  else do
    let artifacts ← DigestList.fromValues artifactDigests "artifact"
    let predecessors ← DigestList.fromValues predecessorDigests "predecessor"
    .ok ⟨fun input => (identityValues.lookup input.name).getD "", artifacts, predecessors⟩

/-- What `input_contract_json` holds. -/
structure StoredContract where
  identityValues : List (String × String)
  artifactDigests : List String
  predecessorDigests : List String
  deriving DecidableEq, Repr

/-- `RunInputContract.to_json`. -/
def RunInputContract.toStored (contract : RunInputContract) : StoredContract where
  identityValues := requiredIdentityInputs.map fun input =>
    (input.name, contract.identityValues input)
  artifactDigests := contract.artifactDigests.texts
  predecessorDigests := contract.predecessorDigests.texts

/-- `RunInputContract.from_stored_json`. -/
def RunInputContract.fromStored (stored : StoredContract) : Except RunFault RunInputContract :=
  RunInputContract.fromValues stored.identityValues stored.artifactDigests
    stored.predecessorDigests

theorem identityValues_lookup (values : IdentityInput → String) (input : IdentityInput) :
    (requiredIdentityInputs.map fun other => (other.name, values other)).lookup input.name =
      some (values input) := by
  cases input <;> rfl

/-- The stored contract is read back. -/
@[simp]
theorem RunInputContract.fromStored_toStored (contract : RunInputContract) :
    RunInputContract.fromStored contract.toStored = .ok contract := by
  have hnames : contract.toStored.identityValues.map Prod.fst =
      requiredIdentityInputs.map IdentityInput.name := by
    unfold toStored
    rw [List.map_map]
    rfl
  unfold fromStored fromValues
  dsimp only
  rw [hnames, if_neg (by decide +kernel)]
  have hartifacts : DigestList.fromValues contract.toStored.artifactDigests "artifact" =
      .ok contract.artifactDigests := DigestList.fromValues_texts _ _
  have hpredecessors : DigestList.fromValues contract.toStored.predecessorDigests "predecessor" =
      .ok contract.predecessorDigests := DigestList.fromValues_texts _ _
  rw [hartifacts, hpredecessors]
  change Except.ok (RunInputContract.mk _ _ _) = _
  refine congrArg Except.ok ?_
  cases contract with
  | mk values artifacts predecessors =>
      congr 1
      funext input
      unfold toStored
      rw [identityValues_lookup]
      rfl

/-! ## Digests of inputs and outputs -/

section Digests

variable [ContentAddressing]

/-- `_sha256(text.encode())`. -/
def textDigest (text : String) : Digest := digestOf (.bytes text.toUTF8.toList)

def textItems (texts : List String) : Json := .array (texts.map .str)

/-- `RunInputContract.digests`. -/
def RunInputContract.digests (contract : RunInputContract) : InputKind → Digest
  | .identity input => textDigest (contract.identityValues input)
  | .artifacts => digestOf (.json (textItems contract.artifactDigests.texts))
  | .predecessors => digestOf (.json (textItems contract.predecessorDigests.texts))

/-- `RunInputContract.aggregate_digest`. -/
def RunInputContract.aggregateDigest (contract : RunInputContract) : Digest :=
  digestOf (.json (.object ((sortedOn InputKind.name inputKinds).map fun kind =>
    (kind.name, .str (contract.digests kind).text))))

/-- `RunInputContract.differences`. -/
def RunInputContract.differences (contract other : RunInputContract) : List String :=
  (inputKinds.filter fun kind => contract.digests kind ≠ other.digests kind).map InputKind.name

theorem RunInputContract.differences_eq_nil_iff (contract other : RunInputContract) :
    contract.differences other = [] ↔ contract.digests = other.digests := by
  unfold differences
  rw [List.map_eq_nil_iff, List.filter_eq_nil_iff]
  constructor
  · intro hnone
    funext kind
    have hkind := hnone kind (mem_inputKinds kind)
    simpa using hkind
  · intro hall kind _
    rw [hall]
    simp

theorem RunInputContract.aggregateDigest_congr {contract other : RunInputContract}
    (hdigests : contract.digests = other.digests) :
    contract.aggregateDigest = other.aggregateDigest := by
  unfold aggregateDigest
  rw [hdigests]

/-- `_work_input_digest`. -/
def workInputDigest (contractDigest : Digest) (stableKey : String) (predecessor : Digest) :
    Digest :=
  digestOf (.json (.object [("contract_digest", .str contractDigest.text),
    ("predecessor_digest", .str predecessor.text), ("stable_key", .str stableKey)]))

/-- The digest a work unit has before its first attempt. -/
def plannedInputDigest (contractDigest : Digest) (slot : Slot) : Digest :=
  digestOf (.json (.object [("input_digest", .str contractDigest.text),
    ("phase", .str slot.phase.value), ("stable_key", .str slot.stableKey)]))

end Digests

/-! ## Work -/

structure WorkContext where
  runId : String
  stableKey : String
  matchweek : String
  phase : RunPhase
  attempt : ℕ
  mode : String
  inputDigest : Digest
  predecessorDigest : Digest
  cpuConcurrency : ℤ

structure WorkResult where
  resultDigest : Digest
  artifactDigests : List Digest
  distinct : (artifactDigests.map Digest.text).Nodup

/-- The output digest of a checkpoint. -/
def WorkResult.outputDigest [ContentAddressing] (result : WorkResult) : Digest :=
  digestOf (.json (.object
    [("artifact_digests", textItems (result.artifactDigests.map Digest.text)),
      ("result_digest", .str result.resultDigest.text)]))

/-- A work executor returns a result or raises. -/
abbrev WorkExecutor : Type := WorkContext → Except RunFault WorkResult

/-- `WorkResult.for_phase` without artifacts. -/
def WorkResult.forPhase [ContentAddressing] (phase : RunPhase) : WorkResult where
  resultDigest := textDigest ("matchvet-t04-boundary:" ++ phase.value)
  artifactDigests := []
  distinct := List.nodup_nil

/-- `_BoundaryExecutor`. -/
def boundaryExecutor [ContentAddressing] : WorkExecutor := fun context =>
  .ok (WorkResult.forPhase context.phase)

end MatchVet.Runs.Contract
