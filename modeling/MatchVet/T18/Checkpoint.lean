import MatchVet.Foundation.CrashLogic
import MatchVet.T18.Evaluation

/-!
# Checkpoints of an evaluation

The runner writes a checkpoint before the first nested fold, after each of them and at
the end.  A run that was stopped is resumed from its checkpoint, when the inputs are
the same.  The file is replaced as a whole; any step may fail, or end the process.
-/

namespace MatchVet.T18.Checkpoint

open MatchVet.Foundation.CanonicalJson
open MatchVet.Foundation.CrashLogic
open MatchVet.Foundation.FrozenValue
open MatchVet.Foundation.KeySort
open MatchVet.Foundation.Runtime
open MatchVet.Foundation.Timestamp
open MatchVet.T18.Evaluation
open MatchVet.T18.Folds (ChronologicalFold EvaluationError generateRollingOriginFolds)

/-! ## Checkpoints -/

/-- One of `0123456789abcdef`. -/
def isHexDigit (char : Char) : Bool :=
  (48 ≤ char.toNat && char.toNat ≤ 57) || (97 ≤ char.toNat && char.toNat ≤ 102)

/-- The text of a SHA-256 digest. -/
def IsDigest (content : String) : Prop :=
  content.toList.length = 64 ∧ content.toList.all isHexDigit = true

instance (content : String) : Decidable (IsDigest content) :=
  inferInstanceAs (Decidable (_ ∧ _))

/-- `_digest`. -/
def checkDigest (value label : String) : Except EvaluationError Unit := do
  require (blank value = false) (label ++ " must be a non-empty string.")
  require (IsDigest (strip value)) (label ++ " must be a lowercase SHA-256 digest.")

/-- The texts of an array of texts. -/
def textItems? : Option PyValue → Option (List String)
  | some (.array items) => items.mapM fun item => text? (some item)
  | _ => none

/-- The mappings of an array of mappings. -/
def mappingItems? : Option PyValue → Option (List PyValue)
  | some (.array items) => if items.all PyValue.isMapping then some items else none
  | _ => none

def checkpointSchemaVersion : String := "matchvet.policy-evaluation-checkpoint.v1"

/-- `EvaluationCheckpoint`. -/
structure EvaluationCheckpoint where
  payload : PyValue

section Making

variable [Hashing] [PyRuntime]

/-- The check of an optional digest. -/
def checkArtifactDigest : Option PyValue → Except EvaluationError Unit
  | none => .ok ()
  | some .none => .ok ()
  | some value => checkDigest (display value) "Evaluation checkpoint artifact digest"

/-- `EvaluationCheckpoint.__post_init__` of the entries of a payload. -/
def EvaluationCheckpoint.make (entries : List (String × PyValue)) :
    Except EvaluationError EvaluationCheckpoint := do
  require (text? (entries.lookup "schema_version") = some checkpointSchemaVersion)
    "Unsupported evaluation checkpoint schema version."
  match text? (entries.lookup "checkpoint_digest") with
  | none => .error ⟨"Evaluation checkpoint digest is required."⟩
  | some supplied => do
      let digest ← sha256Of (.mapping (entries.filter fun entry => entry.1 ≠ "checkpoint_digest"))
      require (supplied = digest) "Evaluation checkpoint digest does not match its content."
      require (text? (entries.lookup "state") = some "IN_PROGRESS" ∨
        text? (entries.lookup "state") = some "COMPLETE") "Evaluation checkpoint state is invalid."
      checkDigest (display ((entries.lookup "run_digest").getD (.str "")))
        "Evaluation checkpoint run digest"
      checkArtifactDigest (entries.lookup "artifact_digest")
      require ((textItems? (entries.lookup "completed_fold_ids")).isSome)
        "Evaluation checkpoint fold IDs must be a JSON array."
      require ((mappingItems? (entries.lookup "fold_records")).isSome)
        "Evaluation checkpoint fold records must be a JSON array."
      return ⟨freeze (.mapping entries)⟩

namespace EvaluationCheckpoint

def state (checkpoint : EvaluationCheckpoint) : String :=
  display ((get? checkpoint.payload "state").getD .none)

def runDigest (checkpoint : EvaluationCheckpoint) : String :=
  display ((get? checkpoint.payload "run_digest").getD .none)

def artifactDigest (checkpoint : EvaluationCheckpoint) : Option String :=
  match get? checkpoint.payload "artifact_digest" with
  | none => none
  | some .none => none
  | some value => some (display value)

def completedFoldIds (checkpoint : EvaluationCheckpoint) : List String :=
  (textItems? (get? checkpoint.payload "completed_fold_ids")).getD []

def foldRecords (checkpoint : EvaluationCheckpoint) : List PyValue :=
  (mappingItems? (get? checkpoint.payload "fold_records")).getD []

/-- The entries of a checkpoint before its digest. -/
def core (state runDigest : String) (completedFoldIds : List String) (foldRecords : List PyValue)
    (artifactDigest : Option String) : List (String × PyValue) := [
  ("artifact_digest", optional PyValue.str artifactDigest),
  ("completed_fold_ids", texts completedFoldIds),
  ("fold_records", .array foldRecords),
  ("run_digest", .str runDigest),
  ("schema_version", .str checkpointSchemaVersion),
  ("state", .str state)]

/-- `EvaluationCheckpoint.build`. -/
def build (state runDigest : String) (completedFoldIds : List String)
    (foldRecords : List PyValue) (artifactDigest : Option String) :
    Except EvaluationError EvaluationCheckpoint := do
  let entries := core state runDigest completedFoldIds foldRecords artifactDigest
  let digest ← sha256Of (.mapping entries)
  make (entries ++ [("checkpoint_digest", .str digest)])

end EvaluationCheckpoint

/-! ## The file -/

/-- What a file holds: bytes that are no UTF-8 JSON, or the text of a tree. -/
inductive Content where
  | damaged
  | json (tree : Json)

/-- The file at the checkpoint path, if there is one. -/
abbrev File := Option Content

/-- How a call raises: the evaluation refuses its input, or the host or the observer
raises something else. -/
inductive RunnerError where
  | refused (error : EvaluationError)
  | host

abbrev RunnerCall (α : Type) := Call RunnerError File RunnerError α

/-- A computation of the evaluation. -/
def evaluating {α : Type} (result : Except EvaluationError α) : RunnerCall α :=
  Call.lift (result.mapError RunnerError.refused)

/-- A verified checkpoint from what a file holds. -/
def parseCheckpoint : Content → Except EvaluationError EvaluationCheckpoint
  | .damaged => .error ⟨"Evaluation checkpoint must be valid UTF-8 JSON."⟩
  | .json tree =>
      match tree.toValue with
      | .mapping entries => EvaluationCheckpoint.make entries
      | _ => .error ⟨"Evaluation checkpoint must be a JSON object."⟩

/-- `path.read_bytes()`. -/
def readBytes (path : String) : RunnerCall Content :=
  Call.catching
    (Call.consult fun file =>
      match file with
      | some content => .ok content
      | none => .error .host)
    fun error =>
      match error with
      | .host => Call.raise (.refused ⟨"Evaluation checkpoint could not be read: " ++ path⟩)
      | .refused reason => Call.raise (.refused reason)

/-- `read_evaluation_checkpoint`. -/
def readEvaluationCheckpoint (path : String) : RunnerCall EvaluationCheckpoint := do
  let content ← readBytes path
  evaluating (parseCheckpoint content)

/-- `os.replace`. -/
def replaceFile (tree : Json) : RunnerCall Unit :=
  Call.risky fun _ => .ok (some (.json tree), ())

/-- `_write_evaluation_checkpoint`: a partial file, which then replaces the checkpoint. -/
def writeEvaluationCheckpoint (checkpoint : EvaluationCheckpoint) : RunnerCall Unit := do
  Call.hazard
  let tree ← evaluating (canonicalJson checkpoint.payload)
  Call.hazard
  replaceFile tree
  Call.hazard

end Making

/-! ## The runner -/

section Running

variable [Hashing] [Calendar] [PyRuntime] [EvaluationServices]

/-- `_evaluation_run_digest`. -/
def evaluationRunDigest (observations : List HistoricalEvaluation)
    (candidates : List CandidatePolicy) (config : EvaluationConfig) :
    Except EvaluationError String :=
  sha256Of (.mapping [
    ("candidates", .array
      ((sortedOn CandidatePolicy.digest candidates).map CandidatePolicy.toDict)),
    ("config", config.toDict),
    ("corpus", .array ((sortedOn observationSortKey observations).map historicalPayload))])

/-- `str(item.get("fold_id"))`. -/
def foldIdText (record : PyValue) : String := display ((get? record "fold_id").getD .none)

/-- The fold identifiers and records a run starts from. -/
def openCheckpoint (path runDigest : String) (resume : Bool) :
    RunnerCall (List String × List PyValue) :=
  if resume then do
    let checkpoint ← readEvaluationCheckpoint path
    evaluating (require (checkpoint.runDigest = runDigest)
      "Evaluation checkpoint input digest does not match this corpus/config.")
    return (checkpoint.completedFoldIds, checkpoint.foldRecords)
  else do
    let present ← Call.consult fun file => .ok file.isSome
    evaluating (require (present = false)
      "Evaluation checkpoint already exists; use resume or a new checkpoint path.")
    return ([], [])

/-- Build a checkpoint, write it and tell the observer. -/
def saveCheckpoint (state runDigest : String) (completedFoldIds : List String)
    (foldRecords : List PyValue) (artifactDigest : Option String) : RunnerCall Unit := do
  let checkpoint ← evaluating
    (EvaluationCheckpoint.build state runDigest completedFoldIds foldRecords artifactDigest)
  writeEvaluationCheckpoint checkpoint

/-- The loop over the nested folds that are not saved yet. -/
def recordFolds (rows : List HistoricalEvaluation) (candidates : List CandidatePolicy)
    (config : EvaluationConfig) (runDigest : String) (exclusions : List Exclusion) :
    List ChronologicalFold → List String → List PyValue → RunnerCall (List PyValue)
  | [], _, completedRecords => return completedRecords
  | fold :: rest, completedIds, completedRecords => do
      let record ← evaluating (nestedFoldRecord rows candidates config exclusions fold)
      if fold.foldId ∈ completedIds then
        recordFolds rows candidates config runDigest exclusions rest completedIds completedRecords
      else do
        saveCheckpoint "IN_PROGRESS" runDigest (completedIds ++ [fold.foldId])
          (completedRecords ++ [record]) none
        Call.hazard
        recordFolds rows candidates config runDigest exclusions rest
          (completedIds ++ [fold.foldId]) (completedRecords ++ [record])

/-- The run from the saved folds on. -/
def continueRun (rows : List HistoricalEvaluation) (candidates : List CandidatePolicy)
    (config : EvaluationConfig) (runDigest : String) (contract : EvaluationContract)
    (savedIds : List String) (savedRecords : List PyValue) : RunnerCall EvaluationArtifact := do
  let nestedFolds ← evaluating
    (generateRollingOriginFolds (foldRows rows) config.toEvaluationConfig)
  let expectedIds := nestedFolds.map ChronologicalFold.foldId
  let savedCount := min expectedIds.length savedIds.length
  let completedIds := savedIds.take savedCount
  let completedRecords := savedRecords.take savedCount
  evaluating (require (completedIds = expectedIds.take savedCount ∧
      completedRecords.map foldIdText = expectedIds.take savedCount)
    "Evaluation checkpoint folds do not match this chronological run.")
  let records ← recordFolds rows candidates config runDigest contract.exclusions
    (nestedFolds.drop savedCount) completedIds completedRecords
  let artifact ← evaluating (evaluatePolicies rows candidates config (some records))
  saveCheckpoint "COMPLETE" runDigest (artifact.folds.map foldIdText) artifact.folds
    (some artifact.digest)
  return artifact

/-- `EvaluationRunner.run`. -/
def run (path : String) (observations : List HistoricalEvaluation)
    (candidates : List CandidatePolicy) (config : EvaluationConfig) (resume : Bool) :
    RunnerCall EvaluationArtifact := do
  let rows := sortedOn observationSortKey observations
  let candidateRows := sortedOn CandidatePolicy.digest candidates
  let runDigest ← evaluating (evaluationRunDigest rows candidateRows config)
  let saved ← openCheckpoint path runDigest resume
  let contract ← evaluating (validateEvaluationContract rows candidateRows config)
  if resume then
    continueRun rows candidateRows config runDigest contract saved.1 saved.2
  else do
    saveCheckpoint "IN_PROGRESS" runDigest [] [] none
    Call.hazard
    continueRun rows candidateRows config runDigest contract saved.1 saved.2

end Running

end MatchVet.T18.Checkpoint
