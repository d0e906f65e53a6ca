import MatchVet.Foundation.TableUpdate
import MatchVet.Runs.Contract

/-!
# Tables of runs

A run has seven work units, the attempts at each, the checkpoints of the finished ones
and at last a completion.  Every transaction updates the rows that are still in the
state it expects.
-/

namespace MatchVet.Runs.Tables

open MatchVet.Artifacts.Manifest
open MatchVet.Foundation.Identifier
open MatchVet.Foundation.KeySort
open MatchVet.Foundation.TableUpdate
open MatchVet.Runs.Contract
open MatchVet.Runs.Preflight

/-! ## Rows -/

inductive RunState where
  | incomplete
  | complete
  deriving DecidableEq, Repr

inductive UnitState where
  | pending
  | running
  | complete
  deriving DecidableEq, Repr

inductive AttemptStatus where
  | running
  | completed
  | interrupted
  | failed
  deriving DecidableEq, Repr

def AttemptStatus.value : AttemptStatus → String
  | .running => "RUNNING"
  | .completed => "COMPLETED"
  | .interrupted => "INTERRUPTED"
  | .failed => "FAILED"

/-- `research_runs`. -/
structure RunRow where
  runId : String
  matchweek : String
  state : RunState
  currentPhase : RunPhase
  inputContract : StoredContract
  inputDigest : Digest
  cpuConcurrency : ℤ
  warnings : List String
  lastCheckpoint : Option RunPhase
  lastErrorCode : Option String
  lastErrorExplanation : Option String
  reuseState : String
  coordinatorToken : String
  deriving DecidableEq

/-- `run_input_digests`. -/
structure InputDigestRow where
  runId : String
  inputKind : String
  digest : Digest
  deriving DecidableEq

/-- `run_work_units`. -/
structure WorkUnitRow where
  runId : String
  stableKey : String
  phase : RunPhase
  phaseOrder : ℕ
  inputDigest : Digest
  state : UnitState
  attemptCount : ℕ
  outputDigest : Option Digest
  artifactDigests : List Digest
  deriving DecidableEq

/-- `run_attempts`. -/
structure AttemptRow where
  runId : String
  stableKey : String
  attempt : ℕ
  status : AttemptStatus
  ownerToken : String
  errorCode : Option String
  errorExplanation : Option String
  deriving DecidableEq

/-- `run_checkpoints`. -/
structure CheckpointRow where
  runId : String
  stableKey : String
  phase : RunPhase
  checkpointOrder : ℕ
  attempt : ℕ
  inputDigest : Digest
  outputDigest : Digest
  artifactDigests : List Digest
  deriving DecidableEq

/-- `run_completions`. -/
structure CompletionRow where
  runId : String
  publicationDigest : Digest
  deriving DecidableEq

structure RunTables where
  runs : List RunRow
  inputDigests : List InputDigestRow
  units : List WorkUnitRow
  attempts : List AttemptRow
  checkpoints : List CheckpointRow
  completions : List CompletionRow
  deriving DecidableEq

def RunTables.empty : RunTables := ⟨[], [], [], [], [], []⟩

/-- An update that the database may refuse. -/
abbrev Update (α : Type) : Type := RunTables → Except RunFault (RunTables × α)

/-! ## Readings -/

def RunTables.run? (tables : RunTables) (runId : String) : Option RunRow :=
  tables.runs.find? fun row => row.runId = runId

/-- The incomplete run of the same Matchweek and inputs that was inserted last. -/
def RunTables.compatibleIncomplete (tables : RunTables) (matchweek : String)
    (inputDigest : Digest) : Option RunRow :=
  (tables.runs.filter fun row =>
    row.matchweek = matchweek && row.inputDigest = inputDigest &&
      row.state = .incomplete).getLast?

/-- The rows of `run_checkpoints` of a run in their order. -/
def RunTables.checkpointsOf (tables : RunTables) (runId : String) : List CheckpointRow :=
  sortedOn CheckpointRow.checkpointOrder (tables.checkpoints.filter fun row => row.runId = runId)

structure WorkUnitStatus where
  stableKey : String
  phase : RunPhase
  attempt : ℕ
  attemptState : String
  complete : Bool
  inputDigest : Digest
  outputDigest : Option Digest
  artifactDigests : List Digest

structure RunStatus where
  runId : String
  matchweek : String
  state : RunState
  phase : RunPhase
  currentAttempt : ℕ
  completedWorkUnits : ℕ
  totalWorkUnits : ℕ
  lastCheckpoint : String
  inputDigest : Digest
  inputDigests : InputKind → Digest
  reuseState : String
  warnings : List String
  errorCode : Option String
  errorExplanation : Option String
  recoveryCommand : String
  completionPublicationDigest : Option Digest
  decisionState : String
  workUnits : List WorkUnitStatus

/-- The status of a work unit beside its last attempt. -/
def RunTables.unitStatus (tables : RunTables) (unit : WorkUnitRow) : WorkUnitStatus where
  stableKey := unit.stableKey
  phase := unit.phase
  attempt := unit.attemptCount
  attemptState :=
    match tables.attempts.find? fun row =>
        row.runId = unit.runId && row.stableKey = unit.stableKey &&
          row.attempt = unit.attemptCount with
    | some attempt => attempt.status.value
    | none => "PENDING"
  complete := unit.state = .complete
  inputDigest := unit.inputDigest
  outputDigest := unit.outputDigest
  artifactDigests := unit.artifactDigests

/-- `record.last_checkpoint or "none"`. -/
def RunRow.lastCheckpointText (row : RunRow) : String :=
  match row.lastCheckpoint with
  | some phase => phase.value
  | none => "none"

/-- `_status_from_connection`. -/
def RunTables.status [ContentAddressing] (tables : RunTables) (runId : String) :
    Except RunFault RunStatus := do
  match tables.run? runId with
  | none => .error (.lookup ("Run " ++ runId ++ " does not exist."))
  | some record =>
      let units := (sortedOn WorkUnitRow.phaseOrder
        (tables.units.filter fun unit => unit.runId = runId)).map tables.unitStatus
      let contract ← RunInputContract.fromStored record.inputContract
      .ok {
        runId := record.runId
        matchweek := record.matchweek
        state := record.state
        phase := record.currentPhase
        currentAttempt :=
          ((units.find? fun unit => unit.phase = record.currentPhase).map
            WorkUnitStatus.attempt).getD 0
        completedWorkUnits := units.countP WorkUnitStatus.complete
        totalWorkUnits := units.length
        lastCheckpoint := record.lastCheckpointText
        inputDigest := record.inputDigest
        inputDigests := contract.digests
        reuseState := record.reuseState
        warnings := record.warnings
        errorCode := record.lastErrorCode
        errorExplanation := record.lastErrorExplanation
        recoveryCommand :=
          (if record.state = .complete then "matchvet status " else "matchvet resume ") ++ runId
        completionPublicationDigest :=
          (tables.completions.find? fun row => row.runId = runId).map
            CompletionRow.publicationDigest
        decisionState := "NO_DECISION"
        workUnits := units }

/-! ## Transactions -/

/-- `UPDATE research_runs ... WHERE run_id = ? AND state = 'INCOMPLETE'`. -/
def RunTables.updateRun (tables : RunTables) (runId : String) (update : RunRow → RunRow) :
    RunTables :=
  { tables with
    runs := updateWhere (fun row => row.runId = runId && row.state = .incomplete) update
      tables.runs }

structure NewRun where
  runId : String
  matchweek : String
  inputs : RunInputContract
  cpuConcurrency : ℤ
  warnings : List String
  ownerToken : String

def createRun [ContentAddressing] (new : NewRun) : Update Unit := fun tables =>
  if new.runId ∈ tables.runs.map RunRow.runId then
    .error (.database "UNIQUE constraint failed: research_runs.run_id")
  else if new.matchweek = "" ∨ ¬(1 ≤ new.cpuConcurrency ∧ new.cpuConcurrency ≤ 2) then
    .error (.database "CHECK constraint failed: research_runs")
  else
    .ok ({ tables with
      runs := tables.runs ++ [{
        runId := new.runId
        matchweek := new.matchweek
        state := .incomplete
        currentPhase := .preflight
        inputContract := new.inputs.toStored
        inputDigest := new.inputs.aggregateDigest
        cpuConcurrency := new.cpuConcurrency
        warnings := new.warnings
        lastCheckpoint := none
        lastErrorCode := none
        lastErrorExplanation := none
        reuseState := "NOT_REUSED"
        coordinatorToken := new.ownerToken }]
      inputDigests := tables.inputDigests ++ (sortedOn InputKind.name inputKinds).map fun kind =>
        ⟨new.runId, kind.name, new.inputs.digests kind⟩
      units := tables.units ++ (plan new.matchweek).map fun slot =>
        { runId := new.runId
          stableKey := slot.stableKey
          phase := slot.phase
          phaseOrder := slot.phaseOrder
          inputDigest := plannedInputDigest new.inputs.aggregateDigest slot
          state := .pending
          attemptCount := 0
          outputDigest := none
          artifactDigests := [] } }, ())

/-- The unit of a run under its key. -/
def WorkUnitRow.at (runId stableKey : String) (unit : WorkUnitRow) : Bool :=
  unit.runId = runId && unit.stableKey = stableKey

def AttemptRow.at (runId stableKey : String) (attempt : ℕ) (row : AttemptRow) : Bool :=
  row.runId = runId && row.stableKey = stableKey && row.attempt = attempt

def startAttempt (runId stableKey : String) (phase : RunPhase) (inputDigest : Digest)
    (ownerToken : String) : Update ℕ := fun tables =>
  match tables.units.find? fun unit => unit.at runId stableKey && unit.state ≠ .complete with
  | none => .error (.database "work unit is missing or already complete")
  | some found =>
      let attempt := found.attemptCount + 1
      if tables.attempts.any (·.at runId stableKey attempt) then
        .error (.database "UNIQUE constraint failed: run_attempts")
      else
        let next : RunTables := { tables with
          units := updateWhere (·.at runId stableKey)
            (fun unit => { unit with
              state := .running, attemptCount := attempt, inputDigest := inputDigest })
            tables.units
          attempts := tables.attempts ++
            [⟨runId, stableKey, attempt, .running, ownerToken, none, none⟩] }
        .ok (next.updateRun runId fun row => { row with
          currentPhase := phase
          coordinatorToken := ownerToken
          lastErrorCode := none
          lastErrorExplanation := none }, attempt)

/-- `CASE WHEN reuse_state = 'REUSED' THEN 'REUSED' ELSE ... END`. -/
def keepReused (reuseState other : String) : String :=
  if reuseState = "REUSED" then "REUSED" else other

structure NewCheckpoint where
  runId : String
  stableKey : String
  phase : RunPhase
  attempt : ℕ
  inputDigest : Digest
  outputDigest : Digest
  artifactDigests : List Digest

/-- `RUN_PHASES.index(phase)`. -/
def phaseIndex (phase : RunPhase) : ℕ := runPhases.idxOf phase

def checkpoint (new : NewCheckpoint) : Update Unit := fun tables =>
  let order := phaseIndex new.phase
  if tables.checkpoints.any fun row =>
      row.runId = new.runId && (row.stableKey = new.stableKey || row.checkpointOrder = order) then
    .error (.database "UNIQUE constraint failed: run_checkpoints")
  else if !tables.attempts.any (·.at new.runId new.stableKey new.attempt) then
    .error (.database "FOREIGN KEY constraint failed")
  else
    let next : RunTables := { tables with
      checkpoints := tables.checkpoints ++
        [⟨new.runId, new.stableKey, new.phase, order, new.attempt, new.inputDigest,
          new.outputDigest, new.artifactDigests⟩]
      attempts := updateWhere
        (fun row => row.at new.runId new.stableKey new.attempt && row.status = .running)
        (fun row => { row with status := .completed }) tables.attempts
      units := updateWhere
        (fun unit => unit.at new.runId new.stableKey && unit.state = .running)
        (fun unit => { unit with
          state := .complete
          outputDigest := some new.outputDigest
          artifactDigests := new.artifactDigests })
        tables.units }
    .ok (next.updateRun new.runId fun row => { row with
      lastCheckpoint := some new.phase
      reuseState := keepReused row.reuseState "REUSABLE" }, ())

/-- The running attempt ends in a state that is not a checkpoint, and its unit waits again. -/
def RunTables.closeAttempt (tables : RunTables) (runId stableKey : String) (attempt : ℕ)
    (status : AttemptStatus) (code explanation : String) : RunTables :=
  { tables with
    attempts := updateWhere
      (fun row => row.at runId stableKey attempt && row.status = .running)
      (fun row => { row with
        status := status, errorCode := some code, errorExplanation := some explanation })
      tables.attempts
    units := updateWhere (fun unit => unit.at runId stableKey && unit.state = .running)
      (fun unit => { unit with state := .pending }) tables.units }

/-- The states `_stop_attempt` leaves an attempt in. -/
inductive StoppedStatus where
  | interrupted
  | failed
  deriving DecidableEq, Repr

def StoppedStatus.attemptStatus : StoppedStatus → AttemptStatus
  | .interrupted => .interrupted
  | .failed => .failed

def finishAttempt (runId stableKey : String) (attempt : ℕ) (status : StoppedStatus)
    (error : RunError) : Update Unit := fun tables =>
  let next := tables.closeAttempt runId stableKey attempt status.attemptStatus error.code
    error.explanation
  .ok (next.updateRun runId fun row => { row with
    lastErrorCode := some error.code
    lastErrorExplanation := some error.explanation
    reuseState := error.reuseState }, ())

def RunTables.runningAttempts (tables : RunTables) : List AttemptRow :=
  tables.attempts.filter fun row => row.status = .running

def abandonedCode : String := "MV-RUN-ABANDONED_ATTEMPT"

def abandonedExplanation : String := "The prior foreground coordinator ended without closing."

def RunTables.interruptAttempt (tables : RunTables) (row : AttemptRow) : RunTables :=
  tables.closeAttempt row.runId row.stableKey row.attempt .interrupted abandonedCode
    abandonedExplanation

def RunTables.noteAbandoned (tables : RunTables) (runId : String) : RunTables :=
  tables.updateRun runId fun row => { row with
    lastErrorCode := some abandonedCode
    lastErrorExplanation := some abandonedExplanation
    reuseState := if row.lastCheckpoint = none then "NONE" else "REUSABLE" }

/-- The transaction of `interrupt_abandoned` over the attempts that were running. -/
def interruptAttempts (running : List AttemptRow) : Update Unit := fun tables =>
  let next := running.foldl RunTables.interruptAttempt tables
  .ok ((sortedOn id (running.map AttemptRow.runId).dedup).foldl RunTables.noteAbandoned next, ())

def recordError (runId : String) (error : RunError) (reuseState : String) : Update Unit :=
  fun tables =>
    .ok (tables.updateRun runId fun row => { row with
      lastErrorCode := some error.code
      lastErrorExplanation := some error.explanation
      reuseState := reuseState }, ())

def markResumed (runId : String) (cpuConcurrency : ℤ) (warnings : List String)
    (ownerToken : String) : Update Unit := fun tables =>
  if (tables.runs.any fun row => row.runId = runId && row.state = .incomplete) ∧
      ¬(1 ≤ cpuConcurrency ∧ cpuConcurrency ≤ 2) then
    .error (.database "CHECK constraint failed: research_runs")
  else .ok (tables.updateRun runId fun row => { row with
    cpuConcurrency := cpuConcurrency
    warnings := warnings
    coordinatorToken := ownerToken
    reuseState := "REUSED"
    lastErrorCode := none
    lastErrorExplanation := none }, ())

def completeRun (runId : String) (publicationDigest : Digest) : Update Unit := fun tables =>
  if (tables.checkpoints.filter fun row => row.runId = runId).length ≠ 7 then
    .error (.database "completion publication requires every phase checkpoint")
  else if tables.completions.any fun row =>
      row.runId = runId || row.publicationDigest = publicationDigest then
    .error (.database "UNIQUE constraint failed: run_completions")
  else
    let next : RunTables := { tables with
      completions := tables.completions ++ [⟨runId, publicationDigest⟩] }
    .ok (next.updateRun runId fun row => { row with
      state := .complete
      reuseState := keepReused row.reuseState "NOT_REUSED"
      lastErrorCode := none
      lastErrorExplanation := none }, ())

end MatchVet.Runs.Tables
