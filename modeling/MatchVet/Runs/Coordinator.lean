import MatchVet.Foundation.CrashLogic
import MatchVet.Runs.Tables

/-!
# The run coordinator

`start` and `resume` as calls whose effects may raise or be the last thing the process
does.  A write guard, a clock, an artifact check, a publication and a progress report
change no row of a run; a transaction changes all its rows or none.
-/

namespace MatchVet.Runs.Coordinator

open MatchVet.Artifacts.Manifest
open MatchVet.Foundation.CrashLogic
open MatchVet.Foundation.Identifier
open MatchVet.Runs.Contract
open MatchVet.Runs.Preflight
open MatchVet.Runs.Tables

abbrev RunCall (α : Type) : Type := Call RunFault RunTables RunFault α

/-- A transaction between write guards.  The guard after the commit may raise as well. -/
def transact {α : Type} (update : Update α) : RunCall α := do
  let value ← Call.risky update
  Call.hazard
  Call.ret value

/-- What a call is made with.  `alive` tells which process tokens belong to a process. -/
structure Environment where
  inputs : RunInputContract
  estimate : ResourceEstimate
  observation : ResourceObservation
  budget : ResourceBudget
  executor : WorkExecutor
  ownerToken : String
  alive : String → Bool
  storePath : String

section Calls

variable [ContentAddressing] {α : Type}

/-! ## Stopping -/

/-- `_stop_attempt`. -/
def stopAttempt (runId stableKey : String) (attempt : ℕ) (status : StoppedStatus)
    (code explanation : String) : RunCall α := do
  let found ← Call.consult fun tables => tables.status runId
  let error : RunError := ⟨"INCOMPLETE", code, explanation, found.lastCheckpoint,
    if found.completedWorkUnits = 0 then "NONE" else "REUSABLE", "matchvet resume " ++ runId⟩
  transact (finishAttempt runId stableKey attempt status error)
  Call.raise (.lifecycle error runId)

def hardLimitText : String := "The run reached the four-hour hard execution limit."

/-- The handlers around the executor. -/
def stopWork (context : WorkContext) : RunFault → RunCall WorkResult
  | .hardLimitExpired =>
      stopAttempt context.runId context.stableKey context.attempt .failed
        "MV-RUN-HARD_TIME_LIMIT" hardLimitText
  | .workInterrupted text =>
      stopAttempt context.runId context.stableKey context.attempt .interrupted
        "MV-RUN-INTERRUPTED"
        (if text = "" then "The foreground coordinator was interrupted." else text)
  | .keyboardInterrupt =>
      stopAttempt context.runId context.stableKey context.attempt .interrupted
        "MV-RUN-INTERRUPTED" "The foreground coordinator was interrupted by the terminal."
  | fault =>
      stopAttempt context.runId context.stableKey context.attempt .failed
        "MV-RUN-WORK_FAILED" ("Work unit " ++ context.stableKey ++ " failed: " ++ fault.text)

/-- The executor under its deadline. -/
def performWork (executor : WorkExecutor) (context : WorkContext) : RunCall WorkResult :=
  Call.catching (do
    Call.hazard
    Call.lift (executor context)) (stopWork context)

/-- The handler of a session that went over its limit while the work was done. -/
def stopOverrun (context : WorkContext) : RunFault → RunCall Unit
  | .hardLimitExpired =>
      stopAttempt context.runId context.stableKey context.attempt .failed
        "MV-RUN-HARD_TIME_LIMIT" hardLimitText
  | fault => Call.raise fault

/-- The handlers around the publication of a checkpoint. -/
def stopCheckpoint (context : WorkContext) : RunFault → RunCall Digest
  | .artifact error =>
      stopAttempt context.runId context.stableKey context.attempt .failed
        "MV-RUN-CHECKPOINT_ARTIFACT_INVALID"
        ("Checkpoint output artifact failed verification: " ++ error.code ++ ".")
  | .os text =>
      stopAttempt context.runId context.stableKey context.attempt .failed
        "MV-RUN-CHECKPOINT_FAILED" ("Checkpoint publication failed: " ++ text ++ ".")
  | .database text =>
      stopAttempt context.runId context.stableKey context.attempt .failed
        "MV-RUN-CHECKPOINT_FAILED" ("Checkpoint publication failed: " ++ text ++ ".")
  | fault => Call.raise fault

/-- `verify_artifact` of each digest. -/
def verifyArtifacts (digests : List Digest) : RunCall Unit :=
  Call.each (fun _ => Call.hazard) digests

def publishCheckpoint (context : WorkContext) (result : WorkResult) : RunCall Digest :=
  Call.catching (do
    verifyArtifacts result.artifactDigests
    transact (checkpoint ⟨context.runId, context.stableKey, context.phase, context.attempt,
      context.inputDigest, result.outputDigest, result.artifactDigests⟩)
    Call.ret result.outputDigest) (stopCheckpoint context)

/-! ## Executing -/

/-- What `_execute` runs with. -/
structure Session where
  runId : String
  inputs : RunInputContract
  cpuConcurrency : ℤ
  ownerToken : String
  executor : WorkExecutor

/-- One phase: an attempt, its work and its checkpoint. -/
def executeSlot (session : Session) (matchweek : String) (slot : Slot) (predecessor : Digest) :
    RunCall Digest := do
  let inputDigest :=
    workInputDigest session.inputs.aggregateDigest slot.stableKey predecessor
  let attempt ← transact (startAttempt session.runId slot.stableKey slot.phase inputDigest
    session.ownerToken)
  let context : WorkContext := ⟨session.runId, slot.stableKey, matchweek, slot.phase, attempt,
    "RESEARCH_ONLY", inputDigest, predecessor, session.cpuConcurrency⟩
  let result ← performWork session.executor context
  Call.catching Call.hazard (stopOverrun context)
  let output ← publishCheckpoint context result
  Call.hazard
  Call.ret output

/-- The loop over the phases skips the keys that have a checkpoint. -/
def executeSlots (session : Session) (matchweek : String) (completedKeys : List String) :
    List Slot → Digest → RunCall Unit
  | [], _ => Call.ret ()
  | slot :: rest, predecessor =>
      if slot.stableKey ∈ completedKeys then
        executeSlots session matchweek completedKeys rest predecessor
      else do
        let output ← executeSlot session matchweek slot predecessor
        executeSlots session matchweek completedKeys rest output

/-- The output of the last checkpoint, or the digest that starts the chain. -/
def lastOutput (rows : List CheckpointRow) (start : Digest) : Digest :=
  match rows.getLast? with
  | some row => row.outputDigest
  | none => start

def completionPayload (session : Session) (rows : List CheckpointRow) :
    MatchVet.Foundation.CanonicalJson.Json :=
  .object [("checkpoint_output_digests", textItems (rows.map fun row => row.outputDigest.text)),
    ("input_digest", .str session.inputs.aggregateDigest.text), ("mode", .str "RESEARCH_ONLY"),
    ("run_id", .str session.runId), ("schema_version", .int 1)]

def failCompletion (runId : String) (fault : RunFault) : RunCall Unit := do
  let found ← Call.consult fun tables => tables.status runId
  let failure : RunError := ⟨"INCOMPLETE", "MV-RUN-COMPLETION_PUBLICATION_FAILED",
    "Atomic run completion publication failed: " ++ fault.text ++ ".", found.lastCheckpoint,
    "REUSABLE", "matchvet resume " ++ runId⟩
  transact (recordError runId failure "REUSABLE")
  Call.raise (.lifecycle failure runId)

/-- The handler around the publication of a completion. -/
def stopCompletion (runId : String) : RunFault → RunCall Unit
  | .artifact error => failCompletion runId (.artifact error)
  | .os text => failCompletion runId (.os text)
  | .database text => failCompletion runId (.database text)
  | fault => Call.raise fault

/-- `_publish_completion`. -/
def publishCompletion (session : Session) : RunCall Unit := do
  let rows ← Call.consult fun tables => .ok (tables.checkpointsOf session.runId)
  Call.catching (do
    Call.hazard
    transact (completeRun session.runId (digestOf (.json (completionPayload session rows)))))
    (stopCompletion session.runId)

def matchweekOf (tables : RunTables) (runId : String) : Except RunFault String :=
  match tables.run? runId with
  | some record => .ok record.matchweek
  | none => .error (.lookup runId)

/-- `_execute`. -/
def execute (session : Session) : RunCall RunStatus := do
  let rows ← Call.consult fun tables => .ok (tables.checkpointsOf session.runId)
  let matchweek ← Call.consult fun tables => matchweekOf tables session.runId
  executeSlots session matchweek (rows.map CheckpointRow.stableKey) (plan matchweek)
    (lastOutput rows (session.inputs.digests .predecessors))
  publishCompletion session
  Call.consult fun tables => tables.status session.runId

/-! ## Starting and resuming -/

/-- `interrupt_abandoned`. -/
def interruptAbandoned (alive : String → Bool) : RunCall (Option String) := do
  let running ← Call.consult fun tables => .ok tables.runningAttempts
  match running.find? fun row => alive row.ownerToken with
  | some row => Call.ret (some row.runId)
  | none =>
      if running.isEmpty then Call.ret none
      else do
        transact (interruptAttempts running)
        Call.ret none

def refuseBusy (runId : String) : RunFault :=
  .lifecycle ⟨"REFUSED", "MV-RUN-COORDINATOR_BUSY",
    "A live foreground MatchVet coordinator already owns a run attempt.", "none", "NONE",
    "matchvet status " ++ runId⟩ runId

def artifactFailure (code recoveryCommand lastCheckpoint : String) (error : ArtifactError) :
    RunError :=
  ⟨"REFUSED", code, "Required artifact failed verification: " ++ error.code ++ ".",
    lastCheckpoint, "BLOCKED", recoveryCommand⟩

/-- The handler of `_verify_input_artifacts`, which records the failure of a run that exists. -/
def refuseArtifact (code recoveryCommand : String) (runId : Option String) :
    RunFault → RunCall Unit
  | .artifact error =>
      match runId with
      | none => Call.raise (.lifecycle (artifactFailure code recoveryCommand "none" error) "")
      | some runId => do
          let found ← Call.consult fun tables => tables.status runId
          let failure := artifactFailure code recoveryCommand found.lastCheckpoint error
          transact (recordError runId failure "BLOCKED")
          Call.raise (.lifecycle failure runId)
  | fault => Call.raise fault

/-- `_verify_input_artifacts`. -/
def verifyInputArtifacts (inputs : RunInputContract) (code recoveryCommand : String)
    (runId : Option String) : RunCall Unit :=
  Call.catching (verifyArtifacts inputs.artifactDigests.digests)
    (refuseArtifact code recoveryCommand runId)

def blockCheckpoint (runId : String) (error : RunError) : RunCall Unit := do
  transact (recordError runId error "BLOCKED")
  Call.raise (.lifecycle error runId)

def doctorCommand (environment : Environment) : String :=
  "matchvet doctor --store " ++ environment.storePath

def blockMismatch (runId stableKey : String) : RunCall Unit := do
  let matchweek ← Call.consult fun tables => matchweekOf tables runId
  blockCheckpoint runId ⟨"REFUSED", "MV-RESUME-CHECKPOINT_MISMATCH",
    "Checkpoint input digest differs for " ++ stableKey ++ ".", stableKey, "BLOCKED",
    "matchvet run " ++ matchweek⟩

/-- The handler around the verification of a stored artifact. -/
def refuseStoredArtifact (environment : Environment) (runId stableKey : String) :
    RunFault → RunCall Unit
  | .artifact error =>
      blockCheckpoint runId ⟨"REFUSED", "MV-RESUME-CHECKPOINT_ARTIFACT_INVALID",
        "Checkpoint artifact failed verification: " ++ error.code ++ ".", stableKey, "BLOCKED",
        doctorCommand environment⟩
  | fault => Call.raise fault

/-- The loop of `_validate_checkpoints`. -/
def validateRows (environment : Environment) (runId : String) :
    List CheckpointRow → Digest → RunCall Unit
  | [], _ => Call.ret ()
  | row :: rest, predecessor =>
      if row.inputDigest ≠
          workInputDigest environment.inputs.aggregateDigest row.stableKey predecessor then
        blockMismatch runId row.stableKey
      else do
        Call.catching (verifyArtifacts row.artifactDigests)
          (refuseStoredArtifact environment runId row.stableKey)
        validateRows environment runId rest row.outputDigest

/-- `_validate_checkpoints`. -/
def validateCheckpoints (environment : Environment) (runId : String) : RunCall Unit := do
  let rows ← Call.consult fun tables => .ok (tables.checkpointsOf runId)
  validateRows environment runId rows (environment.inputs.digests .predecessors)

def sessionOf (environment : Environment) (runId : String) (cpuConcurrency : ℤ) : Session :=
  ⟨runId, environment.inputs, cpuConcurrency, environment.ownerToken, environment.executor⟩

def newRun (environment : Environment) (runId matchweek : String) (preflight : PreflightResult) :
    NewRun :=
  ⟨runId, matchweek, environment.inputs, preflight.cpuConcurrency, preflight.warnings,
    environment.ownerToken⟩

/-- `start` after the refusals. -/
def startRun (environment : Environment) (runId matchweek : String) (preflight : PreflightResult) :
    RunCall RunStatus := do
  transact (createRun (newRun environment runId matchweek preflight))
  Call.hazard
  execute (sessionOf environment runId preflight.cpuConcurrency)

def refuseCompatible (record : RunRow) : RunFault :=
  .lifecycle ⟨"REFUSED", "MV-RUN-RESUME_REQUIRED", "A compatible unfinished run already exists.",
    record.lastCheckpointText, "REUSABLE", "matchvet resume " ++ record.runId⟩ record.runId

/-- `start` once no other coordinator is active. -/
def startUnlessCompatible (environment : Environment) (runId matchweek : String)
    (preflight : PreflightResult) : RunCall RunStatus := do
  let compatible ← Call.consult fun tables =>
    .ok (tables.compatibleIncomplete matchweek environment.inputs.aggregateDigest)
  match compatible with
  | some record => Call.raise (refuseCompatible record)
  | none => startRun environment runId matchweek preflight

/-- The preflight of a call; a resume changes the recovery command of a refusal. -/
def preflightOf (environment : Environment) (refusal : RunError → RunFault) :
    Except RunFault PreflightResult :=
  match preflightResources environment.estimate environment.observation environment.budget with
  | .ok result => .ok result
  | .error error => .error (refusal error)

/-- `start`; `runId` is the identifier it draws. -/
def start (environment : Environment) (runId matchweek : String) : RunCall RunStatus := do
  Call.hazard
  let preflight ← Call.lift (preflightOf environment fun error => .lifecycle error "")
  Call.hazard
  verifyInputArtifacts environment.inputs "MV-PREFLIGHT-ARTIFACT_INVALID" "matchvet run" none
  let active ← interruptAbandoned environment.alive
  match active with
  | some other => Call.raise (refuseBusy other)
  | none => startUnlessCompatible environment runId matchweek preflight

/-- `resume` of the run with the same inputs. -/
def resumeRun (environment : Environment) (runId : String) (preflight : PreflightResult) :
    RunCall RunStatus := do
  verifyInputArtifacts environment.inputs "MV-RESUME-ARTIFACT_INVALID"
    (doctorCommand environment) (some runId)
  validateCheckpoints environment runId
  transact (markResumed runId preflight.cpuConcurrency preflight.warnings environment.ownerToken)
  Call.hazard
  execute (sessionOf environment runId preflight.cpuConcurrency)

def refuseDifferent (runId : String) (record : RunRow) (differences : List String) :
    RunCall RunStatus := do
  let error : RunError := ⟨"REFUSED", "MV-RESUME-DIGEST_MISMATCH",
    "Resume inputs differ: " ++ ", ".intercalate differences ++ ".", record.lastCheckpointText,
    "BLOCKED", "matchvet run " ++ record.matchweek⟩
  transact (recordError runId error "BLOCKED")
  Call.raise (.lifecycle error runId)

def refuseMissing (runId : String) : RunFault :=
  .lifecycle ⟨"REFUSED", "MV-RESUME-RUN_NOT_FOUND", "Run " ++ runId ++ " does not exist.", "none",
    "NONE", "matchvet status"⟩ runId

def refuseComplete (runId : String) (record : RunRow) : RunFault :=
  .lifecycle ⟨"REFUSED", "MV-RESUME-ALREADY_COMPLETE", "Run " ++ runId ++ " is already complete.",
    record.lastCheckpointText, "NOT_NEEDED", "matchvet status " ++ runId⟩ runId

/-- `resume` of a record: the stored inputs are compared first. -/
def resumeRecord (environment : Environment) (runId : String) (preflight : PreflightResult)
    (record : RunRow) : RunCall RunStatus :=
  if record.state = .complete then Call.raise (refuseComplete runId record)
  else do
    let stored ← Call.lift (RunInputContract.fromStored record.inputContract)
    if stored.differences environment.inputs ≠ [] then
      refuseDifferent runId record (stored.differences environment.inputs)
    else resumeRun environment runId preflight

def withRecovery (error : RunError) (recoveryCommand : String) : RunError :=
  { error with recoveryCommand := recoveryCommand }

/-- `resume` once no other coordinator is active. -/
def resumeFound (environment : Environment) (runId : String) (preflight : PreflightResult) :
    RunCall RunStatus := do
  let record ← Call.consult fun tables => .ok (tables.run? runId)
  match record with
  | none => Call.raise (refuseMissing runId)
  | some record => resumeRecord environment runId preflight record

/-- `resume`. -/
def resume (environment : Environment) (runId : String) : RunCall RunStatus := do
  Call.hazard
  let preflight ← Call.lift (preflightOf environment fun error =>
    .lifecycle (withRecovery error ("matchvet resume " ++ runId)) runId)
  Call.hazard
  let active ← interruptAbandoned environment.alive
  match active with
  | some other => Call.raise (refuseBusy other)
  | none => resumeFound environment runId preflight

/-! ## Histories -/

inductive Command where
  | start (runId matchweek : String)
  | resume (runId : String)

/-- A call with what it is made with and the fates of its effects. -/
structure Step where
  command : Command
  environment : Environment
  fates : ℕ → Fate RunFault

/-- The run that a call is about. -/
def Step.runId (step : Step) : String :=
  match step.command with
  | .start runId _ => runId
  | .resume runId => runId

def Step.call (step : Step) : RunCall RunStatus :=
  match step.command with
  | .start runId matchweek => Coordinator.start step.environment runId matchweek
  | .resume runId => Coordinator.resume step.environment runId

/-- The tables after a call, however it ends. -/
def Step.apply (tables : RunTables) (step : Step) : RunTables :=
  step.call.leaves step.fates tables

end Calls

end MatchVet.Runs.Coordinator
