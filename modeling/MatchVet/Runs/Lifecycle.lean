import MatchVet.Runs.Progress

/-!
# The lifecycle of a run

Whatever is started, resumed, interrupted or lost in a crash, every effect of a call
keeps the invariant, and a call works only while no other attempt runs.
-/

namespace MatchVet.Runs.Lifecycle

open MatchVet.Artifacts.Manifest
open MatchVet.Foundation.CrashLogic
open MatchVet.Foundation.Identifier
open MatchVet.Foundation.KeySort
open MatchVet.Foundation.TableUpdate
open MatchVet.Foundation.Transition
open MatchVet.Runs.Contract
open MatchVet.Runs.Coordinator
open MatchVet.Runs.Ledger
open MatchVet.Runs.Preflight
open MatchVet.Runs.Progress
open MatchVet.Runs.Tables

/-! ## Transactions -/

section Transactions

variable {α : Type}

theorem transact_meets {before stopped : RunTables → Prop} {after : α → RunTables → Prop}
    {update : Update α}
    (hupdate : ∀ tables next value, before tables → update tables = .ok (next, value) →
      after value next)
    (hbefore : ∀ tables, before tables → stopped tables)
    (hafter : ∀ value tables, after value tables → stopped tables) :
    Meets before (transact update) after stopped :=
  Meets.bind (Meets.risky hupdate hbefore) fun value =>
    Meets.bind (Meets.hazard (hafter value)) fun _ => Meets.ret fun _ => id

/-- A condition that the transactions without a trace keep. -/
def Steady (condition : RunTables → Prop) : Prop :=
  ∀ tables next, condition tables → Quiet tables next → condition next

theorem quiet_meets {condition stopped : RunTables → Prop} (hsteady : Steady condition)
    (hstopped : ∀ tables, condition tables → stopped tables) {update : Update Unit}
    (hquiet : ∀ tables next, update tables = .ok (next, ()) → Quiet tables next) :
    Meets condition (transact update) (fun _ => condition) stopped :=
  transact_meets (fun tables next _ hcondition hnext =>
    hsteady tables next hcondition (hquiet tables next hnext)) hstopped fun _ => hstopped

theorem run?_mem {tables : RunTables} {runId : String} {row : RunRow}
    (hrow : tables.run? runId = some row) :
    coreOf row ∈ (ledgerOf tables).cores ∧ row.runId = runId := by
  have hfound := List.find?_some hrow
  exact ⟨List.mem_map_of_mem (List.mem_of_find?_eq_some hrow), of_decide_eq_true hfound⟩

variable {condition stopped : RunTables → Prop}

theorem verifyArtifacts_meets (hstopped : ∀ tables, condition tables → stopped tables)
    (digests : List Digest) :
    Meets condition (verifyArtifacts digests) (fun _ => condition) stopped :=
  Meets.each fun _ _ => Meets.hazard hstopped

theorem blockCheckpoint_meets (hsteady : Steady condition) {late : Unit → RunTables → Prop}
    (runId : String) (error : RunError) :
    Meets condition (blockCheckpoint runId error) late condition :=
  Meets.bind (quiet_meets hsteady (fun _ => id) fun _ _ => recordError_quiet) fun _ =>
    Meets.raise fun _ => id

theorem refuseDifferent_meets (hsteady : Steady condition)
    {late : RunStatus → RunTables → Prop} (runId : String) (record : RunRow)
    (differences : List String) :
    Meets condition (refuseDifferent runId record differences) late condition :=
  Meets.bind (quiet_meets hsteady (fun _ => id) fun _ _ => recordError_quiet) fun _ =>
    Meets.raise fun _ => id

theorem refuseStoredArtifact_meets (hsteady : Steady condition)
    {late : Unit → RunTables → Prop} (environment : Environment) (runId stableKey : String)
    (fault : RunFault) :
    Meets condition (refuseStoredArtifact environment runId stableKey fault) late condition := by
  unfold refuseStoredArtifact
  split
  · exact blockCheckpoint_meets hsteady _ _
  · exact Meets.raise fun _ => id

/-- After `interrupt_abandoned` found no live coordinator, no attempt runs. -/
theorem interruptAbandoned_meets (hsteady : Steady condition) (alive : String → Bool) :
    Meets condition (interruptAbandoned alive)
      (fun active tables => condition tables ∧ (active = none → tables.runningAttempts = []))
      condition := by
  have hread : Meets condition
      (Call.consult fun tables => .ok tables.runningAttempts : RunCall (List AttemptRow))
      (fun running tables => condition tables ∧ running = tables.runningAttempts) condition :=
    Meets.consult (fun _ _ hcondition hok => ⟨hcondition, (Except.ok.inj hok).symm⟩) fun _ => id
  refine Meets.bind hread fun running => ?_
  cases running.find? fun row => alive row.ownerToken with
  | some row => exact Meets.ret fun _ hbefore => ⟨hbefore.1, nofun⟩
  | none =>
      change Meets _ (if running.isEmpty = true then _ else _) _ _
      split
      · refine Meets.ret fun tables hbefore => ⟨hbefore.1, fun _ => ?_⟩
        rw [← hbefore.2]
        exact List.isEmpty_iff.mp ‹_›
      · have hinterrupt : Meets
            (fun tables => condition tables ∧ running = tables.runningAttempts)
            (transact (interruptAttempts running))
            (fun _ tables => condition tables ∧ tables.runningAttempts = []) condition := by
          refine transact_meets ?_ (fun _ hbefore => hbefore.1) fun _ _ hafter => hafter.1
          rintro tables next _ ⟨hcondition, rfl⟩ hnext
          exact ⟨hsteady tables next hcondition (interruptAttempts_quiet hnext),
            interruptAttempts_idle hnext⟩
        exact Meets.bind hinterrupt fun _ => Meets.ret fun _ hafter =>
          ⟨hafter.1, fun _ => hafter.2⟩

end Transactions

section Calls

variable [ContentAddressing] {α : Type} {condition stopped : RunTables → Prop}
  {after : α → RunTables → Prop}

theorem stopAttempt_meets (hsteady : Steady condition)
    (hstopped : ∀ tables, condition tables → stopped tables) (runId stableKey : String)
    (attempt : ℕ) (status : StoppedStatus) (code explanation : String) :
    Meets condition (stopAttempt runId stableKey attempt status code explanation : RunCall α)
      after stopped :=
  Meets.bind (Meets.consult (fun _ _ hcondition _ => hcondition) hstopped) fun _ =>
    Meets.bind (quiet_meets hsteady hstopped fun _ _ => finishAttempt_quiet) fun _ =>
      Meets.raise hstopped

theorem refuseArtifact_meets (hsteady : Steady condition)
    (hstopped : ∀ tables, condition tables → stopped tables) {late : Unit → RunTables → Prop}
    (code recoveryCommand : String) (runId : Option String) (fault : RunFault) :
    Meets condition (refuseArtifact code recoveryCommand runId fault) late stopped := by
  unfold refuseArtifact
  split
  · split
    · exact Meets.raise hstopped
    · exact Meets.bind (Meets.consult (fun _ _ hcondition _ => hcondition) hstopped) fun _ =>
        Meets.bind (quiet_meets hsteady hstopped fun _ _ => recordError_quiet) fun _ =>
          Meets.raise hstopped
  · exact Meets.raise hstopped

theorem verifyInputArtifacts_meets (hsteady : Steady condition) (inputs : RunInputContract)
    (code recoveryCommand : String) (runId : Option String) :
    Meets condition (verifyInputArtifacts inputs code recoveryCommand runId)
      (fun _ => condition) condition :=
  Meets.catching (verifyArtifacts_meets (fun _ => id) _)
    (refuseArtifact_meets hsteady (fun _ => id) code recoveryCommand runId)

theorem validateRows_meets (hsteady : Steady condition) (environment : Environment)
    (runId : String) (rows : List CheckpointRow) (predecessor : Digest) :
    Meets condition (validateRows environment runId rows predecessor) (fun _ => condition)
      condition := by
  induction rows generalizing predecessor with
  | nil => exact Meets.keep ()
  | cons row rest ih =>
      unfold validateRows
      split
      · exact Meets.bind (Meets.consult (fun _ _ hcondition _ => hcondition) fun _ => id) fun _ =>
          blockCheckpoint_meets hsteady _ _
      · exact Meets.bind (Meets.catching (verifyArtifacts_meets (fun _ => id) _)
          (refuseStoredArtifact_meets hsteady environment runId row.stableKey)) fun _ =>
          ih row.outputDigest

theorem validateCheckpoints_meets (hsteady : Steady condition) (environment : Environment)
    (runId : String) :
    Meets condition (validateCheckpoints environment runId) (fun _ => condition) condition :=
  Meets.bind (Meets.consult (fun _ _ hcondition _ => hcondition) fun _ => id) fun rows =>
    validateRows_meets hsteady environment runId rows _

end Calls

/-! ## Sessions -/

section Sessions

variable [ContentAddressing] (allowed : Work → Digest → Prop) (finished : List RunRow)

def workOf (context : WorkContext) : Work :=
  ⟨context.runId, context.stableKey, context.matchweek, context.phase, context.inputDigest,
    context.predecessorDigest⟩

/-- What the executor returns for the run is allowed. -/
def Admits (runId : String) (executor : WorkExecutor) : Prop :=
  ∀ context result, context.runId = runId → executor context = .ok result →
    allowed (workOf context) result.outputDigest

/-- The tables hold the run of the session with the same input digests. -/
structure Holds (session : Session) (core : RunCore) (inputs : RunInputContract)
    (published : List CompletionRow) (tables : RunTables) : Prop where
  invariant : Invariant allowed finished tables
  stored : core ∈ (ledgerOf tables).cores
  runId : core.runId = session.runId
  run : RunInvariant allowed (ledgerOf tables) core inputs
  digests : inputs.digests = session.inputs.digests
  published : tables.completions = published

/-- No attempt runs, and the checkpoints cover the slots that are done. -/
structure Ready (session : Session) (core : RunCore) (inputs : RunInputContract)
    (published : List CompletionRow) (done : List Slot) (predecessor : Digest)
    (tables : RunTables) : Prop where
  holds : Holds allowed finished session core inputs published tables
  idle : tables.runningAttempts = []
  length : ((ledgerOf tables).checkpointsOf core.runId).length = done.length
  predecessor : predecessor =
    lastOutput ((ledgerOf tables).checkpointsOf core.runId) (inputs.digests .predecessors)

/-- The attempt at the slot runs, and no other. -/
structure Working (session : Session) (core : RunCore) (inputs : RunInputContract)
    (published : List CompletionRow) (done : List Slot) (slot : Slot) (predecessor : Digest)
    (attempt : ℕ) (tables : RunTables) : Prop where
  holds : Holds allowed finished session core inputs published tables
  attempted : ⟨session.runId, slot.stableKey, attempt⟩ ∈ (ledgerOf tables).attempts
  running : ∀ row ∈ tables.runningAttempts,
    attemptKey row = ⟨session.runId, slot.stableKey, attempt⟩
  units : ∀ unit ∈ tables.units, unit.at session.runId slot.stableKey = true →
    unit.state = .running
  length : ((ledgerOf tables).checkpointsOf core.runId).length = done.length
  predecessor : predecessor =
    lastOutput ((ledgerOf tables).checkpointsOf core.runId) (inputs.digests .predecessors)

/-- The run is complete. -/
structure Finished (core : RunCore) (inputs : RunInputContract) (tables : RunTables) : Prop where
  invariant : Invariant allowed finished tables
  stored : { core with state := .complete } ∈ (ledgerOf tables).cores
  run : RunInvariant allowed (ledgerOf tables) { core with state := .complete } inputs

variable {allowed finished} {session : Session} {core : RunCore} {inputs : RunInputContract}
  {published : List CompletionRow}

theorem invariant_steady : Steady (Invariant allowed finished) :=
  fun _ _ => Invariant.quiet

theorem Holds.aggregateDigest {tables : RunTables}
    (hholds : Holds allowed finished session core inputs published tables) :
    session.inputs.aggregateDigest = core.inputDigest := by
  rw [hholds.run.digest]
  exact RunInputContract.aggregateDigest_congr hholds.digests.symm

/-- A start of an attempt keeps the run. -/
theorem Ready.started {done : List Slot} {slot : Slot} {predecessor : Digest} {attempt : ℕ}
    {tables next : RunTables}
    (hready : Ready allowed finished session core inputs published done predecessor tables)
    (hstarted : Started session.runId slot.stableKey attempt tables next) :
    Working allowed finished session core inputs published done slot predecessor attempt next := by
  have hinvariant := hready.holds.invariant.started hready.idle hstarted
  have hcore : core ∈ (ledgerOf next).cores := by
    rw [hstarted.ledger]
    exact hready.holds.stored
  have hcheckpoints : (ledgerOf next).checkpointsOf core.runId =
      (ledgerOf tables).checkpointsOf core.runId := by
    rw [hstarted.ledger]
    rfl
  obtain ⟨others, hrun⟩ := hinvariant.runs core hcore
  obtain rfl : others = inputs := by
    have hstored := RunInputContract.fromStored_toStored others
    rw [← hrun.contract, hready.holds.run.contract,
      RunInputContract.fromStored_toStored] at hstored
    exact (Except.ok.inj hstored).symm
  have hcompletions := congrArg RunLedger.completions hstarted.ledger
  refine ⟨⟨hinvariant, hcore, hready.holds.runId, hrun, hready.holds.digests,
    hcompletions.trans hready.holds.published⟩, ?_, ?_, hstarted.units, ?_, ?_⟩
  · rw [hstarted.ledger]
    exact List.mem_append_right _ List.mem_cons_self
  · intro row hrow
    have hkey := List.mem_map_of_mem (f := attemptKey) hrow
    rw [hstarted.running, hready.idle] at hkey
    exact List.mem_singleton.mp hkey
  · rw [hcheckpoints]
    exact hready.length
  · rw [hcheckpoints]
    exact hready.predecessor

/-- The checkpoint that the attempt at a slot publishes. -/
def slotCheckpoint (runId : String) (contractDigest : Digest) (slot : Slot)
    (predecessor : Digest) (attempt : ℕ) (result : WorkResult) : NewCheckpoint :=
  ⟨runId, slot.stableKey, slot.phase, attempt,
    workInputDigest contractDigest slot.stableKey predecessor, result.outputDigest,
    result.artifactDigests⟩

/-- The checkpoint of the slot keeps the run and lets the next slot start. -/
theorem Working.checkpointed {done rest : List Slot} {slot : Slot} {predecessor : Digest}
    {attempt : ℕ} {tables next : RunTables}
    (hworking : Working allowed finished session core inputs published done slot predecessor attempt tables)
    (hplan : plan core.matchweek = done ++ slot :: rest) {result : WorkResult}
    (hallowed : allowed (workAt core.runId core.matchweek core.inputDigest slot predecessor)
      result.outputDigest)
    (hnext : checkpoint (slotCheckpoint session.runId core.inputDigest slot predecessor attempt
      result) tables = .ok (next, ())) :
    Ready allowed finished session core inputs published (done ++ [slot]) result.outputDigest next := by
  have hcheckpointed := checkpoint_checkpointed hworking.units hnext
  have hslot : rowSlot (checkpointRow (slotCheckpoint session.runId core.inputDigest slot
      predecessor attempt result)) = slot := by
    have hmem : slot ∈ plan core.matchweek := by
      rw [hplan]
      exact List.mem_append_right _ List.mem_cons_self
    change Slot.mk slot.stableKey slot.phase (phaseIndex slot.phase) = slot
    rw [mem_plan_order hmem]
  have hrun := hworking.holds.run.checkpointed hplan hworking.length hworking.holds.runId.symm
    hslot (by rw [← hworking.predecessor]; rfl) (by rw [← hworking.predecessor]; exact hallowed)
  have hrows : (ledgerOf next).checkpointsOf core.runId =
      (ledgerOf tables).checkpointsOf core.runId ++ [checkpointRow (slotCheckpoint session.runId
        core.inputDigest slot predecessor attempt result)] := by
    rw [hcheckpointed.ledger, hworking.holds.runId]
    exact checkpointed_checkpointsOf_self _ _
  have hcompletions := congrArg RunLedger.completions hcheckpointed.ledger
  refine ⟨⟨?_, ?_, hworking.holds.runId, ?_, hworking.holds.digests,
    hcompletions.trans hworking.holds.published⟩, ?_, ?_, ?_⟩
  · exact hworking.holds.invariant.checkpointed hcheckpointed hworking.holds.stored
      hworking.holds.runId.symm hrun
  · rw [hcheckpointed.ledger]
    exact hworking.holds.stored
  · rw [hcheckpointed.ledger]
    exact hrun
  · refine List.eq_nil_iff_forall_not_mem.mpr fun row hrow => hcheckpointed.ended row hrow ?_
    have hkey := hcheckpointed.running.subset (List.mem_map_of_mem hrow)
    obtain ⟨old, hold, heq⟩ := List.mem_map.mp hkey
    rw [← heq]
    exact hworking.running old hold
  · rw [hrows, List.length_append, List.length_append, hworking.length]
    rfl
  · rw [hrows, lastOutput, List.getLast?_append]
    rfl

/-! ## One phase -/

theorem stopWork_meets {late : WorkResult → RunTables → Prop} (context : WorkContext)
    (fault : RunFault) :
    Meets (Invariant allowed finished) (stopWork context fault) late
      (Invariant allowed finished) := by
  cases fault <;> exact stopAttempt_meets invariant_steady (fun _ => id) _ _ _ _ _ _

theorem performWork_meets {before : RunTables → Prop} (executor : WorkExecutor)
    (context : WorkContext) (hbefore : ∀ tables, before tables → Invariant allowed finished tables) :
    Meets before (performWork executor context)
      (fun result tables => before tables ∧ executor context = .ok result)
      (Invariant allowed finished) :=
  Meets.catching
    (Meets.bind (Meets.hazard hbefore) fun _ => Meets.computed hbefore)
    (stopWork_meets context)

theorem stopOverrun_meets {before : RunTables → Prop} (context : WorkContext)
    (hbefore : ∀ tables, before tables → Invariant allowed finished tables) :
    Meets before (Call.catching Call.hazard (stopOverrun context)) (fun _ => before)
      (Invariant allowed finished) := by
  refine Meets.catching (Meets.hazard hbefore) fun fault => ?_
  unfold stopOverrun
  split
  · exact stopAttempt_meets invariant_steady (fun _ => id) _ _ _ _ _ _
  · exact Meets.raise fun _ => id

theorem stopCheckpoint_meets {late : Digest → RunTables → Prop} (context : WorkContext)
    (fault : RunFault) :
    Meets (Invariant allowed finished) (stopCheckpoint context fault) late
      (Invariant allowed finished) := by
  unfold stopCheckpoint
  split
  · exact stopAttempt_meets invariant_steady (fun _ => id) _ _ _ _ _ _
  · exact stopAttempt_meets invariant_steady (fun _ => id) _ _ _ _ _ _
  · exact stopAttempt_meets invariant_steady (fun _ => id) _ _ _ _ _ _
  · exact Meets.raise fun _ => id

theorem startSlot_meets (slot : Slot) (phase : RunPhase) (inputDigest : Digest)
    (ownerToken : String) {done : List Slot} {predecessor : Digest} :
    Meets (Ready allowed finished session core inputs published done predecessor)
      (transact (startAttempt session.runId slot.stableKey phase inputDigest ownerToken))
      (Working allowed finished session core inputs published done slot predecessor)
      (Invariant allowed finished) :=
  transact_meets (fun _ _ _ hready hnext => hready.started (startAttempt_started hnext))
    (fun _ hready => hready.holds.invariant) fun _ _ hworking => hworking.holds.invariant

/-- The context that the attempt at a slot works in. -/
def slotContext (session : Session) (core : RunCore) (slot : Slot) (predecessor : Digest)
    (attempt : ℕ) : WorkContext :=
  ⟨session.runId, slot.stableKey, core.matchweek, slot.phase, attempt, "RESEARCH_ONLY",
    workInputDigest core.inputDigest slot.stableKey predecessor, predecessor,
    session.cpuConcurrency⟩

theorem publishSlot_meets {done rest : List Slot} {slot : Slot}
    (hplan : plan core.matchweek = done ++ slot :: rest) {predecessor : Digest} {attempt : ℕ}
    {result : WorkResult}
    (hallowed : allowed (workAt core.runId core.matchweek core.inputDigest slot predecessor)
      result.outputDigest) :
    Meets (Working allowed finished session core inputs published done slot predecessor attempt)
      (publishCheckpoint (slotContext session core slot predecessor attempt) result)
      (fun output => Ready allowed finished session core inputs published (done ++ [slot]) output)
      (Invariant allowed finished) := by
  have hworking (tables : RunTables) (hbefore : Working allowed finished session core inputs
      published done slot predecessor attempt tables) : Invariant allowed finished tables :=
    hbefore.holds.invariant
  refine Meets.catching ?_ (stopCheckpoint_meets _)
  refine Meets.bind (verifyArtifacts_meets hworking _) fun _ => ?_
  refine Meets.bind ?_ fun _ => Meets.ret fun _ => id
  exact transact_meets (fun _ _ _ hbefore hnext => hbefore.checkpointed hplan hallowed hnext)
    hworking fun _ _ hready => hready.holds.invariant

/-- What the executor returns for the slot is allowed. -/
theorem Admits.slot (hadmits : Admits allowed session.runId session.executor)
    (hid : core.runId = session.runId) {slot : Slot} {predecessor : Digest} {attempt : ℕ}
    {result : WorkResult}
    (hresult : session.executor (slotContext session core slot predecessor attempt) =
      .ok result) :
    allowed (workAt core.runId core.matchweek core.inputDigest slot predecessor)
      result.outputDigest := by
  rw [hid]
  exact hadmits _ _ rfl hresult

/-- One phase continues the chain by one checkpoint. -/
theorem executeSlot_meets (hadmits : Admits allowed session.runId session.executor)
    (hid : core.runId = session.runId)
    (hdigest : session.inputs.aggregateDigest = core.inputDigest) {done rest : List Slot}
    {slot : Slot} (hplan : plan core.matchweek = done ++ slot :: rest) (predecessor : Digest) :
    Meets (Ready allowed finished session core inputs published done predecessor)
      (executeSlot session core.matchweek slot predecessor)
      (fun output => Ready allowed finished session core inputs published (done ++ [slot]) output)
      (Invariant allowed finished) := by
  unfold executeSlot
  rw [hdigest]
  refine Meets.bind (startSlot_meets slot _ _ _) fun attempt => ?_
  refine Meets.bind (performWork_meets _ _ fun _ hbefore => hbefore.holds.invariant)
    fun result => ?_
  refine Meets.bind (stopOverrun_meets _ fun _ hbefore => hbefore.1.holds.invariant)
    fun _ => Meets.given fun hresult => ?_
  refine Meets.bind (publishSlot_meets hplan (hadmits.slot hid hresult)) fun output => ?_
  exact Meets.bind (Meets.hazard fun _ hready => hready.holds.invariant) fun _ =>
    Meets.ret fun _ => id

/-- The loop from some slot to the last one. -/
theorem executeSlots_meets (hadmits : Admits allowed session.runId session.executor)
    (hid : core.runId = session.runId)
    (hdigest : session.inputs.aggregateDigest = core.inputDigest) {completedKeys : List String}
    (done rest : List Slot) (hplan : plan core.matchweek = done ++ rest)
    (hopen : ∀ slot ∈ rest, slot.stableKey ∉ completedKeys) (predecessor : Digest) :
    Meets (Ready allowed finished session core inputs published done predecessor)
      (executeSlots session core.matchweek completedKeys rest predecessor)
      (fun _ tables => ∃ output, Ready allowed finished session core inputs published (plan core.matchweek)
        output tables) (Invariant allowed finished) := by
  induction rest generalizing done predecessor with
  | nil =>
      rw [List.append_nil] at hplan
      rw [hplan]
      exact Meets.ret fun tables hready => ⟨predecessor, hready⟩
  | cons slot rest ih =>
      obtain ⟨hslot, hrest⟩ := List.forall_mem_cons.mp hopen
      rw [executeSlots, if_neg hslot]
      refine Meets.bind (executeSlot_meets hadmits hid hdigest hplan predecessor) fun output => ?_
      exact ih (done ++ [slot]) (by rw [List.append_assoc]; exact hplan) hrest output

/-- The completed slots at the start of the plan are skipped. -/
theorem executeSlots_skip (session : Session) (matchweek : String) {completedKeys : List String}
    {done : List Slot} (hdone : ∀ slot ∈ done, slot.stableKey ∈ completedKeys)
    (rest : List Slot) (predecessor : Digest) :
    executeSlots session matchweek completedKeys (done ++ rest) predecessor =
      executeSlots session matchweek completedKeys rest predecessor := by
  induction done with
  | nil => rfl
  | cons slot others ih =>
      obtain ⟨hslot, hothers⟩ := List.forall_mem_cons.mp hdone
      rw [List.cons_append, executeSlots, if_pos hslot, ih hothers]

/-! ## A whole session -/

theorem Holds.coreOf_eq {tables : RunTables}
    (hholds : Holds allowed finished session core inputs published tables) {row : RunRow}
    (hrow : tables.run? session.runId = some row) : coreOf row = core := by
  obtain ⟨hmem, hid⟩ := run?_mem hrow
  exact List.inj_on_of_nodup_map hholds.invariant.ids hmem hholds.stored
    (hid.trans hholds.runId.symm)

theorem Holds.matchweekOf_eq {tables : RunTables}
    (hholds : Holds allowed finished session core inputs published tables) {matchweek : String}
    (hmatchweek : matchweekOf tables session.runId = .ok matchweek) :
    matchweek = core.matchweek := by
  unfold matchweekOf at hmatchweek
  split at hmatchweek
  · next row hrow =>
      cases hmatchweek
      exact congrArg RunCore.matchweek (hholds.coreOf_eq hrow)
  · cases hmatchweek

/-- The checkpoints of a run are stored in their order. -/
theorem checkpointsOf_eq {tables : RunTables}
    (hrun : RunInvariant allowed (ledgerOf tables) core inputs) :
    tables.checkpointsOf core.runId = (ledgerOf tables).checkpointsOf core.runId := by
  refine sortedOn_of_pairwise CheckpointRow.checkpointOrder ?_
  have horders := congrArg (List.map Slot.phaseOrder) hrun.chained.slots
  rw [List.map_map, List.map_take, plan_orders, List.take_range] at horders
  have hsorted : (((ledgerOf tables).checkpointsOf core.runId).map
      (Slot.phaseOrder ∘ rowSlot)).Pairwise (· ≤ ·) := by
    rw [horders]
    exact List.pairwise_le_range
  exact List.pairwise_map.mp hsorted

theorem checkpoint_keys {ledger : RunLedger} (hrun : RunInvariant allowed ledger core inputs) :
    (ledger.checkpointsOf core.runId).map CheckpointRow.stableKey =
      ((plan core.matchweek).take (ledger.checkpointsOf core.runId).length).map
        Slot.stableKey := by
  rw [← hrun.chained.slots, List.map_map]
  rfl

theorem stopCompletion_meets {late : Unit → RunTables → Prop} (runId : String)
    (fault : RunFault) :
    Meets (Invariant allowed finished) (stopCompletion runId fault) late
      (Invariant allowed finished) := by
  have hfail (fault : RunFault) : Meets (Invariant allowed finished) (failCompletion runId fault)
      late (Invariant allowed finished) :=
    Meets.bind (Meets.consult (fun _ _ hinvariant _ => hinvariant) fun _ => id) fun _ =>
      Meets.bind (quiet_meets invariant_steady (fun _ => id) fun _ _ => recordError_quiet)
        fun _ => Meets.raise fun _ => id
  unfold stopCompletion
  split
  · exact hfail _
  · exact hfail _
  · exact hfail _
  · exact Meets.raise fun _ => id

/-- The completion of a run. -/
theorem Ready.completed {done : List Slot} {output digest : Digest} {tables next : RunTables}
    (hready : Ready allowed finished session core inputs published done output tables)
    (hnext : completeRun session.runId digest tables = .ok (next, ())) :
    Finished allowed finished core inputs next := by
  have hcompleted := completeRun_completed hnext
  have hfull : ((ledgerOf tables).checkpointsOf core.runId).length = 7 := by
    rw [hready.holds.runId]
    exact hcompleted.checkpoints
  refine ⟨hready.holds.invariant.completed ?_ hcompleted, ?_, ?_⟩
  · change session.runId ∈ _
    rw [← hready.holds.runId]
    exact List.mem_map_of_mem hready.holds.stored
  · rw [hcompleted.ledger]
    cases hat : core.at session.runId with
    | true => exact update_mem_updateWhere hready.holds.stored hat
    | false =>
        have hsame : { core with state := .complete } = core := by
          rw [RunCore.at, decide_eq_true hready.holds.runId, Bool.true_and] at hat
          cases core with
          | mk runId matchweek state inputContract inputDigest =>
              cases state with
              | incomplete => cases hat
              | complete => rfl
        rw [hsame]
        exact mem_updateWhere_of_unmatched hready.holds.stored hat
  · rw [hcompleted.ledger]
    exact hready.holds.run.completed hready.holds.runId.symm hfull

theorem publishCompletion_meets {done : List Slot} {output : Digest} :
    Meets (Ready allowed finished session core inputs published done output)
      (publishCompletion session) (fun _ => Finished allowed finished core inputs)
      (Invariant allowed finished) := by
  have hbefore (tables : RunTables)
      (hready : Ready allowed finished session core inputs published done output tables) :
      Invariant allowed finished tables := hready.holds.invariant
  refine Meets.bind (Meets.consult (fun _ _ hready _ => hready) hbefore) fun rows => ?_
  refine Meets.catching (Meets.bind (Meets.hazard hbefore) fun _ => ?_)
    (stopCompletion_meets session.runId)
  exact transact_meets (fun _ _ _ hready hnext => hready.completed hnext) hbefore
    fun _ _ hafter => hafter.invariant

section Remaining

variable {origin : RunTables} {rows : List CheckpointRow}

theorem remaining_keys (hholds : Holds allowed finished session core inputs published origin)
    (hrows : rows = (ledgerOf origin).checkpointsOf core.runId) :
    rows.map CheckpointRow.stableKey =
      ((plan core.matchweek).take rows.length).map Slot.stableKey := by
  rw [hrows]
  exact checkpoint_keys hholds.run

/-- The slots that have a checkpoint are skipped. -/
theorem remaining_eq (hholds : Holds allowed finished session core inputs published origin)
    (hrows : rows = (ledgerOf origin).checkpointsOf core.runId) (predecessor : Digest) :
    executeSlots session core.matchweek (rows.map CheckpointRow.stableKey)
        (plan core.matchweek) predecessor =
      executeSlots session core.matchweek (rows.map CheckpointRow.stableKey)
        ((plan core.matchweek).drop rows.length) predecessor := by
  conv_lhs => rw [← List.take_append_drop rows.length (plan core.matchweek)]
  refine executeSlots_skip session core.matchweek (fun slot hslot => ?_) _ _
  rw [remaining_keys hholds hrows]
  exact List.mem_map_of_mem hslot

/-- The other slots have none. -/
theorem remaining_open (hholds : Holds allowed finished session core inputs published origin)
    (hrows : rows = (ledgerOf origin).checkpointsOf core.runId) {slot : Slot}
    (hslot : slot ∈ (plan core.matchweek).drop rows.length) :
    slot.stableKey ∉ rows.map CheckpointRow.stableKey := by
  intro hdone
  have hnodup := plan_keys_nodup core.matchweek
  rw [← List.take_append_drop rows.length (plan core.matchweek), List.map_append,
    List.nodup_append] at hnodup
  rw [remaining_keys hholds hrows] at hdone
  exact hnodup.2.2 _ hdone _ (List.mem_map_of_mem hslot) rfl

/-- The stored run is ready for its next slot. -/
theorem remaining_ready (hholds : Holds allowed finished session core inputs published origin)
    (hidle : origin.runningAttempts = [])
    (hrows : rows = (ledgerOf origin).checkpointsOf core.runId) :
    Ready allowed finished session core inputs published ((plan core.matchweek).take rows.length)
      (lastOutput rows (session.inputs.digests .predecessors)) origin := by
  refine ⟨hholds, hidle, ?_, ?_⟩
  · have hlength := congrArg List.length (remaining_keys hholds hrows)
    rw [List.length_map, List.length_map] at hlength
    rw [← hrows]
    exact hlength
  · rw [hrows, hholds.digests]

theorem remainingSlots_meets (hadmits : Admits allowed session.runId session.executor)
    (hholds : Holds allowed finished session core inputs published origin)
    (hidle : origin.runningAttempts = [])
    (hrows : rows = (ledgerOf origin).checkpointsOf core.runId) :
    Meets (fun tables => tables = origin)
      (executeSlots session core.matchweek (rows.map CheckpointRow.stableKey)
        (plan core.matchweek) (lastOutput rows (session.inputs.digests .predecessors)))
      (fun _ tables => ∃ output, Ready allowed finished session core inputs published
        (plan core.matchweek) output tables) (Invariant allowed finished) := by
  rw [remaining_eq hholds hrows]
  refine Meets.weaken (executeSlots_meets hadmits hholds.runId hholds.aggregateDigest _ _
    (List.take_append_drop rows.length (plan core.matchweek)).symm
    (fun slot => remaining_open hholds hrows) _) ?_ (fun _ _ => id) fun _ => id
  rintro tables rfl
  exact remaining_ready hholds hidle hrows

end Remaining

section Readings

variable {origin : RunTables}

theorem readCheckpoints_meets
    (hholds : Holds allowed finished session core inputs published origin) :
    Meets (fun tables => tables = origin)
      (Call.consult fun tables => .ok (tables.checkpointsOf session.runId) :
        RunCall (List CheckpointRow))
      (fun rows tables => tables = origin ∧
        rows = (ledgerOf origin).checkpointsOf core.runId) (Invariant allowed finished) := by
  refine Meets.consult (fun tables rows hsame hok => ⟨hsame, ?_⟩) fun tables hsame => ?_
  · cases hok
    rw [hsame, ← hholds.runId]
    exact checkpointsOf_eq hholds.run
  · rw [hsame]
    exact hholds.invariant

theorem readMatchweek_meets
    (hholds : Holds allowed finished session core inputs published origin) :
    Meets (fun tables => tables = origin)
      (Call.consult fun tables => matchweekOf tables session.runId : RunCall String)
      (fun matchweek tables => tables = origin ∧ matchweek = core.matchweek)
      (Invariant allowed finished) := by
  refine Meets.consult (fun tables matchweek hsame hok => ⟨hsame, ?_⟩) fun tables hsame => ?_
  · rw [hsame] at hok
    exact hholds.matchweekOf_eq hok
  · rw [hsame]
    exact hholds.invariant

end Readings

/-- A session that returns has completed its run. -/
theorem execute_meets (hadmits : Admits allowed session.runId session.executor) :
    Meets (fun tables => Holds allowed finished session core inputs published tables ∧
        tables.runningAttempts = []) (execute session)
      (fun _ => Finished allowed finished core inputs) (Invariant allowed finished) := by
  refine Meets.fixing fun origin horigin => ?_
  obtain ⟨hholds, hidle⟩ := horigin
  refine Meets.bind (readCheckpoints_meets hholds) fun rows => Meets.given fun hrows => ?_
  refine Meets.bind (readMatchweek_meets hholds) fun matchweek => Meets.given fun hmatchweek => ?_
  rw [hmatchweek]
  refine Meets.bind (remainingSlots_meets hadmits hholds hidle hrows) fun _ => ?_
  refine Meets.bind (Meets.exists fun output => publishCompletion_meets) fun _ => ?_
  exact Meets.consult (fun _ _ hafter _ => hafter) fun _ hafter => hafter.invariant

end Sessions

/-! ## Starting and resuming -/

section Histories

variable [ContentAddressing] {allowed : Work → Digest → Prop} {finished : List RunRow}

section Sessions

variable {session : Session} {core : RunCore} {inputs : RunInputContract}
  {published : List CompletionRow}

theorem Holds.quiet {tables next : RunTables}
    (hholds : Holds allowed finished session core inputs published tables)
    (hquiet : Quiet tables next) :
    Holds allowed finished session core inputs published next where
  invariant := hholds.invariant.quiet hquiet
  stored := by
    rw [hquiet.ledger]
    exact hholds.stored
  runId := hholds.runId
  run := by
    rw [hquiet.ledger]
    exact hholds.run
  digests := hholds.digests
  published := (congrArg RunLedger.completions hquiet.ledger).trans hholds.published

/-- No attempt runs, and the run of the session is stored. -/
def Waiting (allowed : Work → Digest → Prop) (finished : List RunRow) (session : Session)
    (core : RunCore) (inputs : RunInputContract) (published : List CompletionRow)
    (tables : RunTables) : Prop :=
  Holds allowed finished session core inputs published tables ∧ tables.runningAttempts = []

theorem waiting_steady : Steady (Waiting allowed finished session core inputs published) :=
  fun _ _ hwaiting hquiet => ⟨hwaiting.1.quiet hquiet, hquiet.idle hwaiting.2⟩

end Sessions

variable {environment : Environment} {runId : String}

/-- The run that a start creates. -/
def startedCore (environment : Environment) (runId matchweek : String) : RunCore :=
  ⟨runId, matchweek, .incomplete, environment.inputs.toStored,
    environment.inputs.aggregateDigest⟩

theorem created_waiting {matchweek : String} {preflight : PreflightResult}
    {tables next : RunTables} (hinvariant : Invariant allowed finished tables)
    (hidle : tables.runningAttempts = [])
    (hcreated : Created (newRun environment runId matchweek preflight) tables next) :
    Waiting allowed finished (sessionOf environment runId preflight.cpuConcurrency)
      (startedCore environment runId matchweek) environment.inputs tables.completions next := by
  refine ⟨⟨hinvariant.created hcreated, ?_, rfl, ?_, rfl, ?_⟩, ?_⟩
  · rw [hcreated.ledger]
    exact List.mem_append_right _ List.mem_cons_self
  · rw [hcreated.ledger]
    exact RunInvariant.created hinvariant.owned hcreated.named hcreated.fresh
  · exact congrArg RunLedger.completions hcreated.ledger
  · rw [hcreated.running]
    exact hidle

theorem startRun_meets (hadmits : Admits allowed runId environment.executor)
    (matchweek : String) (preflight : PreflightResult) :
    Meets (fun tables => Invariant allowed finished tables ∧ tables.runningAttempts = [])
      (startRun environment runId matchweek preflight)
      (fun _ => Finished allowed finished (startedCore environment runId matchweek)
        environment.inputs) (Invariant allowed finished) := by
  have hcreate : Meets
      (fun tables => Invariant allowed finished tables ∧ tables.runningAttempts = [])
      (transact (createRun (newRun environment runId matchweek preflight)))
      (fun _ tables => ∃ published, Waiting allowed finished
        (sessionOf environment runId preflight.cpuConcurrency)
        (startedCore environment runId matchweek) environment.inputs published tables)
      (Invariant allowed finished) :=
    transact_meets (fun _ _ _ hbefore hnext =>
      ⟨_, created_waiting hbefore.1 hbefore.2 (createRun_created hnext)⟩)
      (fun _ hbefore => hbefore.1) fun _ _ ⟨_, hwaiting⟩ => hwaiting.1.invariant
  refine Meets.bind hcreate fun _ => Meets.exists fun published => ?_
  refine Meets.bind (Meets.hazard fun _ hwaiting => hwaiting.1.invariant) fun _ => ?_
  exact execute_meets hadmits

theorem startUnlessCompatible_meets (hadmits : Admits allowed runId environment.executor)
    (matchweek : String) (preflight : PreflightResult) :
    Meets (fun tables => Invariant allowed finished tables ∧ tables.runningAttempts = [])
      (startUnlessCompatible environment runId matchweek preflight)
      (fun _ => Finished allowed finished (startedCore environment runId matchweek)
        environment.inputs) (Invariant allowed finished) := by
  refine Meets.bind (Meets.consult (fun _ _ hbefore _ => hbefore) fun _ hbefore => hbefore.1)
    fun compatible => ?_
  cases compatible with
  | some record => exact Meets.raise fun _ hbefore => hbefore.1
  | none => exact startRun_meets hadmits matchweek preflight

/-- A start that returns has completed its run. -/
theorem start_meets (hadmits : Admits allowed runId environment.executor) (matchweek : String) :
    Meets (Invariant allowed finished) (start environment runId matchweek)
      (fun _ => Finished allowed finished (startedCore environment runId matchweek)
        environment.inputs) (Invariant allowed finished) := by
  refine Meets.bind (Meets.hazard fun _ => id) fun _ => ?_
  refine Meets.bind (Meets.checked fun _ => id) fun preflight => ?_
  refine Meets.bind (Meets.hazard fun _ => id) fun _ => ?_
  refine Meets.bind (verifyInputArtifacts_meets invariant_steady _ _ _ _) fun _ => ?_
  refine Meets.bind (interruptAbandoned_meets invariant_steady _) fun active => ?_
  cases active with
  | some other => exact Meets.raise fun _ hbefore => hbefore.1
  | none =>
      exact (startUnlessCompatible_meets hadmits matchweek preflight).weaken
        (fun _ hbefore => ⟨hbefore.1, hbefore.2 rfl⟩) (fun _ _ => id) fun _ => id

theorem resumeRun_meets (hadmits : Admits allowed runId environment.executor)
    (preflight : PreflightResult) {core : RunCore} {inputs : RunInputContract}
    {published : List CompletionRow} :
    Meets (Waiting allowed finished (sessionOf environment runId preflight.cpuConcurrency) core
        inputs published) (resumeRun environment runId preflight)
      (fun _ => Invariant allowed finished) (Invariant allowed finished) := by
  have hstop (tables : RunTables) (hwaiting : Waiting allowed finished
      (sessionOf environment runId preflight.cpuConcurrency) core inputs published tables) :
      Invariant allowed finished tables := hwaiting.1.invariant
  refine Meets.bind ((verifyInputArtifacts_meets waiting_steady _ _ _ _).stopsIn hstop) fun _ => ?_
  refine Meets.bind ((validateCheckpoints_meets waiting_steady _ _).stopsIn hstop) fun _ => ?_
  refine Meets.bind (quiet_meets waiting_steady hstop fun _ _ => markResumed_quiet) fun _ => ?_
  refine Meets.bind (Meets.hazard hstop) fun _ => ?_
  exact (execute_meets hadmits).weaken (fun _ => id) (fun _ _ hafter => hafter.invariant)
    fun _ => id

/-- The stored inputs of a run are the ones it was created with. -/
theorem fromStored_eq {ledger : RunLedger} {core : RunCore} {inputs stored : RunInputContract}
    (hrun : RunInvariant allowed ledger core inputs)
    (hstored : RunInputContract.fromStored core.inputContract = .ok stored) :
    stored = inputs := by
  have hcontract := RunInputContract.fromStored_toStored inputs
  rw [← hrun.contract] at hcontract
  exact Except.ok.inj (hstored.symm.trans hcontract)

/-- A record is resumed only under the input digests it was created with. -/
theorem resumeRecord_meets (hadmits : Admits allowed runId environment.executor)
    (preflight : PreflightResult) (record : RunRow) :
    Meets (fun tables => (Invariant allowed finished tables ∧ tables.runningAttempts = []) ∧
        tables.run? runId = some record) (resumeRecord environment runId preflight record)
      (fun _ => Invariant allowed finished) (Invariant allowed finished) := by
  unfold resumeRecord
  split
  · exact Meets.raise fun _ hbefore => hbefore.1.1
  refine Meets.bind (Meets.computed fun _ hbefore => hbefore.1.1) fun stored =>
    Meets.given fun hstored => ?_
  split
  · exact (refuseDifferent_meets invariant_steady runId record _).weaken
      (fun _ hbefore => hbefore.1.1) (fun _ _ => id) fun _ => id
  · next hdifferences =>
      have hdigests := (RunInputContract.differences_eq_nil_iff _ _).mp (not_not.mp hdifferences)
      have hresume : Meets (fun tables => ∃ published, Waiting allowed finished
          (sessionOf environment runId preflight.cpuConcurrency) (coreOf record) stored published
          tables) (resumeRun environment runId preflight)
          (fun _ => Invariant allowed finished) (Invariant allowed finished) :=
        Meets.exists fun published => resumeRun_meets hadmits preflight
      refine hresume.weaken ?_ (fun _ _ => id) fun _ => id
      rintro tables ⟨⟨hinvariant, hidle⟩, hrun⟩
      obtain ⟨hmem, hid⟩ := run?_mem hrun
      obtain ⟨inputs, hinputs⟩ := hinvariant.runs _ hmem
      obtain rfl : stored = inputs := fromStored_eq hinputs hstored
      exact ⟨tables.completions, ⟨hinvariant, hmem, hid, hinputs, hdigests, rfl⟩, hidle⟩

theorem resumeFound_meets (hadmits : Admits allowed runId environment.executor)
    (preflight : PreflightResult) :
    Meets (fun tables => Invariant allowed finished tables ∧ tables.runningAttempts = [])
      (resumeFound environment runId preflight)
      (fun _ => Invariant allowed finished) (Invariant allowed finished) := by
  have hread : Meets
      (fun tables => Invariant allowed finished tables ∧ tables.runningAttempts = [])
      (Call.consult fun tables => .ok (tables.run? runId) : RunCall (Option RunRow))
      (fun found tables => (Invariant allowed finished tables ∧ tables.runningAttempts = []) ∧
        tables.run? runId = found) (Invariant allowed finished) :=
    Meets.consult (fun _ _ hbefore hok => ⟨hbefore, Except.ok.inj hok⟩) fun _ hbefore => hbefore.1
  refine Meets.bind hread fun found => ?_
  cases found with
  | none => exact Meets.raise fun _ hbefore => hbefore.1.1
  | some record => exact resumeRecord_meets hadmits preflight record

theorem resume_meets (hadmits : Admits allowed runId environment.executor) :
    Meets (Invariant allowed finished) (resume environment runId)
      (fun _ => Invariant allowed finished) (Invariant allowed finished) := by
  refine Meets.bind (Meets.hazard fun _ => id) fun _ => ?_
  refine Meets.bind (Meets.checked fun _ => id) fun preflight => ?_
  refine Meets.bind (Meets.hazard fun _ => id) fun _ => ?_
  refine Meets.bind (interruptAbandoned_meets invariant_steady _) fun active => ?_
  cases active with
  | some other => exact Meets.raise fun _ hbefore => hbefore.1
  | none =>
      exact (resumeFound_meets hadmits preflight).weaken
        (fun _ hbefore => ⟨hbefore.1, hbefore.2 rfl⟩) (fun _ _ => id) fun _ => id

/-! ## Histories -/

/-- What the executor of a call returns for its run is allowed. -/
def Step.Admitted (allowed : Work → Digest → Prop) (step : Step) : Prop :=
  Admits allowed step.runId step.environment.executor

/-- A call keeps the invariant however it ends. -/
theorem apply_invariant {tables : RunTables} (hinvariant : Invariant allowed finished tables)
    {step : Step} (hadmitted : Step.Admitted allowed step) :
    Invariant allowed finished (step.apply tables) := by
  refine Meets.leaves ?_ hinvariant step.fates
  obtain ⟨command, environment, fates⟩ := step
  cases command with
  | start runId matchweek =>
      exact (start_meets hadmitted matchweek).weaken (fun _ => id)
        (fun _ _ hafter => hafter.invariant) fun _ => id
  | resume runId => exact resume_meets hadmitted

theorem empty_invariant : Invariant allowed [] RunTables.empty where
  ids := List.nodup_nil
  owned := ⟨fun _ hmem => absurd hmem List.not_mem_nil, fun _ hmem => absurd hmem List.not_mem_nil,
    fun _ hmem => absurd hmem List.not_mem_nil, fun _ hmem => absurd hmem List.not_mem_nil⟩
  runs _ hmem := absurd hmem List.not_mem_nil
  once := Nat.zero_le 1
  sealed _ hmem := absurd hmem List.not_mem_nil

/-- Every history keeps the invariant. -/
theorem run_invariant {tables : RunTables} (hinvariant : Invariant allowed finished tables)
    (steps : List Step) (hadmitted : ∀ step ∈ steps, Step.Admitted allowed step) :
    Invariant allowed finished (run Step.apply tables steps) :=
  run_preserves (Invariant allowed finished)
    (fun _ _ hbefore hstep => apply_invariant hbefore hstep)
    (RunMeets.of_forall hadmitted tables) hinvariant

/-- A finished row is one of the rows that stay. -/
theorem seal_invariant {tables : RunTables} (hinvariant : Invariant allowed finished tables)
    {row : RunRow} (hrow : row ∈ tables.runs) (hstate : row.state = .complete) :
    Invariant allowed [row] tables where
  ids := hinvariant.ids
  owned := hinvariant.owned
  runs := hinvariant.runs
  once := hinvariant.once
  sealed other hother := by
    rw [List.mem_singleton.mp hother]
    exact ⟨hstate, hrow⟩

/-! ## Validation -/

/-- Rows that follow the plan are accepted. -/
theorem validateRows_completes {contractDigest : Digest} {matchweek subject : String}
    {slots : List Slot} {rows : List CheckpointRow} {start : Digest} {before : RunTables → Prop}
    (hdigest : environment.inputs.aggregateDigest = contractDigest)
    (hchained : Chained allowed subject matchweek contractDigest start slots rows) :
    Completes before (validateRows environment runId rows start) := by
  induction rows generalizing start slots with
  | nil => exact Completes.ret ()
  | cons row rest ih =>
      cases slots with
      | nil => exact hchained.elim
      | cons slot others =>
          obtain ⟨hslot, hinput, -, hrest⟩ := hchained
          have hkey : row.stableKey = slot.stableKey := congrArg Slot.stableKey hslot
          rw [validateRows, if_neg (by rw [not_not, hdigest, hkey, hinput])]
          have hverify : Meets before (Call.catching (verifyArtifacts row.artifactDigests)
              (refuseStoredArtifact environment runId row.stableKey)) (fun _ => before)
              fun _ => True :=
            Meets.catching (verifyArtifacts_meets (fun _ _ => trivial) _)
              (refuseStoredArtifact_meets (fun _ _ _ _ => trivial) _ _ _)
          refine Completes.bind (Completes.catching ?_) hverify fun _ => ih hrest
          exact Completes.each (fun _ _ => Completes.hazard) fun _ _ =>
            Meets.hazard fun _ => id

theorem validateCheckpoints_completes {tables : RunTables} {core : RunCore}
    {inputs : RunInputContract} (hrun : RunInvariant allowed (ledgerOf tables) core inputs)
    (hdigests : inputs.digests = environment.inputs.digests) :
    Completes (fun other => other = tables) (validateCheckpoints environment core.runId) := by
  have hread : Meets (fun other => other = tables)
      (Call.consult fun tables => .ok (tables.checkpointsOf core.runId) :
        RunCall (List CheckpointRow))
      (fun rows other => other = tables ∧ rows = (ledgerOf tables).checkpointsOf core.runId)
      fun _ => True := by
    refine Meets.consult (fun other rows hsame hok => ⟨hsame, ?_⟩) fun _ _ => trivial
    cases hok
    rw [hsame]
    exact checkpointsOf_eq hrun
  refine Completes.bind (Completes.consult fun other _ => ⟨_, rfl⟩) hread fun rows => ?_
  have haggregate : environment.inputs.aggregateDigest = core.inputDigest := by
    rw [hrun.digest]
    exact RunInputContract.aggregateDigest_congr hdigests.symm
  have hrows : Completes (fun _ => True) (validateRows environment core.runId
      ((ledgerOf tables).checkpointsOf core.runId) (inputs.digests .predecessors)) :=
    validateRows_completes haggregate hrun.chained
  rintro clock state ⟨-, rfl⟩
  rw [← hdigests]
  exact hrows clock state trivial

end Histories

/-! ## The lifecycle -/

section Statement

variable [ContentAddressing]

/-- What the tables say of a run at any time. -/
structure RunLifecycle (tables : RunTables) (row : RunRow) : Prop where
  units : ((tables.units.filter fun unit => unit.runId = row.runId).map fun unit =>
    Slot.mk unit.stableKey unit.phase unit.phaseOrder) = plan row.matchweek
  slots : (tables.checkpointsOf row.runId).map rowSlot <+: plan row.matchweek
  phases : (tables.checkpointsOf row.runId).map CheckpointRow.phase <+: runPhases
  inputs : ∀ stored, RunInputContract.fromStored row.inputContract = .ok stored →
    ∀ before checkpoint after, tables.checkpointsOf row.runId = before ++ checkpoint :: after →
      checkpoint.inputDigest = workInputDigest stored.aggregateDigest checkpoint.stableKey
        (lastOutput before (stored.digests .predecessors))
  validated : ∀ stored, RunInputContract.fromStored row.inputContract = .ok stored →
    ∀ environment : Environment, stored.differences environment.inputs = [] →
      Completes (fun other => other = tables) (validateCheckpoints environment row.runId)
  complete : ∀ unit ∈ tables.units, unit.runId = row.runId → (unit.state = .complete ↔
    ∃ checkpoint ∈ tables.checkpoints, checkpoint.runId = row.runId ∧
      checkpoint.stableKey = unit.stableKey)
  attempts : ∀ unit ∈ tables.units, unit.runId = row.runId →
    (tables.attempts.filter fun attempt => attempt.runId = row.runId &&
      attempt.stableKey = unit.stableKey).map AttemptRow.attempt = List.range' 1 unit.attemptCount
  finished : row.state = .complete ↔
    ∃ completion ∈ tables.completions, completion.runId = row.runId
  full : row.state = .complete →
    (tables.checkpointsOf row.runId).map CheckpointRow.phase = runPhases

/-- The ledger of a run in terms of its rows. -/
theorem lifecycle_of_invariant {allowed : Work → Digest → Prop} {tables : RunTables}
    {row : RunRow} {inputs : RunInputContract}
    (hrun : RunInvariant allowed (ledgerOf tables) (coreOf row) inputs) :
    RunLifecycle tables row := by
  have hrows : tables.checkpointsOf row.runId = (ledgerOf tables).checkpointsOf row.runId :=
    checkpointsOf_eq hrun
  have hunits : (ledgerOf tables).unitsOf row.runId =
      (tables.units.filter fun unit => unit.runId = row.runId).map unitMark :=
    List.filter_map
  have hmem {unit : WorkUnitRow} (hunit : unit ∈ tables.units)
      (hid : unit.runId = row.runId) : unitMark unit ∈ (ledgerOf tables).unitsOf row.runId :=
    mem_unitsOf.mpr ⟨List.mem_map_of_mem hunit, hid⟩
  have hstored {stored : RunInputContract}
      (hok : RunInputContract.fromStored row.inputContract = .ok stored) : stored = inputs :=
    fromStored_eq hrun hok
  have hslots : (tables.checkpointsOf row.runId).map rowSlot <+: plan row.matchweek := by
    rw [hrows]
    exact hrun.chained.slots ▸ List.take_prefix _ _
  constructor
  · have hplan := hrun.units
    change ((ledgerOf tables).unitsOf row.runId).map _ = _ at hplan
    rw [hunits, List.map_map] at hplan
    exact hplan
  · exact hslots
  · have hphases := hslots.map Slot.phase
    rw [List.map_map, plan_phases] at hphases
    exact hphases
  · intro stored hok before checkpoint after hsplit
    have hchained := hrun.chained
    change Chained allowed row.runId row.matchweek row.inputDigest _ _
      ((ledgerOf tables).checkpointsOf row.runId) at hchained
    rw [← hrows, hsplit] at hchained
    have hdigest : row.inputDigest = inputs.aggregateDigest := hrun.digest
    rw [hstored hok, ← hdigest]
    exact hchained.input
  · intro stored hok environment hdifferences
    rw [hstored hok, RunInputContract.differences_eq_nil_iff] at hdifferences
    exact validateCheckpoints_completes hrun hdifferences
  · intro unit hunit hid
    have hcomplete := hrun.complete _ (hmem hunit hid)
    change decide (unit.state = .complete) = true ↔ unit.stableKey ∈ _ at hcomplete
    rw [decide_eq_true_iff, List.mem_map] at hcomplete
    rw [hcomplete]
    constructor
    · rintro ⟨checkpoint, hmem, hkey⟩
      obtain ⟨hstored, hrunId⟩ := List.mem_filter.mp hmem
      exact ⟨checkpoint, hstored, of_decide_eq_true hrunId, hkey⟩
    · rintro ⟨checkpoint, hstored, hrunId, hkey⟩
      exact ⟨checkpoint, List.mem_filter.mpr ⟨hstored, decide_eq_true hrunId⟩, hkey⟩
  · intro unit hunit hid
    have hattempts := hrun.attempts _ (hmem hunit hid)
    change ((tables.attempts.map attemptKey).filter _).map _ = _ at hattempts
    rw [List.filter_map, List.map_map] at hattempts
    exact hattempts
  · exact hrun.finished.trans List.mem_map
  · intro hstate
    have hfull := hrun.full hstate
    change ((ledgerOf tables).checkpointsOf row.runId).length = 7 at hfull
    have hall := hrun.chained.slots
    change ((ledgerOf tables).checkpointsOf row.runId).map rowSlot =
      (plan row.matchweek).take ((ledgerOf tables).checkpointsOf row.runId).length at hall
    rw [hfull, List.take_of_length_le (plan_length _).le, ← hrows] at hall
    have hphases := congrArg (List.map Slot.phase) hall
    rw [List.map_map, plan_phases] at hphases
    exact hphases

/-- After every history of calls, failures and crashes, at most one attempt runs, every
run is at a point of its lifecycle, and a complete run stays as it is. -/
theorem run_lifecycle (steps : List Step) :
    (run Step.apply RunTables.empty steps).runningAttempts.length ≤ 1 ∧
      ∀ row ∈ (run Step.apply RunTables.empty steps).runs,
        RunLifecycle (run Step.apply RunTables.empty steps) row ∧
          (row.state = .complete → ∀ later : List Step,
            row ∈ (run Step.apply (run Step.apply RunTables.empty steps) later).runs) := by
  have hadmits (others : List Step) :
      ∀ step ∈ others, Step.Admitted (fun _ _ => True) step :=
    fun _ _ _ _ _ _ => trivial
  have hinvariant := run_invariant empty_invariant steps (hadmits steps)
  refine ⟨hinvariant.once, fun row hrow => ⟨?_, fun hstate later => ?_⟩⟩
  · obtain ⟨inputs, hrun⟩ := hinvariant.runs (coreOf row) (List.mem_map_of_mem hrow)
    exact lifecycle_of_invariant hrun
  · have hkept := run_invariant (seal_invariant hinvariant hrow hstate) later (hadmits later)
    exact (hkept.sealed row (List.mem_singleton.mpr rfl)).2

end Statement

end MatchVet.Runs.Lifecycle
