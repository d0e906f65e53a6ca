import MatchVet.Runs.Lifecycle

/-!
# Resumed runs

When the results depend on the work alone, a run that becomes complete has the digests
of one start without interruption.  A resume under other inputs leaves the attempts and
the checkpoints alone.
-/

namespace MatchVet.Runs.Resumption

open MatchVet.Artifacts.Manifest
open MatchVet.Foundation.CrashLogic
open MatchVet.Foundation.Identifier
open MatchVet.Foundation.KeySort
open MatchVet.Foundation.Transition
open MatchVet.Runs.Contract
open MatchVet.Runs.Coordinator
open MatchVet.Runs.Ledger
open MatchVet.Runs.Lifecycle
open MatchVet.Runs.Preflight
open MatchVet.Runs.Progress
open MatchVet.Runs.Tables

/-! ## Results that depend on the work -/

/-- What a result may depend on. -/
structure WorkInput where
  phase : RunPhase
  stableKey : String
  matchweek : String
  inputDigest : Digest
  predecessorDigest : Digest

def contextInput (context : WorkContext) : WorkInput :=
  ⟨context.phase, context.stableKey, context.matchweek, context.inputDigest,
    context.predecessorDigest⟩

/-- Whatever the executor returns is the result of the work. -/
def Conforms (work : WorkInput → WorkResult) (executor : WorkExecutor) : Prop :=
  ∀ context result, executor context = .ok result → result = work (contextInput context)

/-- The executor always returns the result of the work. -/
def Performs (work : WorkInput → WorkResult) (executor : WorkExecutor) : Prop :=
  ∀ context, executor context = .ok (work (contextInput context))

theorem Performs.conforms {work : WorkInput → WorkResult} {executor : WorkExecutor}
    (hperforms : Performs work executor) : Conforms work executor := by
  intro context result hresult
  rw [hperforms] at hresult
  exact (Except.ok.inj hresult).symm

section Digests

variable [ContentAddressing] (work : WorkInput → WorkResult) (runId : String)

/-- The output of one run is the output of the work. -/
def worked (done : Work) (output : Digest) : Prop :=
  done.runId = runId →
    output = (work ⟨done.phase, done.stableKey, done.matchweek, done.inputDigest,
      done.predecessorDigest⟩).outputDigest

/-- The input and output digests that the work has slot by slot. -/
def workedOut (matchweek : String) (contractDigest : Digest) :
    Digest → List Slot → List (Digest × Digest)
  | _, [] => []
  | predecessor, slot :: rest =>
      let inputDigest := workInputDigest contractDigest slot.stableKey predecessor
      let output :=
        (work ⟨slot.phase, slot.stableKey, matchweek, inputDigest, predecessor⟩).outputDigest
      (inputDigest, output) :: workedOut matchweek contractDigest output rest

variable {work runId}

theorem Conforms.admits {executor : WorkExecutor} (hconforms : Conforms work executor)
    (target : String) : Admits (worked work target) runId executor := by
  intro context result _ hresult _
  rw [hconforms context result hresult]
  rfl

theorem worked_of_ne {executor : WorkExecutor} {target : String} (hne : runId ≠ target) :
    Admits (worked work target) runId executor :=
  fun _ _ hid _ hsame => absurd (hid.symm.trans hsame) hne

/-- The checkpoints of every slot have the digests that the work has. -/
theorem Chained.digests {matchweek : String} {contractDigest start : Digest}
    {slots : List Slot} {rows : List CheckpointRow}
    (hchained : Chained (worked work runId) runId matchweek contractDigest start slots rows)
    (hlength : rows.length = slots.length) :
    rows.map (fun row => (row.inputDigest, row.outputDigest)) =
      workedOut work matchweek contractDigest start slots := by
  induction rows generalizing start slots with
  | nil =>
      obtain rfl : slots = [] := List.eq_nil_of_length_eq_zero hlength.symm
      rfl
  | cons row rest ih =>
      cases slots with
      | nil => cases hlength
      | cons slot others =>
          obtain ⟨-, hinput, houtput, hrest⟩ := hchained
          have hworked := houtput rfl
          rw [List.map_cons, ih hrest (Nat.succ.inj hlength), hinput, hworked]
          rfl

end Digests

/-! ## A start without interruption -/

section Uninterrupted

theorem transact_completes {α : Type} {before : RunTables → Prop} {update : Update α}
    (hupdate : ∀ tables, before tables → ∃ outcome, update tables = .ok outcome) :
    Completes before (transact update) := by
  have hrisky : Meets before (Call.risky update) (fun _ _ => True) fun _ => True :=
    Meets.risky (fun _ _ _ _ _ => trivial) fun _ _ => trivial
  have hhazard : Meets (fun _ => True) (Call.hazard : RunCall Unit) (fun _ _ => True)
      fun _ => True := Meets.hazard fun _ => id
  exact Completes.bind (Completes.risky hupdate) hrisky fun value =>
    Completes.bind Completes.hazard hhazard fun _ => Completes.ret value

theorem verifyArtifacts_completes (before : RunTables → Prop) (digests : List Digest) :
    Completes before (verifyArtifacts digests) :=
  Completes.each (fun _ _ => Completes.hazard) fun _ _ => Meets.hazard fun _ => id

/-- The slots that are done have other keys and places than the next one. -/
theorem slot_ne_of_done {matchweek : String} {done rest : List Slot} {slot other : Slot}
    (hplan : plan matchweek = done ++ slot :: rest) (hother : other ∈ done) :
    other.stableKey ≠ slot.stableKey ∧ other.phaseOrder ≠ slot.phaseOrder := by
  have hkeys := plan_keys_nodup matchweek
  have horders : ((plan matchweek).map Slot.phaseOrder).Nodup := by
    rw [plan_orders]
    exact List.nodup_range
  rw [hplan, List.map_append, List.nodup_append] at hkeys horders
  exact ⟨hkeys.2.2 _ (List.mem_map_of_mem hother) _ List.mem_cons_self,
    horders.2.2 _ (List.mem_map_of_mem hother) _ List.mem_cons_self⟩

theorem attemptAt_iff {runId stableKey : String} {attempt : ℕ} {row : AttemptRow} :
    row.at runId stableKey attempt = true ↔ attemptKey row = ⟨runId, stableKey, attempt⟩ := by
  unfold AttemptRow.at attemptKey
  rw [AttemptKey.mk.injEq, Bool.and_eq_true_iff, Bool.and_eq_true_iff, decide_eq_true_iff,
    decide_eq_true_iff, decide_eq_true_iff, and_assoc]

theorem any_attemptAt_iff {tables : RunTables} {runId stableKey : String} {attempt : ℕ} :
    tables.attempts.any (·.at runId stableKey attempt) = true ↔
      ⟨runId, stableKey, attempt⟩ ∈ tables.attempts.map attemptKey := by
  rw [List.any_eq_true, List.mem_map]
  constructor
  · rintro ⟨row, hrow, hat⟩
    exact ⟨row, hrow, attemptAt_iff.mp hat⟩
  · rintro ⟨row, hrow, hkey⟩
    exact ⟨row, hrow, attemptAt_iff.mpr hkey⟩

variable [ContentAddressing] {allowed : Work → Digest → Prop} {finished : List RunRow}
  {session : Session} {core : RunCore} {inputs : RunInputContract}
  {published : List CompletionRow}

/-- The stored checkpoints stand at the slots that are done. -/
theorem checkpoint_slot_mem {ledger : RunLedger} (hrun : RunInvariant allowed ledger core inputs)
    {done rest : List Slot} (hplan : plan core.matchweek = done ++ rest)
    (hlength : (ledger.checkpointsOf core.runId).length = done.length) {row : CheckpointRow}
    (hrow : row ∈ ledger.checkpoints) (hid : row.runId = core.runId) : rowSlot row ∈ done := by
  have hslots := hrun.chained.slots
  rw [hlength, hplan, List.take_left'] at hslots
  · rw [← hslots]
    exact List.mem_map_of_mem (List.mem_filter.mpr ⟨hrow, decide_eq_true hid⟩)
  · rfl

/-- The unit of the next slot is stored and open. -/
theorem openUnit_of_ready {done rest : List Slot} {slot : Slot} {predecessor : Digest}
    {tables : RunTables}
    (hready : Ready allowed finished session core inputs published done predecessor tables)
    (hplan : plan core.matchweek = done ++ slot :: rest) :
    ∃ unit ∈ tables.units, unit.at session.runId slot.stableKey = true ∧
      unit.state ≠ .complete := by
  have hrun := hready.holds.run
  have hslot : slot ∈ ((ledgerOf tables).unitsOf core.runId).map UnitMark.slot := by
    rw [hrun.units, hplan]
    exact List.mem_append_right _ List.mem_cons_self
  obtain ⟨mark, hmark, hsame⟩ := List.mem_map.mp hslot
  obtain ⟨hstored, hid⟩ := mem_unitsOf.mp hmark
  obtain ⟨unit, hunit, rfl⟩ := List.mem_map.mp hstored
  refine ⟨unit, hunit, ?_, fun hstate => ?_⟩
  · have hat : (unitMark unit).at session.runId slot.stableKey = true :=
      unitAt_iff.mpr ⟨hid.trans hready.holds.runId, congrArg Slot.stableKey hsame⟩
    exact hat
  · have hkey := (hrun.complete _ hmark).mp (decide_eq_true hstate)
    obtain ⟨row, hrow, hrowKey⟩ := List.mem_map.mp hkey
    obtain ⟨hrow, hrunId⟩ := List.mem_filter.mp hrow
    have hdone := checkpoint_slot_mem hrun hplan hready.length hrow (of_decide_eq_true hrunId)
    refine (slot_ne_of_done hplan hdone).1 ?_
    rw [← hsame]
    exact hrowKey

/-- The next attempt at a unit has a new number. -/
theorem nextAttempt_fresh {tables : RunTables}
    (hrun : RunInvariant allowed (ledgerOf tables) core inputs) {unit : WorkUnitRow}
    (hunit : unit ∈ tables.units) (hid : unit.runId = core.runId) :
    ⟨core.runId, unit.stableKey, unit.attemptCount + 1⟩ ∉ tables.attempts.map attemptKey := by
  intro hmem
  have hattempts := hrun.attempts (unitMark unit) (mem_unitsOf.mpr ⟨List.mem_map_of_mem hunit, hid⟩)
  have hnumber : unit.attemptCount + 1 ∈
      (ledgerOf tables).attemptsOf core.runId unit.stableKey := by
    refine List.mem_map.mpr ⟨_, List.mem_filter.mpr ⟨hmem, ?_⟩, rfl⟩
    rw [decide_eq_true rfl, decide_eq_true rfl]
    rfl
  change (ledgerOf tables).attemptsOf core.runId unit.stableKey = _ at hattempts
  rw [hattempts] at hnumber
  have hbound := List.mem_range'_1.mp hnumber
  change _ ∧ _ < 1 + unit.attemptCount at hbound
  omega

/-- The next slot can be attempted. -/
theorem startAttempt_accepts {done rest : List Slot} {slot : Slot} {predecessor : Digest}
    {tables : RunTables}
    (hready : Ready allowed finished session core inputs published done predecessor tables)
    (hplan : plan core.matchweek = done ++ slot :: rest) (phase : RunPhase)
    (inputDigest : Digest) (ownerToken : String) :
    ∃ outcome, startAttempt session.runId slot.stableKey phase inputDigest ownerToken tables =
      .ok outcome := by
  unfold startAttempt
  split
  · next hfind =>
      obtain ⟨unit, hunit, hat, hopen⟩ := openUnit_of_ready hready hplan
      have hnone := List.find?_eq_none.mp hfind unit hunit
      rw [hat, decide_eq_true hopen] at hnone
      exact absurd rfl hnone
  · next found hfind =>
      have hfound := List.find?_some hfind
      have hmem := List.mem_of_find?_eq_some hfind
      have hat : (unitMark found).at session.runId slot.stableKey = true :=
        (Bool.and_eq_true_iff.mp hfound).1
      obtain ⟨hid, hkey⟩ := unitAt_iff.mp hat
      have hfresh := nextAttempt_fresh hready.holds.run hmem (hid.trans hready.holds.runId.symm)
      rw [hready.holds.runId] at hfresh
      change found.stableKey = slot.stableKey at hkey
      rw [hkey] at hfresh
      dsimp only
      rw [if_neg fun hany => hfresh (any_attemptAt_iff.mp hany)]
      exact ⟨_, rfl⟩

/-- The checkpoint of the slot is new, and its attempt is stored. -/
theorem checkpoint_accepts {done rest : List Slot} {slot : Slot} {predecessor : Digest}
    {attempt : ℕ} {tables : RunTables}
    (hworking : Working allowed finished session core inputs published done slot predecessor
      attempt tables)
    (hplan : plan core.matchweek = done ++ slot :: rest) (result : WorkResult) :
    ∃ outcome, checkpoint (slotCheckpoint session.runId core.inputDigest slot predecessor attempt
      result) tables = .ok outcome := by
  have hslot : slot ∈ plan core.matchweek := by
    rw [hplan]
    exact List.mem_append_right _ List.mem_cons_self
  unfold checkpoint
  dsimp only
  rw [if_neg, if_neg]
  · exact ⟨_, rfl⟩
  · have hany : tables.attempts.any (·.at session.runId slot.stableKey attempt) = true :=
      any_attemptAt_iff.mpr hworking.attempted
    change ¬(!tables.attempts.any (·.at session.runId slot.stableKey attempt)) = true
    rw [hany]
    exact Bool.false_ne_true
  · intro hany
    obtain ⟨row, hrow, hplace⟩ := List.any_eq_true.mp hany
    obtain ⟨hid, hplace⟩ := Bool.and_eq_true_iff.mp hplace
    have hid : row.runId = core.runId := (of_decide_eq_true hid).trans hworking.holds.runId.symm
    have hdone := checkpoint_slot_mem hworking.holds.run hplan hworking.length hrow hid
    obtain ⟨hkey, horder⟩ := slot_ne_of_done hplan hdone
    rcases Bool.or_eq_true_iff.mp hplace with hsame | hsame
    · exact hkey (of_decide_eq_true hsame)
    · exact horder ((of_decide_eq_true hsame).trans (mem_plan_order hslot))

/-- A run with all its checkpoints can be completed where nothing is published. -/
theorem completeRun_accepts {output : Digest} {tables : RunTables}
    (hready : Ready allowed finished session core inputs [] (plan core.matchweek) output tables)
    (digest : Digest) : ∃ outcome, completeRun session.runId digest tables = .ok outcome := by
  have hlength : (tables.checkpoints.filter fun row => row.runId = session.runId).length = 7 := by
    have hall := hready.length
    rw [hready.holds.runId, plan_length] at hall
    exact hall
  unfold completeRun
  rw [if_neg (not_not.mpr hlength), hready.holds.published]
  exact ⟨_, rfl⟩

/-- The row of a stored run. -/
theorem run?_of_core {tables : RunTables} (hinvariant : Invariant allowed finished tables)
    (hcore : core ∈ (ledgerOf tables).cores) :
    ∃ row, tables.run? core.runId = some row ∧ coreOf row = core := by
  cases hfind : tables.run? core.runId with
  | none =>
      obtain ⟨row, hrow, hsame⟩ := List.mem_map.mp hcore
      have hnone := List.find?_eq_none.mp hfind row hrow
      rw [← hsame, decide_eq_true_iff] at hnone
      exact absurd rfl hnone
  | some row =>
      obtain ⟨hmem, hid⟩ := run?_mem hfind
      exact ⟨row, rfl, List.inj_on_of_nodup_map hinvariant.ids hmem hcore hid⟩

theorem status_accepts {tables : RunTables} (hinvariant : Invariant allowed finished tables)
    (hcore : core ∈ (ledgerOf tables).cores)
    (hrun : RunInvariant allowed (ledgerOf tables) core inputs) :
    ∃ status, tables.status core.runId = .ok status := by
  obtain ⟨row, hfind, hsame⟩ := run?_of_core hinvariant hcore
  have hstored : RunInputContract.fromStored row.inputContract = .ok inputs := by
    have hcontract : row.inputContract = inputs.toStored :=
      (congrArg RunCore.inputContract hsame).trans hrun.contract
    rw [hcontract, RunInputContract.fromStored_toStored]
  unfold RunTables.status
  rw [hfind]
  dsimp only
  rw [hstored]
  exact ⟨_, rfl⟩

theorem matchweekOf_accepts {tables : RunTables} (hinvariant : Invariant allowed finished tables)
    (hcore : core ∈ (ledgerOf tables).cores) :
    matchweekOf tables core.runId = .ok core.matchweek := by
  obtain ⟨row, hfind, hsame⟩ := run?_of_core hinvariant hcore
  unfold matchweekOf
  rw [hfind, ← hsame]
  rfl

/-! ### The whole session -/

variable {work : WorkInput → WorkResult}

theorem executeSlot_completes (hperforms : Performs work session.executor)
    (hadmits : Admits allowed session.runId session.executor) (hid : core.runId = session.runId)
    (hdigest : session.inputs.aggregateDigest = core.inputDigest) {done rest : List Slot}
    {slot : Slot} (hplan : plan core.matchweek = done ++ slot :: rest) (predecessor : Digest) :
    Completes (Ready allowed finished session core inputs published done predecessor)
      (executeSlot session core.matchweek slot predecessor) := by
  unfold executeSlot
  rw [hdigest]
  refine Completes.bind (transact_completes fun _ hready =>
    startAttempt_accepts hready hplan _ _ _) (startSlot_meets slot _ _ _) fun attempt => ?_
  have hperform (before : RunTables → Prop) (context : WorkContext) :
      Completes before (performWork session.executor context) := by
    have hhazard : Meets before (Call.hazard : RunCall Unit) (fun _ => before) before :=
      Meets.hazard fun _ => id
    exact Completes.catching (Completes.bind Completes.hazard hhazard fun _ =>
      Completes.lift (hperforms context))
  refine Completes.bind (hperform _ _)
    (performWork_meets _ _ fun _ hbefore => hbefore.holds.invariant) fun result => ?_
  refine Completes.bind (Completes.catching Completes.hazard)
    (stopOverrun_meets _ fun _ hbefore => hbefore.1.holds.invariant) fun _ => ?_
  rintro clock state ⟨hworking, hresult⟩
  have hpublish : Completes (Working allowed finished session core inputs published done slot
      predecessor attempt)
      (publishCheckpoint (slotContext session core slot predecessor attempt) result) := by
    have hverify : Meets (Working allowed finished session core inputs published done slot
        predecessor attempt) (verifyArtifacts result.artifactDigests) (fun _ => Working allowed
        finished session core inputs published done slot predecessor attempt) _ :=
      verifyArtifacts_meets (fun _ => id) _
    refine Completes.catching (Completes.bind (verifyArtifacts_completes _ _) hverify fun _ => ?_)
    have htransact : Meets (Working allowed finished session core inputs published done slot
        predecessor attempt) (transact (checkpoint (slotCheckpoint session.runId core.inputDigest
        slot predecessor attempt result))) (fun _ _ => True) fun _ => True :=
      transact_meets (fun _ _ _ _ _ => trivial) (fun _ _ => trivial) fun _ _ => id
    exact Completes.bind (transact_completes fun _ hbefore => checkpoint_accepts hbefore hplan _)
      htransact fun _ => Completes.ret _
  have hfinish (output : Digest) : Completes (Ready allowed finished session core inputs published
      (done ++ [slot]) output) (do
        Call.hazard
        Call.ret output : RunCall Digest) := by
    have hhazard : Meets (Ready allowed finished session core inputs published (done ++ [slot])
        output) (Call.hazard : RunCall Unit) (fun _ _ => True) fun _ => True :=
      (Meets.hazard fun _ => id).weaken (fun _ => id) (fun _ _ _ => trivial) fun _ _ => trivial
    exact Completes.bind Completes.hazard hhazard fun _ => Completes.ret output
  exact Completes.bind hpublish (publishSlot_meets hplan (hadmits.slot hid hresult)) hfinish
    clock state hworking

theorem executeSlots_completes (hperforms : Performs work session.executor)
    (hadmits : Admits allowed session.runId session.executor) (hid : core.runId = session.runId)
    (hdigest : session.inputs.aggregateDigest = core.inputDigest) {completedKeys : List String}
    (done rest : List Slot) (hplan : plan core.matchweek = done ++ rest)
    (hopen : ∀ slot ∈ rest, slot.stableKey ∉ completedKeys) (predecessor : Digest) :
    Completes (Ready allowed finished session core inputs published done predecessor)
      (executeSlots session core.matchweek completedKeys rest predecessor) := by
  induction rest generalizing done predecessor with
  | nil => exact Completes.ret ()
  | cons slot rest ih =>
      obtain ⟨hslot, hrest⟩ := List.forall_mem_cons.mp hopen
      rw [executeSlots, if_neg hslot]
      refine Completes.bind (executeSlot_completes hperforms hadmits hid hdigest hplan predecessor)
        (executeSlot_meets hadmits hid hdigest hplan predecessor) fun output => ?_
      exact ih (done ++ [slot]) (by rw [List.append_assoc]; exact hplan) hrest output

theorem remainingSlots_completes (hperforms : Performs work session.executor)
    (hadmits : Admits allowed session.runId session.executor) {origin : RunTables}
    {rows : List CheckpointRow}
    (hholds : Holds allowed finished session core inputs published origin)
    (hidle : origin.runningAttempts = [])
    (hrows : rows = (ledgerOf origin).checkpointsOf core.runId) :
    Completes (fun tables => tables = origin)
      (executeSlots session core.matchweek (rows.map CheckpointRow.stableKey)
        (plan core.matchweek) (lastOutput rows (session.inputs.digests .predecessors))) := by
  rw [remaining_eq hholds hrows]
  have hloop : Completes (Ready allowed finished session core inputs published
      ((plan core.matchweek).take rows.length)
      (lastOutput rows (session.inputs.digests .predecessors))) _ :=
    executeSlots_completes hperforms hadmits hholds.runId hholds.aggregateDigest _ _
      (List.take_append_drop rows.length (plan core.matchweek)).symm
      (fun slot => remaining_open hholds hrows) _
  refine hloop.weaken ?_
  rintro tables rfl
  exact remaining_ready hholds hidle hrows

theorem publishCompletion_completes {output : Digest} :
    Completes (Ready allowed finished session core inputs [] (plan core.matchweek) output)
      (publishCompletion session) := by
  have hread (tables : RunTables)
      (hready : Ready allowed finished session core inputs [] (plan core.matchweek) output tables) :
      Invariant allowed finished tables := hready.holds.invariant
  refine Completes.bind (Completes.consult fun _ _ => ⟨_, rfl⟩)
    (Meets.consult (fun _ _ hready _ => hready) hread) fun rows => ?_
  exact Completes.catching (Completes.bind Completes.hazard (Meets.hazard hread) fun _ =>
    transact_completes fun _ hready => completeRun_accepts hready _)

/-- Where nothing is published, a session without interruption returns. -/
theorem execute_completes (hperforms : Performs work session.executor)
    (hadmits : Admits allowed session.runId session.executor) :
    Completes (Waiting allowed finished session core inputs []) (execute session) := by
  intro clock origin horigin
  obtain ⟨hholds, hidle⟩ := horigin
  have hfind : ∃ matchweek, matchweekOf origin session.runId = .ok matchweek :=
    ⟨_, hholds.runId ▸ matchweekOf_accepts hholds.invariant hholds.stored⟩
  have hstatus (tables : RunTables)
      (hfinished : Finished allowed finished core inputs tables) :
      ∃ status, tables.status session.runId = .ok status := by
    have hok := status_accepts hfinished.invariant hfinished.stored hfinished.run
    rw [← hholds.runId]
    exact hok
  have hcall : Completes (fun tables => tables = origin) (execute session) := by
    refine Completes.bind (Completes.consult fun _ _ => ⟨_, rfl⟩) (readCheckpoints_meets hholds)
      fun rows => Completes.given fun hrows => ?_
    refine Completes.bind (Completes.consult ?_) (readMatchweek_meets hholds)
      fun matchweek => Completes.given fun hmatchweek => ?_
    · rintro tables rfl
      exact hfind
    rw [hmatchweek]
    refine Completes.bind (remainingSlots_completes hperforms hadmits hholds hidle hrows)
      (remainingSlots_meets hadmits hholds hidle hrows) fun _ => ?_
    refine Completes.bind (Completes.exists fun output => publishCompletion_completes)
      (Meets.exists fun output => publishCompletion_meets) fun _ => ?_
    exact Completes.consult hstatus
  exact hcall clock origin rfl

end Uninterrupted

/-! ### A start in an empty store -/

theorem ledger_steady (tables : RunTables) :
    Steady fun other => ledgerOf other = ledgerOf tables :=
  fun _ _ hsame hquiet => hquiet.ledger.trans hsame

/-- There is no run. -/
structure Blank (tables : RunTables) : Prop where
  ledger : ledgerOf tables = ledgerOf RunTables.empty
  idle : tables.runningAttempts = []

theorem Blank.runs {tables : RunTables} (hblank : Blank tables) : tables.runs = [] :=
  List.map_eq_nil_iff.mp (congrArg RunLedger.cores hblank.ledger)

theorem blank_steady : Steady Blank :=
  fun _ _ hblank hquiet => ⟨hquiet.ledger.trans hblank.ledger, hquiet.idle hblank.idle⟩

/-- Where nothing runs, no coordinator is active. -/
theorem interruptAbandoned_blank (alive : String → Bool) :
    Completes Blank (interruptAbandoned alive) ∧
      Meets Blank (interruptAbandoned alive)
        (fun active tables => Blank tables ∧ active = none) Blank := by
  have hread : Meets Blank
      (Call.consult fun tables => .ok tables.runningAttempts : RunCall (List AttemptRow))
      (fun running tables => Blank tables ∧ running = []) Blank :=
    Meets.consult (fun _ _ hblank hok => ⟨hblank, (Except.ok.inj hok).symm.trans hblank.idle⟩)
      fun _ => id
  constructor
  · refine Completes.bind (Completes.consult fun _ _ => ⟨_, rfl⟩) hread fun running =>
      Completes.given fun hrunning => ?_
    rw [hrunning]
    exact Completes.ret none
  · refine Meets.bind hread fun running => Meets.given fun hrunning => ?_
    rw [hrunning]
    exact Meets.ret fun _ hblank => ⟨hblank, rfl⟩

section Start

variable [ContentAddressing] {environment : Environment} {runId matchweek : String}
  {work : WorkInput → WorkResult}

theorem Blank.invariant {allowed : Work → Digest → Prop} {tables : RunTables}
    (hblank : Blank tables) : Invariant allowed [] tables := by
  have hempty : Invariant allowed [] RunTables.empty := empty_invariant
  constructor
  · rw [hblank.ledger]
    exact hempty.ids
  · rw [hblank.ledger]
    exact hempty.owned
  · rw [hblank.ledger]
    exact hempty.runs
  · rw [hblank.idle]
    exact Nat.zero_le 1
  · exact fun _ hmem => absurd hmem List.not_mem_nil

theorem verifyInputArtifacts_completes {before : RunTables → Prop} (inputs : RunInputContract)
    (code recoveryCommand : String) (target : Option String) :
    Completes before (verifyInputArtifacts inputs code recoveryCommand target) :=
  Completes.catching (verifyArtifacts_completes before _)

theorem createRun_accepts {preflight : PreflightResult} (hmatchweek : matchweek ≠ "")
    (hconcurrency : 1 ≤ preflight.cpuConcurrency ∧ preflight.cpuConcurrency ≤ 2)
    {tables : RunTables} (hblank : Blank tables) :
    ∃ outcome, createRun (newRun environment runId matchweek preflight) tables = .ok outcome := by
  unfold createRun
  rw [hblank.runs, List.map_nil, if_neg List.not_mem_nil, if_neg]
  · exact ⟨_, rfl⟩
  · rintro (hempty | hchecks)
    · exact hmatchweek hempty
    · exact hchecks hconcurrency

theorem startRun_completes (hperforms : Performs work environment.executor)
    {preflight : PreflightResult} (hmatchweek : matchweek ≠ "")
    (hconcurrency : 1 ≤ preflight.cpuConcurrency ∧ preflight.cpuConcurrency ≤ 2) :
    Completes Blank (startRun environment runId matchweek preflight) := by
  have hcreate : Meets Blank (transact (createRun (newRun environment runId matchweek preflight)))
      (fun _ => Waiting (worked work runId) [] (sessionOf environment runId
        preflight.cpuConcurrency) (startedCore environment runId matchweek) environment.inputs [])
      (Invariant (worked work runId) []) := by
    refine transact_meets (fun tables next _ hblank hnext => ?_) (fun _ hblank => hblank.invariant)
      fun _ _ hwaiting => hwaiting.1.invariant
    have hpublished : tables.completions = [] := congrArg RunLedger.completions hblank.ledger
    rw [← hpublished]
    exact created_waiting hblank.invariant hblank.idle (createRun_created hnext)
  refine Completes.bind (transact_completes fun _ => createRun_accepts hmatchweek hconcurrency)
    hcreate fun _ => ?_
  refine Completes.bind Completes.hazard
    (Meets.hazard fun _ hwaiting => hwaiting.1.invariant) fun _ => ?_
  exact execute_completes hperforms (hperforms.conforms.admits runId)

/-- A start without interruption returns. -/
theorem start_completes (hperforms : Performs work environment.executor)
    {preflight : PreflightResult} (hmatchweek : matchweek ≠ "")
    (hpreflight : preflightResources environment.estimate environment.observation
      environment.budget = .ok preflight)
    (hconcurrency : 1 ≤ preflight.cpuConcurrency ∧ preflight.cpuConcurrency ≤ 2) :
    Completes Blank (start environment runId matchweek) := by
  have haccepted : preflightOf environment (fun error => .lifecycle error "") = .ok preflight := by
    unfold preflightOf
    rw [hpreflight]
  have hblank : Meets Blank (Call.hazard : RunCall Unit) (fun _ => Blank) Blank :=
    Meets.hazard fun _ => id
  refine Completes.bind Completes.hazard hblank fun _ => ?_
  refine Completes.bind (Completes.lift haccepted) (Meets.computed fun _ => id) fun found =>
    Completes.given fun hfound => ?_
  obtain rfl : preflight = found := Except.ok.inj (haccepted.symm.trans hfound)
  refine Completes.bind Completes.hazard hblank fun _ => ?_
  refine Completes.bind (verifyInputArtifacts_completes _ _ _ _)
    (verifyInputArtifacts_meets blank_steady _ _ _ _) fun _ => ?_
  obtain ⟨hcompletes, hmeets⟩ := interruptAbandoned_blank environment.alive
  refine Completes.bind hcompletes hmeets fun active => Completes.given fun hactive => ?_
  rw [hactive]
  have hread : Meets Blank (Call.consult fun tables => .ok (tables.compatibleIncomplete matchweek
      environment.inputs.aggregateDigest) : RunCall (Option RunRow))
      (fun found tables => Blank tables ∧ found = none) Blank := by
    refine Meets.consult (fun tables found hblank hok => ⟨hblank, ?_⟩) fun _ => id
    cases hok
    unfold RunTables.compatibleIncomplete
    rw [hblank.runs]
    rfl
  refine Completes.bind (Completes.consult fun _ _ => ⟨_, rfl⟩) hread fun compatible =>
    Completes.given fun hcompatible => ?_
  rw [hcompatible]
  exact startRun_completes hperforms hmatchweek hconcurrency

/-- What a start without interruption leaves in an empty store. -/
def startedAlone (environment : Environment) (runId matchweek : String) : RunTables :=
  (start environment runId matchweek).leaves (fun _ => .proceed) RunTables.empty

/-- A start without interruption completes its run. -/
theorem startedAlone_finished (hperforms : Performs work environment.executor)
    {preflight : PreflightResult} (hmatchweek : matchweek ≠ "")
    (hpreflight : preflightResources environment.estimate environment.observation
      environment.budget = .ok preflight)
    (hconcurrency : 1 ≤ preflight.cpuConcurrency ∧ preflight.cpuConcurrency ≤ 2) :
    Finished (worked work runId) [] (startedCore environment runId matchweek) environment.inputs
      (startedAlone environment runId matchweek) := by
  have hblank : Blank RunTables.empty := ⟨rfl, rfl⟩
  have hcompletes : Completes Blank (start environment runId matchweek) :=
    start_completes hperforms hmatchweek hpreflight hconcurrency
  obtain ⟨next, later, status, hreturn⟩ := hcompletes 0 RunTables.empty hblank
  have hadmits : Admits (worked work runId) runId environment.executor :=
    hperforms.conforms.admits runId
  have hfinished := (start_meets hadmits matchweek (fun _ => .proceed) 0 RunTables.empty
    hblank.invariant).1 next later status hreturn
  unfold startedAlone Call.leaves
  rw [hreturn]
  exact hfinished

end Start

/-! ## Resumed runs -/

section Runs

variable [ContentAddressing]

/-- The input and output digests of the checkpoints of a run. -/
def digestsOf (tables : RunTables) (runId : String) : List (Digest × Digest) :=
  (tables.checkpointsOf runId).map fun row => (row.inputDigest, row.outputDigest)

/-- A complete run has the digests that the work has. -/
theorem digestsOf_complete {work : WorkInput → WorkResult} {tables : RunTables}
    {core : RunCore} {inputs : RunInputContract} {runId : String}
    (hrun : RunInvariant (worked work runId) (ledgerOf tables) core inputs)
    (hid : core.runId = runId) (hstate : core.state = .complete) :
    digestsOf tables runId = workedOut work core.matchweek inputs.aggregateDigest
      (inputs.digests .predecessors) (plan core.matchweek) := by
  subst hid
  have hfull := hrun.full hstate
  rw [← plan_length core.matchweek] at hfull
  unfold digestsOf
  rw [checkpointsOf_eq hrun, ← hrun.digest]
  exact Chained.digests hrun.chained hfull

theorem resumeRecord_different {tables : RunTables} {environment : Environment} {runId : String}
    {record : RunRow} {stored : RunInputContract}
    (hstored : RunInputContract.fromStored record.inputContract = .ok stored)
    (hdifferent : stored.differences environment.inputs ≠ []) (preflight : PreflightResult) :
    Meets (fun other => ledgerOf other = ledgerOf tables)
      (resumeRecord environment runId preflight record)
      (fun _ other => ledgerOf other = ledgerOf tables)
      fun other => ledgerOf other = ledgerOf tables := by
  unfold resumeRecord
  split
  · exact Meets.raise fun _ => id
  refine Meets.bind (Meets.computed fun _ => id) fun found => Meets.given fun hfound => ?_
  obtain rfl : stored = found := Except.ok.inj (hstored.symm.trans hfound)
  rw [if_pos hdifferent]
  exact refuseDifferent_meets (ledger_steady tables) _ _ _

section Different

variable {allowed : Work → Digest → Prop} {finished : List RunRow} {tables : RunTables}
  {row : RunRow} {stored : RunInputContract} {environment : Environment}

theorem resumeFound_different (hinvariant : Invariant allowed finished tables)
    (hrow : row ∈ tables.runs)
    (hstored : RunInputContract.fromStored row.inputContract = .ok stored)
    (hdifferent : stored.differences environment.inputs ≠ []) (preflight : PreflightResult) :
    Meets (fun other => ledgerOf other = ledgerOf tables)
      (resumeFound environment row.runId preflight)
      (fun _ other => ledgerOf other = ledgerOf tables)
      fun other => ledgerOf other = ledgerOf tables := by
  have hread : Meets (fun other => ledgerOf other = ledgerOf tables)
      (Call.consult fun tables => .ok (tables.run? row.runId) : RunCall (Option RunRow))
      (fun found other => ledgerOf other = ledgerOf tables ∧
        ∀ record, found = some record → coreOf record = coreOf row)
      fun other => ledgerOf other = ledgerOf tables := by
    refine Meets.consult (fun other found hsame hok => ⟨hsame, fun record hfound => ?_⟩)
      fun _ => id
    cases hok
    obtain ⟨hmem, hid⟩ := run?_mem hfound
    rw [hsame] at hmem
    exact List.inj_on_of_nodup_map hinvariant.ids hmem (List.mem_map_of_mem hrow) hid
  refine Meets.bind hread fun found => Meets.given fun hfound => ?_
  cases found with
  | none => exact Meets.raise fun _ => id
  | some record =>
      have hsame : record.inputContract = row.inputContract :=
        congrArg RunCore.inputContract (hfound record rfl)
      rw [← hsame] at hstored
      exact resumeRecord_different hstored hdifferent preflight

/-- A resume under other inputs changes nothing that the ledger shows. -/
theorem resume_different (hinvariant : Invariant allowed finished tables)
    (hrow : row ∈ tables.runs)
    (hstored : RunInputContract.fromStored row.inputContract = .ok stored)
    (hdifferent : stored.differences environment.inputs ≠ []) :
    Meets (fun other => ledgerOf other = ledgerOf tables) (resume environment row.runId)
      (fun _ other => ledgerOf other = ledgerOf tables)
      fun other => ledgerOf other = ledgerOf tables := by
  refine Meets.bind (Meets.hazard fun _ => id) fun _ => ?_
  refine Meets.bind (Meets.checked fun _ => id) fun preflight => ?_
  refine Meets.bind (Meets.hazard fun _ => id) fun _ => ?_
  refine Meets.bind (interruptAbandoned_meets (ledger_steady tables) _) fun active => ?_
  cases active with
  | some other => exact Meets.raise fun _ hbefore => hbefore.1
  | none =>
      exact (resumeFound_different hinvariant hrow hstored hdifferent preflight).weaken
        (fun _ hbefore => hbefore.1) (fun _ _ => id) fun _ => id

end Different

/-- A start under the same inputs whose work is done and whose resources suffice. -/
structure Undisturbed (work : WorkInput → WorkResult) (inputs : RunInputContract)
    (environment : Environment) : Prop where
  inputs : environment.inputs = inputs
  performs : Performs work environment.executor
  accepted : ∃ preflight, preflightResources environment.estimate environment.observation
    environment.budget = .ok preflight ∧ preflight.cpuConcurrency ≤ 2

/-- A complete run has the digests of one start without interruption under its inputs, and
a resume under other inputs adds no attempt and no checkpoint. -/
def ResumesAlike (work : WorkInput → WorkResult) (tables : RunTables) (row : RunRow) : Prop :=
  ∃ stored, RunInputContract.fromStored row.inputContract = .ok stored ∧
    (row.state = .complete →
      ∀ environment, Undisturbed work stored environment → ∀ other : String,
        (∃ alone ∈ (startedAlone environment other row.matchweek).runs,
          alone.runId = other ∧ alone.state = .complete) ∧
        digestsOf tables row.runId =
          digestsOf (startedAlone environment other row.matchweek) other) ∧
    ∀ (environment : Environment) (fates : ℕ → Fate RunFault),
      stored.differences environment.inputs ≠ [] →
        (Step.apply tables ⟨.resume row.runId, environment, fates⟩).attempts.map attemptKey =
            tables.attempts.map attemptKey ∧
          (Step.apply tables ⟨.resume row.runId, environment, fates⟩).checkpoints =
            tables.checkpoints

/-- However often runs are interrupted, fail or are lost in a crash, each one whose
executors do the same work resumes alike. -/
theorem run_resumed (work : WorkInput → WorkResult) (steps : List Step) {row : RunRow}
    (hrow : row ∈ (run Step.apply RunTables.empty steps).runs)
    (hconforms : ∀ step ∈ steps, step.runId = row.runId →
      Conforms work step.environment.executor) :
    ResumesAlike work (run Step.apply RunTables.empty steps) row := by
  have hadmitted : ∀ step ∈ steps, Step.Admitted (worked work row.runId) step := by
    intro step hstep
    by_cases hsame : step.runId = row.runId
    · exact (hconforms step hstep hsame).admits row.runId
    · exact worked_of_ne hsame
  have hinvariant := run_invariant empty_invariant steps hadmitted
  obtain ⟨inputs, hrun⟩ := hinvariant.runs (coreOf row) (List.mem_map_of_mem hrow)
  have hstored : RunInputContract.fromStored row.inputContract = .ok inputs := by
    have hcontract : row.inputContract = inputs.toStored := hrun.contract
    rw [hcontract, RunInputContract.fromStored_toStored]
  refine ⟨inputs, hstored, fun hstate environment halone other => ?_,
    fun environment fates hdifferent => ?_⟩
  · obtain ⟨preflight, hpreflight, hconcurrency⟩ := halone.accepted
    have hfinished : Finished (worked work other) []
        (startedCore environment other row.matchweek) environment.inputs
        (startedAlone environment other row.matchweek) :=
      startedAlone_finished halone.performs hrun.named hpreflight
        ⟨preflightResources_concurrency_pos hpreflight, hconcurrency⟩
    constructor
    · obtain ⟨alone, halone, hcore⟩ := List.mem_map.mp hfinished.stored
      exact ⟨alone, halone, congrArg RunCore.runId hcore, congrArg RunCore.state hcore⟩
    · have hsole := digestsOf_complete hfinished.run rfl rfl
      rw [halone.inputs] at hsole
      exact (digestsOf_complete hrun rfl hstate).trans hsole.symm
  · have hkept : ledgerOf (Step.apply (run Step.apply RunTables.empty steps)
        ⟨.resume row.runId, environment, fates⟩) =
        ledgerOf (run Step.apply RunTables.empty steps) :=
      Meets.leaves (resume_different hinvariant hrow hstored hdifferent) rfl fates
    exact ⟨congrArg RunLedger.attempts hkept, congrArg RunLedger.checkpoints hkept⟩

end Runs

/-! ## A run that a crash interrupts -/

namespace Rehearsal

def zeros : Digest := ⟨String.ofList (List.replicate 64 '0'), Foundation.Identifier.isDigest_zeros⟩

def ones : Digest := ⟨String.ofList (List.replicate 64 '1'), Foundation.Identifier.isDigest_ones⟩

/-- Texts and canonical JSON have one digest each. -/
@[reducible]
def plainAddressing : ContentAddressing where
  digestOf
    | .json _ => ones
    | .bytes _ => zeros
  lengthOf
    | .json _ => 2
    | .bytes octets => octets.length
  urlUuid _ := ⟨"00000000-0000-0000-0000-000000000000", Foundation.Identifier.canonicalUuid_zero⟩

local instance : ContentAddressing := plainAddressing

def work : WorkInput → WorkResult := fun _ => ⟨zeros, [], List.nodup_nil⟩

theorem one_operation : 1 ≤ 1 := le_rfl

theorem two_cpus : 1 ≤ 2 := by decide

def environment : Environment where
  inputs := ⟨fun _ => "identity", ⟨[], .nil, .nil⟩, ⟨[], .nil, .nil⟩⟩
  estimate := ⟨0, 0, 1, 0, 1, one_operation⟩
  observation := ⟨0, 4294967296, 4294967296, 2, false, false, 0, two_cpus⟩
  budget := settledResourceBudget
  executor context := .ok (work (contextInput context))
  ownerToken := "1:1"
  alive _ := false
  storePath := "store"

/-- The process ends in the second phase, and the run is resumed. -/
def steps : List Step :=
  [⟨.start "run" "week", environment, fun effect => if effect = 19 then .crash (.os "") else
      .proceed⟩,
    ⟨.resume "run", environment, fun _ => .proceed⟩]

/-- The row of the run after the resume. -/
def finalRow : RunRow :=
  (run Step.apply RunTables.empty steps).runs.head (by decide +kernel)

example : finalRow.state = .complete := by decide +kernel

theorem run_resumed_after_crash :
    ResumesAlike work (run Step.apply RunTables.empty steps) finalRow := by
  refine run_resumed work steps (List.head_mem _) fun step hstep _ => ?_
  have hexecutor : step.environment = environment := by
    rcases List.mem_cons.mp hstep with rfl | hlast
    · rfl
    · rw [List.mem_singleton.mp hlast]
  rw [hexecutor]
  intro context result hresult
  exact (Except.ok.inj hresult).symm

end Rehearsal

end MatchVet.Runs.Resumption
