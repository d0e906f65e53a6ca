import MatchVet.Runs.Ledger

/-!
# The invariant of the run tables

The checkpoints of a run follow its plan, each from the output of the one before.  A
unit is complete when its checkpoint is stored, a run when its completion is.
-/

namespace MatchVet.Runs.Progress

open MatchVet.Artifacts.Manifest
open MatchVet.Foundation.CrashLogic
open MatchVet.Foundation.Identifier
open MatchVet.Foundation.KeySort
open MatchVet.Foundation.TableUpdate
open MatchVet.Runs.Contract
open MatchVet.Runs.Coordinator
open MatchVet.Runs.Ledger
open MatchVet.Runs.Preflight
open MatchVet.Runs.Tables

/-! ## Chains of checkpoints -/

/-- What a checkpoint says was worked on. -/
structure Work where
  runId : String
  stableKey : String
  matchweek : String
  phase : RunPhase
  inputDigest : Digest
  predecessorDigest : Digest

theorem mem_plan_order {matchweek : String} {slot : Slot} (hslot : slot ∈ plan matchweek) :
    phaseIndex slot.phase = slot.phaseOrder := by
  obtain ⟨entry, hentry, rfl⟩ := List.mem_map.mp hslot
  have hall : ∀ place ∈ runPhases.zipIdx, phaseIndex place.1 = place.2 := by decide
  exact hall entry hentry

def rowSlot (row : CheckpointRow) : Slot := ⟨row.stableKey, row.phase, row.checkpointOrder⟩

theorem lastOutput_cons (row : CheckpointRow) (rows : List CheckpointRow) (start : Digest) :
    lastOutput (row :: rows) start = lastOutput rows row.outputDigest := by
  cases rows with
  | nil => rfl
  | cons next rest =>
      unfold lastOutput
      rw [List.getLast?_cons_cons]
      cases hlast : (next :: rest).getLast? with
      | none => simp at hlast
      | some last => rfl

section Chains

variable [ContentAddressing] (allowed : Work → Digest → Prop) (runId matchweek : String)
  (contractDigest : Digest)

def workAt (slot : Slot) (predecessor : Digest) : Work where
  runId := runId
  stableKey := slot.stableKey
  matchweek := matchweek
  phase := slot.phase
  inputDigest := workInputDigest contractDigest slot.stableKey predecessor
  predecessorDigest := predecessor

/-- The rows stand at the first slots, each works on the output of the one before, and
its output is allowed. -/
def Chained : Digest → List Slot → List CheckpointRow → Prop
  | _, _, [] => True
  | _, [], _ :: _ => False
  | predecessor, slot :: slots, row :: rows =>
      rowSlot row = slot ∧
        row.inputDigest = workInputDigest contractDigest slot.stableKey predecessor ∧
        allowed (workAt runId matchweek contractDigest slot predecessor) row.outputDigest ∧
        Chained row.outputDigest slots rows

variable {allowed runId matchweek contractDigest}

theorem Chained.nil (start : Digest) (slots : List Slot) :
    Chained allowed runId matchweek contractDigest start slots [] := by
  cases slots with
  | nil => trivial
  | cons slot rest => trivial

theorem Chained.slots {start : Digest} {slots : List Slot} {rows : List CheckpointRow}
    (hchained : Chained allowed runId matchweek contractDigest start slots rows) :
    rows.map rowSlot = slots.take rows.length := by
  induction rows generalizing start slots with
  | nil => rfl
  | cons row rest ih =>
      cases slots with
      | nil => exact hchained.elim
      | cons slot others =>
          obtain ⟨hslot, -, -, hrest⟩ := hchained
          rw [List.map_cons, List.length_cons, List.take_succ_cons, hslot, ih hrest]

/-- Each row works on the output of the row before it. -/
theorem Chained.input {start : Digest} {slots : List Slot} {before after : List CheckpointRow}
    {row : CheckpointRow}
    (hchained : Chained allowed runId matchweek contractDigest start slots
      (before ++ row :: after)) :
    row.inputDigest =
      workInputDigest contractDigest row.stableKey (lastOutput before start) := by
  induction before generalizing start slots with
  | nil =>
      cases slots with
      | nil => exact hchained.elim
      | cons slot others =>
          obtain ⟨rfl, hinput, -, -⟩ := hchained
          exact hinput
  | cons first rest ih =>
      cases slots with
      | nil => exact hchained.elim
      | cons slot others =>
          obtain ⟨-, -, -, hrest⟩ := hchained
          rw [lastOutput_cons]
          exact ih hrest

/-- The next slot continues the chain. -/
theorem Chained.append {start : Digest} {done rest : List Slot} {slot : Slot}
    {rows : List CheckpointRow} {row : CheckpointRow}
    (hchained : Chained allowed runId matchweek contractDigest start (done ++ slot :: rest) rows)
    (hlength : rows.length = done.length) (hslot : rowSlot row = slot)
    (hinput : row.inputDigest =
      workInputDigest contractDigest slot.stableKey (lastOutput rows start))
    (hallowed : allowed (workAt runId matchweek contractDigest slot (lastOutput rows start))
      row.outputDigest) :
    Chained allowed runId matchweek contractDigest start (done ++ slot :: rest)
      (rows ++ [row]) := by
  induction rows generalizing start done with
  | nil =>
      obtain rfl : done = [] := List.eq_nil_of_length_eq_zero hlength.symm
      exact ⟨hslot, hinput, hallowed, Chained.nil _ _⟩
  | cons first others ih =>
      cases done with
      | nil => cases hlength
      | cons head tail =>
          obtain ⟨hfirst, hdigest, houtput, hothers⟩ := hchained
          rw [lastOutput_cons] at hinput hallowed
          exact ⟨hfirst, hdigest, houtput,
            ih hothers (Nat.succ.inj hlength) hinput hallowed⟩

end Chains

/-! ## The invariant -/

section Invariant

variable [ContentAddressing] (allowed : Work → Digest → Prop)

/-- What the ledger says of one run. -/
structure RunInvariant (ledger : RunLedger) (core : RunCore) (inputs : RunInputContract) :
    Prop where
  named : core.matchweek ≠ ""
  contract : core.inputContract = inputs.toStored
  digest : core.inputDigest = inputs.aggregateDigest
  units : (ledger.unitsOf core.runId).map UnitMark.slot = plan core.matchweek
  attempts : ∀ mark ∈ ledger.unitsOf core.runId,
    ledger.attemptsOf core.runId mark.slot.stableKey = List.range' 1 mark.attemptCount
  chained : Chained allowed core.runId core.matchweek core.inputDigest
    (inputs.digests .predecessors) (plan core.matchweek) (ledger.checkpointsOf core.runId)
  complete : ∀ mark ∈ ledger.unitsOf core.runId, mark.complete = true ↔
    mark.slot.stableKey ∈ (ledger.checkpointsOf core.runId).map CheckpointRow.stableKey
  finished : core.state = .complete ↔ core.runId ∈ ledger.completions.map CompletionRow.runId
  full : core.state = .complete → (ledger.checkpointsOf core.runId).length = 7

/-- The invariant of the tables; the finished rows stay. -/
structure Invariant (finished : List RunRow) (tables : RunTables) : Prop where
  ids : ((ledgerOf tables).cores.map RunCore.runId).Nodup
  owned : Owned (ledgerOf tables)
  runs : ∀ core ∈ (ledgerOf tables).cores, ∃ inputs,
    RunInvariant allowed (ledgerOf tables) core inputs
  once : tables.runningAttempts.length ≤ 1
  sealed : ∀ row ∈ finished, row.state = .complete ∧ row ∈ tables.runs

variable {allowed} {finished : List RunRow} {tables next : RunTables}

theorem Invariant.quiet (hinvariant : Invariant allowed finished tables)
    (hquiet : Quiet tables next) : Invariant allowed finished next where
  ids := by
    rw [hquiet.ledger]
    exact hinvariant.ids
  owned := by
    rw [hquiet.ledger]
    exact hinvariant.owned
  runs := by
    rw [hquiet.ledger]
    exact hinvariant.runs
  once := by
    have hlength := hquiet.running.length_le
    rw [List.length_map, List.length_map] at hlength
    exact hlength.trans hinvariant.once
  sealed row hmem := by
    obtain ⟨hstate, hrow⟩ := hinvariant.sealed row hmem
    exact ⟨hstate, hquiet.sealed row hrow hstate⟩

/-- A run of which every part stays as it was. -/
theorem RunInvariant.congr {ledger other : RunLedger} {core : RunCore}
    {inputs : RunInputContract} (hrun : RunInvariant allowed ledger core inputs)
    (hunits : other.unitsOf core.runId = ledger.unitsOf core.runId)
    (hattempts : ∀ stableKey,
      other.attemptsOf core.runId stableKey = ledger.attemptsOf core.runId stableKey)
    (hcheckpoints : other.checkpointsOf core.runId = ledger.checkpointsOf core.runId)
    (hcompletions : core.runId ∈ other.completions.map CompletionRow.runId ↔
      core.runId ∈ ledger.completions.map CompletionRow.runId) :
    RunInvariant allowed other core inputs where
  named := hrun.named
  contract := hrun.contract
  digest := hrun.digest
  units := by
    rw [hunits]
    exact hrun.units
  attempts := by
    rw [hunits]
    intro mark hmem
    rw [hattempts]
    exact hrun.attempts mark hmem
  chained := by
    rw [hcheckpoints]
    exact hrun.chained
  complete := by
    rw [hunits, hcheckpoints]
    exact hrun.complete
  finished := by
    rw [hcompletions]
    exact hrun.finished
  full := by
    rw [hcheckpoints]
    exact hrun.full

/-- The units of a run are told apart by their keys. -/
theorem RunInvariant.unit_inj {ledger : RunLedger} {core : RunCore} {inputs : RunInputContract}
    (hrun : RunInvariant allowed ledger core inputs) {first second : UnitMark}
    (hfirst : first ∈ ledger.unitsOf core.runId) (hsecond : second ∈ ledger.unitsOf core.runId)
    (hkey : first.slot.stableKey = second.slot.stableKey) : first = second := by
  have hnodup := plan_keys_nodup core.matchweek
  rw [← hrun.units, List.map_map] at hnodup
  exact List.inj_on_of_nodup_map hnodup hfirst hsecond hkey

/-! ## Attempts -/

/-- A unit that is attempted once more. -/
theorem RunInvariant.attempted {ledger : RunLedger} {core : RunCore} {inputs : RunInputContract}
    (hrun : RunInvariant allowed ledger core inputs) {stableKey : String} {mark : UnitMark}
    (hmark : mark ∈ ledger.unitsOf core.runId) (hkey : mark.slot.stableKey = stableKey)
    (hopen : mark.complete = false) :
    RunInvariant allowed (ledger.attempted core.runId stableKey (mark.attemptCount + 1)) core
      inputs := by
  have hsame (unit : UnitMark) (hunit : unit ∈ ledger.unitsOf core.runId)
      (hat : unit.at core.runId stableKey = true) : unit = mark :=
    hrun.unit_inj hunit hmark ((unitAt_iff.mp hat).2.trans hkey.symm)
  refine
    { named := hrun.named
      contract := hrun.contract
      digest := hrun.digest
      units := ?_
      attempts := ?_
      chained := hrun.chained
      complete := ?_
      finished := hrun.finished
      full := hrun.full }
  · rw [attempted_unitsOf, map_updateWhere_of_kept]
    · exact hrun.units
    · exact fun _ _ => rfl
  · rw [attempted_unitsOf]
    intro unit hunit
    obtain ⟨old, hold, ⟨hat, rfl⟩ | ⟨hnot, rfl⟩⟩ := mem_updateWhere hunit
    · obtain rfl := hsame old hold hat
      subst hkey
      rw [attempted_attemptsOf_self, hrun.attempts old hold, List.range'_concat, Nat.one_mul,
        Nat.add_comm 1]
    · rw [attempted_attemptsOf_of_ne, hrun.attempts unit hold]
      rintro ⟨-, hsameKey⟩
      have hat := unitAt_iff.mpr ⟨(mem_unitsOf.mp hold).2, hsameKey.symm⟩
      rw [hnot] at hat
      cases hat
  · rw [attempted_unitsOf]
    intro unit hunit
    obtain ⟨old, hold, ⟨hat, rfl⟩ | ⟨hnot, rfl⟩⟩ := mem_updateWhere hunit
    · obtain rfl := hsame old hold hat
      have hcomplete := hrun.complete old hold
      rw [hopen] at hcomplete
      exact hcomplete
    · exact hrun.complete unit hold

theorem Invariant.started (hinvariant : Invariant allowed finished tables)
    (hidle : tables.runningAttempts = []) {runId stableKey : String} {attempt : ℕ}
    (hstarted : Started runId stableKey attempt tables next) :
    Invariant allowed finished next := by
  obtain ⟨mark, hmark, hat, hopen, rfl⟩ := hstarted.found
  obtain ⟨hid, hkey⟩ := unitAt_iff.mp hat
  constructor
  · rw [hstarted.ledger]
    exact hinvariant.ids
  · rw [hstarted.ledger]
    obtain ⟨hunits, hattempts, hcheckpoints, hcompletions⟩ := hinvariant.owned
    refine ⟨fun unit hunit => ?_, fun key hmem => ?_, hcheckpoints, hcompletions⟩
    · obtain ⟨old, hold, ⟨-, rfl⟩ | ⟨-, rfl⟩⟩ := mem_updateWhere hunit
      · exact hunits old hold
      · exact hunits unit hold
    · rcases List.mem_append.mp hmem with hold | hnew
      · exact hattempts key hold
      · rw [List.mem_singleton.mp hnew, ← hid]
        exact hunits mark hmark
  · rw [hstarted.ledger]
    intro core hcore
    obtain ⟨inputs, hrun⟩ := hinvariant.runs core hcore
    refine ⟨inputs, ?_⟩
    by_cases hcase : core.runId = runId
    · subst hcase
      exact hrun.attempted (mem_unitsOf.mpr ⟨hmark, hid⟩) hkey hopen
    · refine hrun.congr ?_ ?_ rfl Iff.rfl
      · exact unitsOf_updateWhere_of_ne (fun _ => rfl) hcase
      · exact fun _ => attempted_attemptsOf_of_ne _ _ fun heq => hcase heq.1.symm
  · have hlength := congrArg List.length hstarted.running
    rw [hidle, List.length_map] at hlength
    exact hlength.le
  · intro row hrow
    obtain ⟨hstate, hmem⟩ := hinvariant.sealed row hrow
    exact ⟨hstate, hstarted.sealed row hmem hstate⟩

/-! ## Checkpoints -/

/-- A checkpoint of the next slot of a run. -/
theorem RunInvariant.checkpointed {ledger : RunLedger} {core : RunCore}
    {inputs : RunInputContract} (hrun : RunInvariant allowed ledger core inputs)
    {done rest : List Slot} {slot : Slot} (hplan : plan core.matchweek = done ++ slot :: rest)
    (hlength : (ledger.checkpointsOf core.runId).length = done.length) {row : CheckpointRow}
    (hid : row.runId = core.runId) (hslot : rowSlot row = slot)
    (hinput : row.inputDigest = workInputDigest core.inputDigest slot.stableKey
      (lastOutput (ledger.checkpointsOf core.runId) (inputs.digests .predecessors)))
    (hallowed : allowed (workAt core.runId core.matchweek core.inputDigest slot
      (lastOutput (ledger.checkpointsOf core.runId) (inputs.digests .predecessors)))
      row.outputDigest) :
    RunInvariant allowed (ledger.checkpointed row) core inputs := by
  have hrows : (ledger.checkpointed row).checkpointsOf core.runId =
      ledger.checkpointsOf core.runId ++ [row] := by
    rw [← hid, checkpointed_checkpointsOf_self]
  refine
    { named := hrun.named
      contract := hrun.contract
      digest := hrun.digest
      units := ?_
      attempts := ?_
      chained := ?_
      complete := ?_
      finished := hrun.finished
      full := fun hstate => ?_ }
  · rw [checkpointed_unitsOf, map_updateWhere_of_kept]
    · exact hrun.units
    · exact fun _ _ => rfl
  · rw [checkpointed_unitsOf]
    intro unit hunit
    obtain ⟨old, hold, ⟨-, rfl⟩ | ⟨-, rfl⟩⟩ := mem_updateWhere hunit
    · exact hrun.attempts old hold
    · exact hrun.attempts unit hold
  · have hchained := hrun.chained
    rw [hrows, hplan]
    rw [hplan] at hchained
    exact hchained.append hlength hslot hinput hallowed
  · rw [checkpointed_unitsOf, hrows, List.map_append]
    intro unit hunit
    obtain ⟨old, hold, ⟨hat, rfl⟩ | ⟨hnot, rfl⟩⟩ := mem_updateWhere hunit
    · refine iff_of_true rfl (List.mem_append_right _ (List.mem_singleton.mpr ?_))
      exact (unitAt_iff.mp hat).2
    · rw [List.mem_append, ← hrun.complete unit hold]
      refine ⟨Or.inl, ?_⟩
      rintro (hcomplete | hkey)
      · exact hcomplete
      · have hat := unitAt_iff.mpr ⟨(mem_unitsOf.mp hold).2.trans hid.symm,
          List.mem_singleton.mp hkey⟩
        rw [hnot] at hat
        cases hat
  · have hfull := hrun.full hstate
    have hseven := plan_length core.matchweek
    rw [hplan, List.length_append, List.length_cons] at hseven
    omega

theorem Invariant.checkpointed (hinvariant : Invariant allowed finished tables)
    {new : NewCheckpoint} (hcheckpointed : Checkpointed new tables next) {core : RunCore}
    (hcore : core ∈ (ledgerOf tables).cores) {inputs : RunInputContract}
    (hid : new.runId = core.runId)
    (hnew : RunInvariant allowed ((ledgerOf tables).checkpointed (checkpointRow new)) core inputs) :
    Invariant allowed finished next := by
  constructor
  · rw [hcheckpointed.ledger]
    exact hinvariant.ids
  · rw [hcheckpointed.ledger]
    obtain ⟨hunits, hattempts, hcheckpoints, hcompletions⟩ := hinvariant.owned
    refine ⟨fun unit hunit => ?_, hattempts, fun row hmem => ?_, hcompletions⟩
    · obtain ⟨old, hold, ⟨-, rfl⟩ | ⟨-, rfl⟩⟩ := mem_updateWhere hunit
      · exact hunits old hold
      · exact hunits unit hold
    · rcases List.mem_append.mp hmem with hold | hrow
      · exact hcheckpoints row hold
      · rw [List.mem_singleton.mp hrow]
        change new.runId ∈ _
        rw [hid]
        exact List.mem_map_of_mem hcore
  · rw [hcheckpointed.ledger]
    intro other hother
    by_cases hcase : other.runId = core.runId
    · obtain rfl := List.inj_on_of_nodup_map hinvariant.ids hother hcore hcase
      exact ⟨inputs, hnew⟩
    · obtain ⟨others, hrun⟩ := hinvariant.runs other hother
      have hne : other.runId ≠ new.runId := fun heq => hcase (heq.trans hid)
      refine ⟨others, hrun.congr ?_ (fun _ => rfl) ?_ Iff.rfl⟩
      · exact unitsOf_updateWhere_of_ne (fun _ => rfl) hne
      · exact checkpointed_checkpointsOf_of_ne _ hne.symm
  · have hlength := hcheckpointed.running.length_le
    rw [List.length_map, List.length_map] at hlength
    exact hlength.trans hinvariant.once
  · intro row hrow
    obtain ⟨hstate, hmem⟩ := hinvariant.sealed row hrow
    exact ⟨hstate, hcheckpointed.sealed row hmem hstate⟩

/-! ## Completions and new runs -/

/-- A run whose completion is stored. -/
theorem RunInvariant.completed {ledger : RunLedger} {core : RunCore} {inputs : RunInputContract}
    (hrun : RunInvariant allowed ledger core inputs) {completion : CompletionRow}
    (hid : completion.runId = core.runId)
    (hfull : (ledger.checkpointsOf core.runId).length = 7) :
    RunInvariant allowed (ledger.completed completion) { core with state := .complete }
      inputs where
  named := hrun.named
  contract := hrun.contract
  digest := hrun.digest
  units := hrun.units
  attempts := hrun.attempts
  chained := hrun.chained
  complete := hrun.complete
  finished := iff_of_true rfl (List.mem_map.mpr
    ⟨completion, List.mem_append_right _ List.mem_cons_self, hid⟩)
  full _ := hfull

theorem Invariant.completed (hinvariant : Invariant allowed finished tables)
    {completion : CompletionRow}
    (hid : completion.runId ∈ (ledgerOf tables).cores.map RunCore.runId)
    (hcompleted : Completed completion tables next) : Invariant allowed finished next := by
  have hids : (ledgerOf next).cores.map RunCore.runId =
      (ledgerOf tables).cores.map RunCore.runId := by
    rw [hcompleted.ledger]
    refine map_updateWhere_of_kept ?_ _
    exact fun _ _ => rfl
  constructor
  · rw [hids]
    exact hinvariant.ids
  · obtain ⟨hunits, hattempts, hcheckpoints, hcompletions⟩ := hinvariant.owned
    constructor
    · rw [hids, hcompleted.ledger]
      exact hunits
    · rw [hids, hcompleted.ledger]
      exact hattempts
    · rw [hids, hcompleted.ledger]
      exact hcheckpoints
    · rw [hids, hcompleted.ledger]
      intro other hother
      rcases List.mem_append.mp hother with hold | hnew
      · exact hcompletions other hold
      · rw [List.mem_singleton.mp hnew]
        exact hid
  · rw [hcompleted.ledger]
    intro core hcore
    obtain ⟨old, hold, ⟨hat, rfl⟩ | ⟨hnot, rfl⟩⟩ := mem_updateWhere hcore
    · obtain ⟨inputs, hrun⟩ := hinvariant.runs old hold
      have hsame : old.runId = completion.runId := of_decide_eq_true (Bool.and_eq_true_iff.mp hat).1
      refine ⟨inputs, hrun.completed hsame.symm ?_⟩
      rw [hsame]
      exact hcompleted.checkpoints
    · obtain ⟨inputs, hrun⟩ := hinvariant.runs core hold
      refine ⟨inputs, hrun.congr rfl (fun _ => rfl) rfl ?_⟩
      change core.runId ∈ ((ledgerOf tables).completions ++ [completion]).map _ ↔ _
      rw [List.map_append, List.mem_append]
      refine ⟨fun hmem => ?_, Or.inl⟩
      rcases hmem with hkept | hnew
      · exact hkept
      · refine hrun.finished.mp ?_
        rw [RunCore.at, decide_eq_true (List.mem_singleton.mp hnew), Bool.true_and] at hnot
        cases hstate : core.state with
        | incomplete =>
            rw [hstate] at hnot
            cases hnot
        | complete => rfl
  · rw [hcompleted.running]
    exact hinvariant.once
  · intro row hrow
    obtain ⟨hstate, hmem⟩ := hinvariant.sealed row hrow
    exact ⟨hstate, hcompleted.sealed row hmem hstate⟩

/-- A new run has seven units that were never attempted. -/
theorem RunInvariant.created {ledger : RunLedger} (howned : Owned ledger) {new : NewRun}
    (hnamed : new.matchweek ≠ "") (hfresh : new.runId ∉ ledger.cores.map RunCore.runId) :
    RunInvariant allowed (ledger.created (createdCore new)) (createdCore new) new.inputs := by
  have hunits : ∀ mark ∈ (ledger.created (createdCore new)).unitsOf new.runId,
      mark.attemptCount = 0 ∧ mark.complete = false := by
    intro mark hmark
    obtain ⟨hmem, hid⟩ := mem_unitsOf.mp hmark
    rcases List.mem_append.mp hmem with hold | hnew
    · exact absurd (hid ▸ howned.units mark hold) hfresh
    · obtain ⟨slot, -, rfl⟩ := List.mem_map.mp hnew
      exact ⟨rfl, rfl⟩
  refine
    { named := hnamed
      contract := rfl
      digest := rfl
      units := created_unitsOf_self (howned.unitsOf_eq_nil hfresh)
      attempts := fun mark hmark => ?_
      chained := ?_
      complete := fun mark hmark => ?_
      finished := iff_of_false nofun fun hmem => ?_
      full := nofun }
  · rw [(hunits mark hmark).1]
    exact howned.attemptsOf_eq_nil hfresh _
  · have hnone : (ledger.created (createdCore new)).checkpointsOf new.runId = [] :=
      howned.checkpointsOf_eq_nil hfresh
    change Chained allowed _ _ _ _ _ ((ledger.created (createdCore new)).checkpointsOf new.runId)
    rw [hnone]
    exact Chained.nil _ _
  · have hnone : (ledger.created (createdCore new)).checkpointsOf new.runId = [] :=
      howned.checkpointsOf_eq_nil hfresh
    change mark.complete = true ↔ _ ∈
      ((ledger.created (createdCore new)).checkpointsOf new.runId).map _
    rw [hnone, (hunits mark hmark).2]
    exact iff_of_false nofun nofun
  · obtain ⟨completion, hcompletion, hid⟩ := List.mem_map.mp hmem
    have howner := howned.completions completion hcompletion
    rw [hid] at howner
    exact hfresh howner

theorem Invariant.created (hinvariant : Invariant allowed finished tables) {new : NewRun}
    (hcreated : Created new tables next) : Invariant allowed finished next := by
  have hids : (ledgerOf next).cores.map RunCore.runId =
      (ledgerOf tables).cores.map RunCore.runId ++ [new.runId] := by
    rw [hcreated.ledger]
    exact List.map_append
  constructor
  · rw [hids]
    exact List.nodup_append.mpr ⟨hinvariant.ids, List.nodup_singleton _, fun id hid other hother =>
      fun heq => hcreated.fresh (List.mem_singleton.mp hother ▸ heq ▸ hid)⟩
  · obtain ⟨hunits, hattempts, hcheckpoints, hcompletions⟩ := hinvariant.owned
    constructor
    · rw [hids, hcreated.ledger]
      intro mark hmark
      rcases List.mem_append.mp hmark with hold | hnew
      · exact List.mem_append_left _ (hunits mark hold)
      · obtain ⟨slot, -, rfl⟩ := List.mem_map.mp hnew
        exact List.mem_append_right _ (List.mem_singleton.mpr rfl)
    · rw [hids, hcreated.ledger]
      exact fun key hkey => List.mem_append_left _ (hattempts key hkey)
    · rw [hids, hcreated.ledger]
      exact fun row hrow => List.mem_append_left _ (hcheckpoints row hrow)
    · rw [hids, hcreated.ledger]
      exact fun id hid => List.mem_append_left _ (hcompletions id hid)
  · rw [hcreated.ledger]
    intro core hcore
    rcases List.mem_append.mp hcore with hold | hnew
    · obtain ⟨inputs, hrun⟩ := hinvariant.runs core hold
      have hne : (createdCore new).runId ≠ core.runId := fun heq =>
        hcreated.fresh (List.mem_map.mpr ⟨core, hold, heq.symm⟩)
      exact ⟨inputs, hrun.congr (created_unitsOf_of_ne _ hne) (fun _ => rfl) rfl Iff.rfl⟩
    · rw [List.mem_singleton.mp hnew]
      exact ⟨new.inputs, RunInvariant.created hinvariant.owned hcreated.named hcreated.fresh⟩
  · rw [hcreated.running]
    exact hinvariant.once
  · intro row hrow
    obtain ⟨hstate, hmem⟩ := hinvariant.sealed row hrow
    exact ⟨hstate, hcreated.sealed row hmem hstate⟩

end Invariant

end MatchVet.Runs.Progress
