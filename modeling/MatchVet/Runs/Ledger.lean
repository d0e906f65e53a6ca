import MatchVet.Foundation.Transition
import MatchVet.Runs.Coordinator

/-!
# What transactions do to a run

The ledger is what the lifecycle of a run depends on: the inputs and the state of each
run, how often each unit was attempted and whether it is complete, the attempts, the
checkpoints and the completions.  A transaction changes it in one of four ways or not at
all.
-/

namespace MatchVet.Runs.Ledger

open MatchVet.Artifacts.Manifest
open MatchVet.Foundation.Identifier
open MatchVet.Foundation.KeySort
open MatchVet.Foundation.TableUpdate
open MatchVet.Foundation.Transition
open MatchVet.Runs.Contract
open MatchVet.Runs.Preflight
open MatchVet.Runs.Tables

/-! ## The ledger -/

/-- The part of a run that its checkpoints depend on. -/
structure RunCore where
  runId : String
  matchweek : String
  state : RunState
  inputContract : StoredContract
  inputDigest : Digest

def coreOf (row : RunRow) : RunCore :=
  ⟨row.runId, row.matchweek, row.state, row.inputContract, row.inputDigest⟩

structure UnitMark where
  runId : String
  slot : Slot
  attemptCount : ℕ
  complete : Bool

def unitMark (unit : WorkUnitRow) : UnitMark :=
  ⟨unit.runId, ⟨unit.stableKey, unit.phase, unit.phaseOrder⟩, unit.attemptCount,
    unit.state = .complete⟩

def UnitMark.at (runId stableKey : String) (mark : UnitMark) : Bool :=
  mark.runId = runId && mark.slot.stableKey = stableKey

structure AttemptKey where
  runId : String
  stableKey : String
  attempt : ℕ
  deriving DecidableEq

def attemptKey (row : AttemptRow) : AttemptKey := ⟨row.runId, row.stableKey, row.attempt⟩

structure RunLedger where
  cores : List RunCore
  units : List UnitMark
  attempts : List AttemptKey
  checkpoints : List CheckpointRow
  completions : List CompletionRow

def RunLedger.unitsOf (ledger : RunLedger) (runId : String) : List UnitMark :=
  ledger.units.filter fun mark => mark.runId = runId

/-- The numbers of the attempts at a unit. -/
def RunLedger.attemptsOf (ledger : RunLedger) (runId stableKey : String) : List ℕ :=
  (ledger.attempts.filter fun key => key.runId = runId && key.stableKey = stableKey).map
    AttemptKey.attempt

def RunLedger.checkpointsOf (ledger : RunLedger) (runId : String) : List CheckpointRow :=
  ledger.checkpoints.filter fun row => row.runId = runId

theorem mem_unitsOf {ledger : RunLedger} {runId : String} {mark : UnitMark} :
    mark ∈ ledger.unitsOf runId ↔ mark ∈ ledger.units ∧ mark.runId = runId := by
  unfold RunLedger.unitsOf
  rw [List.mem_filter, decide_eq_true_iff]

theorem unitAt_iff {runId stableKey : String} {mark : UnitMark} :
    mark.at runId stableKey = true ↔ mark.runId = runId ∧ mark.slot.stableKey = stableKey := by
  unfold UnitMark.at
  rw [Bool.and_eq_true_iff, decide_eq_true_iff, decide_eq_true_iff]

/-- The units of a run after an update of one key. -/
theorem unitsOf_updateWhere {ledger : RunLedger} {runId stableKey other : String}
    {update : UnitMark → UnitMark} (hkeep : ∀ mark, (update mark).runId = mark.runId) :
    { ledger with units := updateWhere (·.at runId stableKey) update ledger.units }.unitsOf other =
      updateWhere (·.at runId stableKey) update (ledger.unitsOf other) := by
  refine filter_updateWhere (fun mark => ?_) _
  rw [hkeep]

theorem unitsOf_updateWhere_of_ne {ledger : RunLedger} {runId stableKey other : String}
    {update : UnitMark → UnitMark} (hkeep : ∀ mark, (update mark).runId = mark.runId)
    (hne : other ≠ runId) :
    { ledger with units := updateWhere (·.at runId stableKey) update ledger.units }.unitsOf other =
      ledger.unitsOf other := by
  rw [unitsOf_updateWhere hkeep]
  refine updateWhere_of_unmatched fun mark hmem => ?_
  obtain ⟨-, hother⟩ := mem_unitsOf.mp hmem
  cases hat : mark.at runId stableKey with
  | false => rfl
  | true => exact absurd (hother.symm.trans (unitAt_iff.mp hat).1) hne

/-! ### The four changes -/

/-- One more attempt at a unit. -/
def RunLedger.attempted (ledger : RunLedger) (runId stableKey : String) (attempt : ℕ) :
    RunLedger :=
  { ledger with
    units := updateWhere (·.at runId stableKey)
      (fun mark => { mark with attemptCount := attempt, complete := false }) ledger.units
    attempts := ledger.attempts ++ [{ runId, stableKey, attempt }] }

/-- A checkpoint of a unit. -/
def RunLedger.checkpointed (ledger : RunLedger) (row : CheckpointRow) : RunLedger :=
  { ledger with
    units := updateWhere (·.at row.runId row.stableKey)
      (fun mark => { mark with complete := true }) ledger.units
    checkpoints := ledger.checkpoints ++ [row] }

def RunCore.at (runId : String) (core : RunCore) : Bool :=
  core.runId = runId && core.state = .incomplete

/-- The completion of a run. -/
def RunLedger.completed (ledger : RunLedger) (row : CompletionRow) : RunLedger :=
  { ledger with
    cores := updateWhere (·.at row.runId) (fun core => { core with state := .complete })
      ledger.cores
    completions := ledger.completions ++ [row] }

/-- A new run with its units. -/
def RunLedger.created (ledger : RunLedger) (core : RunCore) : RunLedger :=
  { ledger with
    cores := ledger.cores ++ [core]
    units := ledger.units ++ (plan core.matchweek).map fun slot => ⟨core.runId, slot, 0, false⟩ }

theorem attempted_unitsOf (ledger : RunLedger) (runId stableKey : String) (attempt : ℕ)
    (other : String) :
    (ledger.attempted runId stableKey attempt).unitsOf other =
      updateWhere (·.at runId stableKey)
        (fun mark => { mark with attemptCount := attempt, complete := false })
        (ledger.unitsOf other) :=
  unitsOf_updateWhere fun _ => rfl

theorem attempted_attemptsOf_self (ledger : RunLedger) (runId stableKey : String)
    (attempt : ℕ) :
    (ledger.attempted runId stableKey attempt).attemptsOf runId stableKey =
      ledger.attemptsOf runId stableKey ++ [attempt] := by
  unfold RunLedger.attemptsOf RunLedger.attempted
  dsimp only
  rw [List.filter_append, List.map_append]
  simp

theorem attempted_attemptsOf_of_ne (ledger : RunLedger) {runId stableKey : String}
    (attempt : ℕ) {other key : String} (hne : ¬(runId = other ∧ stableKey = key)) :
    (ledger.attempted runId stableKey attempt).attemptsOf other key =
      ledger.attemptsOf other key := by
  unfold RunLedger.attemptsOf RunLedger.attempted
  dsimp only
  rw [List.filter_append, List.map_append]
  simpa using not_and.mp hne

theorem checkpointed_unitsOf (ledger : RunLedger) (row : CheckpointRow) (other : String) :
    (ledger.checkpointed row).unitsOf other =
      updateWhere (·.at row.runId row.stableKey) (fun mark => { mark with complete := true })
        (ledger.unitsOf other) :=
  unitsOf_updateWhere fun _ => rfl

theorem checkpointed_checkpointsOf_self (ledger : RunLedger) (row : CheckpointRow) :
    (ledger.checkpointed row).checkpointsOf row.runId =
      ledger.checkpointsOf row.runId ++ [row] := by
  unfold RunLedger.checkpointsOf RunLedger.checkpointed
  dsimp only
  rw [List.filter_append]
  simp

theorem checkpointed_checkpointsOf_of_ne (ledger : RunLedger) {row : CheckpointRow}
    {other : String} (hne : row.runId ≠ other) :
    (ledger.checkpointed row).checkpointsOf other = ledger.checkpointsOf other := by
  unfold RunLedger.checkpointsOf RunLedger.checkpointed
  dsimp only
  rw [List.filter_append]
  simp [hne]

theorem created_unitsOf_self {ledger : RunLedger} {core : RunCore}
    (hfresh : ledger.unitsOf core.runId = []) :
    ((ledger.created core).unitsOf core.runId).map UnitMark.slot = plan core.matchweek := by
  unfold RunLedger.unitsOf at hfresh ⊢
  unfold RunLedger.created
  dsimp only
  rw [List.filter_append, hfresh, List.nil_append, List.filter_eq_self.mpr, List.map_map]
  · exact List.map_id _
  · intro mark hmark
    obtain ⟨slot, -, rfl⟩ := List.mem_map.mp hmark
    exact decide_eq_true rfl

theorem created_unitsOf_of_ne (ledger : RunLedger) {core : RunCore} {other : String}
    (hne : core.runId ≠ other) :
    (ledger.created core).unitsOf other = ledger.unitsOf other := by
  unfold RunLedger.unitsOf RunLedger.created
  dsimp only
  have hnew : ((plan core.matchweek).map fun slot => (⟨core.runId, slot, 0, false⟩ : UnitMark)).filter
      (fun mark => mark.runId = other) = [] := by
    refine List.filter_eq_nil_iff.mpr fun mark hmark => ?_
    obtain ⟨slot, -, rfl⟩ := List.mem_map.mp hmark
    exact fun heq => hne (of_decide_eq_true heq)
  rw [List.filter_append, hnew, List.append_nil]

/-! ### Rows and their runs -/

/-- Every row belongs to a run. -/
structure Owned (ledger : RunLedger) : Prop where
  units : ∀ mark ∈ ledger.units, mark.runId ∈ ledger.cores.map RunCore.runId
  attempts : ∀ key ∈ ledger.attempts, key.runId ∈ ledger.cores.map RunCore.runId
  checkpoints : ∀ row ∈ ledger.checkpoints, row.runId ∈ ledger.cores.map RunCore.runId
  completions : ∀ row ∈ ledger.completions, row.runId ∈ ledger.cores.map RunCore.runId

theorem Owned.unitsOf_eq_nil {ledger : RunLedger} (howned : Owned ledger) {runId : String}
    (hfresh : runId ∉ ledger.cores.map RunCore.runId) : ledger.unitsOf runId = [] := by
  refine List.filter_eq_nil_iff.mpr fun mark hmark heq => hfresh ?_
  rw [← of_decide_eq_true heq]
  exact howned.units mark hmark

theorem Owned.attemptsOf_eq_nil {ledger : RunLedger} (howned : Owned ledger) {runId : String}
    (hfresh : runId ∉ ledger.cores.map RunCore.runId) (stableKey : String) :
    ledger.attemptsOf runId stableKey = [] := by
  unfold RunLedger.attemptsOf
  rw [List.map_eq_nil_iff]
  refine List.filter_eq_nil_iff.mpr fun key hkey heq => hfresh ?_
  rw [← of_decide_eq_true (Bool.and_eq_true_iff.mp heq).1]
  exact howned.attempts key hkey

theorem Owned.checkpointsOf_eq_nil {ledger : RunLedger} (howned : Owned ledger)
    {runId : String} (hfresh : runId ∉ ledger.cores.map RunCore.runId) :
    ledger.checkpointsOf runId = [] := by
  refine List.filter_eq_nil_iff.mpr fun row hrow heq => hfresh ?_
  rw [← of_decide_eq_true heq]
  exact howned.checkpoints row hrow

def ledgerOf (tables : RunTables) : RunLedger where
  cores := tables.runs.map coreOf
  units := tables.units.map unitMark
  attempts := tables.attempts.map attemptKey
  checkpoints := tables.checkpoints
  completions := tables.completions

/-! ## Transactions that change nothing of it -/

/-- The ledger stays, no attempt starts to run, and finished runs stay as they are. -/
structure Quiet (tables next : RunTables) : Prop where
  ledger : ledgerOf next = ledgerOf tables
  running : (next.runningAttempts.map attemptKey).Sublist (tables.runningAttempts.map attemptKey)
  sealed : ∀ row ∈ tables.runs, row.state = .complete → row ∈ next.runs

theorem Quiet.refl (tables : RunTables) : Quiet tables tables :=
  ⟨rfl, List.Sublist.refl _, fun _ hmem _ => hmem⟩

theorem Quiet.trans (first second third : RunTables) (hfirst : Quiet first second)
    (hsecond : Quiet second third) : Quiet first third where
  ledger := hsecond.ledger.trans hfirst.ledger
  running := hsecond.running.trans hfirst.running
  sealed row hmem hstate := hsecond.sealed row (hfirst.sealed row hmem hstate) hstate

theorem Quiet.idle {tables next : RunTables} (hquiet : Quiet tables next)
    (hidle : tables.runningAttempts = []) : next.runningAttempts = [] := by
  have hrunning := hquiet.running
  rw [hidle] at hrunning
  exact List.map_eq_nil_iff.mp (List.eq_nil_of_sublist_nil hrunning)

theorem complete_mem_updateRun {tables : RunTables} {runId : String} {update : RunRow → RunRow}
    {row : RunRow} (hmem : row ∈ tables.runs) (hstate : row.state = .complete) :
    row ∈ (tables.updateRun runId update).runs := by
  refine mem_updateWhere_of_unmatched hmem ?_
  rw [hstate]
  exact Bool.and_false _

/-- An update of a run that leaves its inputs and its state. -/
theorem updateRun_quiet (tables : RunTables) (runId : String) {update : RunRow → RunRow}
    (hcore : ∀ row, coreOf (update row) = coreOf row) :
    Quiet tables (tables.updateRun runId update) where
  ledger := by
    unfold ledgerOf RunTables.updateRun
    dsimp only
    rw [map_updateWhere_of_kept fun row _ => hcore row]
  running := List.Sublist.refl _
  sealed _ hmem hstate := complete_mem_updateRun hmem hstate

theorem closeAttempt_quiet (tables : RunTables) (runId stableKey : String) (attempt : ℕ)
    {status : AttemptStatus} (hstatus : status ≠ .running) (code explanation : String) :
    Quiet tables (tables.closeAttempt runId stableKey attempt status code explanation) where
  ledger := by
    have hattempts : (tables.closeAttempt runId stableKey attempt status code
        explanation).attempts.map attemptKey = tables.attempts.map attemptKey := by
      refine map_updateWhere_of_kept (fun row _ => ?_) _
      rfl
    have hunits : (tables.closeAttempt runId stableKey attempt status code
        explanation).units.map unitMark = tables.units.map unitMark := by
      refine map_updateWhere_of_kept (fun unit hmatching => ?_) _
      have hstate : unit.state = .running :=
        of_decide_eq_true (Bool.and_eq_true_iff.mp hmatching).2
      unfold unitMark
      rw [hstate]
      rfl
    unfold ledgerOf
    rw [hattempts, hunits]
    rfl
  running := by
    refine List.Sublist.map attemptKey (filter_updateWhere_sublist (fun row _ => ?_) _)
    exact decide_eq_false hstatus
  sealed _ hmem _ := hmem

/-- No attempt at the closed place runs any longer. -/
theorem closeAttempt_running {tables : RunTables} {runId stableKey : String} {attempt : ℕ}
    {status : AttemptStatus} (hstatus : status ≠ .running) {code explanation : String}
    {row : AttemptRow}
    (hrow : row ∈ (tables.closeAttempt runId stableKey attempt status code
      explanation).runningAttempts) :
    row ∈ tables.runningAttempts ∧ attemptKey row ≠ ⟨runId, stableKey, attempt⟩ := by
  obtain ⟨hmem, hrunning⟩ := List.mem_filter.mp hrow
  have hrunning : row.status = .running := of_decide_eq_true hrunning
  obtain ⟨old, hold, ⟨-, rfl⟩ | ⟨hunmatched, rfl⟩⟩ := mem_updateWhere hmem
  · exact absurd hrunning hstatus
  · refine ⟨List.mem_filter.mpr ⟨hold, decide_eq_true hrunning⟩, fun hkey => ?_⟩
    obtain ⟨hrun, hstable, hattempt⟩ := AttemptKey.mk.inj hkey
    rw [hrunning, decide_eq_true rfl, Bool.and_true, AttemptRow.at, hrun, hstable, hattempt] at hunmatched
    simp at hunmatched

theorem interruptAttempt_quiet (tables : RunTables) (row : AttemptRow) :
    Quiet tables (tables.interruptAttempt row) :=
  closeAttempt_quiet tables _ _ _ (by decide) _ _

theorem noteAbandoned_quiet (tables : RunTables) (runId : String) :
    Quiet tables (tables.noteAbandoned runId) :=
  updateRun_quiet tables runId fun _ => rfl

theorem noteAllAbandoned_quiet (tables : RunTables) (runIds : List String) :
    Quiet tables (runIds.foldl RunTables.noteAbandoned tables) :=
  run_relates Quiet.refl Quiet.trans noteAbandoned_quiet tables runIds

theorem interruptAttempts_quiet {tables next : RunTables} {running : List AttemptRow}
    (hnext : interruptAttempts running tables = .ok (next, ())) : Quiet tables next := by
  cases hnext
  have hclosed : Quiet tables (running.foldl RunTables.interruptAttempt tables) :=
    run_relates Quiet.refl Quiet.trans interruptAttempt_quiet tables running
  exact hclosed.trans _ _ _ (noteAllAbandoned_quiet _ _)

theorem interruptAttempt_running {tables : RunTables} {running : List AttemptRow}
    {row : AttemptRow}
    (hrow : row ∈ (running.foldl RunTables.interruptAttempt tables).runningAttempts) :
    row ∈ tables.runningAttempts ∧ row ∉ running := by
  induction running generalizing tables with
  | nil => exact ⟨hrow, List.not_mem_nil⟩
  | cons closed rest ih =>
      obtain ⟨hmem, hrest⟩ := ih hrow
      obtain ⟨hrunning, hkey⟩ := closeAttempt_running (by decide) hmem
      refine ⟨hrunning, fun hcons => ?_⟩
      rcases List.mem_cons.mp hcons with rfl | hin
      · exact hkey rfl
      · exact hrest hin

/-- After the interruption no attempt runs. -/
theorem interruptAttempts_idle {tables next : RunTables}
    (hnext : interruptAttempts tables.runningAttempts tables = .ok (next, ())) :
    next.runningAttempts = [] := by
  cases hnext
  refine (noteAllAbandoned_quiet _ _).idle (List.eq_nil_iff_forall_not_mem.mpr fun row hrow => ?_)
  obtain ⟨hmem, hnot⟩ := interruptAttempt_running hrow
  exact hnot hmem

theorem finishAttempt_quiet {tables next : RunTables} {runId stableKey : String} {attempt : ℕ}
    {status : StoppedStatus} {error : RunError}
    (hnext : finishAttempt runId stableKey attempt status error tables = .ok (next, ())) :
    Quiet tables next := by
  cases hnext
  refine Quiet.trans _ _ _ (closeAttempt_quiet tables runId stableKey attempt ?_ _ _)
    (updateRun_quiet _ runId fun _ => rfl)
  cases status <;> nofun

theorem recordError_quiet {tables next : RunTables} {runId : String} {error : RunError}
    {reuseState : String} (hnext : recordError runId error reuseState tables = .ok (next, ())) :
    Quiet tables next := by
  cases hnext
  exact updateRun_quiet tables runId fun _ => rfl

theorem markResumed_quiet {tables next : RunTables} {runId : String} {cpuConcurrency : ℤ}
    {warnings : List String} {ownerToken : String}
    (hnext : markResumed runId cpuConcurrency warnings ownerToken tables = .ok (next, ())) :
    Quiet tables next := by
  unfold markResumed at hnext
  split at hnext
  · cases hnext
  · cases hnext
    exact updateRun_quiet tables runId fun _ => rfl

/-! ## The four transactions that change it -/

theorem updateRun_ledger (tables : RunTables) (runId : String) {update : RunRow → RunRow}
    (hcore : ∀ row, coreOf (update row) = coreOf row) :
    ledgerOf (tables.updateRun runId update) = ledgerOf tables :=
  (updateRun_quiet tables runId hcore).ledger

/-- What `start_attempt` leaves. -/
structure Started (runId stableKey : String) (attempt : ℕ) (tables next : RunTables) : Prop where
  found : ∃ mark ∈ (ledgerOf tables).units, mark.at runId stableKey = true ∧
    mark.complete = false ∧ attempt = mark.attemptCount + 1
  ledger : ledgerOf next = (ledgerOf tables).attempted runId stableKey attempt
  running : next.runningAttempts.map attemptKey =
    tables.runningAttempts.map attemptKey ++ [⟨runId, stableKey, attempt⟩]
  units : ∀ unit ∈ next.units, unit.at runId stableKey = true → unit.state = .running
  sealed : ∀ row ∈ tables.runs, row.state = .complete → row ∈ next.runs

theorem startAttempt_started {tables next : RunTables} {runId stableKey : String}
    {phase : RunPhase} {inputDigest : Digest} {ownerToken : String} {attempt : ℕ}
    (hnext : startAttempt runId stableKey phase inputDigest ownerToken tables =
      .ok (next, attempt)) : Started runId stableKey attempt tables next := by
  unfold startAttempt at hnext
  split at hnext
  · cases hnext
  next unit hfind =>
    dsimp only at hnext
    split at hnext
    · cases hnext
    cases hnext
    have hfound := List.find?_some hfind
    obtain ⟨hat, hstate⟩ := Bool.and_eq_true_iff.mp hfound
    have hmem := List.mem_of_find?_eq_some hfind
    constructor
    · refine ⟨unitMark unit, List.mem_map_of_mem hmem, hat, ?_, rfl⟩
      exact decide_eq_false (of_decide_eq_true hstate)
    · refine (updateRun_ledger _ _ ?_).trans ?_
      · exact fun _ => rfl
      · unfold ledgerOf
        dsimp only
        rw [List.map_append]
        congr 1
        refine map_updateWhere ?_ ?_ _
        · exact fun _ => rfl
        · exact fun _ _ => rfl
    · change ((tables.attempts ++ _).filter _).map attemptKey = _
      rw [List.filter_append, List.map_append]
      rfl
    · intro other hother hplace
      obtain ⟨old, -, ⟨-, rfl⟩ | ⟨hunmatched, rfl⟩⟩ := mem_updateWhere hother
      · rfl
      · rw [hunmatched] at hplace
        cases hplace
    · exact fun row hrow hcomplete => complete_mem_updateRun hrow hcomplete

/-- The row of a new checkpoint. -/
def checkpointRow (new : NewCheckpoint) : CheckpointRow :=
  ⟨new.runId, new.stableKey, new.phase, phaseIndex new.phase, new.attempt, new.inputDigest,
    new.outputDigest, new.artifactDigests⟩

/-- What `checkpoint` leaves of a unit whose attempt runs. -/
structure Checkpointed (new : NewCheckpoint) (tables next : RunTables) : Prop where
  ledger : ledgerOf next = (ledgerOf tables).checkpointed (checkpointRow new)
  running : (next.runningAttempts.map attemptKey).Sublist (tables.runningAttempts.map attemptKey)
  ended : ∀ row ∈ next.runningAttempts,
    attemptKey row ≠ ⟨new.runId, new.stableKey, new.attempt⟩
  sealed : ∀ row ∈ tables.runs, row.state = .complete → row ∈ next.runs

theorem checkpoint_checkpointed {new : NewCheckpoint} {tables next : RunTables}
    (hunits : ∀ unit ∈ tables.units, unit.at new.runId new.stableKey = true →
      unit.state = .running)
    (hnext : checkpoint new tables = .ok (next, ())) : Checkpointed new tables next := by
  unfold checkpoint at hnext
  dsimp only at hnext
  split at hnext
  · cases hnext
  split at hnext
  · cases hnext
  cases hnext
  constructor
  · refine (updateRun_ledger _ _ ?_).trans ?_
    · exact fun _ => rfl
    unfold ledgerOf
    dsimp only
    congr 1
    · unfold updateWhere
      rw [List.map_map, List.map_map]
      refine List.map_congr_left fun unit hunit => ?_
      change unitMark (if (_ && _) = true then _ else unit) =
        if unit.at new.runId new.stableKey = true then _ else unitMark unit
      cases hat : unit.at new.runId new.stableKey with
      | true =>
          rw [decide_eq_true (hunits unit hunit hat)]
          rfl
      | false => rfl
    · refine map_updateWhere_of_kept ?_ _
      exact fun _ _ => rfl
  · refine List.Sublist.map attemptKey (filter_updateWhere_sublist (fun row _ => ?_) _)
    rfl
  · intro row hrow hkey
    obtain ⟨hmem, hrunning⟩ := List.mem_filter.mp hrow
    have hrunning : row.status = .running := of_decide_eq_true hrunning
    obtain ⟨old, -, ⟨-, rfl⟩ | ⟨hunmatched, rfl⟩⟩ := mem_updateWhere hmem
    · cases hrunning
    · obtain ⟨hrun, hstable, hattempt⟩ := AttemptKey.mk.inj hkey
      rw [hrunning, decide_eq_true rfl, Bool.and_true, AttemptRow.at, hrun, hstable,
        hattempt] at hunmatched
      simp at hunmatched
  · exact fun row hrow hcomplete => complete_mem_updateRun hrow hcomplete

/-- What `complete_run` leaves. -/
structure Completed (row : CompletionRow) (tables next : RunTables) : Prop where
  checkpoints : ((ledgerOf tables).checkpointsOf row.runId).length = 7
  ledger : ledgerOf next = (ledgerOf tables).completed row
  running : next.runningAttempts = tables.runningAttempts
  sealed : ∀ row ∈ tables.runs, row.state = .complete → row ∈ next.runs

theorem completeRun_completed {runId : String} {digest : Digest} {tables next : RunTables}
    (hnext : completeRun runId digest tables = .ok (next, ())) :
    Completed ⟨runId, digest⟩ tables next := by
  unfold completeRun at hnext
  split at hnext
  · cases hnext
  next hcount =>
    split at hnext
    · cases hnext
    cases hnext
    constructor
    · exact not_not.mp hcount
    · unfold ledgerOf RunTables.updateRun
      dsimp only
      congr 1
      refine map_updateWhere ?_ ?_ _
      · exact fun _ => rfl
      · exact fun _ _ => rfl
    · rfl
    · exact fun row hrow hcomplete => complete_mem_updateRun hrow hcomplete

/-- The inputs of a new run. -/
def createdCore [ContentAddressing] (new : NewRun) : RunCore :=
  ⟨new.runId, new.matchweek, .incomplete, new.inputs.toStored, new.inputs.aggregateDigest⟩

/-- What `create_run` leaves. -/
structure Created [ContentAddressing] (new : NewRun) (tables next : RunTables) : Prop where
  named : new.matchweek ≠ ""
  fresh : new.runId ∉ (ledgerOf tables).cores.map RunCore.runId
  ledger : ledgerOf next = (ledgerOf tables).created (createdCore new)
  running : next.runningAttempts = tables.runningAttempts
  sealed : ∀ row ∈ tables.runs, row.state = .complete → row ∈ next.runs

theorem createRun_created [ContentAddressing] {new : NewRun} {tables next : RunTables}
    (hnext : createRun new tables = .ok (next, ())) : Created new tables next := by
  unfold createRun at hnext
  split at hnext
  · cases hnext
  next hfresh =>
    split at hnext
    · cases hnext
    next hchecks =>
    cases hnext
    constructor
    · exact (not_or.mp hchecks).1
    · change new.runId ∉ (tables.runs.map coreOf).map RunCore.runId
      rw [List.map_map]
      exact hfresh
    · unfold ledgerOf
      dsimp only
      rw [List.map_append, List.map_append, List.map_map]
      rfl
    · rfl
    · exact fun row hrow _ => List.mem_append_left _ hrow

end MatchVet.Runs.Ledger
