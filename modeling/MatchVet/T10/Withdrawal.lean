import MatchVet.T10.Authority
import MatchVet.T10.EvidenceStore
import MatchVet.T10.GradeFrame

/-!
# Withdrawals

A withdrawal is meant to take effect whatever is stored for its key.  A stored
conflict of higher authority than the incoming records keeps its place, a record
that does not survive storage stops the call, and a correction can leave the key.
-/

namespace MatchVet.T10.Withdrawal

open MatchVet.Foundation.CanonicalJson
open MatchVet.Foundation.Runtime
open MatchVet.Foundation.Transition
open MatchVet.T10.Catalog
open MatchVet.T10.Evidence
open MatchVet.T10.EvidenceStore
open MatchVet.T10.Grade
open MatchVet.T10.GradeFrame
open MatchVet.T10.GradeHistory (rowsOf_append rowsOf_eq_nil)
open MatchVet.T10.Grader
open MatchVet.T10.Grading
open MatchVet.T10.ReadBack
open MatchVet.T10.Recorder

/-! ## The latest row -/

/-- The latest row of a key is a withdrawal. -/
def Withdrawn (store : SettlementStore) (key : String) : Prop :=
  ∃ row, storedGradeRow store key = some row ∧ row.gradingState = "FINAL" ∧
    row.settlementResult = some "VOID" ∧ row.reasonCode = "WITHDRAWN_RECOMMENDATION"

theorem withdrawn_congr {store next : SettlementStore} {key : String}
    (hrows : rowsOf next key = rowsOf store key) : Withdrawn next key ↔ Withdrawn store key := by
  unfold Withdrawn storedGradeRow
  rw [hrows]

/-- A row after the latest one of its key is the latest. -/
theorem storedGradeRow_append {store next : SettlementStore} {row : GradeRow}
    (hgrades : next.grades = store.grades ++ [row])
    (hlater : ∀ last, storedGradeRow store row.gradingKey = some last →
      last.correctionSequence < row.correctionSequence) :
    storedGradeRow next row.gradingKey = some row := by
  rw [storedGradeRow, rowsOf_append hgrades, if_pos rfl, List.argmax_concat]
  cases hlast : (rowsOf store row.gradingKey).argmax latestOrder with
  | none => rfl
  | some last =>
      have hless : latestOrder last < latestOrder row :=
        Prod.Lex.lt_iff.mpr (Or.inl (hlater last hlast))
      exact if_pos hless

theorem rowsOf_append_other {store next : SettlementStore} {row : GradeRow} {key : String}
    (hgrades : next.grades = store.grades ++ [row]) (hkey : row.gradingKey ≠ key) :
    rowsOf next key = rowsOf store key := by
  rw [rowsOf_append hgrades, if_neg hkey, List.append_nil]

section Grades

variable [PyRuntime] [Hashing]

/-! ## Reachable stores -/

/-- A store of recorded grades, with distinct identifiers and a link from each correction
to the grade it corrects. -/
structure Sound (store : SettlementStore) : Prop where
  written : Written store.evidence
  recorded : ∀ row ∈ store.grades, ∃ graded, row = gradeRow graded
  ids : (store.grades.map GradeRow.gradeId).Nodup
  linked : ∀ row ∈ store.grades, ∀ predecessor, row.predecessorGradeId = some predecessor →
    ∃ before ∈ store.grades, before.gradeId = predecessor ∧
      row.correctionSequence = before.correctionSequence + 1

omit [PyRuntime] in
theorem sound_empty : Sound emptyStore where
  written := fun _ hrow => absurd hrow List.not_mem_nil
  recorded := fun _ hrow => absurd hrow List.not_mem_nil
  ids := List.nodup_nil
  linked := fun _ hrow => absurd hrow List.not_mem_nil

omit [PyRuntime] [Hashing] in
theorem gradeId_not_mem {store : SettlementStore} {row : GradeRow}
    (hinsertable : insertable store row = true) :
    row.gradeId ∉ store.grades.map GradeRow.gradeId := by
  intro hmem
  obtain ⟨item, hitem, hsame⟩ := List.mem_map.mp hmem
  rw [insertable, Bool.and_eq_true] at hinsertable
  have hfresh := List.all_eq_true.mp hinsertable.1 item hitem
  rw [Bool.and_eq_true, decide_eq_true_eq] at hfresh
  exact hfresh.1 hsame

omit [PyRuntime] in
/-- A new row keeps a sound store sound. -/
theorem Sound.append {store next : SettlementStore} {graded : SettlementGrade}
    (hsound : Sound store) (hwritten : Written next.evidence)
    (hinsertable : insertable store (gradeRow graded) = true)
    (hlinked : ∀ predecessor, graded.predecessorGradeId = some predecessor →
      ∃ before ∈ store.grades, before.gradeId = predecessor ∧
        graded.correctionSequence = before.correctionSequence + 1)
    (hgrades : next.grades = store.grades ++ [gradeRow graded]) : Sound next where
  written := hwritten
  recorded := by
    intro row hrow
    rw [hgrades] at hrow
    rcases List.mem_append.mp hrow with hrow | hrow
    · exact hsound.recorded row hrow
    · exact ⟨graded, List.mem_singleton.mp hrow⟩
  ids := by
    rw [hgrades, List.map_append, List.map_singleton]
    rw [← List.concat_eq_append]
    exact hsound.ids.concat (gradeId_not_mem hinsertable)
  linked := by
    intro row hrow predecessor hpredecessor
    rw [hgrades] at hrow ⊢
    rcases List.mem_append.mp hrow with hrow | hrow
    · obtain ⟨before, hbefore, hlink⟩ := hsound.linked row hrow predecessor hpredecessor
      exact ⟨before, List.mem_append_left _ hbefore, hlink⟩
    · rw [List.mem_singleton.mp hrow] at hpredecessor ⊢
      obtain ⟨before, hbefore, hlink⟩ := hlinked predecessor hpredecessor
      exact ⟨before, List.mem_append_left _ hbefore, hlink⟩

theorem sound_recordOne {store next : SettlementStore} {incoming answer : SettlementGrade}
    (hsound : Sound store) (hrecord : recordOne store incoming = .ok (next, answer)) :
    Sound next := by
  have hwritten := keepsWritten_recordOne hrecord hsound.written
  have hsame (hgrades : next.grades = store.grades) : Sound next :=
    ⟨hwritten, hgrades ▸ hsound.recorded, hgrades ▸ hsound.ids, hgrades ▸ hsound.linked⟩
  cases recordOne_cases hrecord with
  | first hnone hsequence hpredecessor hinsertable hgrades hanswer =>
      refine hsound.append hwritten hinsertable (fun predecessor hlink => ?_) hgrades
      rw [hpredecessor] at hlink
      cases hlink
  | kept _ _ _ hgrades _ => exact hsame hgrades
  | @corrected row current hrow hcurrent _ _ _ hanswer hgrades =>
      rcases hgrades with hgrades | ⟨hinsertable, hgrades⟩
      · exact hsame hgrades
      · subst hanswer
        refine hsound.append hwritten hinsertable (fun predecessor hlink => ?_) hgrades
        refine ⟨row, List.mem_of_mem_filter (List.argmax_mem hrow), ?_, rfl⟩
        rw [(columnsMatch_of_stored hcurrent).1]
        exact Option.some.inj hlink

/-- Every reachable store is sound. -/
theorem sound_run (calls : List RecordCall) : Sound (run recordStep emptyStore calls) := by
  refine run_preserves Sound (fun store call hstore _ => ?_)
    (RunMeets.of_forall (fun _ _ => trivial) emptyStore) sound_empty
  refine commit_preserves Sound hstore fun next answers hrecorded => ?_
  exact batch_preserves Sound (fun _ _ _ _ hsound _ => sound_recordOne hsound)
    (BatchMeets.of_forall (fun _ _ => trivial) store) hstore (recordMany_ok hrecorded)

/-! ## Recording a withdrawal -/

/-- The grade of a withdrawn recommendation. -/
structure Withdraws (graded : SettlementGrade) : Prop where
  final : graded.gradingState = .final
  void : graded.settlementResult = some .void
  reasonCode : graded.reasonCode = "WITHDRAWN_RECOMMENDATION"
  noEvidenceSet : graded.selectedEvidenceSetId = none
  noLevel : graded.selectedSourceLevel = none
  first : graded.correctionSequence = 0
  noPredecessor : graded.predecessorGradeId = none

theorem withdraws_of_grade {request : GradeRequest} {graded : SettlementGrade}
    (hwithdrawn : request.withdrawn = true) (hgrade : grade request = .ok graded) :
    Withdraws graded := by
  obtain ⟨preference, selected, fixtureId, outcome, framed, houtcome, hnodup, rfl⟩ :=
    grade_eq_ok.mp hgrade
  rw [hwithdrawn] at houtcome
  cases houtcome
  exact ⟨rfl, rfl, rfl, rfl, rfl, rfl, rfl⟩

omit [PyRuntime] in
/-- Only a conflict of higher authority and the same withdrawal keep their place. -/
theorem keepsCurrent_withdrawal {current incoming : SettlementGrade}
    (hincoming : Withdraws incoming) :
    keepsCurrent current incoming =
      (conflictOutranks current incoming || sameOutcome current incoming) := by
  have hselection : selectionOutranks current incoming = false := by
    unfold selectionOutranks
    split
    · rfl
    · simp [hincoming.reasonCode]
  have hlower : Recorder.lowerSelection current incoming = false := by
    unfold Recorder.lowerSelection
    rw [hincoming.noLevel]
    split <;> trivial
  rw [keepsCurrent, hselection, hlower, Bool.or_false, Bool.or_false]

/-- With the matchweek and the recommendation of the stored grade, the key of the incoming
one is still its key. -/
def KeepsKey (current incoming : SettlementGrade) : Prop :=
  "|".intercalate [incoming.fixtureId, orText current.matchweekId incoming.matchweekId,
    orText current.recommendationId incoming.recommendationId,
    incoming.preference.preferenceId] = incoming.gradingKey

instance (current incoming : SettlementGrade) : Decidable (KeepsKey current incoming) := by
  unfold KeepsKey
  infer_instance

/-- A stored grade with the identifier of a grade has its key and its digested payload. -/
def GradesToldApart (store : SettlementStore) (graded : SettlementGrade) : Prop :=
  ∀ stored, gradeRow stored ∈ store.grades → stored.gradeId = graded.gradeId →
    stored.gradingKey = graded.gradingKey ∧ stored.record [] [] = graded.record [] []

theorem recordStep_single (store : SettlementStore) (incoming : SettlementGrade) :
    recordStep store ⟨[incoming], none⟩ =
      match recordOne store incoming with
      | .ok outcome => outcome.1
      | .error _ => store := by
  unfold recordStep commit recordMany batch
  cases recordOne store incoming with
  | error error => rfl
  | ok outcome => rfl

omit [PyRuntime] in
theorem predecessor_of_record {first second : SettlementGrade}
    (hrecord : first.record [] [] = second.record [] []) :
    first.predecessorGradeId = second.predecessorGradeId := by
  have hfound : some (textJson first.predecessorGradeId) =
      some (textJson second.predecessorGradeId) :=
    congrArg (fun tree => tree.get? "predecessor_grade_id") hrecord
  cases hfirst : first.predecessorGradeId <;> cases hsecond : second.predecessorGradeId <;>
    simp_all [textJson]

omit [PyRuntime] [Hashing] in
/-- No row of a key comes after its latest one. -/
theorem sequence_le_latest {store : SettlementStore} {key : String} {row other : GradeRow}
    (hrow : storedGradeRow store key = some row) (hother : other ∈ store.grades)
    (hkey : other.gradingKey = key) : other.correctionSequence ≤ row.correctionSequence := by
  have hmem : other ∈ rowsOf store key := List.mem_filter.mpr ⟨hother, decide_eq_true hkey⟩
  rcases Prod.Lex.le_iff.mp (List.le_of_mem_argmax hmem hrow) with hless | ⟨hequal, -⟩
  · exact le_of_lt hless
  · exact le_of_eq hequal

/-- No stored row has the identifier of a correction of the latest grade. -/
theorem gradeId_ne_successor {store : SettlementStore} {row : GradeRow}
    {current incoming : SettlementGrade} (hsound : Sound store)
    (hrow : storedGradeRow store incoming.gradingKey = some row)
    (hcurrent : storedGradeFromRow row = .ok current) (hkeeps : KeepsKey current incoming)
    (happart : GradesToldApart store (successor row.correctionSequence current incoming))
    {item : GradeRow} (hitem : item ∈ store.grades) :
    item.gradeId ≠ (successor row.correctionSequence current incoming).gradeId := by
  intro hsame
  obtain ⟨stored, rfl⟩ := hsound.recorded item hitem
  obtain ⟨hkey, hrecord⟩ := happart stored hitem hsame
  obtain ⟨before, hbefore, hid, hnext⟩ := hsound.linked _ hitem current.gradeId
    (predecessor_of_record hrecord)
  have hrowMem : row ∈ store.grades := List.mem_of_mem_filter (List.argmax_mem hrow)
  have hrowId : row.gradeId = current.gradeId := (columnsMatch_of_stored hcurrent).1
  have hbeforeRow : before = row :=
    List.inj_on_of_nodup_map hsound.ids hbefore hrowMem (hid.trans hrowId.symm)
  have hle := sequence_le_latest hrow hitem (hkey.trans hkeeps)
  rw [hnext, hbeforeRow] at hle
  omega

theorem insertable_successor {store : SettlementStore} {row : GradeRow}
    {current incoming : SettlementGrade} (hsound : Sound store)
    (hrow : storedGradeRow store incoming.gradingKey = some row)
    (hcurrent : storedGradeFromRow row = .ok current) (hkeeps : KeepsKey current incoming)
    (happart : GradesToldApart store (successor row.correctionSequence current incoming)) :
    insertable store (gradeRow (successor row.correctionSequence current incoming)) = true := by
  rw [insertable, Bool.and_eq_true]
  constructor
  · refine List.all_eq_true.mpr fun item hitem => ?_
    have hid := gradeId_ne_successor hsound hrow hcurrent hkeeps happart hitem
    have hsequence : ¬(item.gradingKey = (successor row.correctionSequence current
        incoming).gradingKey ∧ item.correctionSequence = row.correctionSequence + 1) := by
      rintro ⟨hkey, hnext⟩
      have hle := sequence_le_latest hrow hitem (hkey.trans hkeeps)
      omega
    rw [Bool.and_eq_true, decide_eq_true_eq]
    refine ⟨hid, ?_⟩
    change (!(decide (item.gradingKey = (successor row.correctionSequence current
      incoming).gradingKey) && decide (item.correctionSequence = row.correctionSequence + 1))) = true
    rw [Bool.not_eq_true', Bool.eq_false_iff, Ne, Bool.and_eq_true, decide_eq_true_eq,
      decide_eq_true_eq]
    exact hsequence
  · refine List.any_eq_true.mpr ⟨row, List.mem_of_mem_filter (List.argmax_mem hrow), ?_⟩
    exact decide_eq_true (columnsMatch_of_stored hcurrent).1

omit [PyRuntime] in
/-- The first grade of a key has an identifier of its own. -/
theorem insertable_first {store : SettlementStore} {incoming : SettlementGrade}
    (hsound : Sound store) (hnone : storedGradeRow store incoming.gradingKey = none)
    (hpredecessor : incoming.predecessorGradeId = none)
    (happart : GradesToldApart store incoming) :
    insertable store (gradeRow incoming) = true := by
  have hother (item : GradeRow) (hitem : item ∈ store.grades) :
      item.gradingKey ≠ incoming.gradingKey := by
    intro hkey
    have hmem : item ∈ rowsOf store incoming.gradingKey :=
      List.mem_filter.mpr ⟨hitem, decide_eq_true hkey⟩
    rw [rowsOf_eq_nil hnone] at hmem
    cases hmem
  have hlink : (gradeRow incoming).predecessorGradeId = none := hpredecessor
  rw [insertable, hlink, Bool.and_true]
  refine List.all_eq_true.mpr fun item hitem => ?_
  rw [Bool.and_eq_true, decide_eq_true_eq]
  refine ⟨fun hsame => ?_, ?_⟩
  · obtain ⟨stored, rfl⟩ := hsound.recorded item hitem
    exact hother _ hitem (happart stored hitem hsame).1
  · change (!(decide (item.gradingKey = incoming.gradingKey) && _)) = true
    rw [decide_eq_false (hother item hitem)]
    rfl

omit [PyRuntime] in
theorem insertGrade_eq_ok {store : SettlementStore} {graded : SettlementGrade}
    (hselected : graded.selectedEvidenceSetId = none)
    (hinsertable : insertable store (gradeRow graded) = true) :
    insertGrade store graded = .ok { store with grades := store.grades ++ [gradeRow graded] } := by
  have hknown : selectedEvidenceKnown graded = true := by
    rw [selectedEvidenceKnown, hselected]
  rw [insertGrade, hknown, hinsertable]
  rfl

/-- A withdrawal that nothing stored keeps out is a correction. -/
theorem effectiveGrade_withdrawal {store : SettlementStore} {row : GradeRow}
    {current incoming : SettlementGrade}
    (hrow : storedGradeRow store incoming.gradingKey = some row)
    (hcurrent : storedGradeFromRow row = .ok current)
    (hprediction : changesDigest incoming.predictionDigest current.predictionDigest = false)
    (hfrozen : changesDigest incoming.frozenEvidenceDigest current.frozenEvidenceDigest = false)
    (hreadable : conflictReadable current incoming = true)
    (hkeeps : keepsCurrent current incoming = false) :
    effectiveGrade store incoming =
      .ok (some (successor row.correctionSequence current incoming)) := by
  rw [effectiveGrade, hrow]
  dsimp only
  rw [hcurrent]
  dsimp only
  rw [hprediction, hfrozen, hreadable, hkeeps]
  rfl

/-- The identifiers of what is recorded tell it apart from what is stored. -/
structure Identified (store : SettlementStore) (incoming : SettlementGrade) : Prop where
  records : ToldApart incoming.evidence
  rows : ∀ item ∈ incoming.evidence, ToldApartFrom store.evidence item
  grade : GradesToldApart store incoming
  correction : ∀ row current, storedGradeRow store incoming.gradingKey = some row →
    storedGradeFromRow row = .ok current →
      GradesToldApart store (successor row.correctionSequence current incoming)

/-- The incoming digests are absent or equal to those of the latest grade. -/
def KeepsDigests (store : SettlementStore) (incoming : SettlementGrade) : Prop :=
  ∀ row current, storedGradeRow store incoming.gradingKey = some row →
    storedGradeFromRow row = .ok current →
      changesDigest incoming.predictionDigest current.predictionDigest = false ∧
        changesDigest incoming.frozenEvidenceDigest current.frozenEvidenceDigest = false

/-- The latest grade of the key, if there is one, is read back, is no conflict of higher
authority, and has a matchweek and a recommendation that keep the key. -/
def GivesWay (store : SettlementStore) (incoming : SettlementGrade) : Prop :=
  ∀ row, storedGradeRow store incoming.gradingKey = some row →
    ∃ current, storedGradeFromRow row = .ok current ∧
      conflictReadable current incoming = true ∧
      conflictOutranks current incoming = false ∧ KeepsKey current incoming

omit [PyRuntime] in
theorem withdrawn_append {store next : SettlementStore} {graded : SettlementGrade}
    (hgrades : next.grades = store.grades ++ [gradeRow graded])
    (hfinal : graded.gradingState = .final) (hvoid : graded.settlementResult = some .void)
    (hreason : graded.reasonCode = "WITHDRAWN_RECOMMENDATION")
    (hlater : ∀ last, storedGradeRow store graded.gradingKey = some last →
      last.correctionSequence < graded.correctionSequence) :
    Withdrawn next graded.gradingKey := by
  refine ⟨gradeRow graded, storedGradeRow_append hgrades hlater, ?_, ?_, hreason⟩
  · change graded.gradingState.value = "FINAL"
    rw [hfinal]
    rfl
  · change graded.settlementResult.map SettlementResult.value = some "VOID"
    rw [hvoid]
    rfl

omit [PyRuntime] in
/-- A withdrawal whose correction is recorded under its key is the latest row. -/
theorem withdrawn_of_correction {store next : SettlementStore} {row : GradeRow}
    {current incoming : SettlementGrade} (hincoming : Withdraws incoming)
    (hrow : storedGradeRow store incoming.gradingKey = some row)
    (hkey : (successor row.correctionSequence current incoming).gradingKey = incoming.gradingKey)
    (hgrades : next.grades =
      store.grades ++ [gradeRow (successor row.correctionSequence current incoming)]) :
    Withdrawn next incoming.gradingKey := by
  rw [← hkey]
  refine withdrawn_append hgrades hincoming.final hincoming.void hincoming.reasonCode
    fun last hlast => ?_
  rw [hkey, hrow, Option.some.injEq] at hlast
  rw [← hlast]
  exact Nat.lt_succ_self _

/-- A latest withdrawal stays a withdrawal. -/
theorem withdrawn_recordOne {store next : SettlementStore} {incoming answer : SettlementGrade}
    (hincoming : Withdraws incoming) (hwithdrawn : Withdrawn store incoming.gradingKey)
    (hrecord : recordOne store incoming = .ok (next, answer)) :
    Withdrawn next incoming.gradingKey := by
  have hsame (hgrades : next.grades = store.grades) : Withdrawn next incoming.gradingKey := by
    refine (withdrawn_congr ?_).mpr hwithdrawn
    rw [rowsOf, rowsOf, hgrades]
  cases recordOne_cases hrecord with
  | first hnone =>
      obtain ⟨row, hrow, -⟩ := hwithdrawn
      rw [hnone] at hrow
      cases hrow
  | kept _ _ _ hgrades _ => exact hsame hgrades
  | @corrected row current hrow _ _ _ _ hanswer hgrades =>
      rcases hgrades with hgrades | ⟨-, hgrades⟩
      · exact hsame hgrades
      · subst hanswer
        by_cases hkey : (successor row.correctionSequence current incoming).gradingKey =
            incoming.gradingKey
        · exact withdrawn_of_correction hincoming hrow hkey hgrades
        · exact (withdrawn_congr (rowsOf_append_other hgrades hkey)).mpr hwithdrawn

/-- A pass that has a latest grade to compare with can collect its conflict. -/
theorem conflictReadable_of_recordOne {store : SettlementStore} {row : GradeRow}
    {current incoming : SettlementGrade} {outcome : SettlementStore × SettlementGrade}
    (hrow : storedGradeRow store incoming.gradingKey = some row)
    (hcurrent : storedGradeFromRow row = .ok current)
    (hrecord : recordOne store incoming = .ok outcome) :
    conflictReadable current incoming = true := by
  simp only [recordOne, bind_eq_ok] at hrecord
  obtain ⟨known, hknown, effective, heffective, -⟩ := hrecord
  rw [effectiveGrade, storedGradeRow_congr (insertAllEvidence_grades hknown), hrow] at heffective
  dsimp only at heffective
  rw [hcurrent] at heffective
  dsimp only at heffective
  by_contra hunreadable
  rw [Bool.not_eq_true] at hunreadable
  rw [hunreadable] at heffective
  split at heffective
  · cases heffective
  · split at heffective <;> cases heffective

/-- What a withdrawal has met when it becomes the latest row. -/
theorem givesWay_of_withdrawn {store next : SettlementStore} {incoming answer : SettlementGrade}
    (hbefore : ¬ Withdrawn store incoming.gradingKey)
    (hafter : Withdrawn next incoming.gradingKey)
    (hrecord : recordOne store incoming = .ok (next, answer)) : GivesWay store incoming := by
  have hchanged : next.grades ≠ store.grades := by
    intro hgrades
    refine hbefore ((withdrawn_congr ?_).mp hafter)
    rw [rowsOf, rowsOf, hgrades]
  intro row hrow
  cases recordOne_cases hrecord with
  | first hnone =>
      rw [hnone] at hrow
      cases hrow
  | kept _ _ _ hgrades _ => exact absurd hgrades hchanged
  | @corrected found current hfound hcurrent _ _ hkeeps hanswer hgrades =>
      obtain rfl : row = found := Option.some.inj (hrow.symm.trans hfound)
      have hreadable := conflictReadable_of_recordOne hrow hcurrent hrecord
      rcases hgrades with hgrades | ⟨-, hgrades⟩
      · exact absurd hgrades hchanged
      · subst hanswer
        refine ⟨current, hcurrent, hreadable, ?_, ?_⟩
        · rw [keepsCurrent, Bool.or_eq_false_iff, Bool.or_eq_false_iff, Bool.or_eq_false_iff]
            at hkeeps
          exact hkeeps.1.1.1
        · by_contra hkey
          exact hbefore ((withdrawn_congr (rowsOf_append_other hgrades hkey)).mp hafter)

theorem withdrawn_of_sameOutcome {store : SettlementStore} {row : GradeRow}
    {current incoming : SettlementGrade} (hincoming : Withdraws incoming)
    (hrow : storedGradeRow store incoming.gradingKey = some row)
    (hcurrent : storedGradeFromRow row = .ok current)
    (hsame : sameOutcome current incoming = true) : Withdrawn store incoming.gradingKey := by
  simp only [sameOutcome, Bool.and_eq_true, decide_eq_true_eq] at hsame
  obtain ⟨⟨⟨-, hstate⟩, hresult⟩, hreason⟩ := hsame
  obtain ⟨-, -, -, -, -, hrowState, hrowResult, hrowReason, -⟩ := columnsMatch_of_stored hcurrent
  refine ⟨row, hrow, ?_, ?_, ?_⟩
  · rw [hrowState, hstate, hincoming.final]
    rfl
  · rw [hrowResult, hresult, hincoming.void]
    rfl
  · rw [hrowReason, hreason, hincoming.reasonCode]

/-- The first grade of a key is recorded when it is a withdrawal. -/
theorem recordOne_first {store known : SettlementStore} {incoming : SettlementGrade}
    (hsound : Sound store) (hincoming : Withdraws incoming)
    (hknown : insertAllEvidence store incoming.evidence = .ok known)
    (happart : GradesToldApart store incoming)
    (hnone : storedGradeRow store incoming.gradingKey = none) :
    recordOne store incoming =
      .ok ({ known with grades := known.grades ++ [gradeRow incoming] }, incoming) := by
  have hgrades := insertAllEvidence_grades hknown
  have hrow : storedGradeRow known incoming.gradingKey = none := by
    rw [storedGradeRow_congr hgrades, hnone]
  have hinsertable : insertable known (gradeRow incoming) = true := by
    rw [insertable_congr hgrades]
    exact insertable_first hsound hnone hincoming.noPredecessor happart
  have heffective : effectiveGrade known incoming = .ok none := by
    rw [effectiveGrade, hrow]
  have hmetadata : ¬(incoming.correctionSequence ≠ 0 ∨ incoming.predecessorGradeId ≠ none) := by
    rw [hincoming.first, hincoming.noPredecessor]
    decide
  rw [recordOne, bind_eq_ok]
  refine ⟨known, hknown, ?_⟩
  rw [bind_eq_ok]
  refine ⟨none, heffective, ?_⟩
  rw [hrow]
  change (if _ then _ else insertGrade known incoming >>= _) = _
  rw [if_neg hmetadata, insertGrade_eq_ok hincoming.noEvidenceSet hinsertable]
  rfl

/-- A withdrawal that nothing stored keeps out is recorded as a correction. -/
theorem recordOne_correction {store known : SettlementStore} {row : GradeRow}
    {current incoming : SettlementGrade} (hsound : Sound store) (hincoming : Withdraws incoming)
    (hknown : insertAllEvidence store incoming.evidence = .ok known)
    (hidentified : Identified store incoming) (hdigests : KeepsDigests store incoming)
    (hbefore : ¬ Withdrawn store incoming.gradingKey)
    (hrow : storedGradeRow store incoming.gradingKey = some row)
    (hcurrent : storedGradeFromRow row = .ok current)
    (hreadable : conflictReadable current incoming = true)
    (hconflict : conflictOutranks current incoming = false) (hkey : KeepsKey current incoming) :
    recordOne store incoming =
      .ok ({ known with grades := known.grades ++
          [gradeRow (successor row.correctionSequence current incoming)] },
        successor row.correctionSequence current incoming) := by
  have hgrades := insertAllEvidence_grades hknown
  obtain ⟨hprediction, hfrozen⟩ := hdigests row current hrow hcurrent
  have happart := hidentified.correction row current hrow hcurrent
  have hkeeps : keepsCurrent current incoming = false := by
    rw [keepsCurrent_withdrawal hincoming, hconflict, Bool.false_or, Bool.eq_false_iff]
    exact fun hsame => hbefore (withdrawn_of_sameOutcome hincoming hrow hcurrent hsame)
  have hknownRow : storedGradeRow known incoming.gradingKey = some row := by
    rw [storedGradeRow_congr hgrades, hrow]
  have hinsertable : insertable known
      (gradeRow (successor row.correctionSequence current incoming)) = true := by
    rw [insertable_congr hgrades]
    exact insertable_successor hsound hrow hcurrent hkey happart
  have hrowMem : row ∈ store.grades := List.mem_of_mem_filter (List.argmax_mem hrow)
  have hnew : (successor row.correctionSequence current incoming).gradeId ≠ row.gradeId :=
    (gradeId_ne_successor hsound hrow hcurrent hkey happart hrowMem).symm
  rw [recordOne, bind_eq_ok]
  refine ⟨known, hknown, ?_⟩
  rw [bind_eq_ok]
  refine ⟨_, effectiveGrade_withdrawal hknownRow hcurrent hprediction hfrozen hreadable hkeeps, ?_⟩
  rw [hknownRow]
  change (if _ then insertGrade known _ >>= _ else _) = _
  rw [if_pos hnew, @insertGrade_eq_ok _ known (successor row.correctionSequence current incoming)
    hincoming.noEvidenceSet hinsertable]
  rfl

/-- A withdrawal whose records survive takes effect where the latest grade gives way. -/
theorem recordOne_withdraws {store : SettlementStore} {incoming : SettlementGrade}
    (hsound : Sound store) (hincoming : Withdraws incoming)
    (hidentified : Identified store incoming) (hdigests : KeepsDigests store incoming)
    (hsurvive : ∀ item ∈ incoming.evidence, Survives item) (hgives : GivesWay store incoming)
    (hbefore : ¬ Withdrawn store incoming.gradingKey) :
    ∃ outcome, recordOne store incoming = .ok outcome ∧
      Withdrawn outcome.1 incoming.gradingKey := by
  obtain ⟨known, hknown⟩ :=
    (insertAllEvidence_isOk_iff hsound.written hidentified.records hidentified.rows).mpr hsurvive
  have hgrades := insertAllEvidence_grades hknown
  cases hrow : storedGradeRow store incoming.gradingKey with
  | none =>
      refine ⟨_, recordOne_first hsound hincoming hknown hidentified.grade hrow, ?_⟩
      have hnext : known.grades ++ [gradeRow incoming] = store.grades ++ [gradeRow incoming] := by
        rw [hgrades]
      refine withdrawn_append hnext hincoming.final hincoming.void hincoming.reasonCode
        fun last hlast => ?_
      rw [hrow] at hlast
      cases hlast
  | some row =>
      obtain ⟨current, hcurrent, hreadable, hconflict, hkey⟩ := hgives row hrow
      refine ⟨_, recordOne_correction hsound hincoming hknown hidentified hdigests hbefore hrow
        hcurrent hreadable hconflict hkey, ?_⟩
      refine withdrawn_of_correction hincoming hrow hkey ?_
      change known.grades ++ _ = _
      rw [hgrades]

/-! ## Runs -/

/-- After any run, a withdrawal is the latest grade of its key exactly when one was there
before, or its records survive and the latest grade gives way. -/
theorem withdrawal_takes_effect_iff {calls : List RecordCall} {request : GradeRequest}
    {incoming : SettlementGrade} (hwithdrawn : request.withdrawn = true)
    (hgrade : grade request = .ok incoming)
    (hidentified : Identified (run recordStep emptyStore calls) incoming)
    (hdigests : KeepsDigests (run recordStep emptyStore calls) incoming) :
    Withdrawn (run recordStep emptyStore (calls ++ [⟨[incoming], none⟩])) incoming.gradingKey ↔
      Withdrawn (run recordStep emptyStore calls) incoming.gradingKey ∨
        ((∀ item ∈ incoming.evidence, Survives item) ∧
          GivesWay (run recordStep emptyStore calls) incoming) := by
  have hsound := sound_run calls
  have hincoming := withdraws_of_grade hwithdrawn hgrade
  rw [run, List.foldl_append]
  change Withdrawn (recordStep (run recordStep emptyStore calls) ⟨[incoming], none⟩) _ ↔ _
  rw [recordStep_single]
  generalize run recordStep emptyStore calls = store at *
  constructor
  · intro hafter
    by_cases hbefore : Withdrawn store incoming.gradingKey
    · exact Or.inl hbefore
    · right
      cases hrecord : recordOne store incoming with
      | error error =>
          rw [hrecord] at hafter
          exact absurd hafter hbefore
      | ok outcome =>
          rw [hrecord] at hafter
          obtain ⟨known, hknown, -⟩ := recordOne_evidence hrecord
          exact ⟨survives_of_insertAllEvidence hknown,
            givesWay_of_withdrawn hbefore hafter hrecord⟩
  · intro hcase
    by_cases hbefore : Withdrawn store incoming.gradingKey
    · cases hrecord : recordOne store incoming with
      | error error => exact hbefore
      | ok outcome => exact withdrawn_recordOne hincoming hbefore hrecord
    · obtain ⟨hsurvive, hgives⟩ := hcase.resolve_left hbefore
      obtain ⟨outcome, hrecord, hafter⟩ := recordOne_withdraws hsound hincoming hidentified
        hdigests hsurvive hgives hbefore
      rw [hrecord]
      exact hafter

end Grades

/-! ## Two withdrawals -/

namespace HomeWithdrawal

open MatchVet.T10.Authority
open MatchVet.T10.Authority.LeagueResult

local instance : PyRuntime := plainRuntime

local instance : Hashing := shapeHashing

def withdrawal (evidence : List SettlementEvidence) : GradeRequest :=
  { homeRequest evidence with withdrawn := true }

/-- A withdrawal of the key, with the grade that it meets. -/
theorem exists_withdrawal {evidence : List SettlementEvidence} (store : SettlementStore)
    (check : SettlementGrade → SettlementGrade → Bool)
    (hcheck : ((grade (withdrawal evidence)).toOption.any fun incoming =>
      incoming.gradingKey = homeKey && ((storedGradeRow store homeKey).bind fun row =>
        (storedGradeFromRow row).toOption).any (check incoming)) = true) :
    ∃ incoming row current, grade (withdrawal evidence) = .ok incoming ∧
      incoming.gradingKey = homeKey ∧ storedGradeRow store homeKey = some row ∧
      storedGradeFromRow row = .ok current ∧ check incoming current = true := by
  cases hgrade : grade (withdrawal evidence) with
  | error error =>
      rw [hgrade] at hcheck
      cases hcheck
  | ok incoming =>
      rw [hgrade] at hcheck
      change (decide _ && _) = true at hcheck
      rw [Bool.and_eq_true, decide_eq_true_eq] at hcheck
      obtain ⟨hkey, hstore⟩ := hcheck
      obtain ⟨row, current, hrow, hcurrent, hmet⟩ := exists_current store (check incoming) hstore
      exact ⟨incoming, row, current, rfl, hkey, hrow, hcurrent, hmet⟩

/-- Every stored identifier is another one. -/
def fresh (store : SettlementStore) (graded : SettlementGrade) : Bool :=
  store.grades.all fun row => !decide (row.gradeId = graded.gradeId)

theorem toldApart_of_fresh {store : SettlementStore} {graded : SettlementGrade}
    (hfresh : fresh store graded = true) : GradesToldApart store graded := by
  intro stored hstored hsame
  have hother := List.all_eq_true.mp hfresh _ hstored
  rw [Bool.not_eq_true', decide_eq_false_iff_not] at hother
  exact absurd hsame hother

/-- A withdrawal without evidence replaces the result of the league. -/
theorem leagueResult_withdrawn :
    ∃ incoming, grade (withdrawal []) = .ok incoming ∧
      Withdrawn (run recordStep emptyStore
        ([recording [played .competition "league" 2 1]] ++ [⟨[incoming], none⟩]))
        incoming.gradingKey := by
  obtain ⟨incoming, row, current, hgrade, hkey, hrow, hcurrent, hmet⟩ :=
    @exists_withdrawal [] leagueStore (fun incoming current =>
      incoming.evidence.isEmpty && !changesDigest incoming.predictionDigest current.predictionDigest
        && !changesDigest incoming.frozenEvidenceDigest current.frozenEvidenceDigest
        && fresh leagueStore incoming
        && fresh leagueStore (successor current.correctionSequence current incoming)
        && conflictReadable current incoming && !conflictOutranks current incoming
        && decide (KeepsKey current incoming))
      (by decide +kernel)
  simp only [Bool.and_eq_true, Bool.not_eq_true', decide_eq_true_eq, List.isEmpty_iff] at hmet
  obtain ⟨⟨⟨⟨⟨⟨⟨hempty, hprediction⟩, hfrozen⟩, hfirst⟩, hnext⟩, hreadable⟩, houtranks⟩, hkept⟩ :=
    hmet
  have hnoEvidence : ∀ item, item ∉ incoming.evidence := fun item hitem => by
    rw [hempty] at hitem
    cases hitem
  have hmeets {found : GradeRow} (hfound : storedGradeRow leagueStore incoming.gradingKey =
      some found) : found = row := by
    rw [hkey, hrow, Option.some.injEq] at hfound
    exact hfound.symm
  have hreads {found : SettlementGrade} (hfound : storedGradeFromRow row = .ok found) :
      found = current := Except.ok.inj (hfound.symm.trans hcurrent)
  refine ⟨incoming, hgrade, (withdrawal_takes_effect_iff rfl hgrade ?_ ?_).mpr (Or.inr ⟨?_, ?_⟩)⟩
  · refine ⟨fun item hitem => absurd hitem (hnoEvidence item),
      fun item hitem => absurd hitem (hnoEvidence item), toldApart_of_fresh hfirst, ?_⟩
    intro found graded hfound hgraded
    obtain rfl := hmeets hfound
    obtain rfl := hreads hgraded
    have hsequence : found.correctionSequence = graded.correctionSequence := by
      obtain ⟨-, -, -, -, -, -, -, -, -, -, -, -, hsequence, -⟩ := columnsMatch_of_stored hcurrent
      exact hsequence
    rw [hsequence]
    exact toldApart_of_fresh hnext
  · intro found graded hfound hgraded
    obtain rfl := hmeets hfound
    obtain rfl := hreads hgraded
    exact ⟨hprediction, hfrozen⟩
  · exact fun item hitem => absurd hitem (hnoEvidence item)
  · intro found hfound
    obtain rfl := hmeets hfound
    exact ⟨current, hcurrent, hreadable, houtranks, hkept⟩

/-- A withdrawal with the record of a club leaves a conflict of the competition in place. -/
theorem conflict_not_withdrawn :
    ∃ incoming, grade (withdrawal [played .club "club" 0 1]) = .ok incoming ∧
      KeepsDigests conflictStore incoming ∧
      ¬ Withdrawn (run recordStep conflictStore [⟨[incoming], none⟩]) incoming.gradingKey := by
  obtain ⟨incoming, row, current, hgrade, hkey, hrow, hcurrent, hmet⟩ :=
    @exists_withdrawal [played .club "club" 0 1] conflictStore (fun incoming current =>
      !changesDigest incoming.predictionDigest current.predictionDigest
        && !changesDigest incoming.frozenEvidenceDigest current.frozenEvidenceDigest
        && decide (current.reasonCode = "SOURCE_CONFLICT") && keepsCurrent current incoming)
      (by decide +kernel)
  simp only [Bool.and_eq_true, Bool.not_eq_true', decide_eq_true_eq] at hmet
  obtain ⟨⟨⟨hprediction, hfrozen⟩, hconflict⟩, hkeeps⟩ := hmet
  rw [← hkey] at hrow
  refine ⟨incoming, hgrade, fun found graded hfound hgraded => ?_, ?_⟩
  · rw [hrow, Option.some.injEq] at hfound
    subst hfound
    obtain rfl : graded = current := Except.ok.inj (hgraded.symm.trans hcurrent)
    exact ⟨hprediction, hfrozen⟩
  · have hgrades : SameGrades conflictStore (run recordStep conflictStore [⟨[incoming], none⟩]) := by
      refine run_keeps hrow hcurrent fun call hcall graded hgraded => ?_
      obtain rfl := List.mem_singleton.mp hcall
      obtain rfl := List.mem_singleton.mp hgraded
      exact ⟨rfl, hkeeps⟩
    have hrows : rowsOf (run recordStep conflictStore [⟨[incoming], none⟩]) incoming.gradingKey =
        rowsOf conflictStore incoming.gradingKey := by
      rw [rowsOf, rowsOf, hgrades]
    rw [withdrawn_congr hrows]
    rintro ⟨found, hfound, -, -, hreason⟩
    rw [hrow, Option.some.injEq] at hfound
    subst hfound
    obtain ⟨-, -, -, -, -, -, -, hrowReason, -⟩ := columnsMatch_of_stored hcurrent
    rw [hrowReason, hconflict] at hreason
    exact absurd hreason (by decide)

end HomeWithdrawal

end MatchVet.T10.Withdrawal
