import MatchVet.T10.Recorder

/-!
# The authority of a recorded grade

A grade that selected a source, or that names a conflict, speaks with the rank
of that source.  Grades whose evidence has only higher ranks never replace it,
whichever outcome they have and however many of them are recorded.
-/

namespace MatchVet.T10.Authority

open MatchVet.Foundation.CanonicalJson
open MatchVet.Foundation.Runtime
open MatchVet.Foundation.Transition
open MatchVet.T10.Evidence
open MatchVet.T10.Grade
open MatchVet.T10.Grader
open MatchVet.T10.Grading
open MatchVet.T10.Recorder

section Authority

variable [PyRuntime] [Hashing]

/-! ## Grades of lower authority -/

/-- A grade that the grader gave for a key, without a withdrawal, on evidence of
lower authority than a rank. -/
structure LowerGrade (key : String) (rank : ℕ) (incoming : SettlementGrade) : Prop where
  graded : ∃ request : GradeRequest, request.withdrawn = false ∧ grade request = .ok incoming
  keyed : incoming.gradingKey = key
  lower : ∀ item ∈ incoming.evidence, rank < item.sourceRank

namespace LowerGrade

variable {key : String} {rank : ℕ} {incoming : SettlementGrade}

theorem rank_lt (hlower : LowerGrade key rank incoming) {newest : ℕ}
    (hnewest : minimumRank? (ranks incoming) = some newest) : rank < newest := by
  obtain ⟨item, hitem, rfl⟩ := List.mem_map.mp (mem_of_minimumRank? hnewest)
  exact hlower.lower item hitem

theorem not_withdrawn (hlower : LowerGrade key rank incoming) :
    incoming.reasonCode ≠ "WITHDRAWN_RECOMMENDATION" := by
  obtain ⟨request, hwithdrawn, hgrade⟩ := hlower.graded
  exact (grade_grounded hwithdrawn hgrade).1

theorem rank_lt_selected (hlower : LowerGrade key rank incoming) {level : SettlementSource}
    (hlevel : incoming.selectedSourceLevel = some level) : rank < level.rank := by
  obtain ⟨request, hwithdrawn, hgrade⟩ := hlower.graded
  obtain ⟨item, hitem, rfl⟩ := (grade_grounded hwithdrawn hgrade).2 level hlevel
  exact hlower.lower item hitem

end LowerGrade

/-! ## One comparison -/

/-- Nothing of lower authority replaces a grade that selected a source. -/
theorem keepsCurrent_of_selected {current incoming : SettlementGrade} {key : String}
    {level : SettlementSource} (hlevel : current.selectedSourceLevel = some level)
    (hlower : LowerGrade key level.rank incoming) : keepsCurrent current incoming = true := by
  cases hselected : incoming.selectedSourceLevel with
  | none =>
      have houtranks : selectionOutranks current incoming = true := by
        rw [selectionOutranks, hlevel, hselected]
        cases hnewest : minimumRank? (ranks incoming) with
        | none => simp [hlower.not_withdrawn]
        | some newest => simp [hlower.not_withdrawn, hlower.rank_lt hnewest]
      simp [keepsCurrent, houtranks]
  | some newest =>
      have hloses : lowerSelection current incoming = true := by
        rw [lowerSelection, hlevel, hselected]
        exact decide_eq_true (hlower.rank_lt_selected hselected)
      simp [keepsCurrent, hloses]

/-- No evidence of lower authority replaces a conflict. -/
theorem keepsCurrent_of_conflict {current incoming : SettlementGrade} {key : String} {rank : ℕ}
    (hconflict : current.reasonCode = "SOURCE_CONFLICT")
    (hrank : minimumRank? (conflictRanks current) = some rank)
    (hlower : LowerGrade key rank incoming) (hevidence : incoming.evidence ≠ []) :
    keepsCurrent current incoming = true := by
  obtain ⟨newest, hnewest⟩ : ∃ newest, minimumRank? (ranks incoming) = some newest :=
    Option.isSome_iff_exists.mp
      (List.isSome_min?_of_ne_nil fun hnil => hevidence (List.map_eq_nil_iff.mp hnil))
  have houtranks : conflictOutranks current incoming = true := by
    rw [conflictOutranks, hnewest, hrank]
    simp [hconflict, hlower.rank_lt hnewest]
  simp [keepsCurrent, houtranks]

/-! ## Runs -/

def SameGrades (store after : SettlementStore) : Prop := after.grades = store.grades

/-- A pass that keeps the current grade of its key adds no row. -/
theorem recordOne_keeps {store next : SettlementStore} {incoming answer current : SettlementGrade}
    {row : GradeRow} (hrow : storedGradeRow store incoming.gradingKey = some row)
    (hcurrent : storedGradeFromRow row = .ok current)
    (hkeeps : keepsCurrent current incoming = true)
    (hrecord : recordOne store incoming = .ok (next, answer)) : SameGrades store next := by
  cases recordOne_cases hrecord with
  | first hnone =>
      rw [hrow] at hnone
      cases hnone
  | kept _ _ _ hgrades => exact hgrades
  | corrected hrow' hcurrent' _ _ hreplaces =>
      rw [hrow, Option.some.injEq] at hrow'
      rw [← hrow', hcurrent, Except.ok.injEq] at hcurrent'
      rw [← hcurrent', hkeeps] at hreplaces
      cases hreplaces

/-- A run of grades that do not replace the current grade adds no row. -/
theorem run_keeps {store : SettlementStore} {key : String} {row : GradeRow}
    {current : SettlementGrade} {calls : List RecordCall}
    (hrow : storedGradeRow store key = some row)
    (hcurrent : storedGradeFromRow row = .ok current)
    (hkeeps : ∀ call ∈ calls, ∀ incoming ∈ call.grades,
      incoming.gradingKey = key ∧ keepsCurrent current incoming = true) :
    SameGrades store (run recordStep store calls) := by
  have hpart : ∀ before incoming after answer, SameGrades store before →
      incoming.gradingKey = key ∧ keepsCurrent current incoming = true →
      recordOne before incoming = .ok (after, answer) → SameGrades store after := by
    intro before incoming after answer hbefore hincoming hrecord
    rw [← storedGradeRow_congr hbefore, ← hincoming.1] at hrow
    exact (recordOne_keeps hrow hcurrent hincoming.2 hrecord).trans hbefore
  have hstep : ∀ before (call : RecordCall), SameGrades store before →
      (∀ incoming ∈ call.grades,
        incoming.gradingKey = key ∧ keepsCurrent current incoming = true) →
      SameGrades store (recordStep before call) := by
    intro before call hbefore hcall
    refine commit_preserves (SameGrades store) hbefore fun after answers hrecorded => ?_
    exact batch_preserves (SameGrades store) hpart (BatchMeets.of_forall hcall before) hbefore
      (recordMany_ok hrecorded)
  exact run_preserves (SameGrades store) hstep (RunMeets.of_forall hkeeps store) rfl

/-- The rank a stored grade speaks with against a run of calls: that of its
selected source, or the lowest of a conflict, against evidence. -/
def SpeaksWith (current : SettlementGrade) (rank : ℕ) (calls : List RecordCall) : Prop :=
  (∃ level, current.selectedSourceLevel = some level ∧ level.rank = rank) ∨
    (current.reasonCode = "SOURCE_CONFLICT" ∧
      minimumRank? (conflictRanks current) = some rank ∧
      ∀ call ∈ calls, ∀ incoming ∈ call.grades, incoming.evidence ≠ [])

/-- Grades of lower authority never change the latest grade of a key, nor do they
add a row for it. -/
theorem run_of_lower {store : SettlementStore} {key : String} {row : GradeRow}
    {current : SettlementGrade} {rank : ℕ} {calls : List RecordCall}
    (hrow : storedGradeRow store key = some row)
    (hcurrent : storedGradeFromRow row = .ok current) (hspeaks : SpeaksWith current rank calls)
    (hlower : ∀ call ∈ calls, ∀ incoming ∈ call.grades, LowerGrade key rank incoming) :
    storedGradeRow (run recordStep store calls) key = some row ∧
      rowsOf (run recordStep store calls) key = rowsOf store key := by
  have hgrades : SameGrades store (run recordStep store calls) := by
    refine run_keeps hrow hcurrent fun call hcall incoming hincoming => ?_
    have hgrade := hlower call hcall incoming hincoming
    refine ⟨hgrade.keyed, ?_⟩
    rcases hspeaks with ⟨level, hlevel, rfl⟩ | ⟨hconflict, hrank, hevidence⟩
    · exact keepsCurrent_of_selected hlevel hgrade
    · exact keepsCurrent_of_conflict hconflict hrank hgrade (hevidence call hcall incoming hincoming)
  refine ⟨(storedGradeRow_congr hgrades key).trans hrow, ?_⟩
  rw [rowsOf, rowsOf, hgrades]

end Authority

/-! ## Two recorded grades -/

namespace LeagueResult

local instance : PyRuntime := plainRuntime

local instance : Hashing := shapeHashing

/-- A completed fixture with two counts, as one source gives it. -/
def played (level : SettlementSource) (sourceKey : String) (home away : ℕ) :
    SettlementEvidence where
  fixtureId := "fixture"
  sourceLevel := level
  sourceKey := sourceKey
  recordId := "record"
  recordSetId := "record"
  sourceDigest := none
  fixtureStatus := "FINAL"
  regulationCompleted := true
  resumable := false
  administrativeAward := false
  counts := ⟨some home, some away, none, none, none, none, none, none, none, none⟩
  sourceAssertionIds := []
  publishedAtUtc := none
  observedAtUtc := none
  retrievedAtUtc := none
  predecessorId := none
  provenance := []
  fixture_text := by decide +kernel

def homeRequest (evidence : List SettlementEvidence) : GradeRequest where
  preferenceId := "match_winner_home"
  evidence := evidence
  fixtureId := some "fixture"
  finalize := false
  closeUnresolved := none
  withdrawn := false
  matchweekId := "matchweek"
  recommendationId := ""
  predictionDigest := none
  frozenEvidenceDigest := none
  frozenRecommendation := none

def homeKey : String := "fixture|matchweek||match_winner_home"

/-- The call that records the grader's output. -/
def recording (evidence : List SettlementEvidence) : RecordCall :=
  ⟨(grade (homeRequest evidence)).toOption.toList, none⟩

def recordingAll (inputs : List (List SettlementEvidence)) : List RecordCall :=
  inputs.map recording

theorem forall_of_recordingAll {inputs : List (List SettlementEvidence)}
    {check : SettlementGrade → Bool}
    (hinputs : ((recordingAll inputs).all fun call => call.grades.all check) = true) :
    ∀ call ∈ recordingAll inputs, ∀ incoming ∈ call.grades, check incoming = true :=
  fun call hcall => List.all_eq_true.mp (List.all_eq_true.mp hinputs call hcall)

def lower (rank : ℕ) (incoming : SettlementGrade) : Bool :=
  incoming.gradingKey = homeKey &&
    incoming.evidence.all fun item => decide (rank < item.sourceRank)

theorem lowerGrade_of_recordingAll {inputs : List (List SettlementEvidence)} {rank : ℕ}
    (hinputs : ((recordingAll inputs).all fun call => call.grades.all (lower rank)) = true) :
    ∀ call ∈ recordingAll inputs, ∀ incoming ∈ call.grades,
      LowerGrade homeKey rank incoming := by
  intro call hcall incoming hincoming
  have hlower := forall_of_recordingAll hinputs call hcall incoming hincoming
  rw [lower, Bool.and_eq_true, decide_eq_true_eq, List.all_eq_true] at hlower
  refine ⟨?_, hlower.1, fun item hitem => of_decide_eq_true (hlower.2 item hitem)⟩
  obtain ⟨evidence, -, rfl⟩ := List.mem_map.mp hcall
  rw [recording, Option.mem_toList] at hincoming
  cases hgrade : grade (homeRequest evidence) with
  | error error =>
      rw [hgrade] at hincoming
      cases hincoming
  | ok graded =>
      rw [hgrade] at hincoming
      cases hincoming
      exact ⟨homeRequest evidence, rfl, hgrade⟩

theorem exists_current (store : SettlementStore) (check : SettlementGrade → Bool)
    (hstore : (((storedGradeRow store homeKey).bind fun row =>
      (storedGradeFromRow row).toOption).any check) = true) :
    ∃ row current, storedGradeRow store homeKey = some row ∧
      storedGradeFromRow row = .ok current ∧ check current = true := by
  obtain ⟨current, hcurrent, hcheck⟩ := (Option.any_eq_true _ _).mp hstore
  obtain ⟨row, hrow, hread⟩ := Option.bind_eq_some_iff.mp hcurrent
  cases hstored : storedGradeFromRow row with
  | error error =>
      rw [hstored] at hread
      cases hread
  | ok stored =>
      rw [hstored] at hread
      cases hread
      exact ⟨row, current, hrow, hstored, hcheck⟩

/-- The league's result after one call. -/
def leagueStore : SettlementStore :=
  run recordStep emptyStore [recording [played .competition "league" 2 1]]

/-- Two disagreeing results of the league after one call. -/
def conflictStore : SettlementStore :=
  run recordStep emptyStore
    [recording [played .competition "league" 2 1, played .competition "site" 0 1]]

/-- Later evidence of a club and of a federation, and none at all. -/
def laterEvidence : List (List SettlementEvidence) :=
  [[played .club "club" 0 1], [played .federation "federation" 1 1, played .club "club" 0 1]]

/-- Neither the league's result nor its conflict is replaced. -/
theorem leagueGrades_kept :
    ((recordingAll ([] :: laterEvidence)).map fun call => call.grades.length) = [1, 1, 1] ∧
      rowsOf (run recordStep leagueStore (recordingAll ([] :: laterEvidence))) homeKey =
        rowsOf leagueStore homeKey ∧
      rowsOf (run recordStep conflictStore (recordingAll laterEvidence)) homeKey =
        rowsOf conflictStore homeKey := by
  refine ⟨by decide +kernel, ?_, ?_⟩
  · obtain ⟨row, current, hrow, hcurrent, hlevel⟩ := exists_current leagueStore
      (fun current => current.selectedSourceLevel = some .competition) (by decide +kernel)
    have hspeaks : SpeaksWith current 0 (recordingAll ([] :: laterEvidence)) :=
      Or.inl ⟨.competition, of_decide_eq_true hlevel, rfl⟩
    exact (run_of_lower hrow hcurrent hspeaks
      (lowerGrade_of_recordingAll (by decide +kernel))).2
  · obtain ⟨row, current, hrow, hcurrent, hconflict⟩ := exists_current conflictStore
      (fun current => current.reasonCode = "SOURCE_CONFLICT" ∧
        minimumRank? (conflictRanks current) = some 0) (by decide +kernel)
    obtain ⟨hreason, hrank⟩ := of_decide_eq_true hconflict
    have hevidence : ∀ call ∈ recordingAll laterEvidence, ∀ incoming ∈ call.grades,
        (!incoming.evidence.isEmpty) = true := forall_of_recordingAll (by decide +kernel)
    have hspeaks : SpeaksWith current 0 (recordingAll laterEvidence) :=
      Or.inr ⟨hreason, hrank, fun call hcall incoming hincoming => by
        simpa using hevidence call hcall incoming hincoming⟩
    exact (run_of_lower hrow hcurrent hspeaks
      (lowerGrade_of_recordingAll (by decide +kernel))).2

end LeagueResult

end MatchVet.T10.Authority
