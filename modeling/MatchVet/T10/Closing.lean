import MatchVet.T10.GradeFrame
import MatchVet.T10.Hierarchy

/-!
# Closing an investigation

Closing changes the unresolved outcomes only: a settled grade is graded again as
it is, and a pending one becomes VOID for the same reason.  A result other than
VOID needs a complete fixture and one group of records that supplies every
required fact.
-/

namespace MatchVet.T10.Closing

open MatchVet.Foundation.CanonicalJson
open MatchVet.Foundation.Runtime
open MatchVet.T10.Catalog
open MatchVet.T10.Evidence
open MatchVet.T10.Grade
open MatchVet.T10.GradeFrame
open MatchVet.T10.Grader
open MatchVet.T10.Grading
open MatchVet.T10.Hierarchy (mem_atRank minimumRank?_iff minimumRank?_eq_none)
open MatchVet.T10.Recorder

/-! ## What a result rests on -/

/-- A group that supplies every required fact, at the first level with such a group,
and that no group of the same or a higher level contradicts. -/
structure Supplies (groups : List EvidenceGroup) (factSet : List Fact)
    (selected : EvidenceGroup) : Prop where
  member : selected ∈ groups
  complete : selected.completeFor factSet = true
  supplied : ∀ fact ∈ factSet, ∃ number, selected.value fact = (some number, false)
  first : ∀ other ∈ groups, other.completeFor factSet = true →
    selected.sourceRank ≤ other.sourceRank
  agreed : ∀ other ∈ groups, other.completeFor factSet = true →
    other.sourceRank = selected.sourceRank → other.signature factSet = selected.signature factSet
  unopposed : ∀ other ∈ groups, other.sourceRank ≤ selected.sourceRank →
    other.conflictsFor factSet = false

theorem factGroup_supplies {groups : List EvidenceGroup} {factSet : List Fact}
    {selected : EvidenceGroup} (hselected : (factGroup groups factSet).selected = some selected) :
    Supplies groups factSet selected := by
  unfold factGroup at hselected
  dsimp only at hselected
  split at hselected
  next firstRank hfirst =>
    split at hselected
    · cases hselected
    next hblocking =>
      split at hselected
      · cases hselected
      next hone =>
        obtain ⟨hmember, rfl⟩ := mem_atRank.mp (List.mem_of_head? hselected)
        obtain ⟨hgroup, hcomplete⟩ := List.mem_filter.mp hmember
        refine ⟨hgroup, hcomplete, fun fact => completeFor_value hcomplete, ?_, ?_, ?_⟩
        · intro other hother hotherComplete
          exact (minimumRank?_iff.mp hfirst).2 other
            (List.mem_filter.mpr ⟨hother, hotherComplete⟩)
        · intro other hother hotherComplete hotherRank
          have hsame : other ∈ atRank (groups.filter fun group => group.completeFor factSet)
              (some selected.sourceRank) :=
            mem_atRank.mpr ⟨List.mem_filter.mpr ⟨hother, hotherComplete⟩, hotherRank⟩
          exact Finset.card_le_one.mp (Nat.le_of_not_lt hone) _
            (List.mem_toFinset.mpr (List.mem_map_of_mem hsame)) _
            (List.mem_toFinset.mpr (List.mem_map_of_mem (List.mem_of_head? hselected)))
        · intro other hother hotherRank
          by_contra hconflict
          rw [Bool.not_eq_false] at hconflict
          have hblocked : other ∈ groups.filter fun group =>
              group.sourceRank ≤ selected.sourceRank && group.conflictsFor factSet :=
            List.mem_filter.mpr ⟨hother, by rw [hconflict, decide_eq_true hotherRank]; rfl⟩
          rw [minimumRank?_eq_none hblocking] at hblocked
          cases hblocked
  · split at hselected <;> cases hselected

/-! ## Closing an outcome -/

section Outcomes

variable [Hashing]

/-- The outcome of the same records, first left open and then closed. -/
inductive Closes : Outcome → Outcome → Prop where
  | settled {outcome : Outcome} (hstate : outcome.gradingState = .final) :
      Closes outcome outcome
  | unresolved (records superseded : List SettlementEvidence) (reasonCode reason : String)
      (conflictGroups : List EvidenceGroup) (traces : Traces) :
      Closes (unresolved records superseded false reasonCode reason conflictGroups traces)
        (unresolved records superseded true reasonCode reason conflictGroups traces)

theorem completeOutcome_closes {records superseded : List SettlementEvidence}
    {groups : List EvidenceGroup} {preference : BettingPreference} {status : EvidenceGroup}
    {opened : Outcome}
    (hopened : completeOutcome records superseded groups false preference status = .ok opened) :
    ∃ closed, completeOutcome records superseded groups true preference status = .ok closed ∧
      Closes opened closed := by
  unfold completeOutcome at hopened ⊢
  dsimp only at hopened ⊢
  by_cases hconflict : (factGroup groups preference.requiredFacts).conflict = true
  · rw [if_pos hconflict] at hopened ⊢
    cases hopened
    exact ⟨_, rfl, .unresolved ..⟩
  · rw [if_neg hconflict] at hopened ⊢
    cases hselected : (factGroup groups preference.requiredFacts).selected with
    | none =>
        rw [hselected] at hopened
        cases hopened
        exact ⟨_, rfl, .unresolved ..⟩
    | some selected =>
        rw [hselected] at hopened
        dsimp only at hopened ⊢
        cases hsettle : settlePreference preference selected with
        | ok result =>
            rw [hsettle] at hopened
            cases hopened
            exact ⟨_, rfl, .settled rfl⟩
        | error error =>
            rw [hsettle] at hopened
            cases error with
            | validation message =>
                cases hopened
                exact ⟨_, rfl, .unresolved ..⟩
            | integrity message => cases hopened
            | unexpected => cases hopened

/-- Closing grades the same records, so it succeeds where leaving them open does. -/
theorem gradeOutcome_closes {records : List SettlementEvidence} {preference : BettingPreference}
    {opened : Outcome} (hopened : gradeOutcome records false false preference = .ok opened) :
    ∃ closed, gradeOutcome records false true preference = .ok closed ∧
      Closes opened closed := by
  unfold gradeOutcome at hopened ⊢
  simp only [Bool.false_eq_true, if_false] at hopened ⊢
  split at hopened
  · cases hopened
    exact ⟨_, rfl, .unresolved ..⟩
  · cases hopened
    exact ⟨_, rfl, .unresolved ..⟩
  next status hstatus =>
    by_cases hvoid : status.statusKinds = {.void}
    · rw [if_pos hvoid] at hopened
      rw [if_pos hvoid]
      cases hopened
      exact ⟨_, rfl, .settled rfl⟩
    · rw [if_neg hvoid] at hopened
      rw [if_neg hvoid]
      by_cases hcomplete : status.statusKinds ≠ {.complete}
      · rw [if_pos hcomplete] at hopened ⊢
        cases hopened
        exact ⟨_, rfl, .unresolved ..⟩
      · rw [if_neg hcomplete] at hopened ⊢
        exact completeOutcome_closes hopened

/-- A result rests on a complete fixture and one supplying group, whose first record is
the selected evidence. -/
def RestsOn (groups : List EvidenceGroup) (preference : BettingPreference)
    (result : SettlementResult) (evidenceSetId : Option String) : Prop :=
  ∃ status selected, statusGroup groups = (some status, false) ∧
    status.statusKinds = {.complete} ∧ Supplies groups preference.requiredFacts selected ∧
    settlePreference preference selected = .ok result ∧
    evidenceSetId = selected.records.head?.map SettlementEvidence.evidenceId

/-- A result other than VOID is graded from a complete fixture and a supplying group. -/
theorem gradeOutcome_restsOn {records : List SettlementEvidence} {finalize : Bool}
    {preference : BettingPreference} {outcome : Outcome} {result : SettlementResult}
    (houtcome : gradeOutcome records false finalize preference = .ok outcome)
    (hresult : outcome.settlementResult = some result) (hvoid : result ≠ .void) :
    RestsOn (evidenceGroups (activeEvidenceRecords records).1) preference result
      outcome.selectedEvidenceSetId := by
  cases gradeOutcome_decides houtcome with
  | withdrawn | void =>
      cases hresult
      exact absurd rfl hvoid
  | unresolved =>
      cases finalize with
      | false => cases hresult
      | true =>
          cases hresult
          exact absurd rfl hvoid
  | graded superseded hwithdrawn controls hsettle =>
      cases hresult
      obtain ⟨status, hstatus, hcomplete⟩ := controls.complete
      exact ⟨status, _, hstatus, hcomplete, factGroup_supplies controls.selected, hsettle, rfl⟩

end Outcomes

/-! ## Closing a grade -/

section Grades

variable [PyRuntime] [Hashing]

/-- The call that leaves a grade open or closes it. -/
def finalizing (request : GradeRequest) (finalize : Bool) : GradeRequest :=
  { request with finalize := finalize, closeUnresolved := none }

omit [PyRuntime] in
theorem framed_finalizing {request : GradeRequest} {first : Bool} {preference : BettingPreference}
    {selected : Identities} {fixtureId : String}
    (framed : Framed (finalizing request first) preference selected fixtureId) (second : Bool) :
    Framed (finalizing request second) preference selected fixtureId :=
  ⟨framed.contract, framed.identified, framed.fixture, framed.common⟩

/-- A void grade that names the open grade's reason and conflict, and no source. -/
structure VoidOf (opened closed : SettlementGrade) : Prop where
  final : closed.gradingState = .final
  void : closed.settlementResult = some .void
  reasonCode : closed.reasonCode = opened.reasonCode
  conflicts : conflictEvidenceIds closed = conflictEvidenceIds opened
  noEvidenceSet : closed.selectedEvidenceSetId = none
  noLevel : closed.selectedSourceLevel = none
  noKey : closed.selectedSourceKey = none
  noRecords : closed.selectedSourceRecordIds = []

/-- Closing keeps a final grade, voids a pending one, and a result other than VOID
rests on a complete fixture and one supplying group. -/
theorem grade_closes {request : GradeRequest} (hwithdrawn : request.withdrawn = false)
    {opened : SettlementGrade} (hopened : grade (finalizing request false) = .ok opened) :
    (opened.gradingState = .final → grade (finalizing request true) = .ok opened) ∧
      (opened.gradingState = .pending →
        ∃ closed, grade (finalizing request true) = .ok closed ∧ VoidOf opened closed) ∧
      (opened.gradingState = .final → ∀ result, opened.settlementResult = some result →
        result ≠ .void →
          RestsOn (evidenceGroups (activeEvidenceRecords (sortedRecords request.evidence)).1)
            opened.preference result opened.selectedEvidenceSetId) := by
  obtain ⟨preference, selected, fixtureId, outcome, framed, houtcome, hnodup, rfl⟩ :=
    grade_eq_ok.mp hopened
  change gradeOutcome (sortedRecords request.evidence) request.withdrawn false preference =
    .ok outcome at houtcome
  rw [hwithdrawn] at houtcome
  obtain ⟨closed, hclosed, hcloses⟩ := gradeOutcome_closes houtcome
  have hagain : gradeOutcome (sortedRecords request.evidence) request.withdrawn true preference =
      .ok closed := by rw [hwithdrawn, hclosed]
  have hgrade := grade_eq_ok.mpr ⟨preference, selected, fixtureId, closed, framed_finalizing framed true,
    hagain, hnodup, rfl⟩
  refine ⟨fun hfinal => ?_, fun hpending => ⟨_, hgrade, ?_⟩, fun _ result hresult hvoid =>
    gradeOutcome_restsOn houtcome hresult hvoid⟩
  · cases hcloses with
    | settled hstate => exact hgrade
    | unresolved => cases hfinal
  · cases hcloses with
    | settled hstate =>
        have hboth := hstate.symm.trans hpending
        cases hboth
    | unresolved => exact ⟨rfl, rfl, rfl, rfl, rfl, rfl, rfl, rfl⟩

end Grades

/-! ## A disagreement of two sites -/

namespace LeagueResult

open MatchVet.T10.Authority.LeagueResult

local instance : PyRuntime := plainRuntime

local instance : Hashing := shapeHashing

/-- Two sites of the competition that give different results. -/
def disagreeing : List SettlementEvidence :=
  [played .competition "league" 2 1, played .competition "site" 0 1]

/-- The disagreement is pending, and void once it is closed. -/
theorem disagreeing_closes :
    ∃ opened, grade (finalizing (homeRequest disagreeing) false) = .ok opened ∧
      opened.gradingState = .pending ∧
      ∃ closed, grade (finalizing (homeRequest disagreeing) true) = .ok closed ∧
        VoidOf opened closed := by
  have hopen : ((grade (finalizing (homeRequest disagreeing) false)).toOption.any fun opened =>
      opened.gradingState = .pending) = true := by decide +kernel
  cases hopened : grade (finalizing (homeRequest disagreeing) false) with
  | error error =>
      rw [hopened] at hopen
      cases hopen
  | ok opened =>
      rw [hopened] at hopen
      have hpending : opened.gradingState = .pending := of_decide_eq_true hopen
      exact ⟨opened, rfl, hpending, (grade_closes rfl hopened).2.1 hpending⟩

end LeagueResult

end MatchVet.T10.Closing
