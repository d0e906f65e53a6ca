import MatchVet.T10.Grader

/-!
# The frame of a grade

A grade is a fixed function of its contract, its identities, its fixture, its
sorted records and the outcome of grading them.  The constructor adds one check
only: the records have distinct evidence identifiers.
-/

namespace MatchVet.T10.GradeFrame

open MatchVet.Foundation.CanonicalJson
open MatchVet.Foundation.Runtime
open MatchVet.T10.Catalog
open MatchVet.T10.Evidence
open MatchVet.T10.Grade
open MatchVet.T10.Grader
open MatchVet.T10.Grading

/-- An identity that is not given differs from none. -/
theorem differs_empty (computed : String) : ¬ differs "" computed = true := by
  simp [differs]

/-- A complete group has one value for each of its facts. -/
theorem completeFor_value {group : EvidenceGroup} {factSet : List Fact}
    (hcomplete : group.completeFor factSet = true) {fact : Fact} (hfact : fact ∈ factSet) :
    ∃ number, group.value fact = (some number, false) := by
  unfold EvidenceGroup.completeFor at hcomplete
  simp only [Bool.and_eq_true] at hcomplete
  have hknown := List.all_eq_true.mp hcomplete.1.2 fact hfact
  rw [EvidenceGroup.factKnown, Bool.and_eq_true, Option.isSome_iff_exists] at hknown
  obtain ⟨hone, number, hnumber⟩ := hknown
  exact ⟨number, Prod.ext hnumber (by simpa using hone)⟩

section Outcomes

variable [Hashing]

/-! ## Outcomes -/

/-- The group that controls some facts: the fixture is complete, and one group is
selected without a conflict. -/
structure Controls (groups : List EvidenceGroup) (factSet : List Fact)
    (selected : EvidenceGroup) : Prop where
  complete : ∃ status, statusGroup groups = (some status, false) ∧
    status.statusKinds = {.complete}
  agreed : (factGroup groups factSet).conflict = false
  selected : (factGroup groups factSet).selected = some selected

/-- The reasons of an outcome that is not settled. -/
def unresolvedReasons : List String :=
  ["SOURCE_CONFLICT", "MISSING_FIXTURE_STATUS", "PENDING_FIXTURE_STATUS",
    "INVALID_PHASE_RELATIONSHIP", "MISSING_REQUIRED_FACTS"]

/-- What the evidence can decide about one contract. -/
inductive Decides (records : List SettlementEvidence) (withdrawn finalize : Bool)
    (preference : BettingPreference) : Outcome → Prop where
  | withdrawn (superseded : List SettlementEvidence) (hwithdrawn : withdrawn = true) :
      Decides records withdrawn finalize preference (withdrawnOutcome records superseded)
  | unresolved (superseded : List SettlementEvidence) {reasonCode : String}
      (hreason : reasonCode ∈ unresolvedReasons) (reason : String)
      (conflictGroups : List EvidenceGroup) (traces : Traces) :
      Decides records withdrawn finalize preference
        (unresolved records superseded finalize reasonCode reason conflictGroups traces)
  | void (superseded : List SettlementEvidence) {status : EvidenceGroup}
      (hstatus : statusGroup (evidenceGroups (activeEvidenceRecords records).1) =
        (some status, false)) :
      Decides records withdrawn finalize preference (voidOutcome records superseded status)
  | graded (superseded : List SettlementEvidence) {selected : EvidenceGroup}
      {result : SettlementResult} (hwithdrawn : withdrawn = false)
      (controls : Controls (evidenceGroups (activeEvidenceRecords records).1)
        preference.requiredFacts selected)
      (hsettle : settlePreference preference selected = .ok result) {traces : Traces}
      (hconflict : traces.conflictEvidenceIds = none) :
      Decides records withdrawn finalize preference
        (gradedOutcome records superseded result selected traces)

theorem completeOutcome_decides {records superseded : List SettlementEvidence}
    {withdrawn finalize : Bool} {preference : BettingPreference} {status : EvidenceGroup}
    {outcome : Outcome} (hwithdrawn : withdrawn = false)
    (hstatus : statusGroup (evidenceGroups (activeEvidenceRecords records).1) =
      (some status, false))
    (hcomplete : status.statusKinds = {.complete})
    (houtcome : completeOutcome records superseded
      (evidenceGroups (activeEvidenceRecords records).1) finalize preference status =
        .ok outcome) : Decides records withdrawn finalize preference outcome := by
  unfold completeOutcome at houtcome
  dsimp only at houtcome
  split at houtcome
  · cases houtcome
    exact .unresolved _ (by decide) ..
  next hagreed =>
    split at houtcome
    · cases houtcome
      refine .unresolved _ ?_ ..
      split <;> decide
    next selected hselected =>
      split at houtcome
      next result hsettle =>
        cases houtcome
        exact .graded _ hwithdrawn
          ⟨⟨status, hstatus, hcomplete⟩, Bool.not_eq_true _ ▸ hagreed, hselected⟩ hsettle
          rfl
      · cases houtcome
        exact .unresolved _ (by decide) ..
      · cases houtcome

/-- Grading ends in one of four ways. -/
theorem gradeOutcome_decides {records : List SettlementEvidence} {withdrawn finalize : Bool}
    {preference : BettingPreference} {outcome : Outcome}
    (houtcome : gradeOutcome records withdrawn finalize preference = .ok outcome) :
    Decides records withdrawn finalize preference outcome := by
  unfold gradeOutcome at houtcome
  dsimp only at houtcome
  split at houtcome
  next hwithdrawn =>
    cases houtcome
    exact .withdrawn _ hwithdrawn
  next hwithdrawn =>
    split at houtcome
    · cases houtcome
      exact .unresolved _ (by decide) ..
    · cases houtcome
      exact .unresolved _ (by decide) ..
    next status hstatus =>
      split at houtcome
      · cases houtcome
        exact .void _ hstatus
      · split at houtcome
        · cases houtcome
          exact .unresolved _ (by decide) ..
        next hcomplete =>
          exact completeOutcome_decides (Bool.not_eq_true _ ▸ hwithdrawn) hstatus
            (not_not.mp hcomplete) houtcome

/-- Only controlling evidence is graded. -/
theorem controls_of_graded {records : List SettlementEvidence} {withdrawn finalize : Bool}
    {preference : BettingPreference} {outcome : Outcome}
    (houtcome : gradeOutcome records withdrawn finalize preference = .ok outcome)
    (hcode : outcome.reasonCode = "GRADED") :
    withdrawn = false ∧ ∃ selected result,
      Controls (evidenceGroups (activeEvidenceRecords records).1) preference.requiredFacts
        selected ∧
        settlePreference preference selected = .ok result ∧
        outcome.settlementResult = some result := by
  cases gradeOutcome_decides houtcome with
  | withdrawn => simp [withdrawnOutcome] at hcode
  | void => simp [voidOutcome] at hcode
  | @unresolved superseded reasonCode hreason =>
      obtain rfl : reasonCode = "GRADED" := hcode
      exact absurd hreason (by decide)
  | graded superseded hwithdrawn controls hsettle =>
      exact ⟨hwithdrawn, _, _, controls, hsettle, rfl⟩

/-- Evidence that controls the required facts of a contract it settles is graded. -/
theorem gradeOutcome_graded {records : List SettlementEvidence} {finalize : Bool}
    {preference : BettingPreference} {selected : EvidenceGroup} {result : SettlementResult}
    (controls : Controls (evidenceGroups (activeEvidenceRecords records).1)
      preference.requiredFacts selected)
    (hsettle : settlePreference preference selected = .ok result) :
    ∃ outcome, gradeOutcome records false finalize preference = .ok outcome ∧
      outcome.reasonCode = "GRADED" ∧ outcome.settlementResult = some result := by
  obtain ⟨status, hstatus, hcomplete⟩ := controls.complete
  have hvoid : status.statusKinds ≠ {.void} := by
    rw [hcomplete]
    decide
  unfold gradeOutcome completeOutcome
  dsimp only
  rw [if_neg Bool.false_ne_true, hstatus]
  dsimp only
  rw [if_neg hvoid, if_neg (not_not.mpr hcomplete), controls.agreed, controls.selected,
    if_neg Bool.false_ne_true]
  dsimp only
  rw [hsettle]
  exact ⟨_, rfl, rfl, rfl⟩

/-- A pending outcome has no result and a final one has. -/
theorem gradeOutcome_stateFault {records : List SettlementEvidence} {withdrawn finalize : Bool}
    {preference : BettingPreference} {outcome : Outcome}
    (houtcome : gradeOutcome records withdrawn finalize preference = .ok outcome) :
    stateFault outcome.gradingState outcome.settlementResult = none := by
  cases gradeOutcome_decides houtcome with
  | withdrawn | void | graded => rfl
  | unresolved => cases finalize <;> rfl

end Outcomes

/-! ## Requests -/

variable [Hashing]

/-- A request that names a contract of the catalog, consistent identities and one
fixture for all of its records. -/
structure Framed (request : GradeRequest) (preference : BettingPreference)
    (selected : Identities) (fixtureId : String) : Prop where
  contract : defaultPreferenceCatalog.get? request.preferenceId = some preference
  identified : identities request preference = .ok selected
  fixture : ∃ given,
    requestedFixture selected.fixtureId (sortedRecords request.evidence) = .ok given ∧
      text (.str given) "Settlement Grade fixture ID" = .ok fixtureId
  common : ∀ item ∈ request.evidence, item.fixtureId = fixtureId

theorem Framed.fixture_text {request : GradeRequest} {preference : BettingPreference}
    {selected : Identities} {fixtureId : String}
    (framed : Framed request preference selected fixtureId) :
    text (.str fixtureId) "Settlement Grade fixture ID" = .ok fixtureId := by
  obtain ⟨given, -, hfixture⟩ := framed.fixture
  exact text_of_text hfixture

/-- The flag that closes an unresolved grade. -/
def closes (request : GradeRequest) : Bool := request.closeUnresolved.getD request.finalize

/-- The constructor arguments of the grade of an outcome. -/
def argumentsFor (preference : BettingPreference) (selected : Identities) (fixtureId : String)
    (records : List SettlementEvidence) (outcome : Outcome) : SettlementGrade.Arguments where
  fixtureId := fixtureId
  preference := preference
  gradingState := outcome.gradingState
  settlementResult := outcome.settlementResult
  reasonCode := outcome.reasonCode
  reason := outcome.reason
  evidenceDigest := aggregateEvidenceDigest records
  evidenceIds := records.map SettlementEvidence.evidenceId
  selectedEvidenceSetId := outcome.selectedEvidenceSetId
  selectedSourceLevel := outcome.selected.map EvidenceGroup.sourceLevel
  selectedSourceKey := outcome.selected.map EvidenceGroup.sourceKey
  selectedSourceRecordIds :=
    ((outcome.selected.map EvidenceGroup.records).getD []).map SettlementEvidence.recordId
  provenance := outcome.provenance
  evidence := records
  matchweekId := selected.matchweekId
  recommendationId := selected.recommendationId
  predictionDigest := selected.predictionDigest
  frozenEvidenceDigest := selected.frozenEvidenceDigest
  predecessorGradeId := none
  correctionSequence := 0
  gradeId := ""
  gradeDigest := ""

/-- The grade of an outcome. -/
def gradeOf (preference : BettingPreference) (selected : Identities) (fixtureId : String)
    (records : List SettlementEvidence) (outcome : Outcome)
    (hfixture : text (.str fixtureId) "Settlement Grade fixture ID" = .ok fixtureId)
    (hstate : stateFault outcome.gradingState outcome.settlementResult = none)
    (hnodup : (records.map SettlementEvidence.evidenceId).Nodup) : SettlementGrade where
  fixtureId := fixtureId
  preference := preference
  gradingState := outcome.gradingState
  settlementResult := outcome.settlementResult
  reasonCode := outcome.reasonCode
  reason := outcome.reason
  selectedEvidenceSetId := outcome.selectedEvidenceSetId
  selectedSourceLevel := outcome.selected.map EvidenceGroup.sourceLevel
  selectedSourceKey := outcome.selected.map EvidenceGroup.sourceKey
  selectedSourceRecordIds :=
    sortedSet (((outcome.selected.map EvidenceGroup.records).getD []).map
      SettlementEvidence.recordId)
  provenance := outcome.provenance
  evidence := records
  matchweekId := selected.matchweekId
  recommendationId := selected.recommendationId
  predictionDigest := selected.predictionDigest
  frozenEvidenceDigest := selected.frozenEvidenceDigest
  predecessorGradeId := none
  correctionSequence := 0
  fixture_text := hfixture
  state_valid := hstate
  evidence_nodup := hnodup

theorem create_nodup {arguments : SettlementGrade.Arguments} {graded : SettlementGrade}
    (hcreate : SettlementGrade.create arguments = .ok graded) :
    (arguments.evidence.map SettlementEvidence.evidenceId).Nodup := by
  rw [← (SettlementGrade.create_keeps hcreate).2.2.2.2]
  exact graded.evidence_nodup

theorem create_gradeOf {preference : BettingPreference} {selected : Identities}
    {fixtureId : String} {records : List SettlementEvidence} {outcome : Outcome}
    (hfixture : text (.str fixtureId) "Settlement Grade fixture ID" = .ok fixtureId)
    (hstate : stateFault outcome.gradingState outcome.settlementResult = none)
    (hnodup : (records.map SettlementEvidence.evidenceId).Nodup) :
    SettlementGrade.create (argumentsFor preference selected fixtureId records outcome) =
      .ok (gradeOf preference selected fixtureId records outcome hfixture hstate hnodup) := by
  have hids : sortedSet (records.map SettlementEvidence.evidenceId) =
      (records.map SettlementEvidence.evidenceId).insertionSort (· ≤ ·) := by
    rw [sortedSet, hnodup.dedup]
  unfold SettlementGrade.create argumentsFor
  dsimp only
  split
  next message hfault =>
    rw [hstate] at hfault
    cases hfault
  · rw [if_neg (by omega)]
    split
    next error htext =>
      rw [hfixture] at htext
      cases htext
    next content htext =>
      rw [hfixture, Except.ok.injEq] at htext
      subst htext
      rw [dif_pos hids]
      refine (if_neg (differs_self (aggregateEvidenceDigest records))).trans ?_
      rw [if_neg (differs_empty _), if_neg (differs_empty _)]
      rfl

variable [PyRuntime]

/-- Grading succeeds for a framed request with distinct records whose contract can be
settled, and gives the grade of the outcome. -/
theorem grade_eq_ok {request : GradeRequest} {graded : SettlementGrade} :
    grade request = .ok graded ↔
      ∃ preference selected fixtureId outcome,
        ∃ framed : Framed request preference selected fixtureId,
        ∃ houtcome : gradeOutcome (sortedRecords request.evidence) request.withdrawn
          (closes request) preference = .ok outcome,
        ∃ hnodup : ((sortedRecords request.evidence).map SettlementEvidence.evidenceId).Nodup,
          graded = gradeOf preference selected fixtureId (sortedRecords request.evidence) outcome
            framed.fixture_text (gradeOutcome_stateFault houtcome) hnodup := by
  constructor
  · intro hgrade
    unfold Grader.grade at hgrade
    dsimp only at hgrade
    split at hgrade
    · cases hgrade
    next preference hpreference =>
      simp only [bind_eq_ok] at hgrade
      obtain ⟨selected, hselected, given, hgiven, fixtureId, hfixture, hrest⟩ := hgrade
      split at hrest
      · cases hrest
      next hcommon =>
        rw [bind_eq_ok] at hrest
        obtain ⟨outcome, houtcome, hcreate⟩ := hrest
        have framed : Framed request preference selected fixtureId :=
          ⟨hpreference, hselected, ⟨given, hgiven, hfixture⟩, fun item hitem => by
            have hsorted : item ∈ sortedRecords request.evidence :=
              (List.mem_insertionSort _).mpr hitem
            by_contra hother
            exact hcommon (List.any_eq_true.mpr ⟨item, hsorted, by simpa using hother⟩)⟩
        have hnodup := create_nodup hcreate
        refine ⟨preference, selected, fixtureId, outcome, framed, houtcome, hnodup, ?_⟩
        exact Except.ok.inj (hcreate.symm.trans
          (create_gradeOf framed.fixture_text (gradeOutcome_stateFault houtcome) hnodup))
  · rintro ⟨preference, selected, fixtureId, outcome, framed, houtcome, hnodup, rfl⟩
    obtain ⟨given, hgiven, hfixture⟩ := framed.fixture
    have hcommon : ¬ ((sortedRecords request.evidence).any fun item =>
        item.fixtureId ≠ fixtureId) = true := by
      intro hany
      obtain ⟨item, hitem, hother⟩ := List.any_eq_true.mp hany
      exact of_decide_eq_true hother (framed.common item ((List.mem_insertionSort _).mp hitem))
    unfold Grader.grade
    dsimp only
    rw [framed.contract]
    dsimp only
    simp only [bind_eq_ok]
    refine ⟨selected, framed.identified, given, hgiven, fixtureId, hfixture, ?_⟩
    rw [if_neg hcommon, bind_eq_ok]
    exact ⟨outcome, houtcome, create_gradeOf _ _ _⟩

end MatchVet.T10.GradeFrame
