import MatchVet.T10.Grade

/-!
# The settlement grader

Grading one contract reads the evidence in a fixed order, so it depends on no
state.  Every grade says which records it considered and which it selected.
-/

namespace MatchVet.T10.Grader

open MatchVet.Foundation.CanonicalJson
open MatchVet.Foundation.Runtime
open MatchVet.T10.Catalog
open MatchVet.T10.Evidence
open MatchVet.T10.Grade
open MatchVet.T10.Grading

/-- The immutable references kept beside a later grade. -/
structure FrozenRecommendation where
  recommendationId : String
  fixtureId : String
  preferenceId : String
  matchweekId : String
  predictionDigest : Option String
  frozenEvidenceDigest : Option String

/-- What a caller asks to be graded. -/
structure GradeRequest where
  preferenceId : String
  evidence : List SettlementEvidence
  fixtureId : Option String
  finalize : Bool
  closeUnresolved : Option Bool
  withdrawn : Bool
  matchweekId : String
  recommendationId : String
  predictionDigest : Option String
  frozenEvidenceDigest : Option String
  frozenRecommendation : Option FrozenRecommendation

/-- The identities of a request, after the frozen recommendation replaced them. -/
structure Identities where
  fixtureId : Option String
  matchweekId : String
  recommendationId : String
  predictionDigest : Option String
  frozenEvidenceDigest : Option String

def identities (request : GradeRequest) (preference : BettingPreference) :
    Except T10Error Identities :=
  match request.frozenRecommendation with
  | none =>
      .ok ⟨request.fixtureId, request.matchweekId, request.recommendationId,
        request.predictionDigest, request.frozenEvidenceDigest⟩
  | some frozen =>
      if frozen.preferenceId ≠ preference.preferenceId then
        invalid "Frozen Recommendation preference does not match the grade."
      else if request.fixtureId.isSome && request.fixtureId ≠ some frozen.fixtureId then
        invalid "Frozen Recommendation fixture does not match the grade."
      else
        .ok ⟨some frozen.fixtureId, frozen.matchweekId, frozen.recommendationId,
          frozen.predictionDigest, frozen.frozenEvidenceDigest⟩

/-- The texts of a grade's outcome. -/
structure Outcome where
  gradingState : GradingState
  settlementResult : Option SettlementResult
  reasonCode : String
  reason : String
  selectedEvidenceSetId : Option String
  selected : Option EvidenceGroup
  provenance : List (String × Json)

section Ordering

variable [Hashing]

def recordOrder (evidence : SettlementEvidence) :
    ℕ ×ₗ String ×ₗ String ×ₗ String ×ₗ String :=
  toLex (evidence.sourceRank, toLex (evidence.sourceKey, toLex (evidence.recordSetId,
    toLex (evidence.recordId, evidence.evidenceDigest))))

def sortedRecords (evidence : List SettlementEvidence) : List SettlementEvidence :=
  evidence.insertionSort fun first second => recordOrder first ≤ recordOrder second

def dicts (records : List SettlementEvidence) : Json :=
  .array (records.map SettlementEvidence.toDict)

/-- The parts of a provenance that only some outcomes have. -/
structure Traces where
  conflictEvidenceIds : Option Json
  overriddenEvidence : Option Json
  selectedEvidence : Option Json
  statusSource : Option Json

def noTraces : Traces := ⟨none, none, none, none⟩

/-- The provenance in key order. -/
def provenanceOf (records superseded : List SettlementEvidence) (traces : Traces) :
    List (String × Json) :=
  optionalMember "conflict_evidence_ids" traces.conflictEvidenceIds ++
    [("considered_evidence", dicts records)] ++
    optionalMember "overridden_evidence" traces.overriddenEvidence ++
    [("rules_name", .str settlementRulesName), ("rules_version", .str settlementRulesVersion)] ++
    optionalMember "selected_evidence" traces.selectedEvidence ++
    [("source_hierarchy", textsJson (sourceHierarchy.map SettlementSource.value)),
      ("source_hierarchy_name", .str sourceHierarchyName),
      ("source_hierarchy_version", .str sourceHierarchyVersion)] ++
    optionalMember "status_source" traces.statusSource ++
    [("superseded_evidence", dicts superseded)]

def statusSourceJson (status : EvidenceGroup) : Json :=
  .object [("record_ids", textsJson (status.records.map SettlementEvidence.recordId)),
    ("source_key", .str status.sourceKey), ("source_level", .str status.sourceLevel.value),
    ("status", textsJson (sortedSet ((status.records.map
      SettlementEvidence.statusKind).map StatusKind.value)))]

def conflictIds (groups : List EvidenceGroup) : Json :=
  textsJson (groups.flatMap fun group => group.records.map SettlementEvidence.evidenceId)

/-- The nested `unresolved`. -/
def unresolved (records superseded : List SettlementEvidence) (finalize : Bool)
    (reasonCode reason : String) (conflictGroups : List EvidenceGroup) (traces : Traces) :
    Outcome where
  gradingState := if finalize then .final else .pending
  settlementResult := if finalize then some .void else none
  reasonCode := reasonCode
  reason := if finalize then reason ++ " Grading closed unresolved." else reason
  selectedEvidenceSetId := none
  selected := none
  provenance := provenanceOf records superseded
    { traces with conflictEvidenceIds := some (conflictIds conflictGroups) }

def withdrawnOutcome (records superseded : List SettlementEvidence) : Outcome where
  gradingState := .final
  settlementResult := some .void
  reasonCode := "WITHDRAWN_RECOMMENDATION"
  reason :=
    "The frozen Matchweek recommendation was withdrawn after postponement or cancellation."
  selectedEvidenceSetId := none
  selected := none
  provenance := provenanceOf records superseded noTraces

def voidOutcome (records superseded : List SettlementEvidence) (status : EvidenceGroup) :
    Outcome where
  gradingState := .final
  settlementResult := some .void
  reasonCode := "VOID_FIXTURE_STATUS"
  reason :=
    "Fixture status " ++ ((status.records.head?.map
      SettlementEvidence.fixtureStatus).getD "") ++ " is a settled VOID condition."
  selectedEvidenceSetId := none
  selected := some status
  provenance := provenanceOf records superseded
    { noTraces with statusSource := some (statusSourceJson status) }

def gradedOutcome (records superseded : List SettlementEvidence) (result : SettlementResult)
    (selected : EvidenceGroup) (traces : Traces) : Outcome where
  gradingState := .final
  settlementResult := some result
  reasonCode := "GRADED"
  reason :=
    "The first complete applicable record in the fixed source hierarchy controls grading."
  selectedEvidenceSetId := selected.records.head?.map SettlementEvidence.evidenceId
  selected := some selected
  provenance := provenanceOf records superseded traces

/-- Grading a complete fixture: the controlling facts decide. -/
def completeOutcome (records superseded : List SettlementEvidence) (groups : List EvidenceGroup)
    (finalize : Bool) (preference : BettingPreference) (status : EvidenceGroup) :
    Except T10Error Outcome :=
  let traces := { noTraces with statusSource := some (statusSourceJson status) }
  let facts := factGroup groups preference.requiredFacts
  if facts.conflict then
    .ok (unresolved records superseded finalize "SOURCE_CONFLICT"
      "Complete records at the controlling source level disagree on required facts."
      facts.related traces)
  else
    match facts.selected with
    | none =>
        .ok (unresolved records superseded finalize
          (if records.any SettlementEvidence.invalidPhaseRelationship then
            "INVALID_PHASE_RELATIONSHIP" else "MISSING_REQUIRED_FACTS")
          "No complete authoritative record contains the required facts." [] traces)
    | some selected =>
        let traces := { traces with
          selectedEvidence := some (dicts selected.records)
          overriddenEvidence := some (dicts (facts.related.flatMap EvidenceGroup.records)) }
        match settlePreference preference selected with
        | .ok result => .ok (gradedOutcome records superseded result selected traces)
        | .error (.validation _) =>
            .ok (unresolved records superseded finalize "INVALID_PHASE_RELATIONSHIP"
              "Required phase facts are contradictory." [] traces)
        | .error error => .error error

/-- What the evidence says about one contract. -/
def gradeOutcome (records : List SettlementEvidence) (withdrawn finalize : Bool)
    (preference : BettingPreference) : Except T10Error Outcome :=
  let active := (activeEvidenceRecords records).1
  let superseded := (activeEvidenceRecords records).2
  let groups := evidenceGroups active
  if withdrawn then .ok (withdrawnOutcome records superseded)
  else
    match statusGroup groups with
    | (_, true) =>
        .ok (unresolved records superseded finalize "SOURCE_CONFLICT"
          "The highest-authority source level contains conflicting fixture statuses."
          (atRank groups (minimumRank? (groups.map EvidenceGroup.sourceRank))) noTraces)
    | (none, false) =>
        .ok (unresolved records superseded finalize "MISSING_FIXTURE_STATUS"
          "No complete fixture status was supplied." [] noTraces)
    | (some status, false) =>
        if status.statusKinds = {.void} then .ok (voidOutcome records superseded status)
        else if status.statusKinds ≠ {.complete} then
          .ok (unresolved records superseded finalize "PENDING_FIXTURE_STATUS"
            "The fixture is not complete. A resumable suspension remains pending." []
            { noTraces with statusSource := some (statusSourceJson status) })
        else completeOutcome records superseded groups finalize preference status

/-! ## What an outcome selects -/

/-- An outcome that selects a group selects one of the active records' groups, and
only a withdrawal is called one. -/
def Grounded (groups : List EvidenceGroup) (outcome : Outcome) : Prop :=
  outcome.reasonCode ≠ "WITHDRAWN_RECOMMENDATION" ∧
    ∀ group, outcome.selected = some group → group ∈ groups

theorem unresolved_grounded {groups : List EvidenceGroup} {reasonCode : String}
    (hreason : reasonCode ≠ "WITHDRAWN_RECOMMENDATION")
    (records superseded : List SettlementEvidence) (finalize : Bool) (reason : String)
    (conflictGroups : List EvidenceGroup) (traces : Traces) :
    Grounded groups
      (unresolved records superseded finalize reasonCode reason conflictGroups traces) :=
  ⟨hreason, fun _ hselected => by cases hselected⟩

theorem completeOutcome_grounded {records superseded : List SettlementEvidence}
    {groups : List EvidenceGroup} {finalize : Bool} {preference : BettingPreference}
    {status : EvidenceGroup} {outcome : Outcome}
    (houtcome : completeOutcome records superseded groups finalize preference status =
      .ok outcome) : Grounded groups outcome := by
  unfold completeOutcome at houtcome
  dsimp only at houtcome
  split at houtcome
  · cases houtcome
    exact unresolved_grounded (by decide) ..
  · split at houtcome
    · cases houtcome
      refine unresolved_grounded ?_ ..
      split <;> decide
    next selected hfacts =>
      split at houtcome
      · cases houtcome
        refine ⟨by simp [gradedOutcome], fun group hselected => ?_⟩
        cases hselected
        exact mem_of_factGroup hfacts
      · cases houtcome
        exact unresolved_grounded (by decide) ..
      · cases houtcome

theorem gradeOutcome_grounded {records : List SettlementEvidence} {finalize : Bool}
    {preference : BettingPreference} {outcome : Outcome}
    (houtcome : gradeOutcome records false finalize preference = .ok outcome) :
    Grounded (evidenceGroups (activeEvidenceRecords records).1) outcome := by
  unfold gradeOutcome at houtcome
  simp only [Bool.false_eq_true, if_false] at houtcome
  split at houtcome
  · cases houtcome
    exact unresolved_grounded (by decide) ..
  · cases houtcome
    exact unresolved_grounded (by decide) ..
  next status hstatus =>
    split at houtcome
    · cases houtcome
      refine ⟨by simp [voidOutcome], fun group hselected => ?_⟩
      cases hselected
      exact mem_of_statusGroup hstatus
    · split at houtcome
      · cases houtcome
        exact unresolved_grounded (by decide) ..
      · exact completeOutcome_grounded houtcome

end Ordering

/-- The fixture a request is about. -/
def requestedFixture (given : Option String) (records : List SettlementEvidence) :
    Except T10Error String :=
  match given, records with
  | some fixtureId, _ => .ok fixtureId
  | none, first :: _ => .ok first.fixtureId
  | none, [] => invalid "An empty evidence set requires a fixture_id."

variable [PyRuntime] [Hashing]

/-- `SettlementGrader.grade`. -/
def grade (request : GradeRequest) : Except T10Error SettlementGrade :=
  let finalize := request.closeUnresolved.getD request.finalize
  match defaultPreferenceCatalog.get? request.preferenceId with
  | none =>
      invalid ("Unsupported or prohibited Betting Preference: " ++
        PyRuntime.repr (.str request.preferenceId) ++ ".")
  | some preference => do
      let selected ← identities request preference
      let records := sortedRecords request.evidence
      let fixtureId ← requestedFixture selected.fixtureId records
      let selectedFixtureId ← text (.str fixtureId) "Settlement Grade fixture ID"
      if records.any fun item => item.fixtureId ≠ selectedFixtureId then
        invalid "All Settlement Evidence must identify the same Fixture."
      else do
        let outcome ← gradeOutcome records request.withdrawn finalize preference
        SettlementGrade.create {
          fixtureId := selectedFixtureId
          preference := preference
          gradingState := outcome.gradingState
          settlementResult := outcome.settlementResult
          reasonCode := outcome.reasonCode
          reason := outcome.reason
          evidenceDigest := aggregateEvidenceDigest records
          evidenceIds := records.map SettlementEvidence.evidenceId
          selectedEvidenceSetId := outcome.selectedEvidenceSetId
          selectedSourceLevel := outcome.selected.map EvidenceGroup.sourceLevel
          selectedSourceKey := outcome.selected.map EvidenceGroup.sourceKey
          selectedSourceRecordIds :=
            ((outcome.selected.map EvidenceGroup.records).getD []).map
              SettlementEvidence.recordId
          provenance := outcome.provenance
          evidence := records
          matchweekId := selected.matchweekId
          recommendationId := selected.recommendationId
          predictionDigest := selected.predictionDigest
          frozenEvidenceDigest := selected.frozenEvidenceDigest
          predecessorGradeId := none
          correctionSequence := 0
          gradeId := ""
          gradeDigest := "" }

/-- Where the fields of a grade come from. -/
theorem grade_ok {request : GradeRequest} {graded : SettlementGrade}
    (hgrade : grade request = .ok graded) :
    ∃ preference finalize outcome,
      defaultPreferenceCatalog.get? request.preferenceId = some preference ∧
        gradeOutcome (sortedRecords request.evidence) request.withdrawn finalize preference =
          .ok outcome ∧
        graded.preference = preference ∧ graded.reasonCode = outcome.reasonCode ∧
        graded.selectedSourceLevel = outcome.selected.map EvidenceGroup.sourceLevel ∧
        graded.selectedSourceRecordIds =
          sortedSet (((outcome.selected.map EvidenceGroup.records).getD []).map
            SettlementEvidence.recordId) ∧
        graded.evidence = sortedRecords request.evidence := by
  unfold grade at hgrade
  dsimp only at hgrade
  split at hgrade
  · cases hgrade
  next preference hpreference =>
    simp only [bind_eq_ok] at hgrade
    obtain ⟨selected, -, fixtureId, -, selectedFixtureId, -, hrest⟩ := hgrade
    split at hrest
    · cases hrest
    · rw [bind_eq_ok] at hrest
      obtain ⟨outcome, houtcome, hcreate⟩ := hrest
      exact ⟨preference, _, outcome, hpreference, houtcome, SettlementGrade.create_keeps hcreate⟩

/-- A grade that is no withdrawal selects the source level of one of its records. -/
theorem grade_grounded {request : GradeRequest} {graded : SettlementGrade}
    (hwithdrawn : request.withdrawn = false) (hgrade : grade request = .ok graded) :
    graded.reasonCode ≠ "WITHDRAWN_RECOMMENDATION" ∧
      ∀ level, graded.selectedSourceLevel = some level →
        ∃ item ∈ graded.evidence, item.sourceLevel = level := by
  obtain ⟨preference, finalize, outcome, -, houtcome, -, hcode, hlevel, -, hevidence⟩ :=
    grade_ok hgrade
  rw [hwithdrawn] at houtcome
  obtain ⟨hreason, hselected⟩ := gradeOutcome_grounded houtcome
  rw [hcode, hlevel, hevidence]
  refine ⟨hreason, fun level hmap => ?_⟩
  obtain ⟨group, hgroup, rfl⟩ := Option.map_eq_some_iff.mp hmap
  obtain ⟨item, hitem, hitemLevel⟩ := exists_mem_of_mem_evidenceGroups (hselected group hgroup)
  exact ⟨item, mem_of_mem_active hitem, hitemLevel⟩

end MatchVet.T10.Grader
