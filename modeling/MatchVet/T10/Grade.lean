import MatchVet.T10.Grading

/-!
# Settlement Grades

A grade is the immutable result of grading one contract against one fixture.
The digest covers everything but the correction sequence; the identifier covers
the grading key and the digest.
-/

namespace MatchVet.T10.Grade

open MatchVet.Foundation.CanonicalJson
open MatchVet.Foundation.Runtime
open MatchVet.T10.Catalog
open MatchVet.T10.Evidence
open MatchVet.T10.Grading

def preferenceJson (preference : BettingPreference) : Json :=
  (canonical preference.toDict).getD .null

def resultJson (result : Option SettlementResult) : Json :=
  textJson (result.map SettlementResult.value)

def optionalMember (key : String) (value : Option Json) : List (String × Json) :=
  match value with
  | some tree => [(key, tree)]
  | none => []

/-- A pending grade has no result and a final one has. -/
def stateFault (state : GradingState) (result : Option SettlementResult) : Option String :=
  match state, result with
  | .pending, some _ => some "Pending grading has no Settlement Result."
  | .final, none => some "Final grading requires WIN, LOSS, PUSH, or VOID."
  | _, _ => none

/-- A supplied identity that is given and is not the computed one. -/
def differs (supplied computed : String) : Bool := supplied ≠ "" && supplied ≠ computed

theorem differs_self (computed : String) :
    ¬ differs computed computed = true := by
  simp [differs]

theorem evidence_nodup_of_sortedSet [Hashing] {supplied : List String} {evidence : List SettlementEvidence}
    (hids : sortedSet supplied =
      (evidence.map SettlementEvidence.evidenceId).insertionSort (· ≤ ·)) :
    (evidence.map SettlementEvidence.evidenceId).Nodup := by
  have hsorted : (sortedSet supplied).Nodup :=
    (List.perm_insertionSort (· ≤ ·) supplied.dedup).nodup_iff.mpr (List.nodup_dedup supplied)
  rw [hids] at hsorted
  exact (List.perm_insertionSort (· ≤ ·) _).nodup_iff.mp hsorted

variable [Hashing]

structure SettlementGrade where
  fixtureId : String
  preference : BettingPreference
  gradingState : GradingState
  settlementResult : Option SettlementResult
  reasonCode : String
  reason : String
  selectedEvidenceSetId : Option String
  selectedSourceLevel : Option SettlementSource
  selectedSourceKey : Option String
  selectedSourceRecordIds : List String
  provenance : List (String × Json)
  evidence : List SettlementEvidence
  matchweekId : String
  recommendationId : String
  predictionDigest : Option String
  frozenEvidenceDigest : Option String
  predecessorGradeId : Option String
  correctionSequence : ℕ
  fixture_text : text (.str fixtureId) "Settlement Grade fixture ID" = .ok fixtureId
  state_valid : stateFault gradingState settlementResult = none
  evidence_nodup : (evidence.map SettlementEvidence.evidenceId).Nodup

namespace SettlementGrade

def evidenceIds (grade : SettlementGrade) : List String :=
  (grade.evidence.map SettlementEvidence.evidenceId).insertionSort (· ≤ ·)

def evidenceDigest (grade : SettlementGrade) : String := aggregateEvidenceDigest grade.evidence

/-- `grading_key`. -/
def gradingKey (grade : SettlementGrade) : String :=
  "|".intercalate [grade.fixtureId, grade.matchweekId, grade.recommendationId,
    grade.preference.preferenceId]

/-- The payload in key order, with its identity when it has one. -/
def record (grade : SettlementGrade) (sequence identity : List (String × Json)) : Json :=
  .object (sequence ++
    [("evidence", .array (grade.evidence.map SettlementEvidence.toDict)),
      ("evidence_digest", .str grade.evidenceDigest),
      ("evidence_ids", textsJson grade.evidenceIds),
      ("fixture_id", .str grade.fixtureId),
      ("frozen_evidence_digest", textJson grade.frozenEvidenceDigest)] ++ identity ++
    [("grading_state", .str grade.gradingState.value),
      ("matchweek_id", .str grade.matchweekId),
      ("predecessor_grade_id", textJson grade.predecessorGradeId),
      ("prediction_digest", textJson grade.predictionDigest),
      ("preference", preferenceJson grade.preference),
      ("provenance", .object grade.provenance),
      ("reason", .str grade.reason),
      ("reason_code", .str grade.reasonCode),
      ("recommendation_id", .str grade.recommendationId),
      ("selected_evidence_set_id", textJson grade.selectedEvidenceSetId),
      ("selected_source_key", textJson grade.selectedSourceKey),
      ("selected_source_level",
        textJson (grade.selectedSourceLevel.map SettlementSource.value)),
      ("selected_source_record_ids", textsJson grade.selectedSourceRecordIds),
      ("settlement_result", resultJson grade.settlementResult)])

def gradeDigest (grade : SettlementGrade) : String := sha256 (tokens (grade.record [] []))

def gradeId (grade : SettlementGrade) : String :=
  stableId "settlement_grade" (grade.gradingKey ++ ":" ++ grade.gradeDigest)

def toDict (grade : SettlementGrade) : Json :=
  grade.record [("correction_sequence", .int grade.correctionSequence)]
    [("grade_digest", .str grade.gradeDigest), ("grade_id", .str grade.gradeId)]

/-! ## The constructor -/

/-- The constructor arguments, before any check. -/
structure Arguments where
  fixtureId : String
  preference : BettingPreference
  gradingState : GradingState
  settlementResult : Option SettlementResult
  reasonCode : String
  reason : String
  evidenceDigest : String
  evidenceIds : List String
  selectedEvidenceSetId : Option String
  selectedSourceLevel : Option SettlementSource
  selectedSourceKey : Option String
  selectedSourceRecordIds : List String
  provenance : List (String × Json)
  evidence : List SettlementEvidence
  matchweekId : String
  recommendationId : String
  predictionDigest : Option String
  frozenEvidenceDigest : Option String
  predecessorGradeId : Option String
  correctionSequence : ℤ
  gradeId : String
  gradeDigest : String

/-- The constructor. -/
def create (arguments : Arguments) : Except T10Error SettlementGrade :=
  match hstate : stateFault arguments.gradingState arguments.settlementResult with
  | some message => invalid message
  | none =>
      if arguments.correctionSequence < 0 then
        invalid "Correction sequence must not be negative."
      else
        match hfixture : text (.str arguments.fixtureId) "Settlement Grade fixture ID" with
        | .error error => .error error
        | .ok fixtureId =>
            if hids : sortedSet arguments.evidenceIds =
                (arguments.evidence.map SettlementEvidence.evidenceId).insertionSort (· ≤ ·) then
              let grade : SettlementGrade := {
                fixtureId := fixtureId
                preference := arguments.preference
                gradingState := arguments.gradingState
                settlementResult := arguments.settlementResult
                reasonCode := arguments.reasonCode
                reason := arguments.reason
                selectedEvidenceSetId := arguments.selectedEvidenceSetId
                selectedSourceLevel := arguments.selectedSourceLevel
                selectedSourceKey := arguments.selectedSourceKey
                selectedSourceRecordIds := sortedSet arguments.selectedSourceRecordIds
                provenance := arguments.provenance
                evidence := arguments.evidence
                matchweekId := arguments.matchweekId
                recommendationId := arguments.recommendationId
                predictionDigest := arguments.predictionDigest
                frozenEvidenceDigest := arguments.frozenEvidenceDigest
                predecessorGradeId := arguments.predecessorGradeId
                correctionSequence := arguments.correctionSequence.toNat
                fixture_text := text_of_text hfixture
                state_valid := hstate
                evidence_nodup := evidence_nodup_of_sortedSet hids }
              if differs arguments.evidenceDigest grade.evidenceDigest then
                mismatch "Settlement Grade evidence digest does not match its evidence."
              else if differs arguments.gradeDigest grade.gradeDigest then
                mismatch "Settlement Grade digest does not match its immutable fields."
              else if differs arguments.gradeId grade.gradeId then
                mismatch "Settlement Grade ID does not match its immutable fields."
              else .ok grade
            else mismatch "Settlement Grade evidence IDs do not match its evidence."

/-- The constructor keeps what later decisions read. -/
theorem create_keeps {arguments : Arguments} {grade : SettlementGrade}
    (hcreate : create arguments = .ok grade) :
    grade.preference = arguments.preference ∧ grade.reasonCode = arguments.reasonCode ∧
      grade.selectedSourceLevel = arguments.selectedSourceLevel ∧
      grade.selectedSourceRecordIds = sortedSet arguments.selectedSourceRecordIds ∧
      grade.evidence = arguments.evidence := by
  unfold create at hcreate
  split at hcreate
  · cases hcreate
  · split at hcreate
    · cases hcreate
    · split at hcreate
      · cases hcreate
      · split at hcreate
        · dsimp only at hcreate
          split at hcreate
          · cases hcreate
          · split at hcreate
            · cases hcreate
            · split at hcreate
              · cases hcreate
              · cases hcreate
                exact ⟨rfl, rfl, rfl, rfl, rfl⟩
        · cases hcreate

/-! ## Reading a stored grade -/

variable [PyRuntime]

/-- `str(value.get(key, default))`. -/
def shown (value : Json) (key default : String) : String :=
  display (getOr value key (.str default)).toValue

def optionalShown (value : Json) (key : String) : Option String :=
  match getOr value key .null with
  | .null => none
  | found => some (display found.toValue)

def storedPreferenceId (value : Json) : String :=
  match getOr value "preference" .null with
  | .object members =>
      match members.lookup "preference_id" with
      | none | some .null => shown value "preference_id" ""
      | some found => display found.toValue
  | _ => shown value "preference_id" ""

def storedEvidence (value : Json) : Except T10Error (List SettlementEvidence) :=
  match getOr value "evidence" (.array []) with
  | .array items =>
      if items.all fun item => match item with
        | .object _ => true
        | _ => false then
        items.mapM SettlementEvidence.fromMapping
      else invalid "Stored Settlement Grade evidence must be an array of objects."
  | _ => invalid "Stored Settlement Grade evidence must be an array of objects."

def storedSource (value : Json) : Except T10Error (Option SettlementSource) :=
  match optionalShown value "selected_source_level" with
  | none => .ok none
  | some content => (source (.str content)).map some

def storedResult (value : Json) : Except T10Error (Option SettlementResult) :=
  match optionalShown value "settlement_result" with
  | none => .ok none
  | some content =>
      match resultOfValue? content with
      | some result => .ok (some result)
      | none => invalid (PyRuntime.repr (.str content) ++ " is not a valid SettlementResult")

def storedSequence (value : Json) : ℤ :=
  match getOr value "correction_sequence" (.int 0) with
  | .int number => number
  | _ => 0

/-- `from_dict`, over the default catalog. -/
def fromDict (value : Json) : Except T10Error SettlementGrade :=
  let preferenceId := storedPreferenceId value
  match defaultPreferenceCatalog.get? preferenceId with
  | none =>
      invalid ("Unsupported or prohibited Betting Preference: " ++
        PyRuntime.repr (.str preferenceId) ++ ".")
  | some preference => do
      let evidence ← storedEvidence value
      match getOr value "provenance" (.object []) with
      | .object provenance => do
          let fixtureId ← text (getOr value "fixture_id" .null) "Stored Settlement Grade fixture ID"
          let state := shown value "grading_state" "PENDING"
          match GradingState.ofValue? state with
          | none => invalid (PyRuntime.repr (.str state) ++ " is not a valid GradingState")
          | some gradingState => do
              let settlementResult ← storedResult value
              let evidenceIds ← strings (getOr value "evidence_ids" (.array []))
              let selectedSourceLevel ← storedSource value
              let selectedSourceRecordIds ←
                strings (getOr value "selected_source_record_ids" (.array []))
              create {
                fixtureId := fixtureId
                preference := preference
                gradingState := gradingState
                settlementResult := settlementResult
                reasonCode := shown value "reason_code" ""
                reason := shown value "reason" ""
                evidenceDigest := shown value "evidence_digest" ""
                evidenceIds := evidenceIds
                selectedEvidenceSetId := optionalShown value "selected_evidence_set_id"
                selectedSourceLevel := selectedSourceLevel
                selectedSourceKey := optionalShown value "selected_source_key"
                selectedSourceRecordIds := selectedSourceRecordIds
                provenance := provenance
                evidence := evidence
                matchweekId := shown value "matchweek_id" ""
                recommendationId := shown value "recommendation_id" ""
                predictionDigest := optionalShown value "prediction_digest"
                frozenEvidenceDigest := optionalShown value "frozen_evidence_digest"
                predecessorGradeId := optionalShown value "predecessor_grade_id"
                correctionSequence := storedSequence value
                gradeId := shown value "grade_id" ""
                gradeDigest := shown value "grade_digest" "" }
      | _ => invalid "Stored Settlement Grade provenance must be an object."

end SettlementGrade

end MatchVet.T10.Grade
