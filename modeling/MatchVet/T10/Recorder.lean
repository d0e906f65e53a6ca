import MatchVet.Foundation.Transition
import MatchVet.T10.Grader

/-!
# Recording grades

The store keeps evidence records and grade rows.  Recording compares a grade
with the latest row of its key: the row is kept, or a successor of it is
inserted.  A batch of grades is one transaction.
-/

namespace MatchVet.T10.Recorder

open MatchVet.Foundation.CanonicalJson
open MatchVet.Foundation.Runtime
open MatchVet.Foundation.Transition
open MatchVet.T10.Catalog
open MatchVet.T10.Evidence
open MatchVet.T10.Grade
open MatchVet.T10.Grading

/-! ## Rows -/

structure EvidenceRow where
  evidenceSetId : String
  fixtureId : String
  sourceLevel : String
  sourceKey : String
  recordId : String
  recordSetId : String
  evidenceDigest : String
  payload : Json

/-- A grade row with its evidence links in ordinal order. -/
structure GradeRow where
  gradeId : String
  gradingKey : String
  fixtureId : String
  preferenceId : String
  matchweekId : String
  recommendationId : String
  gradingState : String
  settlementResult : Option String
  reasonCode : String
  reason : String
  inputEvidenceDigest : String
  predictionDigest : Option String
  frozenEvidenceDigest : Option String
  correctionSequence : ℕ
  predecessorGradeId : Option String
  gradeDigest : String
  payload : Json
  links : List (String × ℕ)

structure SettlementStore where
  evidence : List EvidenceRow
  grades : List GradeRow

def emptyStore : SettlementStore := ⟨[], []⟩

mutual

/-- A value that can be a member of a set; a mapping cannot. -/
def hashable : Json → Bool
  | .object _ => false
  | .array items => allHashable items
  | _ => true

def allHashable : List Json → Bool
  | [] => true
  | item :: rest => hashable item && allHashable rest

end

def rowsOf (store : SettlementStore) (key : String) : List GradeRow :=
  store.grades.filter fun row => row.gradingKey = key

/-- Highest correction sequence first, then highest identifier. -/
def latestOrder (row : GradeRow) : ℕ ×ₗ String := toLex (row.correctionSequence, row.gradeId)

/-- `_stored_grade_row`. -/
def storedGradeRow (store : SettlementStore) (key : String) : Option GradeRow :=
  (rowsOf store key).argmax latestOrder

/-- The latest row is read from the grades alone. -/
theorem storedGradeRow_congr {store known : SettlementStore} (hgrades : known.grades = store.grades)
    (key : String) : storedGradeRow known key = storedGradeRow store key := by
  rw [storedGradeRow, storedGradeRow, rowsOf, rowsOf, hgrades]

/-- The value of the current grade, unless it is empty. -/
def orText (current incoming : String) : String := if current = "" then incoming else current

def orDigest (current incoming : Option String) : Option String :=
  if current = none ∨ current = some "" then incoming else current

/-- An incoming digest that is not the stored one. -/
def changesDigest (incoming stored : Option String) : Bool :=
  incoming.isSome && incoming ≠ stored

/-- The constraints of the grade table. -/
def insertable (store : SettlementStore) (row : GradeRow) : Bool :=
  store.grades.all (fun item => item.gradeId ≠ row.gradeId &&
    !(item.gradingKey = row.gradingKey && item.correctionSequence = row.correctionSequence)) &&
    match row.predecessorGradeId with
    | none => true
    | some predecessor => store.grades.any fun item => item.gradeId = predecessor

theorem insertable_congr {store known : SettlementStore} (hgrades : known.grades = store.grades)
    (row : GradeRow) : insertable known row = insertable store row := by
  rw [insertable, insertable, hgrades]

section Recording

variable [Hashing]

def evidenceRow (evidence : SettlementEvidence) : EvidenceRow where
  evidenceSetId := evidence.evidenceId
  fixtureId := evidence.fixtureId
  sourceLevel := evidence.sourceLevel.value
  sourceKey := evidence.sourceKey
  recordId := evidence.recordId
  recordSetId := evidence.recordSetId
  evidenceDigest := evidence.evidenceDigest
  payload := evidence.toDict

def gradeRow (grade : SettlementGrade) : GradeRow where
  gradeId := grade.gradeId
  gradingKey := grade.gradingKey
  fixtureId := grade.fixtureId
  preferenceId := grade.preference.preferenceId
  matchweekId := grade.matchweekId
  recommendationId := grade.recommendationId
  gradingState := grade.gradingState.value
  settlementResult := grade.settlementResult.map SettlementResult.value
  reasonCode := grade.reasonCode
  reason := grade.reason
  inputEvidenceDigest := grade.evidenceDigest
  predictionDigest := grade.predictionDigest
  frozenEvidenceDigest := grade.frozenEvidenceDigest
  correctionSequence := grade.correctionSequence
  predecessorGradeId := grade.predecessorGradeId
  gradeDigest := grade.gradeDigest
  payload := grade.toDict
  links := grade.evidenceIds.zipIdx

def selectedEvidenceKnown (grade : SettlementGrade) : Bool :=
  match grade.selectedEvidenceSetId with
  | none => true
  | some selected => (grade.evidence.map SettlementEvidence.evidenceId).contains selected

/-- `_insert_grade`. -/
def insertGrade (store : SettlementStore) (grade : SettlementGrade) :
    Except T10Error SettlementStore :=
  if !selectedEvidenceKnown grade then
    mismatch "Selected Settlement Evidence is not part of the grade input."
  else if !insertable store (gradeRow grade) then .error .unexpected
  else .ok { store with grades := store.grades ++ [gradeRow grade] }

theorem insertGrade_ok {store next : SettlementStore} {grade : SettlementGrade}
    (hinsert : insertGrade store grade = .ok next) :
    insertable store (gradeRow grade) = true ∧ next.grades = store.grades ++ [gradeRow grade] := by
  unfold insertGrade at hinsert
  split at hinsert
  · cases hinsert
  · split at hinsert
    · cases hinsert
    next hinsertable =>
      cases hinsert
      exact ⟨by simpa using hinsertable, rfl⟩

/-! ## Evidence -/

variable [PyRuntime]

/-- `_stored_evidence_from_row`. -/
def storedEvidenceFromRow (row : EvidenceRow) : Except T10Error SettlementEvidence :=
  match row.payload with
  | .object _ => do
      let evidence ← SettlementEvidence.fromMapping row.payload
      if (row.evidenceSetId, row.fixtureId, row.sourceLevel, row.sourceKey, row.recordId,
          row.recordSetId, row.evidenceDigest) =
          (evidence.evidenceId, evidence.fixtureId, evidence.sourceLevel.value,
            evidence.sourceKey, evidence.recordId, evidence.recordSetId,
            evidence.evidenceDigest) then .ok evidence
      else mismatch "Stored Settlement Evidence columns do not match its payload."
  | _ => mismatch "Stored Settlement Evidence payload is not an object."

/-- The rows after an insertion that ignores a known identifier; a repeated
digest under another identifier violates the unique index. -/
def withEvidenceRow (rows : List EvidenceRow) (row : EvidenceRow) :
    Except T10Error (List EvidenceRow) :=
  if rows.any fun item => item.evidenceSetId = row.evidenceSetId then .ok rows
  else if rows.any fun item => item.evidenceDigest = row.evidenceDigest then .error .unexpected
  else .ok (rows ++ [row])

/-- `_insert_evidence`. -/
def insertEvidence (store : SettlementStore) (evidence : SettlementEvidence) :
    Except T10Error SettlementStore := do
  let rows ← withEvidenceRow store.evidence (evidenceRow evidence)
  match rows.find? fun row => row.evidenceSetId = evidence.evidenceId with
  | none => mismatch "Settlement Evidence was not persisted with its identity."
  | some row => do
      let stored ← storedEvidenceFromRow row
      if stored ≠ evidence then
        mismatch "Settlement Evidence identity was reused with different content."
      else if row.payload ≠ evidence.toDict then
        mismatch "Settlement Evidence identity was reused with different content."
      else .ok { store with evidence := rows }

def insertAllEvidence (store : SettlementStore) :
    List SettlementEvidence → Except T10Error SettlementStore
  | [] => .ok store
  | evidence :: rest => do
      let next ← insertEvidence store evidence
      insertAllEvidence next rest

theorem insertEvidence_grades {store next : SettlementStore} {evidence : SettlementEvidence}
    (hinsert : insertEvidence store evidence = .ok next) : next.grades = store.grades := by
  rw [insertEvidence, bind_eq_ok] at hinsert
  obtain ⟨rows, -, hrest⟩ := hinsert
  split at hrest
  · cases hrest
  · rw [bind_eq_ok] at hrest
    obtain ⟨stored, -, hstored⟩ := hrest
    split at hstored
    · cases hstored
    · split at hstored
      · cases hstored
      · cases hstored
        rfl

/-- Evidence is kept apart from the grades. -/
theorem insertAllEvidence_grades {store next : SettlementStore}
    {evidence : List SettlementEvidence} (hinsert : insertAllEvidence store evidence = .ok next) :
    next.grades = store.grades := by
  induction evidence generalizing store with
  | nil =>
      cases hinsert
      rfl
  | cons item rest ih =>
      rw [insertAllEvidence, bind_eq_ok] at hinsert
      obtain ⟨known, hknown, hrest⟩ := hinsert
      rw [ih hrest, insertEvidence_grades hknown]

/-! ## The latest grade of a key -/

/-- The columns that a stored payload has to repeat. -/
def columnsMatch (row : GradeRow) (grade : SettlementGrade) : Prop :=
  row.gradeId = grade.gradeId ∧ row.fixtureId = grade.fixtureId ∧
    row.preferenceId = grade.preference.preferenceId ∧ row.matchweekId = grade.matchweekId ∧
    row.recommendationId = grade.recommendationId ∧
    row.gradingState = grade.gradingState.value ∧
    row.settlementResult = grade.settlementResult.map SettlementResult.value ∧
    row.reasonCode = grade.reasonCode ∧ row.reason = grade.reason ∧
    row.inputEvidenceDigest = grade.evidenceDigest ∧
    row.predictionDigest = grade.predictionDigest ∧
    row.frozenEvidenceDigest = grade.frozenEvidenceDigest ∧
    row.correctionSequence = grade.correctionSequence ∧
    row.predecessorGradeId = grade.predecessorGradeId ∧ row.gradeDigest = grade.gradeDigest

instance (row : GradeRow) (grade : SettlementGrade) : Decidable (columnsMatch row grade) := by
  unfold columnsMatch
  infer_instance

/-- `_stored_grade_from_row`. -/
def storedGradeFromRow (row : GradeRow) : Except T10Error SettlementGrade :=
  match row.payload with
  | .object _ => do
      let grade ← SettlementGrade.fromDict row.payload
      if columnsMatch row grade then
        if row.links.map Prod.fst = grade.evidenceIds ∧
            row.links.map Prod.snd = List.range row.links.length then .ok grade
        else mismatch "Stored Settlement Grade evidence links do not match its payload."
      else mismatch "Stored Settlement Grade columns do not match its payload."
  | _ => mismatch "Stored Settlement Grade payload is not an object."

theorem columnsMatch_of_stored {row : GradeRow} {grade : SettlementGrade}
    (hstored : storedGradeFromRow row = .ok grade) : columnsMatch row grade := by
  unfold storedGradeFromRow at hstored
  split at hstored
  · rw [bind_eq_ok] at hstored
    obtain ⟨stored, -, hmatch⟩ := hstored
    split at hmatch
    next hcolumns =>
      split at hmatch
      · cases hmatch
        exact hcolumns
      · cases hmatch
    · cases hmatch
  · cases hstored

def ranks (grade : SettlementGrade) : List ℕ := grade.evidence.map SettlementEvidence.sourceRank

/-- The conflicting identifiers a stored provenance names. -/
def conflictEvidenceIds (grade : SettlementGrade) : List Json :=
  match grade.provenance.lookup "conflict_evidence_ids" with
  | some (.array items) => items
  | _ => []

/-- The ranks of the conflicting records, all of them when none is named. -/
def conflictRanks (current : SettlementGrade) : List ℕ :=
  (current.evidence.filter fun item =>
    (conflictEvidenceIds current).isEmpty ||
      (conflictEvidenceIds current).contains (.str item.evidenceId)).map
    SettlementEvidence.sourceRank

/-- A stored conflict has more authority than everything incoming. -/
def conflictOutranks (current incoming : SettlementGrade) : Bool :=
  current.reasonCode = "SOURCE_CONFLICT" &&
    match minimumRank? (ranks incoming), minimumRank? (conflictRanks current) with
    | some newest, some controlling => controlling < newest
    | _, _ => false

/-- Nothing incoming was selected, and nothing incoming has the authority of the
stored selection. -/
def selectionOutranks (current incoming : SettlementGrade) : Bool :=
  match current.selectedSourceLevel with
  | none => false
  | some level =>
      incoming.selectedSourceLevel.isNone &&
        incoming.reasonCode ≠ "WITHDRAWN_RECOMMENDATION" &&
        match minimumRank? (ranks incoming) with
        | none => true
        | some newest => level.rank < newest

/-- The incoming grade says the same. -/
def sameOutcome (current incoming : SettlementGrade) : Bool :=
  current.evidenceDigest = incoming.evidenceDigest &&
    current.gradingState = incoming.gradingState &&
    current.settlementResult = incoming.settlementResult &&
    current.reasonCode = incoming.reasonCode

/-- The incoming selection has less authority than the stored one. -/
def lowerSelection (current incoming : SettlementGrade) : Bool :=
  match current.selectedSourceLevel, incoming.selectedSourceLevel with
  | some stored, some newest => stored.rank < newest.rank
  | _, _ => false

/-- The stored grade stays the latest one. -/
def keepsCurrent (current incoming : SettlementGrade) : Bool :=
  conflictOutranks current incoming || selectionOutranks current incoming ||
    sameOutcome current incoming || lowerSelection current incoming

/-- The incoming grade as the correction of the stored one. -/
def successor (sequence : ℕ) (current incoming : SettlementGrade) : SettlementGrade :=
  { incoming with
    matchweekId := orText current.matchweekId incoming.matchweekId
    recommendationId := orText current.recommendationId incoming.recommendationId
    predictionDigest := orDigest current.predictionDigest incoming.predictionDigest
    frozenEvidenceDigest := orDigest current.frozenEvidenceDigest incoming.frozenEvidenceDigest
    correctionSequence := sequence + 1
    predecessorGradeId := some current.gradeId }

/-- Collecting the conflicting identifiers fails on a member that has no hash. -/
def conflictReadable (current incoming : SettlementGrade) : Bool :=
  current.reasonCode ≠ "SOURCE_CONFLICT" || incoming.evidence.isEmpty ||
    allHashable (conflictEvidenceIds current)

/-- `_effective_grade`. -/
def effectiveGrade (store : SettlementStore) (grade : SettlementGrade) :
    Except T10Error (Option SettlementGrade) :=
  match storedGradeRow store grade.gradingKey with
  | none => .ok none
  | some row =>
      match storedGradeFromRow row with
      | .error _ => mismatch "Stored Settlement Grade payload is invalid."
      | .ok current =>
          if changesDigest grade.predictionDigest current.predictionDigest then
            mismatch "Frozen prediction cannot be changed by a correction."
          else if changesDigest grade.frozenEvidenceDigest current.frozenEvidenceDigest then
            mismatch "Frozen frozen evidence cannot be changed by a correction."
          else if !conflictReadable current grade then .error .unexpected
          else if keepsCurrent current grade then .ok (some current)
          else .ok (some (successor row.correctionSequence current grade))

/-! ## Recording -/

/-- One pass of the loop of `record_many`. -/
def recordOne (store : SettlementStore) (grade : SettlementGrade) :
    Except T10Error (SettlementStore × SettlementGrade) := do
  let known ← insertAllEvidence store grade.evidence
  let effective ← effectiveGrade known grade
  match storedGradeRow known grade.gradingKey, effective with
  | none, _ =>
      if grade.correctionSequence ≠ 0 ∨ grade.predecessorGradeId ≠ none then
        mismatch "A first Settlement Grade cannot have correction metadata."
      else do
        let next ← insertGrade known grade
        .ok (next, grade)
  | some _, none => .error .unexpected
  | some row, some selected =>
      if selected.gradeId ≠ row.gradeId then do
        let next ← insertGrade known selected
        .ok (next, selected)
      else .ok (known, selected)

/-! ## What one pass does -/

/-- The ways in which a pass succeeds. -/
inductive Recorded (store : SettlementStore) (incoming : SettlementGrade)
    (next : SettlementStore) (answer : SettlementGrade) : Prop
  | first (hnone : storedGradeRow store incoming.gradingKey = none)
      (hsequence : incoming.correctionSequence = 0)
      (hpredecessor : incoming.predecessorGradeId = none)
      (hinsertable : insertable store (gradeRow incoming) = true)
      (hgrades : next.grades = store.grades ++ [gradeRow incoming])
      (hanswer : answer = incoming)
  | kept {row : GradeRow} {current : SettlementGrade}
      (hrow : storedGradeRow store incoming.gradingKey = some row)
      (hcurrent : storedGradeFromRow row = .ok current)
      (hkeeps : keepsCurrent current incoming = true)
      (hgrades : next.grades = store.grades) (hanswer : answer = current)
  | corrected {row : GradeRow} {current : SettlementGrade}
      (hrow : storedGradeRow store incoming.gradingKey = some row)
      (hcurrent : storedGradeFromRow row = .ok current)
      (hprediction : changesDigest incoming.predictionDigest current.predictionDigest = false)
      (hfrozen :
        changesDigest incoming.frozenEvidenceDigest current.frozenEvidenceDigest = false)
      (hkeeps : keepsCurrent current incoming = false)
      (hanswer : answer = successor row.correctionSequence current incoming)
      (hgrades : next.grades = store.grades ∨
        insertable store (gradeRow answer) = true ∧
          next.grades = store.grades ++ [gradeRow answer])

/-- What the effective grade is once the key has a row. -/
theorem effectiveGrade_ok {store : SettlementStore} {incoming selected : SettlementGrade}
    {row : GradeRow} (hrow : storedGradeRow store incoming.gradingKey = some row)
    (heffective : effectiveGrade store incoming = .ok (some selected)) :
    ∃ current, storedGradeFromRow row = .ok current ∧
      changesDigest incoming.predictionDigest current.predictionDigest = false ∧
      changesDigest incoming.frozenEvidenceDigest current.frozenEvidenceDigest = false ∧
      selected = if keepsCurrent current incoming then current
        else successor row.correctionSequence current incoming := by
  rw [effectiveGrade, hrow] at heffective
  dsimp only at heffective
  split at heffective
  · cases heffective
  next current hcurrent =>
    split at heffective
    · cases heffective
    next hprediction =>
      split at heffective
      · cases heffective
      next hfrozen =>
        refine ⟨current, hcurrent, by simpa using hprediction, by simpa using hfrozen, ?_⟩
        split at heffective
        · cases heffective
        · split at heffective <;> cases heffective <;> rename_i hkeeps <;> simp [hkeeps]

/-- A pass that succeeds does so in one of these ways. -/
theorem recordOne_cases {store next : SettlementStore} {incoming answer : SettlementGrade}
    (hrecord : recordOne store incoming = .ok (next, answer)) :
    Recorded store incoming next answer := by
  simp only [recordOne, bind_eq_ok] at hrecord
  obtain ⟨known, hknown, effective, heffective, hrest⟩ := hrecord
  have hgrades := insertAllEvidence_grades hknown
  cases hrow : storedGradeRow known incoming.gradingKey with
  | none =>
      rw [hrow] at hrest
      dsimp only at hrest
      split at hrest
      · cases hrest
      next hmetadata =>
        rw [bind_eq_ok] at hrest
        obtain ⟨inserted, hinsert, hok⟩ := hrest
        cases hok
        obtain ⟨hinsertable, hnext⟩ := insertGrade_ok hinsert
        rw [storedGradeRow_congr hgrades] at hrow
        rw [insertable_congr hgrades] at hinsertable
        rw [hgrades] at hnext
        rw [not_or, not_not, not_not] at hmetadata
        exact .first hrow hmetadata.1 hmetadata.2 hinsertable hnext rfl
  | some row =>
      cases effective with
      | none =>
          rw [hrow] at hrest
          cases hrest
      | some selected =>
          obtain ⟨current, hcurrent, hprediction, hfrozen, hselected⟩ :=
            effectiveGrade_ok hrow heffective
          rw [hrow] at hrest
          dsimp only at hrest
          rw [storedGradeRow_congr hgrades] at hrow
          cases hkeeps : keepsCurrent current incoming with
          | true =>
              rw [hkeeps, if_pos rfl] at hselected
              rw [hselected, if_neg (not_not.mpr (columnsMatch_of_stored hcurrent).1.symm)] at hrest
              cases hrest
              exact .kept hrow hcurrent hkeeps hgrades rfl
          | false =>
              rw [hkeeps, if_neg Bool.false_ne_true] at hselected
              split at hrest
              · rw [bind_eq_ok] at hrest
                obtain ⟨inserted, hinsert, hok⟩ := hrest
                cases hok
                obtain ⟨hinsertable, hnext⟩ := insertGrade_ok hinsert
                rw [insertable_congr hgrades] at hinsertable
                rw [hgrades] at hnext
                exact .corrected hrow hcurrent hprediction hfrozen hkeeps hselected
                  (Or.inr ⟨hinsertable, hnext⟩)
              · cases hrest
                exact .corrected hrow hcurrent hprediction hfrozen hkeeps hselected
                  (Or.inl hgrades)

/-! ## Calls -/

/-- A call of `record_many`: its grades, and the pass after which something
outside raises. -/
structure RecordCall where
  grades : List SettlementGrade
  failureHook : Option ℕ

/-- `record_many`, before the transaction commits. -/
def recordMany (store : SettlementStore) (call : RecordCall) :
    Except T10Error (SettlementStore × List SettlementGrade) :=
  match batch recordOne store call.grades with
  | .error error => .error error
  | .ok outcome =>
      match call.failureHook with
      | none => .ok outcome
      | some index =>
          if 1 ≤ index ∧ index ≤ call.grades.length then .error .unexpected else .ok outcome

/-- A call that succeeds has recorded its whole batch. -/
theorem recordMany_ok {store : SettlementStore} {call : RecordCall}
    {outcome : SettlementStore × List SettlementGrade}
    (hcall : recordMany store call = .ok outcome) :
    batch recordOne store call.grades = .ok outcome := by
  unfold recordMany at hcall
  split at hcall
  · cases hcall
  next recorded hbatch =>
    split at hcall
    · cases hcall
      exact hbatch
    · split at hcall
      · cases hcall
      · cases hcall
        exact hbatch

/-- The store after a call, all or nothing. -/
def recordStep (store : SettlementStore) (call : RecordCall) : SettlementStore :=
  commit recordMany store call

end Recording

end MatchVet.T10.Recorder
