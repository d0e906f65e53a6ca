import MatchVet.Foundation.Chain
import MatchVet.T10.Authority

/-!
# The grade history of a key

The rows of a grading key form one chain that only grows.  A correction carries
over the key and the frozen digests of the grade it corrects, unless a stored
identifier shifts the key or a stored digest is the empty text.
-/

namespace MatchVet.T10.GradeHistory

open MatchVet.Foundation.CanonicalJson
open MatchVet.Foundation.Chain
open MatchVet.Foundation.Runtime
open MatchVet.Foundation.Transition
open MatchVet.T10.Authority.LeagueResult
open MatchVet.T10.Catalog
open MatchVet.T10.Evidence
open MatchVet.T10.Grade
open MatchVet.T10.Grader
open MatchVet.T10.Grading
open MatchVet.T10.Recorder

/-! ## Histories -/

def gradeLinks : Linking GradeRow String where
  ident := GradeRow.gradeId
  sequence := GradeRow.correctionSequence
  predecessor := GradeRow.predecessorGradeId

/-- The rows are numbered from zero, each names the one before it, and all carry
the digests of the first. -/
structure History (rows : List GradeRow) : Prop where
  chained : Chained gradeLinks rows
  frozen : ∀ first ∈ rows.head?, ∀ row ∈ rows,
    row.predictionDigest = first.predictionDigest ∧
      row.frozenEvidenceDigest = first.frozenEvidenceDigest

def Histories (store : SettlementStore) : Prop := ∀ key, History (rowsOf store key)

theorem histories_empty : Histories emptyStore :=
  fun _ => ⟨trivial, fun _ hfirst => by cases hfirst⟩

theorem History.first {row : GradeRow} (hsequence : row.correctionSequence = 0)
    (hpredecessor : row.predecessorGradeId = none) : History [row] where
  chained := Chained.singleton hsequence hpredecessor
  frozen := by
    intro first hfirst other hother
    cases hfirst
    rw [List.mem_singleton.mp hother]
    exact ⟨rfl, rfl⟩

/-- A correction of the last row continues its history. -/
theorem History.corrected {rows : List GradeRow} {last row : GradeRow} (hrows : History rows)
    (hlast : rows.getLast? = some last)
    (hsequence : row.correctionSequence = last.correctionSequence + 1)
    (hpredecessor : row.predecessorGradeId = some last.gradeId)
    (hprediction : row.predictionDigest = last.predictionDigest)
    (hfrozen : row.frozenEvidenceDigest = last.frozenEvidenceDigest) :
    History (rows ++ [row]) where
  chained := hrows.chained.concat hlast hsequence (hrows.chained.sequence_getLast hlast)
    hpredecessor
  frozen := by
    intro first hfirst other hother
    have hmem := List.mem_of_getLast? hlast
    rw [List.head?_append_of_ne_nil _ (List.ne_nil_of_mem hmem)] at hfirst
    rcases List.mem_append.mp hother with hother | hother
    · exact hrows.frozen first hfirst other hother
    · rw [List.mem_singleton.mp hother, hprediction, hfrozen]
      exact hrows.frozen first hfirst last hmem

/-! ## The rows of a key -/

theorem rowsOf_append {store next : SettlementStore} {row : GradeRow}
    (hgrades : next.grades = store.grades ++ [row]) (key : String) :
    rowsOf next key = rowsOf store key ++ if row.gradingKey = key then [row] else [] := by
  rw [rowsOf, hgrades, List.filter_append, List.filter_singleton]
  by_cases hkey : row.gradingKey = key <;> simp [hkey, rowsOf]

theorem rowsOf_eq_nil {store : SettlementStore} {key : String}
    (hnone : storedGradeRow store key = none) : rowsOf store key = [] :=
  List.argmax_eq_none.mp hnone

/-- The latest row of a history is its last one. -/
theorem getLast?_of_storedGradeRow {store : SettlementStore} {key : String} {row : GradeRow}
    (hrows : History (rowsOf store key)) (hrow : storedGradeRow store key = some row) :
    (rowsOf store key).getLast? = some row := by
  have hmem : row ∈ rowsOf store key := List.argmax_mem hrow
  have hlast := List.getLast?_eq_some_getLast (List.ne_nil_of_mem hmem)
  generalize (rowsOf store key).getLast (List.ne_nil_of_mem hmem) = last at hlast
  have hlastMem := List.mem_of_getLast? hlast
  have hle : last.correctionSequence ≤ row.correctionSequence := by
    have hmax := List.le_of_mem_argmax hlastMem hrow
    rcases Prod.Lex.le_iff.mp hmax with hlt | ⟨heq, -⟩
    · exact le_of_lt hlt
    · exact le_of_eq heq
  have hlength : last.correctionSequence + 1 = (rowsOf store key).length :=
    hrows.chained.sequence_getLast hlast
  have hlt : row.correctionSequence < (rowsOf store key).length := by
    have hsequence : row.correctionSequence ∈ (rowsOf store key).map gradeLinks.sequence :=
      List.mem_map_of_mem hmem
    rw [hrows.chained.map_sequence] at hsequence
    exact List.mem_range.mp hsequence
  have heq : gradeLinks.sequence row = gradeLinks.sequence last := by
    change row.correctionSequence = last.correctionSequence
    omega
  rw [hlast, hrows.chained.sequence_injOn hmem hlastMem heq]

/-! ## What a correction carries over -/

theorem orDigest_eq_stored {stored incoming : Option String}
    (hchange : changesDigest incoming stored = false)
    (hempty : stored = some "" → incoming ≠ none) : orDigest stored incoming = stored := by
  unfold orDigest
  split
  next hblank =>
    cases incoming with
    | none =>
        rcases hblank with hnone | hblank
        · exact hnone.symm
        · exact absurd rfl (hempty hblank)
    | some digest => simpa [changesDigest] using hchange
  · rfl

section Recording

variable [Hashing]

/-- The stored grade leaves the incoming key as it is, and no digest of it is the
empty text where the incoming grade has none. -/
structure CarriesOver (current incoming : SettlementGrade) : Prop where
  keyed : "|".intercalate [incoming.fixtureId, orText current.matchweekId incoming.matchweekId,
    orText current.recommendationId incoming.recommendationId,
    incoming.preference.preferenceId] = incoming.gradingKey
  prediction : current.predictionDigest = some "" → incoming.predictionDigest ≠ none
  frozen : current.frozenEvidenceDigest = some "" → incoming.frozenEvidenceDigest ≠ none

/-- Grades of the same matchweek and recommendation have the same key. -/
theorem gradingKey_of_same {current incoming : SettlementGrade}
    (hmatchweek : current.matchweekId = incoming.matchweekId)
    (hrecommendation : current.recommendationId = incoming.recommendationId) :
    "|".intercalate [incoming.fixtureId, orText current.matchweekId incoming.matchweekId,
      orText current.recommendationId incoming.recommendationId,
      incoming.preference.preferenceId] = incoming.gradingKey := by
  rw [hmatchweek, hrecommendation, orText, orText, ite_self, ite_self]
  rfl

variable [PyRuntime]

/-- The pass corrects nothing, or carries over what it has to. -/
def Corrects (store : SettlementStore) (incoming : SettlementGrade) : Prop :=
  ∀ row current, storedGradeRow store incoming.gradingKey = some row →
    storedGradeFromRow row = .ok current → keepsCurrent current incoming = false →
    CarriesOver current incoming

/-- One pass keeps every history. -/
theorem histories_recordOne {store next : SettlementStore} {incoming answer : SettlementGrade}
    (hstore : Histories store) (hcorrects : Corrects store incoming)
    (hrecord : recordOne store incoming = .ok (next, answer)) : Histories next := by
  intro key
  cases recordOne_cases hrecord with
  | first hnone hsequence hpredecessor _ hgrades _ =>
      rw [rowsOf_append hgrades]
      split
      next hkey =>
        rw [← hkey]
        change History (rowsOf store incoming.gradingKey ++ [gradeRow incoming])
        rw [rowsOf_eq_nil hnone]
        exact History.first hsequence hpredecessor
      · rw [List.append_nil]
        exact hstore key
  | kept _ _ _ hgrades _ =>
      rw [rowsOf, hgrades]
      exact hstore key
  | corrected hrow hcurrent hprediction hfrozen hkeeps hanswer hgrades =>
      rcases hgrades with hgrades | ⟨-, hgrades⟩
      · rw [rowsOf, hgrades]
        exact hstore key
      · rw [rowsOf_append hgrades]
        split
        next hkey =>
          have hcarries := hcorrects _ _ hrow hcurrent hkeeps
          have hsame : incoming.gradingKey = key := by
            rw [← hkey, hanswer, ← hcarries.keyed]
            rfl
          obtain ⟨hid, -, -, -, -, -, -, -, -, -, hrowPrediction, hrowFrozen, -⟩ :=
            columnsMatch_of_stored hcurrent
          rw [hsame] at hrow
          refine (hstore key).corrected (getLast?_of_storedGradeRow (hstore key) hrow) ?_ ?_ ?_ ?_
          · rw [hanswer]
            rfl
          · rw [hid, hanswer]
            rfl
          · rw [hrowPrediction, hanswer]
            exact orDigest_eq_stored hprediction hcarries.prediction
          · rw [hrowFrozen, hanswer]
            exact orDigest_eq_stored hfrozen hcarries.frozen
        · rw [List.append_nil]
          exact hstore key

/-- Every pass of the call corrects nothing, or carries over what it has to. -/
structure CallCorrects (store : SettlementStore) (call : RecordCall) : Prop where
  passes : BatchMeets recordOne Corrects store call.grades

theorem histories_recordStep {store : SettlementStore} {call : RecordCall}
    (hstore : Histories store) (hcorrects : CallCorrects store call) :
    Histories (recordStep store call) := by
  refine commit_preserves Histories hstore fun next answers hcall => ?_
  exact batch_preserves Histories (fun _ _ _ _ => histories_recordOne) hcorrects.passes hstore
    (recordMany_ok hcall)

theorem histories_run {calls : List RecordCall}
    (hmeets : RunMeets recordStep CallCorrects emptyStore calls) :
    Histories (run recordStep emptyStore calls) :=
  run_preserves Histories (fun _ _ => histories_recordStep) hmeets histories_empty

/-! ## Nothing stored is changed -/

def Extends (store next : SettlementStore) : Prop := store.grades <+: next.grades

theorem extends_recordOne {store next : SettlementStore} {incoming answer : SettlementGrade}
    (hrecord : recordOne store incoming = .ok (next, answer)) : Extends store next := by
  have happended : ∀ row, next.grades = store.grades ++ [row] → Extends store next :=
    fun row hgrades => ⟨[row], hgrades.symm⟩
  cases recordOne_cases hrecord with
  | first _ _ _ _ hgrades _ => exact happended _ hgrades
  | kept _ _ _ hgrades _ => exact ⟨[], by rw [hgrades, List.append_nil]⟩
  | corrected _ _ _ _ _ _ hgrades =>
      rcases hgrades with hgrades | ⟨-, hgrades⟩
      · exact ⟨[], by rw [hgrades, List.append_nil]⟩
      · exact happended _ hgrades

/-- Whatever is recorded later, the rows stay as they are. -/
theorem extends_run (store : SettlementStore) (calls : List RecordCall) :
    Extends store (run recordStep store calls) := by
  have hrefl : ∀ store, Extends store store := fun store => List.prefix_refl store.grades
  have htrans : ∀ first second third, Extends first second → Extends second third →
      Extends first third := fun _ _ _ => List.IsPrefix.trans
  refine run_relates hrefl htrans (fun before call => ?_) store calls
  refine commit_relates hrefl fun next answers hcall => ?_
  exact batch_relates hrefl htrans (fun _ _ _ _ => extends_recordOne) (recordMany_ok hcall)

/-! ## Repeated grades -/

/-- The incoming grade says what a row says already. -/
structure Repeats (row : GradeRow) (incoming : SettlementGrade) : Prop where
  evidence : row.inputEvidenceDigest = incoming.evidenceDigest
  state : row.gradingState = incoming.gradingState.value
  result : row.settlementResult = incoming.settlementResult.map SettlementResult.value
  reason : row.reasonCode = incoming.reasonCode

theorem sameOutcome_of_repeats {row : GradeRow} {current incoming : SettlementGrade}
    (hcurrent : storedGradeFromRow row = .ok current) (hrepeats : Repeats row incoming) :
    sameOutcome current incoming = true := by
  obtain ⟨-, -, -, -, -, hstate, hresult, hreason, -, hevidence, -⟩ :=
    columnsMatch_of_stored hcurrent
  rw [hrepeats.evidence] at hevidence
  rw [hrepeats.state] at hstate
  rw [hrepeats.result] at hresult
  rw [hrepeats.reason] at hreason
  have hsameState : current.gradingState = incoming.gradingState :=
    GradingState.value_injective hstate.symm
  have hsameResult : current.settlementResult = incoming.settlementResult :=
    Option.map_injective SettlementResult.value_injective hresult.symm
  simp [sameOutcome, ← hevidence, hsameState, hsameResult, ← hreason]

/-- A pass that repeats the latest row adds none. -/
theorem recordOne_repeats {store next : SettlementStore} {incoming answer : SettlementGrade}
    {row : GradeRow} (hrow : storedGradeRow store incoming.gradingKey = some row)
    (hrepeats : Repeats row incoming)
    (hrecord : recordOne store incoming = .ok (next, answer)) : next.grades = store.grades := by
  cases recordOne_cases hrecord with
  | first hnone =>
      rw [hrow] at hnone
      cases hnone
  | kept _ _ _ hgrades _ => exact hgrades
  | corrected hrow' hcurrent _ _ hkeeps =>
      rw [hrow, Option.some.injEq] at hrow'
      rw [← hrow'] at hcurrent
      simp [keepsCurrent, sameOutcome_of_repeats hcurrent hrepeats] at hkeeps

/-- Recording what the latest row says adds no row. -/
theorem recordStep_repeats {store : SettlementStore} {incoming : SettlementGrade} {row : GradeRow}
    (hrow : storedGradeRow store incoming.gradingKey = some row)
    (hrepeats : Repeats row incoming) (failureHook : Option ℕ) :
    (recordStep store ⟨[incoming], failureHook⟩).grades = store.grades := by
  refine commit_preserves (fun next : SettlementStore => next.grades = store.grades) rfl
    fun next answers hcall => ?_
  obtain ⟨after, answer, others, hrecord, hrest, -⟩ := batch_cons_ok (recordMany_ok hcall)
  cases hrest
  exact recordOne_repeats hrow hrepeats hrecord

/-! ## Runs -/

/-- What the recorder promises of a run: one history for each key, which only
grows, and which a repeated grade leaves alone. -/
structure AppendOnlyHistory (store : SettlementStore) : Prop where
  histories : Histories store
  grows : ∀ calls, store.grades <+: (run recordStep store calls).grades
  idempotent : ∀ incoming row failureHook,
    storedGradeRow store incoming.gradingKey = some row → Repeats row incoming →
      (recordStep store ⟨[incoming], failureHook⟩).grades = store.grades

/-- In a run whose corrections carry over key and digests, every reached state
keeps its promise. -/
theorem appendOnlyHistory_of_run {calls : List RecordCall}
    (hmeets : RunMeets recordStep CallCorrects emptyStore calls) :
    AppendOnlyHistory (run recordStep emptyStore calls) where
  histories := histories_run hmeets
  grows := extends_run _
  idempotent _ _ failureHook hrow hrepeats := recordStep_repeats hrow hrepeats failureHook

end Recording

/-! ## Corrected results -/

namespace LeagueCorrection

local instance : PyRuntime := plainRuntime

local instance : Hashing := shapeHashing

def recordingOf (request : GradeRequest) : RecordCall := ⟨(grade request).toOption.toList, none⟩

/-- A result of the league for a prediction with some digest. -/
def leagueRequest (predictionDigest : Option String) (home away : ℕ) : GradeRequest :=
  { homeRequest [played .competition "league" home away] with
    predictionDigest := predictionDigest }

/-- The correction of a row without its digest loses the stored empty digest. -/
theorem emptyDigest_not_kept :
    ¬ Histories (run recordStep emptyStore
      [recordingOf (leagueRequest (some "") 2 1), recordingOf (leagueRequest none 0 1)]) := by
  intro hhistories
  have hdigests : (rowsOf (run recordStep emptyStore
      [recordingOf (leagueRequest (some "") 2 1), recordingOf (leagueRequest none 0 1)])
      homeKey).map GradeRow.predictionDigest = [some "", none] := by decide +kernel
  obtain ⟨first, rest, hrows, hfirst, hrest⟩ := List.map_eq_cons_iff.mp hdigests
  obtain ⟨second, tail, rfl, hsecond, -⟩ := List.map_eq_cons_iff.mp hrest
  have hhistory := hhistories homeKey
  rw [hrows] at hhistory
  have hsame := (hhistory.frozen first rfl second (by simp)).1
  rw [hfirst, hsecond] at hsame
  cases hsame

def carries (current incoming : SettlementGrade) : Bool :=
  current.matchweekId = incoming.matchweekId &&
    current.recommendationId = incoming.recommendationId &&
    current.predictionDigest ≠ some "" && current.frozenEvidenceDigest ≠ some ""

/-- The output of a request has the identifiers of the stored grade. -/
def requestCarries (store : SettlementStore) (request : GradeRequest) : Bool :=
  (grade request).toOption.all fun incoming =>
    ((storedGradeRow store incoming.gradingKey).bind fun row =>
      (storedGradeFromRow row).toOption).all fun current => carries current incoming

theorem callCorrects_of_carries {store : SettlementStore} {request : GradeRequest}
    (hcarries : requestCarries store request = true) :
    CallCorrects store (recordingOf request) := by
  unfold requestCarries at hcarries
  refine ⟨?_⟩
  unfold recordingOf
  cases hgrade : (grade request).toOption with
  | none => exact trivial
  | some incoming =>
      refine ⟨fun row current hrow hcurrent _ => ?_, fun _ _ _ => trivial⟩
      rw [hgrade, Option.all_some, hrow, Option.bind_some, hcurrent] at hcarries
      simp only [Except.toOption, Option.all_some, carries, Bool.and_eq_true,
        decide_eq_true_eq] at hcarries
      obtain ⟨⟨⟨hmatchweek, hrecommendation⟩, hprediction⟩, hfrozen⟩ := hcarries
      exact ⟨gradingKey_of_same hmatchweek hrecommendation,
        fun hempty => absurd hempty hprediction, fun hempty => absurd hempty hfrozen⟩

def resultRequest : GradeRequest := leagueRequest (some "prediction") 2 1

def correctionRequest : GradeRequest := leagueRequest (some "prediction") 0 1

theorem result_carries : requestCarries emptyStore resultRequest = true := by decide +kernel

theorem correction_carries :
    requestCarries (recordStep emptyStore (recordingOf resultRequest)) correctionRequest = true := by
  decide +kernel

/-- The league's result and its correction, both for one prediction. -/
theorem leagueCorrection_history :
    AppendOnlyHistory (run recordStep emptyStore
      [recordingOf resultRequest, recordingOf correctionRequest]) := by
  have hfirst := callCorrects_of_carries result_carries
  have hsecond := callCorrects_of_carries correction_carries
  exact appendOnlyHistory_of_run ⟨hfirst, hsecond, trivial⟩

end LeagueCorrection

end MatchVet.T10.GradeHistory
