import MatchVet.Foundation.Binary64
import MatchVet.T07.Recorder

/-!
# Reading evidence under a cutoff

The assertions of a topic are read with their latest assessment of a cutoff.  The
preferred one has the smallest authority rank, then the newest source time, as a float
tells it, then the smallest identifier.  A value is corroborated by its distinct origins.
-/

namespace MatchVet.T07.Preference

open MatchVet.Foundation.Binary64
open MatchVet.Foundation.CanonicalJson
open MatchVet.Foundation.Identifier
open MatchVet.Foundation.KeySort
open MatchVet.Foundation.Runtime
open MatchVet.Foundation.Timestamp
open MatchVet.T07.Evidence
open MatchVet.T07.Recorder

/-! ## Assertions under a cutoff -/

/-- The arguments of `assertions`. -/
structure Query where
  subjectKind : SubjectKind
  subjectId : Uuid
  evidenceType : Option EvidenceType
  predicate : Option String
  cutoffUtc : Option Instant
  includeUnknown : Bool

/-- The conditions on a row. -/
def Query.selects (query : Query) (row : AssertionRow) : Bool :=
  row.topic.subjectKind = query.subjectKind && row.topic.subjectId = query.subjectId &&
    query.evidenceType.all (fun evidenceType => row.topic.evidenceType = evidenceType) &&
    query.predicate.all (fun predicate => row.topic.predicate = predicate) &&
    (query.includeUnknown || row.known)

def assessmentOrder (row : AssessmentRow) : ℤ ×ₗ String :=
  toLex (row.assessedAtUtc, row.assessmentId)

/-- The latest assessment of an assertion, under the cutoff when there is one. -/
def latestAssessmentUnder (store : EvidenceStore) (cutoff : Option Instant)
    (assertionId : String) : Option AssessmentRow :=
  (sortedOn assessmentOrder (store.assessments.filter fun row =>
    row.content.assertionId = assertionId &&
      (cutoff.isNone || row.content.cutoffUtc = cutoff))).getLast?

/-- `_assertion_from_row`. -/
def recordUnder (store : EvidenceStore) (cutoff : Option Instant) (row : AssertionRow) :
    EvidenceAssertionRecord :=
  match latestAssessmentUnder store cutoff row.assertionId with
  | none => ⟨row.content, .indeterminate, "NO_CUTOFF_ASSESSMENT"⟩
  | some assessment => ⟨row.content, assessment.content.eligibility, assessment.content.reason⟩

/-- `assertions`. -/
def assertions (store : EvidenceStore) (query : Query) : List EvidenceAssertionRecord :=
  (sortedOn creationOrder (store.assertions.filter query.selects)).map
    (recordUnder store query.cutoffUtc)

/-! ## The preferred assertion -/

/-- `int(parsed.timestamp() * 1_000_000)`: both operations round to a double. -/
def timestampKey (instant : Instant) : ℤ :=
  truncate (binary64 (binary64 ((instant : ℚ) / 1000000) * 1000000))

/-- `_source_time_sort_key`. -/
def sourceTimeSortKey : Provenance → ℤ
  | .capture _ _ _ _ _ _ publishedAtUtc retrievedAtUtc _ _ _ _ =>
      timestampKey (publishedAtUtc.getD retrievedAtUtc)
  | .unknownSearch _ _ => 0

def preferenceOrder (record : EvidenceAssertionRecord) : ℕ ×ₗ ℤ ×ₗ String :=
  toLex (record.content.authorityRank,
    toLex (-sourceTimeSortKey record.content.provenance, record.content.assertionId))

/-- `first or second`. -/
def nonemptyOr {α : Type} (first second : List α) : List α :=
  if first.isEmpty then second else first

def topicQuery (topic : Topic) (cutoff : Option Instant) (includeUnknown : Bool) : Query where
  subjectKind := topic.subjectKind
  subjectId := topic.subjectId
  evidenceType := some topic.evidenceType
  predicate := some topic.predicate
  cutoffUtc := cutoff
  includeUnknown := includeUnknown

def isUnknown (record : EvidenceAssertionRecord) : Bool := record.content.asserted.state = .unknown

def isCutoffValid (record : EvidenceAssertionRecord) : Bool :=
  record.cutoffEligibility = .cutoffValid

/-- `preferred_assertion`. -/
def preferredAssertion (store : EvidenceStore) (topic : Topic) (cutoff : Option Instant) :
    Option EvidenceAssertionRecord :=
  let candidates := assertions store (topicQuery topic cutoff true)
  let unknownCandidates := candidates.filter isUnknown
  let candidates :=
    if cutoff.isSome then nonemptyOr (candidates.filter isCutoffValid) unknownCandidates
    else candidates
  let known := candidates.filter fun item => !isUnknown item
  (sortedOn preferenceOrder (nonemptyOr known candidates)).head?

/-! ## Corroboration -/

/-- Reading a stored JSON value and writing it again. -/
class JsonValues where
  rewrite : String → String

structure CorroborationRecord where
  subjectKind : SubjectKind
  subjectId : Uuid
  evidenceType : EvidenceType
  predicate : String
  value : String
  originIds : List String
  assertionIds : List String
  deriving DecidableEq

section Values

variable [JsonValues]

/-- The canonical text of the value that a record is read with. -/
def recordValue (content : AssertionContent) : Option String :=
  content.asserted.normalizedValue.map JsonValues.rewrite

/-- An observed assertion of the value. -/
def observes (value : String) (content : AssertionContent) : Bool :=
  content.asserted.state = .observed && recordValue content = some value

/-- `corroboration`; the value is given by its canonical text. -/
def corroboration (store : EvidenceStore) (topic : Topic) (value : String)
    (cutoff : Option Instant) : CorroborationRecord :=
  let candidates := assertions store (topicQuery topic cutoff false)
  let candidates := candidates.filter fun item => observes value item.content
  let candidates := if cutoff.isSome then candidates.filter isCutoffValid else candidates
  { subjectKind := topic.subjectKind
    subjectId := topic.subjectId
    evidenceType := topic.evidenceType
    predicate := topic.predicate
    value := value
    originIds := sortedSet (candidates.filterMap fun item => item.content.originId)
    assertionIds := candidates.map fun item => item.content.assertionId }

end Values

theorem topicQuery_selects {topic : Topic} {cutoff : Option Instant} {includeUnknown : Bool}
    {row : AssertionRow} : (topicQuery topic cutoff includeUnknown).selects row = true ↔
      row.topic = topic ∧ (includeUnknown = true ∨ row.known = true) := by
  obtain ⟨kind, subject, evidenceType, predicate⟩ := topic
  simp only [Query.selects, topicQuery, Option.all_some, Bool.and_eq_true, Bool.or_eq_true,
    decide_eq_true_eq]
  constructor
  · rintro ⟨⟨⟨⟨hkind, hsubject⟩, htype⟩, hpredicate⟩, hstate⟩
    rw [← of_decide_eq_true hkind, ← of_decide_eq_true hsubject, ← htype, ← hpredicate]
    exact ⟨rfl, hstate⟩
  · rintro ⟨htopic, hstate⟩
    rw [htopic]
    exact ⟨⟨⟨⟨decide_eq_true rfl, decide_eq_true rfl⟩, rfl⟩, rfl⟩, hstate⟩

/-- The float of a later time is no smaller. -/
theorem timestampKey_mono : Monotone timestampKey := by
  intro first second hle
  have hseconds : (first : ℚ) / 1000000 ≤ (second : ℚ) / 1000000 :=
    div_le_div_of_nonneg_right (Int.cast_le.mpr hle) (by norm_num)
  exact truncate_mono (binary64_mono
    (mul_le_mul_of_nonneg_right (binary64_mono hseconds) (by norm_num)))

example : timestampKey 1096620751302672 = timestampKey 1096620751302671 := by decide +kernel

end MatchVet.T07.Preference
