import Mathlib.Data.Prod.Lex
import MatchVet.Foundation.Forest
import MatchVet.Foundation.KeySort
import MatchVet.Foundation.Transition
import MatchVet.T07.Evidence

/-!
# The evidence recorder

A call of the recorder is one transaction.  Ingesting inserts the assertions of a
capture one by one; every insertion derives the conflict set of its topic again.
A correction points at an assertion that is stored already.
-/

namespace MatchVet.T07.Recorder

open MatchVet.Foundation.CanonicalJson
open MatchVet.Foundation.Delimited
open MatchVet.Foundation.Forest
open MatchVet.Foundation.Gregorian
open MatchVet.Foundation.Identifier
open MatchVet.Foundation.JsonText
open MatchVet.Foundation.KeySort
open MatchVet.Foundation.Runtime
open MatchVet.Foundation.Timestamp
open MatchVet.Foundation.Transition
open MatchVet.T07.Evidence

/-! ## Tables -/

structure SourceStatusRow where
  statusId : String
  sourceId : String
  status : SourceStatus
  observedAtUtc : Instant

structure SourceRow where
  sourceId : String
  sourceKey : String
  canonicalName : String
  owner : String
  sourceClass : SourceClass
  accessMethod : String
  baseLocator : String
  allowedUse : String
  retentionStatus : String
  redistributable : Bool
  termsReference : String
  deriving DecidableEq

structure OriginRow where
  originId : String
  originKey : String
  organization : String
  locator : Option String
  classification : String
  deriving DecidableEq

/-- `rights_json`. -/
structure Rights where
  allowedUse : String
  redistributable : Bool
  retentionStatus : String
  captureKind : CaptureKind
  sourceClass : SourceClass
  authorityScope : SourceClass
  termsReference : String
  deriving DecidableEq

structure CaptureRow where
  captureId : String
  sourceId : String
  originId : String
  captureKey : String
  locator : String
  accessMethod : String
  retrievedAtUtc : Instant
  publishedAtUtc : Option Instant
  responseStatus : ℤ
  contentType : String
  contentSha256 : Option String
  byteLength : ℕ
  artifactDigest : Option String
  captureKind : CaptureKind
  retentionStatus : String
  rights : Rights
  termsReference : String
  citationNote : Option String

/-- `provenance_json` of an assertion with a capture, or of an unsuccessful search. -/
inductive Provenance where
  | capture (sourceId originId captureId : String) (sourceClass : SourceClass)
      (authorityRank : ℕ) (locator : String) (publishedAtUtc : Option Instant)
      (retrievedAtUtc : Instant) (captureKind : CaptureKind) (retentionStatus : String)
      (authorityScope : SourceClass) (rights : Rights)
  | unknownSearch (attemptedAtUtc : Instant) (reason : String)
  deriving DecidableEq

/-- The columns of an assertion that its identity stands for. -/
structure AssertionContent where
  assertionId : String
  captureId : Option String
  sourceId : Option String
  originId : Option String
  sourceClass : AssertedClass
  sourceRowKey : String
  topic : Topic
  evidenceClass : EvidenceClass
  authorityRank : ℕ
  asserted : Asserted
  eventTimeUtc : Option Instant
  effectiveTimeUtc : Option Instant
  predecessorAssertionId : Option String
  provenance : Provenance
  deriving DecidableEq

structure AssertionRow where
  content : AssertionContent
  createdAtUtc : Instant
  deriving DecidableEq

namespace AssertionRow

def assertionId (row : AssertionRow) : String := row.content.assertionId

def topic (row : AssertionRow) : Topic := row.content.topic

def state (row : AssertionRow) : EvidenceState := row.content.asserted.state

def normalizedValue (row : AssertionRow) : Option String := row.content.asserted.normalizedValue

def predecessor (row : AssertionRow) : Option String := row.content.predecessorAssertionId

/-- `evidence_state IN ('OBSERVED', 'ABSENT')`. -/
def known (row : AssertionRow) : Bool := row.state ≠ .unknown

end AssertionRow

/-- The columns that an assessment's identity stands for. -/
structure AssessmentContent where
  assertionId : String
  researchCutoffId : Option String
  cutoffUtc : Option Instant
  eligibility : CutoffEligibility
  reason : String
  deriving DecidableEq

structure AssessmentRow where
  assessmentId : String
  content : AssessmentContent
  assessedAtUtc : Instant

structure ConflictRow where
  conflictId : String
  topic : Topic
  valueDigest : String
  deriving DecidableEq

structure EvidenceStore where
  identifiers : List (String × String)
  subjects : List (SubjectKind × String)
  cutoffs : List (String × Instant)
  sourceStatus : List SourceStatusRow
  sources : List SourceRow
  origins : List OriginRow
  captures : List CaptureRow
  assertions : List AssertionRow
  assessments : List AssessmentRow
  conflicts : List ConflictRow
  members : List (String × String)

namespace EvidenceStore

def assertion? (store : EvidenceStore) (assertionId : String) : Option AssertionRow :=
  store.assertions.find? fun row => row.assertionId = assertionId

def assessment? (store : EvidenceStore) (assessmentId : String) : Option AssessmentRow :=
  store.assessments.find? fun row => row.assessmentId = assessmentId

def conflict? (store : EvidenceStore) (conflictId : String) : Option ConflictRow :=
  store.conflicts.find? fun row => row.conflictId = conflictId

/-- The known assertions of a topic in identifier order. -/
def knownOf (store : EvidenceStore) (topic : Topic) : List AssertionRow :=
  sortedOn AssertionRow.assertionId
    (store.assertions.filter fun row => row.topic = topic && row.known)

/-- The members of a conflict set. -/
def membersOf (store : EvidenceStore) (conflictId : String) : List String :=
  (store.members.filter fun link => link.1 = conflictId).map Prod.snd

end EvidenceStore

/-- `add_identifier_if_missing`: an identifier keeps the kind it was added with. -/
def addIdentifierIfMissing (store : EvidenceStore) (kind value : String) :
    Except EvidenceError EvidenceStore :=
  match store.identifiers.lookup value with
  | none => .ok { store with identifiers := store.identifiers ++ [(value, kind)] }
  | some found =>
      if found = kind then .ok store
      else refuse .other "UNIQUE constraint failed: canonical_identifiers.canonical_id"

/-! ## Sources, origins and captures -/

section Capturing

variable [Hashing] [PyRuntime]

/-- Text that is there and not empty. -/
def truthyText (text : Option String) : Option String := text.filter (· ≠ "")

/-- `_source_id`. -/
def sourceIdOf (source : SourceIdentity) : String :=
  (truthyText source.sourceId).getD (deterministicIdentifier "source" source.sourceKey)

/-- `_origin_id`. -/
def originIdOf (origin : IndependentOrigin) : String :=
  (truthyText origin.originId).getD (deterministicIdentifier "origin" origin.originKey)

def captureKeyOf (capture : SourceCaptureInput) : String :=
  (truthyText capture.captureKey).getD capture.locator

/-- `_capture_id`. -/
def captureIdOf (capture : SourceCaptureInput) (sourceId originId : String) : String :=
  deterministicIdentifier "source_capture" ("t07:" ++ jsonObject
    [("capture_key", some (captureKeyOf capture)), ("content_sha256", capture.contentSha256),
      ("kind", some capture.captureKind.value), ("locator", some capture.locator),
      ("origin_id", some originId),
      ("published_at_utc", capture.publishedAtUtc.map gregorianText),
      ("retrieved_at_utc", some (gregorianText capture.retrievedAtUtc)),
      ("source_id", some sourceId)])

/-- The order of `_source_status_at`: the latest observation, then the identifier. -/
def statusOrder (row : SourceStatusRow) : ℤ ×ₗ String := toLex (row.observedAtUtc, row.statusId)

/-- `_source_status_at`. -/
def sourceStatusAt (store : EvidenceStore) (sourceId : String) (retrieved : Instant) :
    SourceStatus :=
  let known := store.sourceStatus.filter fun row =>
    row.sourceId = sourceId && row.observedAtUtc ≤ retrieved
  match (sortedOn statusOrder known).getLast? with
  | some row => row.status
  | none => .active

/-- `_ensure_cutoff_reference`. -/
def ensureCutoffReference (store : EvidenceStore) (cutoffId : Option String)
    (cutoff : Option Instant) : Except EvidenceError Unit :=
  match cutoffId with
  | none => .ok ()
  | some cutoffId =>
      match store.cutoffs.lookup cutoffId with
      | none => refuse .validation "Research Cutoff ID is not a canonical T05 cutoff."
      | some stored =>
          require (cutoff = some stored) .validation
            "Research Cutoff ID and cutoff timestamp disagree."

def sourceRow (source : SourceIdentity) (sourceId : String) : SourceRow where
  sourceId := sourceId
  sourceKey := source.sourceKey
  canonicalName := source.canonicalName
  owner := source.owner
  sourceClass := source.sourceClass
  accessMethod := source.accessMethod
  baseLocator := source.baseLocator
  allowedUse := source.allowedUse
  retentionStatus := source.retentionStatus
  redistributable := source.redistributable
  termsReference := source.termsReference

/-- `_ensure_source` after its identifier is added. -/
def placeSource (store : EvidenceStore) (row : SourceRow) : Except EvidenceError EvidenceStore :=
  match store.sources.find? fun other => other.sourceId = row.sourceId with
  | some found =>
      if found = row then .ok store
      else refuse .integrity "Source Identity is immutable and differs from the input."
  | none =>
      match store.sources.find? fun other => other.sourceKey = row.sourceKey with
      | some _ =>
          refuse .integrity "Source key already belongs to another canonical Source Identity."
      | none => .ok { store with sources := store.sources ++ [row] }

/-- `_ensure_source`. -/
def ensureSource (store : EvidenceStore) (source : SourceIdentity) (sourceId : String) :
    Except EvidenceError EvidenceStore := do
  let store ← addIdentifierIfMissing store "source" sourceId
  placeSource store (sourceRow source sourceId)

def originRow (origin : IndependentOrigin) (originId : String) : OriginRow where
  originId := originId
  originKey := origin.originKey
  organization := origin.organization
  locator := origin.locator
  classification := origin.classification

/-- `_ensure_origin` after its identifier is added. -/
def placeOrigin (store : EvidenceStore) (row : OriginRow) : Except EvidenceError EvidenceStore :=
  match store.origins.find? fun other => other.originId = row.originId with
  | some found =>
      if found = row then .ok store
      else refuse .integrity "Independent Origin is immutable and differs from input."
  | none =>
      match store.origins.find? fun other => other.originKey = row.originKey with
      | some _ => refuse .integrity "Origin key already belongs to another canonical origin."
      | none => .ok { store with origins := store.origins ++ [row] }

/-- `_ensure_origin`. -/
def ensureOrigin (store : EvidenceStore) (origin : IndependentOrigin) (originId : String) :
    Except EvidenceError EvidenceStore := do
  let store ← addIdentifierIfMissing store "origin" originId
  placeOrigin store (originRow origin originId)

def rightsOf (capture : SourceCaptureInput) : Rights where
  allowedUse := capture.source.allowedUse
  redistributable := capture.source.redistributable
  retentionStatus := capture.source.retentionStatus
  captureKind := capture.captureKind
  sourceClass := capture.source.sourceClass
  authorityScope := capture.source.sourceClass
  termsReference := capture.source.termsReference

def byteLengthOf (capture : SourceCaptureInput) : ℕ := (capture.content.map List.length).getD 0

def captureRow (capture : SourceCaptureInput) (captureId sourceId originId : String)
    (artifactDigest : Option String) : CaptureRow where
  captureId := captureId
  sourceId := sourceId
  originId := originId
  captureKey := captureKeyOf capture
  locator := capture.locator
  accessMethod := capture.accessMethod
  retrievedAtUtc := capture.retrievedAtUtc
  publishedAtUtc := capture.publishedAtUtc
  responseStatus := capture.responseStatus
  contentType := capture.contentType
  contentSha256 := capture.contentSha256
  byteLength := byteLengthOf capture
  artifactDigest := artifactDigest
  captureKind := capture.captureKind
  retentionStatus := capture.source.retentionStatus
  rights := rightsOf capture
  termsReference := capture.source.termsReference
  citationNote := capture.citationNote

/-- `_capture_by_id`, with its source and its origin. -/
def captureById (store : EvidenceStore) (captureId : String) : Option CaptureRow :=
  store.captures.find? fun row => row.captureId = captureId &&
    store.sources.any (fun source => source.sourceId = row.sourceId) &&
    store.origins.any fun origin => origin.originId = row.originId

/-- `_verify_capture_input_matches`. -/
def captureMatches (existing : CaptureRow) (capture : SourceCaptureInput) : Bool :=
  existing.locator = capture.locator && existing.accessMethod = capture.accessMethod &&
    existing.retrievedAtUtc = capture.retrievedAtUtc &&
    existing.publishedAtUtc = capture.publishedAtUtc &&
    existing.responseStatus = capture.responseStatus &&
    existing.contentType = capture.contentType && existing.captureKind = capture.captureKind &&
    existing.byteLength = byteLengthOf capture &&
    existing.contentSha256 = capture.contentSha256 &&
    existing.retentionStatus = capture.source.retentionStatus &&
    existing.rights = rightsOf capture &&
    existing.termsReference = capture.source.termsReference &&
    existing.citationNote = capture.citationNote

end Capturing

/-! ## Cutoff assessments -/

section Assertions

variable [Hashing]

def assessCutoffEligibility (retrieved : Instant) (published cutoff : Option Instant) :
    CutoffEligibility × String :=
  match cutoff with
  | none => (.indeterminate, "NO_RESEARCH_CUTOFF")
  | some cutoff =>
      match published with
      | some published =>
          if published ≤ cutoff then (.cutoffValid, "PUBLICATION_AT_OR_BEFORE_CUTOFF")
          else (.postCutoff, "PUBLICATION_AFTER_CUTOFF")
      | none =>
          if retrieved ≤ cutoff then (.cutoffValid, "CAPTURE_OBSERVED_AT_OR_BEFORE_CUTOFF")
          else (.indeterminate, "PUBLICATION_TIME_UNKNOWN_AFTER_CUTOFF")

/-- The text of an optional cutoff. -/
def cutoffText (cutoff : Option Instant) : String := (cutoff.map gregorianText).getD "none"

/-- `_insert_cutoff_assessment` after its identifier is added; an assertion has one
assessment of a cutoff. -/
def placeAssessment (store : EvidenceStore) (row : AssessmentRow) :
    Except EvidenceError (EvidenceStore × AssessmentRow) :=
  match store.assessment? row.assessmentId with
  | some found =>
      if found.content = row.content then .ok (store, found)
      else refuse .integrity "Cutoff assessment identity was reused with different content."
  | none =>
      if row.content.cutoffUtc.isSome && store.assessments.any (fun other =>
          other.content.assertionId = row.content.assertionId &&
            other.content.cutoffUtc = row.content.cutoffUtc) then
        refuse .other "UNIQUE constraint failed: evidence_cutoff_assessments"
      else .ok ({ store with assessments := store.assessments ++ [row] }, row)

/-- `_insert_cutoff_assessment`. -/
def insertCutoffAssessment (store : EvidenceStore) (content : AssessmentContent)
    (assessedAt : Instant) : Except EvidenceError (EvidenceStore × AssessmentRow) := do
  let assessmentId := deterministicIdentifier "evidence_cutoff_assessment"
    (delimited ':' content.assertionId (cutoffText content.cutoffUtc))
  let store ← addIdentifierIfMissing store "evidence_cutoff_assessment" assessmentId
  placeAssessment store ⟨assessmentId, content, assessedAt⟩

/-! ## Conflicts -/

/-- The text of what a known assertion says. -/
def valueText (row : AssertionRow) : String :=
  jsonObject [("state", some row.state.value), ("value", row.normalizedValue)]

/-- The sorted distinct values of the known assertions of a topic. -/
def distinctValues (store : EvidenceStore) (topic : Topic) : List String :=
  sortedSet ((store.knownOf topic).map valueText)

def valueDigest (values : List String) : String := sha256 (tokens (.array (values.map Json.str)))

/-- The name of the conflict set of some values of a topic. -/
def conflictIdOf (topic : Topic) (values : List String) : String :=
  deterministicIdentifier "evidence_conflict" (delimited ':' topic.text (valueDigest values))

/-- `ON CONFLICT(conflict_id) DO NOTHING`; a topic has one set of a digest. -/
def placeConflict (store : EvidenceStore) (row : ConflictRow) :
    Except EvidenceError EvidenceStore :=
  match store.conflict? row.conflictId with
  | some _ => .ok store
  | none =>
      if store.conflicts.any (fun other =>
          other.topic = row.topic && other.valueDigest = row.valueDigest) then
        refuse .other "UNIQUE constraint failed: evidence_conflicts"
      else .ok { store with conflicts := store.conflicts ++ [row] }

/-- `ON CONFLICT(conflict_id, assertion_id) DO NOTHING`. -/
def addMember (store : EvidenceStore) (conflictId assertionId : String) : EvidenceStore :=
  if (conflictId, assertionId) ∈ store.members then store
  else { store with members := store.members ++ [(conflictId, assertionId)] }

def addMembers (store : EvidenceStore) (conflictId : String) (rows : List AssertionRow) :
    EvidenceStore :=
  rows.foldl (fun store row => addMember store conflictId row.assertionId) store

/-- A conflict set with its members in order. -/
structure EvidenceConflictRecord where
  conflict : ConflictRow
  assertionIds : List String

/-- `_conflict_by_id`. -/
def conflictById (store : EvidenceStore) (conflictId : String) :
    Except EvidenceError EvidenceConflictRecord :=
  match store.conflict? conflictId with
  | none => refuse .integrity "Evidence conflict was not persisted."
  | some row => .ok ⟨row, (store.membersOf conflictId).insertionSort (· ≤ ·)⟩

/-- `_record_conflicts`. -/
def recordConflicts (store : EvidenceStore) (topic : Topic) :
    Except EvidenceError (EvidenceStore × List EvidenceConflictRecord) :=
  let rows := store.knownOf topic
  let values := distinctValues store topic
  if values.length < 2 then .ok (store, [])
  else do
    let conflictId := conflictIdOf topic values
    let store ← addIdentifierIfMissing store "evidence_conflict" conflictId
    let store ← placeConflict store ⟨conflictId, topic, valueDigest values⟩
    let store := addMembers store conflictId rows
    let record ← conflictById store conflictId
    .ok (store, [record])

/-! ## Inserting an assertion -/

/-- An assertion with the assessment it is returned with. -/
structure EvidenceAssertionRecord where
  content : AssertionContent
  cutoffEligibility : CutoffEligibility
  cutoffReason : String

/-- `_assertion_by_id`. -/
def assertionById (store : EvidenceStore) (assertionId : String) (assessment : AssessmentRow) :
    Except EvidenceError EvidenceAssertionRecord :=
  match store.assertion? assertionId with
  | none => refuse .integrity "Evidence assertion was not persisted."
  | some row => .ok ⟨row.content, assessment.content.eligibility, assessment.content.reason⟩

def subjectTopic (item : EvidenceAssertionInput) : Topic where
  subjectKind := item.subjectKind
  subjectId := item.subjectId
  evidenceType := item.evidenceType
  predicate := strip item.predicate

/-- `_ensure_canonical_subject`. -/
def ensureCanonicalSubject (store : EvidenceStore) (topic : Topic) : Except EvidenceError Unit :=
  require ((topic.subjectKind, topic.subjectId.text) ∈ store.subjects) .validation
    "Evidence can attach only to an existing canonical fixture, team, or person."

def assertionKeyOf (item : EvidenceAssertionInput) : String :=
  strip ((truthyText item.assertionKey).getD ((truthyText item.sourceRowKey).getD
    (subjectTopic item).text))

def assertionIdOf (captureId key : String) : String :=
  deterministicIdentifier "evidence_assertion" (delimited ':' captureId key)

def assertionContent (item : EvidenceAssertionInput) (capture : SourceCaptureInput)
    (record : CaptureRow) (evidenceClass : EvidenceClass) : AssertionContent :=
  let sourceClass := capture.source.sourceClass
  let rank := authorityRank item.evidenceType sourceClass
  { assertionId := assertionIdOf record.captureId (assertionKeyOf item)
    captureId := some record.captureId
    sourceId := some record.sourceId
    originId := some record.originId
    sourceClass := .source sourceClass
    sourceRowKey := strip ((truthyText item.sourceRowKey).getD (assertionKeyOf item))
    topic := subjectTopic item
    evidenceClass := evidenceClass
    authorityRank := rank
    asserted := item.asserted
    eventTimeUtc := item.eventTimeUtc
    effectiveTimeUtc := item.effectiveTimeUtc
    predecessorAssertionId := item.correctionOf
    provenance := .capture record.sourceId record.originId record.captureId sourceClass rank
      record.locator record.publishedAtUtc record.retrievedAtUtc record.captureKind
      record.retentionStatus sourceClass record.rights }

/-- A correction keeps the subject, the type and the predicate of what it corrects. -/
def checkCorrection (store : EvidenceStore) (content : AssertionContent) :
    Except EvidenceError Unit :=
  match content.predecessorAssertionId with
  | none => .ok ()
  | some correctionOf =>
      match store.assertion? correctionOf with
      | none => refuse .validation "A correction must reference an existing assertion."
      | some predecessor =>
          require (predecessor.topic = content.topic) .validation
            "A correction must keep the same subject and predicate."

/-- The new assertion, or the stored one when it says the same. -/
def placeAssertion (store : EvidenceStore) (content : AssertionContent) (created : Instant) :
    Except EvidenceError EvidenceStore :=
  match store.assertion? content.assertionId with
  | some existing =>
      if existing.content = content then .ok store
      else refuse .integrity "Evidence assertion identity was reused with different content."
  | none => do
      checkCorrection store content
      let store ← addIdentifierIfMissing store "evidence_assertion" content.assertionId
      .ok { store with assertions := store.assertions ++ [⟨content, created⟩] }

/-- One assertion of an ingestion, with its assessment and its conflicts. -/
structure InsertedAssertion where
  record : EvidenceAssertionRecord
  assessment : AssessmentRow
  conflicts : List EvidenceConflictRecord

/-- What the assertions of one ingestion share. -/
structure Ingestion where
  capture : SourceCaptureInput
  record : CaptureRow
  cutoff : Option Instant
  cutoffId : Option String

/-- `_insert_assertion` once its key is known to be new. -/
def insertAssertionContent (context : Ingestion) (store : EvidenceStore)
    (content : AssertionContent) (created : Instant) :
    Except EvidenceError (EvidenceStore × InsertedAssertion) := do
  let store ← placeAssertion store content created
  let (eligibility, reason) :=
    assessCutoffEligibility context.record.retrievedAtUtc context.record.publishedAtUtc
      context.cutoff
  let (store, assessment) ← insertCutoffAssessment store
    ⟨content.assertionId, context.cutoffId, context.cutoff, eligibility, reason⟩ created
  let (store, conflicts) ← recordConflicts store content.topic
  let record ← assertionById store content.assertionId assessment
  .ok (store, ⟨record, assessment, conflicts⟩)

/-- `_insert_assertion`; the second component holds the keys of this capture. -/
def insertAssertion (context : Ingestion) (state : EvidenceStore × List String)
    (item : EvidenceAssertionInput) (created : Instant) :
    Except EvidenceError ((EvidenceStore × List String) × InsertedAssertion) := do
  ensureCanonicalSubject state.1 (subjectTopic item)
  let selected ← classifyEvidence item.evidenceType context.capture.source.sourceClass
    item.evidenceClass
  require (assertionKeyOf item ∉ state.2) .validation
    "Assertion keys must be unique within one capture."
  let (store, inserted) ← insertAssertionContent context state.1
    (assertionContent item context.capture context.record selected) created
  .ok ((store, state.2 ++ [assertionKeyOf item]), inserted)

end Assertions

/-! ## Calls -/

section Calls

variable [Hashing] [PyRuntime]

/-- The arguments of `ingest`.  Publishing the source bytes and the failure hook may
raise; every insertion reads the clock. -/
structure IngestRequest where
  capture : SourceCaptureInput
  assertions : List EvidenceAssertionInput
  cutoffUtc : Option Instant
  researchCutoffId : Option String
  publishing : Except EvidenceError String
  failureHook : ℕ → Option EvidenceError
  clock : ℕ → Instant

structure EvidenceIngestionResult where
  capture : CaptureRow
  assertions : List InsertedAssertion
  fromExistingCapture : Bool

/-- The checks of `ingest` before anything is written. -/
def checkIngestion (store : EvidenceStore) (request : IngestRequest) :
    Except EvidenceError Unit := do
  let capture := request.capture
  let retention := upper capture.source.retentionStatus
  ensureCutoffReference store request.researchCutoffId request.cutoffUtc
  require (sourceStatusAt store (sourceIdOf capture.source) capture.retrievedAtUtc ≠ .suspended)
    .policy "The Source Identity was suspended at capture time."
  require (¬ (retention ∈ ["SUSPENDED", "DO_NOT_RETAIN"] ∧ (capture.content.getD []) ≠ []))
    .policy "Source rights do not permit retaining this capture."
  require (¬ (capture.captureKind = .retained ∧
      (retention ∉ ["RETAIN_PRIVATE", "RETAIN_REUSABLE"] ∨
        upper (strip capture.source.allowedUse) = "CITATION_ONLY")))
    .policy "Source rights or retention status does not permit a retained capture."
  require (∀ item ∈ request.assertions, ¬ (capture.source.sourceClass = .specialistReporting ∧
      item.evidenceClass = some .critical))
    .policy "Specialist reporting cannot be Critical Evidence."

/-- The digest of the published source bytes: of the stored capture, of the bytes
that are published now, or none for a citation. -/
def artifactDigestOf (existing : Option CaptureRow) (request : IngestRequest) :
    Except EvidenceError (Option String) :=
  match existing with
  | none =>
      if request.capture.captureKind = .retained then request.publishing.map some
      else .ok none
  | some row =>
      if captureMatches row request.capture then .ok row.artifactDigest
      else refuse .integrity "Source capture identity was reused with different metadata."

/-- The capture is inserted unless it was stored before. -/
def placeCapture (store : EvidenceStore) (existing : Option CaptureRow) (row : CaptureRow) :
    Except EvidenceError EvidenceStore :=
  match existing with
  | some _ => .ok store
  | none => do
      let store ← addIdentifierIfMissing store "source_capture" row.captureId
      if store.captures.any (fun other => other.captureId = row.captureId) then
        refuse .other "UNIQUE constraint failed: evidence_captures.capture_id"
      else .ok { store with captures := store.captures ++ [row] }

/-- `_capture_by_id` inside the transaction. -/
def persistedCapture (store : EvidenceStore) (captureId : String) :
    Except EvidenceError CaptureRow :=
  match captureById store captureId with
  | none => refuse .integrity "Source capture was not persisted."
  | some row => .ok row

/-- One turn of the loop over the assertions: the failure hook, then the insertion. -/
def ingestItem (context : Ingestion) (request : IngestRequest)
    (state : EvidenceStore × List String) (item : EvidenceAssertionInput × ℕ) :
    Except EvidenceError ((EvidenceStore × List String) × InsertedAssertion) :=
  match request.failureHook item.2 with
  | some error => .error error
  | none => insertAssertion context state item.1 (request.clock item.2)

/-- `ingest`. -/
def ingest (store : EvidenceStore) (request : IngestRequest) :
    Except EvidenceError (EvidenceStore × EvidenceIngestionResult) := do
  let capture := request.capture
  let sourceId := sourceIdOf capture.source
  let originId := originIdOf capture.origin
  let captureId := captureIdOf capture sourceId originId
  let existing := captureById store captureId
  checkIngestion store request
  let artifactDigest ← artifactDigestOf existing request
  let store ← ensureSource store capture.source sourceId
  let store ← ensureOrigin store capture.origin originId
  let store ← placeCapture store existing
    (captureRow capture captureId sourceId originId artifactDigest)
  let record ← persistedCapture store captureId
  let context := ⟨capture, record, request.cutoffUtc, request.researchCutoffId⟩
  let (state, inserted) ←
    batch (ingestItem context request) (store, []) (request.assertions.zipIdx 1)
  .ok (state.1, ⟨record, inserted, existing.isSome⟩)

/-- The arguments of `record_unknown`; the attempt falls back to the clock. -/
structure UnknownRequest where
  subjectKind : SubjectKind
  subjectId : Uuid
  evidenceType : EvidenceType
  predicate : String
  reason : String
  evidenceClass : Option EvidenceClass
  materiality : Option EvidenceClass
  cutoffUtc : Option Instant
  researchCutoffId : Option String
  attemptedAtUtc : Option Instant
  clock : Instant

def unknownTopic (request : UnknownRequest) : Topic where
  subjectKind := request.subjectKind
  subjectId := request.subjectId
  evidenceType := request.evidenceType
  predicate := strip request.predicate

def unknownClass (request : UnknownRequest) : EvidenceClass :=
  (request.evidenceClass.or request.materiality).getD (defaultEvidenceClass request.evidenceType)

/-- The checks of `record_unknown`. -/
def checkUnknown (store : EvidenceStore) (request : UnknownRequest) :
    Except EvidenceError Unit := do
  require (strip request.predicate ≠ "") .validation "Evidence predicates are required."
  require (blank request.reason = false) .validation "UNKNOWN evidence requires a reason."
  require (∀ first ∈ request.evidenceClass, ∀ second ∈ request.materiality, first = second)
    .validation "Evidence class and materiality disagree."
  ensureCutoffReference store request.researchCutoffId request.cutoffUtc

def unknownContent (request : UnknownRequest) : AssertionContent where
  assertionId := deterministicIdentifier "evidence_assertion" ("unknown:" ++
    delimited ':' (unknownTopic request).text
      (delimited ':' (unknownClass request).value (cutoffText request.cutoffUtc)))
  captureId := none
  sourceId := none
  originId := none
  sourceClass := .unknown
  sourceRowKey := "unknown-search"
  topic := unknownTopic request
  evidenceClass := unknownClass request
  authorityRank := 900
  asserted := .unknown (strip request.reason)
  eventTimeUtc := none
  effectiveTimeUtc := none
  predecessorAssertionId := none
  provenance := .unknownSearch (request.attemptedAtUtc.getD request.clock) (strip request.reason)

/-- `ON CONFLICT(assertion_id) DO NOTHING`. -/
def placeUnknown (store : EvidenceStore) (row : AssertionRow) : EvidenceStore :=
  match store.assertion? row.assertionId with
  | some _ => store
  | none => { store with assertions := store.assertions ++ [row] }

/-- `record_unknown`. -/
def recordUnknown (store : EvidenceStore) (request : UnknownRequest) :
    Except EvidenceError (EvidenceStore × EvidenceAssertionRecord) := do
  checkUnknown store request
  let content := unknownContent request
  let created := request.attemptedAtUtc.getD request.clock
  ensureCanonicalSubject store content.topic
  let store ← addIdentifierIfMissing store "evidence_assertion" content.assertionId
  let store := placeUnknown store ⟨content, created⟩
  let (store, assessment) ← insertCutoffAssessment store
    ⟨content.assertionId, request.researchCutoffId, request.cutoffUtc, .indeterminate,
      "NO_SOURCE_CAPTURE"⟩ created
  let record ← assertionById store content.assertionId assessment
  .ok (store, record)

/-- A call of the recorder. -/
inductive Request where
  | ingest (request : IngestRequest)
  | recordUnknown (request : UnknownRequest)

/-- What a call returns. -/
inductive Answer where
  | ingested (result : EvidenceIngestionResult)
  | unknown (record : EvidenceAssertionRecord)

def call (store : EvidenceStore) : Request → Except EvidenceError (EvidenceStore × Answer)
  | .ingest request => (ingest store request).map fun outcome => (outcome.1, .ingested outcome.2)
  | .recordUnknown request =>
      (recordUnknown store request).map fun outcome => (outcome.1, .unknown outcome.2)

/-- A call is one transaction: a refused one leaves the store as it was. -/
def step (store : EvidenceStore) (request : Request) : EvidenceStore := commit call store request

end Calls

/-! ## Correction chains -/

/-- The recursive query: the identifiers reached along the predecessors. -/
def chainQuery (store : EvidenceStore) (fuel : ℕ) (assertionId : String) : Option (List String) :=
  traverse (parentsOf AssertionRow.assertionId AssertionRow.predecessor store.assertions) fuel
    [assertionId]

/-- The order of the rows of a chain. -/
def creationOrder (row : AssertionRow) : ℤ ×ₗ String := toLex (row.createdAtUtc, row.assertionId)

/-- The latest assessment of an assertion. -/
def latestAssessment (store : EvidenceStore) (assertionId : String) : Option AssessmentRow :=
  (sortedOn (fun row : AssessmentRow => toLex (row.assessedAtUtc, row.assessmentId))
    (store.assessments.filter fun row => row.content.assertionId = assertionId)).getLast?

def assertionRecord (store : EvidenceStore) (row : AssertionRow) : EvidenceAssertionRecord where
  content := row.content
  cutoffEligibility := ((latestAssessment store row.assertionId).map
    fun assessment => assessment.content.eligibility).getD .indeterminate
  cutoffReason := ((latestAssessment store row.assertionId).map
    fun assessment => assessment.content.reason).getD "NO_CUTOFF_ASSESSMENT"

/-- The rows of the chain in creation order. -/
def chainRows (store : EvidenceStore) (fuel : ℕ) (assertionId : String) :
    Option (List AssertionRow) :=
  (chainQuery store fuel assertionId).map fun chain =>
    sortedOn creationOrder (chain.flatMap fun link =>
      store.assertions.filter fun row => row.assertionId = link)

/-- `correction_chain`. -/
def correctionChain (store : EvidenceStore) (fuel : ℕ) (assertionId : String) :
    Option (List EvidenceAssertionRecord) :=
  (chainRows store fuel assertionId).map fun rows => rows.map (assertionRecord store)

end MatchVet.T07.Recorder
