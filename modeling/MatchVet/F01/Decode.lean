import MatchVet.F01.Payload

/-!
# Reading stored assessments

The decoders of weekly and slate assessments.  Every record is read field by field and
given to its constructor, and the whole is written again and compared with what was read.
-/

namespace MatchVet.F01.Decode

open MatchVet.F01.Payload
open MatchVet.F01.Records
open MatchVet.F01.Slate
open MatchVet.F01.Weekly
open MatchVet.Foundation.CanonicalJson
open MatchVet.Foundation.Gregorian
open MatchVet.Foundation.JsonDocument
open MatchVet.Foundation.JsonEquality
open MatchVet.Foundation.JsonTree
open MatchVet.Foundation.Runtime
open MatchVet.Foundation.Timestamp

/-- What a decoder raises: its own error with a message, or an error of a constructor. -/
inductive PayloadFailure where
  | payload (message : String)
  | raised
  deriving DecidableEq, Repr

def refusePayload {α : Type} (message : String) : Except PayloadFailure α :=
  .error (.payload message)

def raised {α : Type} : Except PayloadFailure α := .error .raised

def requirePayload (condition : Prop) [Decidable condition] (message : String) :
    Except PayloadFailure Unit :=
  if condition then .ok () else refusePayload message

/-! ## Values -/

/-- The same keys, in any order. -/
def sameKeys (given expected : List String) : Bool :=
  given.all expected.contains && expected.all given.contains

/-- `_payload_object`. -/
def payloadObject (expectedKeys : List String) (label : String) :
    Document → Except PayloadFailure Document
  | .object members =>
      if sameKeys (members.map Prod.fst) expectedKeys then .ok (.object members)
      else refusePayload (label ++ " has an invalid shape.")
  | _ => refusePayload (label ++ " has an invalid shape.")

/-- `_payload_string`. -/
def payloadString (label : String) : Document → Except PayloadFailure String
  | .str text => .ok text
  | _ => refusePayload (label ++ " must be a string.")

/-- `_payload_optional_string`. -/
def payloadOptionalString (label : String) : Document → Except PayloadFailure (Option String)
  | .null => .ok none
  | .str text => .ok (some text)
  | _ => refusePayload (label ++ " must be a string or null.")

/-- `_payload_bool`. -/
def payloadBool (label : String) : Document → Except PayloadFailure Bool
  | .bool value => .ok value
  | _ => refusePayload (label ++ " must be a boolean.")

/-- `_payload_int`. -/
def payloadInt (label : String) : Document → Except PayloadFailure ℤ
  | .int value => .ok value
  | _ => refusePayload (label ++ " must be an integer.")

/-- `None if value is None else _payload_int(value, label)`. -/
def payloadOptionalInt (label : String) : Document → Except PayloadFailure (Option ℤ)
  | .null => .ok none
  | value => (payloadInt label value).map some

/-- `_payload_list`, and what each of its items is decoded to. -/
def payloadList {α : Type} (decode : Document → Except PayloadFailure α) (label : String) :
    Document → Except PayloadFailure (List α)
  | .array items => items.mapM decode
  | _ => refusePayload (label ++ " must be an array.")

/-- `_payload_string_tuple`. -/
def payloadStringTuple (label : String) : Document → Except PayloadFailure (List String) :=
  payloadList (payloadString label) label

/-- `read(item[key], key)`. -/
def field {α : Type} (read : String → Document → Except PayloadFailure α) (item : Document)
    (key : String) : Except PayloadFailure α :=
  match item.get? key with
  | some value => read key value
  | none => raised

/-- The enumeration member of a value. -/
def member {σ : Type} (value : σ → String) (members : List σ) (text : String) :
    Except PayloadFailure σ :=
  match members.find? fun state => value state = text with
  | some state => .ok state
  | none => raised

/-! ## Checks of constructors -/

theorem sortedUnique_insertionSort {values : List String} (hdistinct : values.Nodup)
    (hnamed : ∀ value ∈ values, blank value = false) :
    SortedUnique (values.insertionSort (· ≤ ·)) := by
  have hperm := List.perm_insertionSort (· ≤ ·) values
  have hsorted := List.pairwise_insertionSort (· ≤ ·) values
  refine ⟨(hsorted.and (hperm.nodup_iff.mpr hdistinct)).imp ?_, ?_⟩
  · intro first second hpair
    exact lt_of_le_of_ne hpair.1 hpair.2
  · intro value hvalue
    exact hnamed value (hperm.mem_iff.mp hvalue)

/-- `_sorted_unique`. -/
def sortedUnique (values : List String) : Except PayloadFailure { ids // SortedUnique ids } :=
  if hvalid : values.Nodup ∧ ∀ value ∈ values, blank value = false then
    .ok ⟨values.insertionSort (· ≤ ·), sortedUnique_insertionSort hvalid.1 hvalid.2⟩
  else raised

/-- `_canonical_utc`: the instant of a text that is written as that text. -/
def canonicalUtc (text : String) : Except PayloadFailure { instant // InRange instant } :=
  match gregorianReading text with
  | some ⟨clock, some offset⟩ =>
      if hrange : InRange (clock - offset) then
        if gregorianText (clock - offset) = text then .ok ⟨clock - offset, hrange⟩ else raised
      else raised
  | _ => raised

/-! ## Records -/

def coverageBasis (kind : CoverageBasisKind) (referenceId : String) (version : Option String) :
    Except PayloadFailure CoverageBasis :=
  if hvalid : blank referenceId = false ∧ (∀ text ∈ version, blank text = false) ∧
      (kind = .versionedSourceContract → version.isSome = true) then
    .ok {
      kind := kind
      referenceId := referenceId
      version := version
      reference_text := hvalid.1
      version_text := hvalid.2.1
      versioned := hvalid.2.2 }
  else raised

def basisKeys : List String :=
  ["kind", "reference_id", "version"]

/-- `_coverage_basis_from_json`. -/
def coverageBasisFromJson : Document → Except PayloadFailure (Option CoverageBasis)
  | .null => .ok none
  | value => do
      let item ← payloadObject basisKeys "Coverage Basis" value
      let kindText ← field payloadString item "kind"
      let kind ← member basisKind [.versionedSourceContract, .explicitProviderMetadata] kindText
      let referenceId ← field payloadString item "reference_id"
      let version ← field payloadOptionalString item "version"
      let basis ← coverageBasis kind referenceId version
      .ok (some basis)

def coverageBounds (startText endText : String) : Except PayloadFailure CoverageBounds := do
  let start ← canonicalUtc startText
  let finish ← canonicalUtc endText
  if hordered : start.1 < finish.1 then
    .ok {
      startUtc := start.1
      endUtc := finish.1
      start_range := start.2
      end_range := finish.2
      ordered := hordered }
  else raised

def boundsKeys : List String :=
  ["start_utc", "end_utc"]

/-- `_coverage_bounds_from_json`. -/
def coverageBoundsFromJson : Document → Except PayloadFailure (Option CoverageBounds)
  | .null => .ok none
  | value => do
      let item ← payloadObject boundsKeys "Coverage Bounds" value
      let startText ← field payloadString item "start_utc"
      let endText ← field payloadString item "end_utc"
      let bounds ← coverageBounds startText endText
      .ok (some bounds)

def providerAttempt (attemptId scopeId providerId capabilityId : String)
    (state : ProviderAttemptState) (retrievedText : String) (httpStatus : Option ℤ)
    (captureId captureDigest : Option String) : Except PayloadFailure ProviderAttempt := do
  let retrieved ← canonicalUtc retrievedText
  if hvalid : (∀ text ∈ [attemptId, scopeId, providerId, capabilityId], blank text = false) ∧
      (∀ status ∈ httpStatus, 100 ≤ status ∧ status ≤ 599) ∧
      captureId.isSome = captureDigest.isSome ∧
      (state = .captured → captureId.isSome = true) ∧
      (state = .unavailable → captureId = none) then
    .ok {
      attemptId := attemptId
      scopeId := scopeId
      providerId := providerId
      capabilityId := capabilityId
      state := state
      retrievedAtUtc := retrieved.1
      httpStatus := httpStatus
      captureId := captureId
      captureDigest := captureDigest
      named := hvalid.1
      retrieved_range := retrieved.2
      status_range := hvalid.2.1
      capture_pair := hvalid.2.2.1
      captured := hvalid.2.2.2.1
      unavailable := hvalid.2.2.2.2 }
  else raised

def attemptKeys : List String :=
  ["attempt_id", "scope_id", "provider_id", "capability_id", "state", "retrieved_at_utc",
    "http_status", "capture_id", "capture_digest"]

/-- `_provider_attempt_from_json`. -/
def providerAttemptFromJson (value : Document) : Except PayloadFailure ProviderAttempt := do
  let item ← payloadObject attemptKeys "Provider Attempt" value
  let attemptId ← field payloadString item "attempt_id"
  let scopeId ← field payloadString item "scope_id"
  let providerId ← field payloadString item "provider_id"
  let capabilityId ← field payloadString item "capability_id"
  let stateText ← field payloadString item "state"
  let state ← member attemptState [.captured, .unavailable, .malformed] stateText
  let retrievedText ← field payloadString item "retrieved_at_utc"
  let httpStatus ← field payloadOptionalInt item "http_status"
  let captureId ← field payloadOptionalString item "capture_id"
  let captureDigest ← field payloadOptionalString item "capture_digest"
  providerAttempt attemptId scopeId providerId capabilityId state retrievedText httpStatus
    captureId captureDigest

def coverageEvidence (evidenceId attemptId scopeId providerCompetitionKey providerSeason captureId
    captureDigest : String) (basis : Option CoverageBasis) (bounds : Option CoverageBounds)
    (providerUsePolicyId : Option String) (permittedForUse : Bool)
    (requiredPartitionIds accountedPartitionIds : List String)
    (paginationExhausted affirmativelyEmpty : Bool) :
    Except PayloadFailure ProviderCoverageEvidence := do
  let required ← sortedUnique requiredPartitionIds
  let accounted ← sortedUnique accountedPartitionIds
  if hvalid : (∀ text ∈ [evidenceId, attemptId, scopeId, providerCompetitionKey, providerSeason,
        captureId, captureDigest], blank text = false) ∧
      (∀ text ∈ providerUsePolicyId, blank text = false) ∧
      (permittedForUse = true → providerUsePolicyId.isSome = true) ∧
      accounted.1 ⊆ required.1 then
    .ok {
      evidenceId := evidenceId
      attemptId := attemptId
      scopeId := scopeId
      providerCompetitionKey := providerCompetitionKey
      providerSeason := providerSeason
      captureId := captureId
      captureDigest := captureDigest
      coverageBasis := basis
      bounds := bounds
      providerUsePolicyId := providerUsePolicyId
      permittedForUse := permittedForUse
      requiredPartitionIds := required.1
      accountedPartitionIds := accounted.1
      paginationExhausted := paginationExhausted
      affirmativelyEmpty := affirmativelyEmpty
      named := hvalid.1
      policy_text := hvalid.2.1
      permitted_policy := hvalid.2.2.1
      required_unique := required.2
      accounted_unique := accounted.2
      accounted_subset := hvalid.2.2.2 }
  else raised

def evidenceKeys : List String :=
  ["evidence_id", "attempt_id", "scope_id", "provider_competition_key", "provider_season",
    "capture_id", "capture_digest", "coverage_basis", "bounds", "provider_use_policy_id",
    "permitted_for_use", "required_partition_ids", "accounted_partition_ids",
    "pagination_exhausted", "affirmatively_empty"]

/-- `_coverage_evidence_from_json`. -/
def coverageEvidenceFromJson (value : Document) :
    Except PayloadFailure ProviderCoverageEvidence := do
  let item ← payloadObject evidenceKeys "Provider Coverage Evidence" value
  let evidenceId ← field payloadString item "evidence_id"
  let attemptId ← field payloadString item "attempt_id"
  let scopeId ← field payloadString item "scope_id"
  let providerCompetitionKey ← field payloadString item "provider_competition_key"
  let providerSeason ← field payloadString item "provider_season"
  let captureId ← field payloadString item "capture_id"
  let captureDigest ← field payloadString item "capture_digest"
  let basis ← field (fun _ => coverageBasisFromJson) item "coverage_basis"
  let bounds ← field (fun _ => coverageBoundsFromJson) item "bounds"
  let providerUsePolicyId ← field payloadOptionalString item "provider_use_policy_id"
  let permittedForUse ← field payloadBool item "permitted_for_use"
  let requiredPartitionIds ← field payloadStringTuple item "required_partition_ids"
  let accountedPartitionIds ← field payloadStringTuple item "accounted_partition_ids"
  let paginationExhausted ← field payloadBool item "pagination_exhausted"
  let affirmativelyEmpty ← field payloadBool item "affirmatively_empty"
  coverageEvidence evidenceId attemptId scopeId providerCompetitionKey providerSeason captureId
    captureDigest basis bounds providerUsePolicyId permittedForUse requiredPartitionIds
    accountedPartitionIds paginationExhausted affirmativelyEmpty

def fixtureRevision (scopeId fixtureId revisionId revisionDigest : String)
    (sourceCaptureIds sourceAssertionIds : List String) :
    Except PayloadFailure FixtureRevisionReference := do
  let captures ← sortedUnique sourceCaptureIds
  let assertions ← sortedUnique sourceAssertionIds
  if hvalid : (∀ text ∈ [scopeId, fixtureId, revisionId, revisionDigest], blank text = false) ∧
      captures.1 ≠ [] ∧ assertions.1 ≠ [] then
    .ok {
      scopeId := scopeId
      fixtureId := fixtureId
      revisionId := revisionId
      revisionDigest := revisionDigest
      sourceCaptureIds := captures.1
      sourceAssertionIds := assertions.1
      named := hvalid.1
      captures_unique := captures.2
      assertions_unique := assertions.2
      provenance := hvalid.2 }
  else raised

def revisionKeys : List String :=
  ["scope_id", "fixture_id", "revision_id", "revision_digest", "source_capture_ids",
    "source_assertion_ids"]

/-- `_revision_reference_from_json`. -/
def revisionReferenceFromJson (value : Document) :
    Except PayloadFailure FixtureRevisionReference := do
  let item ← payloadObject revisionKeys "Fixture Revision Reference" value
  let scopeId ← field payloadString item "scope_id"
  let fixtureId ← field payloadString item "fixture_id"
  let revisionId ← field payloadString item "revision_id"
  let revisionDigest ← field payloadString item "revision_digest"
  let sourceCaptureIds ← field payloadStringTuple item "source_capture_ids"
  let sourceAssertionIds ← field payloadStringTuple item "source_assertion_ids"
  fixtureRevision scopeId fixtureId revisionId revisionDigest sourceCaptureIds sourceAssertionIds

def identityResolution (candidateId scopeId : String) (state : FixtureIdentityState)
    (canonicalFixtureId : Option String) (revisionIds : List String) (reasonCode : Option String)
    (sourceCaptureIds sourceAssertionIds : List String) :
    Except PayloadFailure FixtureIdentityResolution := do
  let revisions ← sortedUnique revisionIds
  let captures ← sortedUnique sourceCaptureIds
  let assertions ← sortedUnique sourceAssertionIds
  if hvalid : (blank candidateId = false ∧ blank scopeId = false) ∧
      (state = .resolved → (∃ text ∈ canonicalFixtureId, blank text = false) ∧
        revisions.1 ≠ [] ∧ reasonCode = none) ∧
      (state = .unresolvedFixtureIdentity → canonicalFixtureId = none ∧
        (∃ text ∈ reasonCode, blank text = false) ∧ (assertions.1 ≠ [] ∨ revisions.1 ≠ [])) then
    .ok {
      candidateId := candidateId
      scopeId := scopeId
      state := state
      canonicalFixtureId := canonicalFixtureId
      revisionIds := revisions.1
      reasonCode := reasonCode
      sourceCaptureIds := captures.1
      sourceAssertionIds := assertions.1
      named := hvalid.1
      revisions_unique := revisions.2
      captures_unique := captures.2
      assertions_unique := assertions.2
      resolved := hvalid.2.1
      unresolved := hvalid.2.2 }
  else raised

def identityKeys : List String :=
  ["candidate_id", "scope_id", "state", "canonical_fixture_id", "revision_ids", "reason_code",
    "source_capture_ids", "source_assertion_ids"]

/-- `_identity_resolution_from_json`. -/
def identityResolutionFromJson (value : Document) :
    Except PayloadFailure FixtureIdentityResolution := do
  let item ← payloadObject identityKeys "Fixture Identity Resolution" value
  let candidateId ← field payloadString item "candidate_id"
  let scopeId ← field payloadString item "scope_id"
  let stateText ← field payloadString item "state"
  let state ← member identityState [.resolved, .unresolvedFixtureIdentity] stateText
  let canonicalFixtureId ← field payloadOptionalString item "canonical_fixture_id"
  let revisionIds ← field payloadStringTuple item "revision_ids"
  let reasonCode ← field payloadOptionalString item "reason_code"
  let sourceCaptureIds ← field payloadStringTuple item "source_capture_ids"
  let sourceAssertionIds ← field payloadStringTuple item "source_assertion_ids"
  identityResolution candidateId scopeId state canonicalFixtureId revisionIds reasonCode
    sourceCaptureIds sourceAssertionIds

def freshnessResult (evidenceId policyId evaluatedText : String) (isCurrent : Bool) :
    Except PayloadFailure CoverageFreshnessResult := do
  let evaluated ← canonicalUtc evaluatedText
  if hvalid : blank evidenceId = false ∧ blank policyId = false then
    .ok {
      evidenceId := evidenceId
      policyId := policyId
      evaluatedAtUtc := evaluated.1
      isCurrent := isCurrent
      named := hvalid
      evaluated_range := evaluated.2 }
  else raised

def freshnessKeys : List String :=
  ["evidence_id", "policy_id", "evaluated_at_utc", "is_current"]

/-- `_freshness_result_from_json`. -/
def freshnessResultFromJson (value : Document) :
    Except PayloadFailure CoverageFreshnessResult := do
  let item ← payloadObject freshnessKeys "Coverage Freshness Result" value
  let evidenceId ← field payloadString item "evidence_id"
  let policyId ← field payloadString item "policy_id"
  let evaluatedText ← field payloadString item "evaluated_at_utc"
  let isCurrent ← field payloadBool item "is_current"
  freshnessResult evidenceId policyId evaluatedText isCurrent

/-- The retained records of an assessment. -/
def recordsFromJson (root : Document) : Except PayloadFailure Retained := do
  let providerAttempts ← field (payloadList providerAttemptFromJson) root "provider_attempts"
  let coverageEvidence ← field (payloadList coverageEvidenceFromJson) root "coverage_evidence"
  let fixtureRevisions ← field (payloadList revisionReferenceFromJson) root "fixture_revisions"
  let identityResolutions ←
    field (payloadList identityResolutionFromJson) root "identity_resolutions"
  let freshnessResults ← field (payloadList freshnessResultFromJson) root "freshness_results"
  .ok { providerAttempts, coverageEvidence, fixtureRevisions, identityResolutions,
        freshnessResults }

/-! ## Payloads -/

/-- The object whose canonical text is read. -/
def canonicalObject (rootMessage textMessage encoded : String) :
    Except PayloadFailure Document :=
  match loads encoded with
  | none => raised
  | some (.object members) =>
      if canonicalJson (.object members) = encoded then .ok (.object members)
      else refusePayload textMessage
  | some _ => refusePayload rootMessage

/-- `except (KeyError, TypeError, ValueError, json.JSONDecodeError)`. -/
def invalidPayload (message : String) : PayloadFailure → PayloadFailure
  | .payload own => .payload own
  | .raised => .payload message

/-- An error of a constructor. -/
def constructed {α : Type} (call : Except CoverageError α) : Except PayloadFailure α :=
  call.mapError fun _ => .raised

/-! ## The weekly assessment -/

def fixtureScope (leagueKey season fridayText : String) : Except PayloadFailure FixtureScope :=
  match readDate fridayText with
  | none => raised
  | some friday =>
      if hvalid : leagueKey ∈ targetLeagueKeys ∧ blank season = false ∧ DateInRange friday ∧
          weekday friday = 4 ∧ dateText friday = fridayText then
        .ok {
          leagueKey := leagueKey
          season := season
          matchweekFriday := friday
          league_known := hvalid.1
          season_text := hvalid.2.1
          date_range := hvalid.2.2.1
          friday := hvalid.2.2.2.1 }
      else raised

def scopeKeys : List String :=
  ["league_key", "season", "matchweek_friday"]

/-- `_scope_from_json`. -/
def scopeFromJson (value : Document) : Except PayloadFailure FixtureScope := do
  let item ← payloadObject scopeKeys "Fixture Scope" value
  let leagueKey ← field payloadString item "league_key"
  let season ← field payloadString item "season"
  let fridayText ← field payloadString item "matchweek_friday"
  fixtureScope leagueKey season fridayText

def scopeStates : List ScopeCoverageState :=
  [.complete, .confirmedEmpty, .partly, .unknown, .stale]

def scheduleStates : List MatchweekScheduleState :=
  [.complete, .confirmedEmpty, .partly, .unknown, .stale]

def scopeAssessmentKeys : List String :=
  ["scope", "coverage_state", "provider_attempt_ids", "coverage_evidence_ids",
    "fixture_revisions", "identity_blocker_candidate_ids", "freshness_results",
    "current_coverage_evidence_ids", "stale_coverage_evidence_ids"]

/-- The fields of a scope's assessment after its scope, for either kind of scope. -/
structure ScopeFields where
  coverageState : ScopeCoverageState
  providerAttemptIds : List String
  coverageEvidenceIds : List String
  fixtureRevisions : List FixtureRevisionReference
  identityBlockerCandidateIds : List String
  freshnessResults : List CoverageFreshnessResult
  currentCoverageEvidenceIds : List String
  staleCoverageEvidenceIds : List String

def scopeFieldsFromJson (item : Document) : Except PayloadFailure ScopeFields := do
  let stateText ← field payloadString item "coverage_state"
  let coverageState ← member scopeState scopeStates stateText
  let providerAttemptIds ← field payloadStringTuple item "provider_attempt_ids"
  let coverageEvidenceIds ← field payloadStringTuple item "coverage_evidence_ids"
  let fixtureRevisions ← field (payloadList revisionReferenceFromJson) item "fixture_revisions"
  let identityBlockerCandidateIds ← field payloadStringTuple item "identity_blocker_candidate_ids"
  let freshnessResults ← field (payloadList freshnessResultFromJson) item "freshness_results"
  let currentCoverageEvidenceIds ← field payloadStringTuple item "current_coverage_evidence_ids"
  let staleCoverageEvidenceIds ← field payloadStringTuple item "stale_coverage_evidence_ids"
  .ok { coverageState, providerAttemptIds, coverageEvidenceIds, fixtureRevisions,
        identityBlockerCandidateIds, freshnessResults, currentCoverageEvidenceIds,
        staleCoverageEvidenceIds }

/-- `_scope_assessment_from_json`. -/
def scopeAssessmentFromJson (value : Document) :
    Except PayloadFailure FixtureScopeAssessment := do
  let item ← payloadObject scopeAssessmentKeys "Fixture Scope Assessment" value
  let scope ← field (fun _ => scopeFromJson) item "scope"
  let fields ← scopeFieldsFromJson item
  .ok {
    scope := scope
    coverageState := fields.coverageState
    providerAttemptIds := fields.providerAttemptIds
    coverageEvidenceIds := fields.coverageEvidenceIds
    fixtureRevisions := fields.fixtureRevisions
    identityBlockerCandidateIds := fields.identityBlockerCandidateIds
    freshnessResults := fields.freshnessResults
    currentCoverageEvidenceIds := fields.currentCoverageEvidenceIds
    staleCoverageEvidenceIds := fields.staleCoverageEvidenceIds }

/-- `_require_supported_assessment_versions`. -/
def requireSupportedVersions (contract : String) (schema : ℤ) : Except PayloadFailure Unit :=
  requirePayload (contract = contractVersion ∧ schema = schemaVersion)
    "Fixture Coverage payload uses unsupported F01 versions."

section Weekly

variable [Hashing]

/-- `fixture_coverage_assessment_to_canonical_json`. -/
def weeklyToCanonicalJson (assessment : WeeklyAssessment) : Except PayloadFailure String := do
  requireSupportedVersions assessment.contractVersion assessment.schemaVersion
  .ok (canonicalJson (weeklyJson assessment))

def weeklyKeys : List String :=
  ["contract_version", "schema_version", "freshness_policy_id", "scope_assessments",
    "provider_attempts", "coverage_evidence", "fixture_revisions", "identity_resolutions",
    "freshness_results", "schedule_state", "digest"]

/-- The assessment that an object denotes. -/
def weeklyFromJson (raw : Document) : Except PayloadFailure WeeklyAssessment := do
  let root ← payloadObject weeklyKeys "Fixture Coverage Assessment" raw
  let contract ← field payloadString root "contract_version"
  let schema ← field payloadInt root "schema_version"
  requireSupportedVersions contract schema
  let scopeAssessments ← field (payloadList scopeAssessmentFromJson) root "scope_assessments"
  let records ← recordsFromJson root
  let freshnessPolicyId ← field payloadOptionalString root "freshness_policy_id"
  let stateText ← field payloadString root "schedule_state"
  let scheduleState ← member matchweekState scheduleStates stateText
  let digest ← field payloadString root "digest"
  constructed (WeeklyAssessment.construct {
    contractVersion := contract
    schemaVersion := schema
    freshnessPolicyId := freshnessPolicyId
    scopeAssessments := scopeAssessments
    records := records
    scheduleState := scheduleState } digest)

/-- `fixture_coverage_assessment_from_canonical_json`. -/
def weeklyFromCanonicalJson (encoded : String) : Except PayloadFailure WeeklyAssessment :=
  Except.mapError (invalidPayload "Fixture Coverage payload is invalid.") do
    let raw ← canonicalObject "Fixture Coverage payload root must be an object."
      "Fixture Coverage payload is not canonical JSON." encoded
    let assessment ← weeklyFromJson raw
    let again ← weeklyToCanonicalJson assessment
    requirePayload (again = encoded)
      "Fixture Coverage payload changes when reconstructed from its canonical value."
    .ok assessment

/-- `encode_f01` of a weekly assessment. -/
def encodeF01 (assessment : WeeklyAssessment) : Except PayloadFailure String := do
  requirePayload
    (assessment.contractVersion = contractVersion ∧ assessment.schemaVersion = schemaVersion)
    "Fixture Coverage assessment version is unsupported."
  weeklyToCanonicalJson assessment

/-- `decode_f01`, with the decoders of the attested and of the active assessments. -/
def decodeF01 {α : Type} (attested active : String → Except PayloadFailure α) (encoded : String) :
    Except PayloadFailure (WeeklyAssessment ⊕ α) :=
  Except.mapError (invalidPayload "Fixture Coverage payload is invalid.") do
    let raw ← canonicalObject "Fixture Coverage payload root must be an object."
      "Fixture Coverage payload is not canonical JSON." encoded
    match raw.get? "contract_version", raw.get? "schema_version" with
    | some (.str contract), some (.int schema) =>
        if contract = contractVersion ∧ schema = schemaVersion then
          (weeklyFromCanonicalJson encoded).map .inl
        else if contract = "fixture-coverage-v3-v3" ∧ schema = 3 then
          (attested encoded).map .inr
        else if contract = "fixture-coverage-v4-v4" ∧ schema = 4 then
          (active encoded).map .inr
        else refusePayload "Fixture Coverage payload uses unsupported F01 versions."
    | _, _ => refusePayload "Fixture Coverage payload uses unsupported F01 versions."

end Weekly

/-! ## The slate assessment -/

section Slate

variable [Hashing]

/-- `ActiveScopeContract`: the installed contract that a set of fields names. -/
def activeScopeContract (contractId : String) (version : ℤ) (season : String)
    (leagueKeys : List String) (digest : String) : Except PayloadFailure ActiveScope :=
  match [ActiveScope.legacySeven, .successorSix, .successorFive].find? fun scope =>
      (scope.version : ℤ) = version with
  | none => raised
  | some scope =>
      if (contractId = scope.contractId ∧ season = scope.season ∧ leagueKeys = scope.leagueKeys) ∧
          (digest = "" ∨ digest = scope.digest) then .ok scope
      else raised

def activeScopeKeys : List String :=
  ["contract_id", "version", "season", "league_keys", "digest"]

def activeScopeFromJson (label : String) (value : Document) :
    Except PayloadFailure ActiveScope := do
  let item ← payloadObject activeScopeKeys label value
  let contractId ← field payloadString item "contract_id"
  let version ← field payloadInt item "version"
  let season ← field payloadString item "season"
  let leagueKeys ← field payloadStringTuple item "league_keys"
  let digest ← field payloadString item "digest"
  activeScopeContract contractId version season leagueKeys digest

/-- `value.replace("Z", "+00:00")`. -/
def replaceZulu (text : String) : String :=
  String.ofList (text.toList.flatMap fun char =>
    if char = 'Z' then "+00:00".toList else [char])

/-- The instant of a bound, which the window writes in UTC. -/
def windowUtc (text : String) : Except PayloadFailure { instant // InRange instant } :=
  match gregorianReading (replaceZulu text) with
  | some ⟨clock, some offset⟩ =>
      if hrange : InRange (clock - offset) then .ok ⟨clock - offset, hrange⟩ else raised
  | _ => raised

def slateWindow (startText endText : String) (activeScope : ActiveScope) (contractId : String)
    (version : ℤ) (digest : String) : Except PayloadFailure SlateWindow := do
  let start ← windowUtc startText
  let finish ← windowUtc endText
  if hvalid : activeScope = .successorFive ∧ contractId = slateWindowContractId ∧
      version.toNat = 1 ∧ start.1 < finish.1 then
    let window : SlateWindow := {
      startUtc := start.1
      endUtc := finish.1
      activeScope := activeScope
      version := .int version.toNat
      start_range := start.2
      end_range := finish.2
      proper := hvalid.2.2.2
      installed := hvalid.1
      supported := hvalid.2.2.1 }
    if digest = "" ∨ digest = window.digest then .ok window else raised
  else raised

def windowKeys : List String :=
  ["start_utc", "end_utc", "active_scope", "contract_id", "version", "digest"]

/-- The slate window of an assessment. -/
def windowFromJson (value : Document) : Except PayloadFailure SlateWindow := do
  let item ← payloadObject windowKeys "Slate Window" value
  let activeScope ←
    field (fun _ => activeScopeFromJson "Slate Window Active Scope") item "active_scope"
  let startText ← field payloadString item "start_utc"
  let endText ← field payloadString item "end_utc"
  let contractId ← field payloadString item "contract_id"
  let version ← field payloadInt item "version"
  let digest ← field payloadString item "digest"
  slateWindow startText endText activeScope contractId version digest

def slateFixtureScope (leagueKey season : String) (activeScope : ActiveScope)
    (window : SlateWindow) : Except PayloadFailure SlateFixtureScope :=
  if hvalid : leagueKey ∈ activeScope.leagueKeys ∧ season = activeScope.season ∧
      activeScope = .successorFive then
    .ok {
      leagueKey := leagueKey
      season := season
      activeScope := activeScope
      slateWindow := window
      league_known := hvalid.1
      season_matches := hvalid.2.1
      installed := hvalid.2.2 }
  else raised

/-- A value that equals the given one, as the runtime compares parsed values. -/
def sameValue (expected : Document) (_ : String) (value : Document) :
    Except PayloadFailure Bool :=
  .ok (Json.same (tree value) (tree (sortKeys expected)))

def slateScopeKeys : List String :=
  ["league_key", "season", "active_scope", "slate_window"]

/-- The scope of a scope assessment, which binds the scope and window of its assessment. -/
def slateScopeFromJson (window : SlateWindow) (activeScope : ActiveScope) (value : Document) :
    Except PayloadFailure SlateFixtureScope := do
  let item ← payloadObject slateScopeKeys "Slate Fixture Scope" value
  let sameScope ← field (sameValue (activeScopeJson activeScope)) item "active_scope"
  let sameWindow ← field (sameValue (windowJson window)) item "slate_window"
  requirePayload (sameScope = true ∧ sameWindow = true)
    "Slate F01 scope binds another active scope or window."
  let leagueKey ← field payloadString item "league_key"
  let season ← field payloadString item "season"
  slateFixtureScope leagueKey season activeScope window

/-- `_decode_scope_assessment`. -/
def decodeScopeAssessment (window : SlateWindow) (activeScope : ActiveScope) (value : Document) :
    Except PayloadFailure SlateFixtureScopeAssessment := do
  let item ← payloadObject scopeAssessmentKeys "Slate Fixture Scope Assessment" value
  let scope ← field (fun _ => slateScopeFromJson window activeScope) item "scope"
  let fields ← scopeFieldsFromJson item
  .ok {
    scope := scope
    coverageState := fields.coverageState
    providerAttemptIds := fields.providerAttemptIds
    coverageEvidenceIds := fields.coverageEvidenceIds
    fixtureRevisions := fields.fixtureRevisions
    identityBlockerCandidateIds := fields.identityBlockerCandidateIds
    freshnessResults := fields.freshnessResults
    currentCoverageEvidenceIds := fields.currentCoverageEvidenceIds
    staleCoverageEvidenceIds := fields.staleCoverageEvidenceIds }

/-- The constructor of a slate assessment, with the digest that is given. -/
def slateConstruct (assessment : SlateFixtureCoverageAssessment) (digest : String) :
    Except CoverageError SlateFixtureCoverageAssessment := do
  let made ← construct assessment
  require (digest = "" ∨ digest = slateDigest assessment)
    "Slate F01 digest does not match its contents."
  .ok made

def slateKeys : List String :=
  ["active_scope", "contract_version", "schema_version", "slate_window", "freshness_policy_id",
    "scope_assessments", "provider_attempts", "coverage_evidence", "fixture_revisions",
    "identity_resolutions", "freshness_results", "schedule_state", "digest"]

/-- The assessment that an object denotes. -/
def slateFromJson (raw : Document) : Except PayloadFailure SlateFixtureCoverageAssessment := do
  let root ← payloadObject slateKeys "Slate F01" raw
  let activeScope ← field (fun _ => activeScopeFromJson "Active Scope Contract") root "active_scope"
  let window ← field (fun _ => windowFromJson) root "slate_window"
  let scopeAssessments ←
    field (payloadList (decodeScopeAssessment window activeScope)) root "scope_assessments"
  let contract ← field payloadString root "contract_version"
  let schema ← field payloadInt root "schema_version"
  let freshnessPolicyId ← field payloadOptionalString root "freshness_policy_id"
  let records ← recordsFromJson root
  let stateText ← field payloadString root "schedule_state"
  let scheduleState ← member matchweekState scheduleStates stateText
  let digest ← field payloadString root "digest"
  constructed (slateConstruct {
    activeScope := activeScope
    slateWindow := window
    freshnessPolicyId := freshnessPolicyId
    scopeAssessments := scopeAssessments
    records := records
    scheduleState := scheduleState
    contractVersion := contract
    schemaVersion := schema.toNat } digest)

/-- `encode_slate_f01`. -/
def encodeSlateF01 (assessment : SlateFixtureCoverageAssessment) : String :=
  canonicalJson (slateJson assessment)

/-- `decode_slate_f01`. -/
def decodeSlateF01 (encoded : String) : Except PayloadFailure SlateFixtureCoverageAssessment :=
  Except.mapError (invalidPayload "Slate F01 payload is invalid.") do
    let raw ← canonicalObject "Slate F01 root must be an object."
      "Slate F01 JSON is not canonical." encoded
    let assessment ← slateFromJson raw
    requirePayload (encodeSlateF01 assessment = encoded)
      "Slate F01 references or ordering are inconsistent."
    .ok assessment

end Slate

end MatchVet.F01.Decode
