import MatchVet.F01.Slate
import MatchVet.Foundation.JsonEquality

/-!
# Stored assessments

A weekly assessment and a slate assessment are written as the canonical JSON of all
their fields, with a digest of that JSON, and are read back by decoders that name
every field of every record.
-/

namespace MatchVet.F01.Payload

open MatchVet.F01.Records
open MatchVet.F01.Slate
open MatchVet.F01.Weekly
open MatchVet.Foundation.CanonicalJson
open MatchVet.Foundation.Gregorian
open MatchVet.Foundation.JsonDocument
open MatchVet.Foundation.JsonEquality
open MatchVet.Foundation.JsonTree
open MatchVet.Foundation.Runtime
open MatchVet.Foundation.Timestamp

/-! ## Names of the states -/

def attemptState : ProviderAttemptState → String
  | .captured => "CAPTURED"
  | .unavailable => "UNAVAILABLE"
  | .malformed => "MALFORMED"

def basisKind : CoverageBasisKind → String
  | .versionedSourceContract => "VERSIONED_SOURCE_CONTRACT"
  | .explicitProviderMetadata => "EXPLICIT_PROVIDER_METADATA"

def scopeState : ScopeCoverageState → String
  | .complete => "COMPLETE"
  | .confirmedEmpty => "CONFIRMED_EMPTY"
  | .partly => "PARTIAL"
  | .unknown => "UNKNOWN"
  | .stale => "STALE"

def identityState : FixtureIdentityState → String
  | .resolved => "RESOLVED"
  | .unresolvedFixtureIdentity => "UNRESOLVED_FIXTURE_IDENTITY"

def matchweekState : MatchweekScheduleState → String
  | .complete => "COMPLETE"
  | .confirmedEmpty => "CONFIRMED_EMPTY"
  | .partly => "PARTIAL"
  | .unknown => "UNKNOWN"
  | .stale => "STALE"

/-! ## Writing records -/

def basisJson (basis : CoverageBasis) : Document :=
  .object [("kind", .str (basisKind basis.kind)), ("reference_id", .str basis.referenceId),
    ("version", optionalText basis.version)]

def boundsJson (bounds : CoverageBounds) : Document :=
  .object [("start_utc", .str (gregorianText bounds.startUtc)),
    ("end_utc", .str (gregorianText bounds.endUtc))]

def attemptJson (attempt : ProviderAttempt) : Document :=
  .object [("attempt_id", .str attempt.attemptId), ("scope_id", .str attempt.scopeId),
    ("provider_id", .str attempt.providerId), ("capability_id", .str attempt.capabilityId),
    ("state", .str (attemptState attempt.state)),
    ("retrieved_at_utc", .str (gregorianText attempt.retrievedAtUtc)),
    ("http_status", attempt.httpStatus.elim .null .int),
    ("capture_id", optionalText attempt.captureId),
    ("capture_digest", optionalText attempt.captureDigest)]

def evidenceJson (evidence : ProviderCoverageEvidence) : Document :=
  .object [("evidence_id", .str evidence.evidenceId), ("attempt_id", .str evidence.attemptId),
    ("scope_id", .str evidence.scopeId),
    ("provider_competition_key", .str evidence.providerCompetitionKey),
    ("provider_season", .str evidence.providerSeason), ("capture_id", .str evidence.captureId),
    ("capture_digest", .str evidence.captureDigest),
    ("coverage_basis", evidence.coverageBasis.elim .null basisJson),
    ("bounds", evidence.bounds.elim .null boundsJson),
    ("provider_use_policy_id", optionalText evidence.providerUsePolicyId),
    ("permitted_for_use", .bool evidence.permittedForUse),
    ("required_partition_ids", texts evidence.requiredPartitionIds),
    ("accounted_partition_ids", texts evidence.accountedPartitionIds),
    ("pagination_exhausted", .bool evidence.paginationExhausted),
    ("affirmatively_empty", .bool evidence.affirmativelyEmpty)]

def revisionJson (revision : FixtureRevisionReference) : Document :=
  .object [("scope_id", .str revision.scopeId), ("fixture_id", .str revision.fixtureId),
    ("revision_id", .str revision.revisionId), ("revision_digest", .str revision.revisionDigest),
    ("source_capture_ids", texts revision.sourceCaptureIds),
    ("source_assertion_ids", texts revision.sourceAssertionIds)]

def identityJson (identity : FixtureIdentityResolution) : Document :=
  .object [("candidate_id", .str identity.candidateId), ("scope_id", .str identity.scopeId),
    ("state", .str (identityState identity.state)),
    ("canonical_fixture_id", optionalText identity.canonicalFixtureId),
    ("revision_ids", texts identity.revisionIds), ("reason_code", optionalText identity.reasonCode),
    ("source_capture_ids", texts identity.sourceCaptureIds),
    ("source_assertion_ids", texts identity.sourceAssertionIds)]

def freshnessJson (result : CoverageFreshnessResult) : Document :=
  .object [("evidence_id", .str result.evidenceId), ("policy_id", .str result.policyId),
    ("evaluated_at_utc", .str (gregorianText result.evaluatedAtUtc)),
    ("is_current", .bool result.isCurrent)]

/-- The retained records, under their field names. -/
def recordFields (records : Retained) : List (String × Document) :=
  [("provider_attempts", .array (records.providerAttempts.map attemptJson)),
    ("coverage_evidence", .array (records.coverageEvidence.map evidenceJson)),
    ("fixture_revisions", .array (records.fixtureRevisions.map revisionJson)),
    ("identity_resolutions", .array (records.identityResolutions.map identityJson)),
    ("freshness_results", .array (records.freshnessResults.map freshnessJson))]

/-! ## The weekly assessment -/

structure FixtureScopeAssessment where
  scope : FixtureScope
  coverageState : ScopeCoverageState
  providerAttemptIds : List String
  coverageEvidenceIds : List String
  fixtureRevisions : List FixtureRevisionReference
  identityBlockerCandidateIds : List String
  freshnessResults : List CoverageFreshnessResult
  currentCoverageEvidenceIds : List String
  staleCoverageEvidenceIds : List String
  deriving DecidableEq

/-- `FixtureCoverageAssessment`, with the scopes as it retains them. -/
structure WeeklyAssessment where
  contractVersion : String
  schemaVersion : ℤ
  freshnessPolicyId : Option String
  scopeAssessments : List FixtureScopeAssessment
  records : Retained
  scheduleState : MatchweekScheduleState

def scopeJson (scope : FixtureScope) : Document :=
  .object [("league_key", .str scope.leagueKey), ("season", .str scope.season),
    ("matchweek_friday", .str (dateText scope.matchweekFriday))]

def scopeAssessmentJson (item : FixtureScopeAssessment) : Document :=
  .object [("scope", scopeJson item.scope),
    ("coverage_state", .str (scopeState item.coverageState)),
    ("provider_attempt_ids", texts item.providerAttemptIds),
    ("coverage_evidence_ids", texts item.coverageEvidenceIds),
    ("fixture_revisions", .array (item.fixtureRevisions.map revisionJson)),
    ("identity_blocker_candidate_ids", texts item.identityBlockerCandidateIds),
    ("freshness_results", .array (item.freshnessResults.map freshnessJson)),
    ("current_coverage_evidence_ids", texts item.currentCoverageEvidenceIds),
    ("stale_coverage_evidence_ids", texts item.staleCoverageEvidenceIds)]

/-- The fields of an assessment without its digest. -/
def weeklyFields (assessment : WeeklyAssessment) : List (String × Document) :=
  [("contract_version", .str assessment.contractVersion),
    ("schema_version", .int assessment.schemaVersion),
    ("freshness_policy_id", optionalText assessment.freshnessPolicyId),
    ("scope_assessments", .array (assessment.scopeAssessments.map scopeAssessmentJson))] ++
  recordFields assessment.records ++
  [("schedule_state", .str (matchweekState assessment.scheduleState))]

section Digest

variable [Hashing]

/-- The digest of the canonical JSON of some fields. -/
def fieldsDigest (fields : List (String × Document)) : String :=
  "sha256:" ++ sha256 (tokens (tree (sortKeys (.object fields))))

/-- `_assessment_digest` of a weekly assessment. -/
def WeeklyAssessment.digest (assessment : WeeklyAssessment) : String :=
  fieldsDigest (weeklyFields assessment)

def weeklyJson (assessment : WeeklyAssessment) : Document :=
  .object (weeklyFields assessment ++ [("digest", .str assessment.digest)])

/-- `FixtureCoverageAssessment.__post_init__`, with the digest that is given. -/
def WeeklyAssessment.construct (assessment : WeeklyAssessment) (digest : String) :
    Except CoverageError WeeklyAssessment := do
  let policy ← singleFreshnessPolicyId assessment.records.freshnessResults
  require (assessment.freshnessPolicyId = policy)
    "Fixture Coverage Assessment freshness policy identity must match its results."
  require (digest = "" ∨ digest = assessment.digest)
    "Fixture Coverage Assessment digest does not match its contents."
  .ok assessment

/-- The assessment of one scope, with the scope that it retains. -/
def retainScope (scope : FixtureScope) (item : ScopeAssessment) : FixtureScopeAssessment where
  scope := scope
  coverageState := item.coverageState
  providerAttemptIds := item.providerAttemptIds
  coverageEvidenceIds := item.coverageEvidenceIds
  fixtureRevisions := item.fixtureRevisions
  identityBlockerCandidateIds := item.identityBlockerCandidateIds
  freshnessResults := item.freshnessResults
  currentCoverageEvidenceIds := item.currentCoverageEvidenceIds
  staleCoverageEvidenceIds := item.staleCoverageEvidenceIds

/-- `assess_fixture_coverage`, to the constructor of its assessment. -/
def assessWeekly (scopes : List FixtureScope) (records : Retained) :
    Except CoverageError WeeklyAssessment := do
  let assessment ← assessFixtureCoverage scopes records
  let first ← checkScopes scopes
  WeeklyAssessment.construct {
    contractVersion := assessment.contractVersion
    schemaVersion := assessment.schemaVersion
    freshnessPolicyId := assessment.freshnessPolicyId
    scopeAssessments := List.zipWith retainScope first.allLeagues assessment.scopeAssessments
    records := assessment.records
    scheduleState := assessment.scheduleState } ""

/-! ## The slate assessment -/

def activeScopeJson (scope : ActiveScope) : Document :=
  .object [("contract_id", .str scope.contractId), ("version", .int scope.version),
    ("season", .str scope.season), ("league_keys", texts scope.leagueKeys),
    ("digest", .str scope.digest)]

def slateWindowContractId : String := "matchvet-slate-window-v1"

def windowJson (window : SlateWindow) : Document :=
  .object [("start_utc", .str (gregorianText window.startUtc)),
    ("end_utc", .str (gregorianText window.endUtc)),
    ("active_scope", activeScopeJson window.activeScope),
    ("contract_id", .str slateWindowContractId), ("version", document window.version.tree),
    ("digest", .str window.digest)]

def slateScopeJson (scope : SlateFixtureScope) : Document :=
  .object [("league_key", .str scope.leagueKey), ("season", .str scope.season),
    ("active_scope", activeScopeJson scope.activeScope),
    ("slate_window", windowJson scope.slateWindow)]

def slateItemJson (item : SlateFixtureScopeAssessment) : Document :=
  .object [("scope", slateScopeJson item.scope),
    ("coverage_state", .str (scopeState item.coverageState)),
    ("provider_attempt_ids", texts item.providerAttemptIds),
    ("coverage_evidence_ids", texts item.coverageEvidenceIds),
    ("fixture_revisions", .array (item.fixtureRevisions.map revisionJson)),
    ("identity_blocker_candidate_ids", texts item.identityBlockerCandidateIds),
    ("freshness_results", .array (item.freshnessResults.map freshnessJson)),
    ("current_coverage_evidence_ids", texts item.currentCoverageEvidenceIds),
    ("stale_coverage_evidence_ids", texts item.staleCoverageEvidenceIds)]

/-- `_assessment_payload`: the fields of a slate assessment without its digest. -/
def slateFields (assessment : SlateFixtureCoverageAssessment) : List (String × Document) :=
  [("active_scope", activeScopeJson assessment.activeScope),
    ("slate_window", windowJson assessment.slateWindow),
    ("freshness_policy_id", optionalText assessment.freshnessPolicyId),
    ("scope_assessments", .array (assessment.scopeAssessments.map slateItemJson))] ++
  recordFields assessment.records ++
  [("schedule_state", .str (matchweekState assessment.scheduleState)),
    ("contract_version", .str assessment.contractVersion),
    ("schema_version", .int assessment.schemaVersion)]

/-- `_assessment_digest` of a slate assessment. -/
def slateDigest (assessment : SlateFixtureCoverageAssessment) : String :=
  fieldsDigest (slateFields assessment)

def slateJson (assessment : SlateFixtureCoverageAssessment) : Document :=
  .object (slateFields assessment ++ [("digest", .str (slateDigest assessment))])

end Digest

end MatchVet.F01.Payload
