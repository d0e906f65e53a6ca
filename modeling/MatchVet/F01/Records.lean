import MatchVet.Foundation.Gregorian
import MatchVet.Foundation.IntervalCover
import MatchVet.Foundation.Runtime

/-!
# Fixture coverage records

The records an F01 assessment is made from: provider attempts, the coverage
evidence of captured attempts, fixture revisions, identity resolutions and
freshness results.  Every timestamp is canonical UTC text, which is its instant.
-/

namespace MatchVet.F01.Records

open MatchVet.Foundation.Runtime
open MatchVet.Foundation.Timestamp

inductive CoverageError where
  | value (message : String)
  | unexpected
  deriving DecidableEq, Repr

def refuse {α : Type} (message : String) : Except CoverageError α := .error (.value message)

inductive ProviderAttemptState where
  | captured
  | unavailable
  | malformed
  deriving DecidableEq, Repr

inductive CoverageBasisKind where
  | versionedSourceContract
  | explicitProviderMetadata
  deriving DecidableEq, Repr

structure CoverageBasis where
  kind : CoverageBasisKind
  referenceId : String
  version : Option String
  reference_text : blank referenceId = false
  version_text : ∀ text ∈ version, blank text = false
  versioned : kind = .versionedSourceContract → version.isSome = true
  deriving DecidableEq

inductive ScopeCoverageState where
  | complete
  | confirmedEmpty
  | partly
  | unknown
  | stale
  deriving DecidableEq, Repr

inductive FixtureIdentityState where
  | resolved
  | unresolvedFixtureIdentity
  deriving DecidableEq, Repr

inductive MatchweekScheduleState where
  | complete
  | confirmedEmpty
  | partly
  | unknown
  | stale
  deriving DecidableEq, Repr

/-- A half-open range that a source covers. -/
@[ext]
structure CoverageBounds where
  startUtc : Instant
  endUtc : Instant
  start_range : InRange startUtc
  end_range : InRange endUtc
  ordered : startUtc < endUtc

instance : DecidableEq CoverageBounds := fun _ _ => decidable_of_iff' _ CoverageBounds.ext_iff

@[ext]
structure ProviderAttempt where
  attemptId : String
  scopeId : String
  providerId : String
  capabilityId : String
  state : ProviderAttemptState
  retrievedAtUtc : Instant
  httpStatus : Option ℤ
  captureId : Option String
  captureDigest : Option String
  named : ∀ text ∈ [attemptId, scopeId, providerId, capabilityId], blank text = false
  retrieved_range : InRange retrievedAtUtc
  status_range : ∀ status ∈ httpStatus, 100 ≤ status ∧ status ≤ 599
  capture_pair : captureId.isSome = captureDigest.isSome
  captured : state = .captured → captureId.isSome = true
  unavailable : state = .unavailable → captureId = none

instance : DecidableEq ProviderAttempt := fun _ _ => decidable_of_iff' _ ProviderAttempt.ext_iff

/-- Sorted lists of distinct texts, as `_sorted_unique` returns them. -/
def SortedUnique (texts : List String) : Prop :=
  texts.Pairwise (· < ·) ∧ ∀ text ∈ texts, blank text = false

instance (texts : List String) : Decidable (SortedUnique texts) :=
  inferInstanceAs (Decidable (_ ∧ _))

theorem sortedUnique_nil : SortedUnique [] := by decide

structure ProviderCoverageEvidence where
  evidenceId : String
  attemptId : String
  scopeId : String
  providerCompetitionKey : String
  providerSeason : String
  captureId : String
  captureDigest : String
  coverageBasis : Option CoverageBasis
  bounds : Option CoverageBounds
  providerUsePolicyId : Option String
  permittedForUse : Bool
  requiredPartitionIds : List String
  accountedPartitionIds : List String
  paginationExhausted : Bool
  affirmativelyEmpty : Bool
  named : ∀ text ∈ [evidenceId, attemptId, scopeId, providerCompetitionKey, providerSeason,
    captureId, captureDigest], blank text = false
  policy_text : ∀ text ∈ providerUsePolicyId, blank text = false
  permitted_policy : permittedForUse = true → providerUsePolicyId.isSome = true
  required_unique : SortedUnique requiredPartitionIds
  accounted_unique : SortedUnique accountedPartitionIds
  accounted_subset : accountedPartitionIds ⊆ requiredPartitionIds
  deriving DecidableEq

structure FixtureRevisionReference where
  scopeId : String
  fixtureId : String
  revisionId : String
  revisionDigest : String
  sourceCaptureIds : List String
  sourceAssertionIds : List String
  named : ∀ text ∈ [scopeId, fixtureId, revisionId, revisionDigest], blank text = false
  captures_unique : SortedUnique sourceCaptureIds
  assertions_unique : SortedUnique sourceAssertionIds
  provenance : sourceCaptureIds ≠ [] ∧ sourceAssertionIds ≠ []
  deriving DecidableEq

structure FixtureIdentityResolution where
  candidateId : String
  scopeId : String
  state : FixtureIdentityState
  canonicalFixtureId : Option String
  revisionIds : List String
  reasonCode : Option String
  sourceCaptureIds : List String
  sourceAssertionIds : List String
  named : blank candidateId = false ∧ blank scopeId = false
  revisions_unique : SortedUnique revisionIds
  captures_unique : SortedUnique sourceCaptureIds
  assertions_unique : SortedUnique sourceAssertionIds
  resolved : state = .resolved →
    (∃ text ∈ canonicalFixtureId, blank text = false) ∧ revisionIds ≠ [] ∧ reasonCode = none
  unresolved : state = .unresolvedFixtureIdentity →
    canonicalFixtureId = none ∧ (∃ text ∈ reasonCode, blank text = false) ∧
      (sourceAssertionIds ≠ [] ∨ revisionIds ≠ [])
  deriving DecidableEq

@[ext]
structure CoverageFreshnessResult where
  evidenceId : String
  policyId : String
  evaluatedAtUtc : Instant
  isCurrent : Bool
  named : blank evidenceId = false ∧ blank policyId = false
  evaluated_range : InRange evaluatedAtUtc

instance : DecidableEq CoverageFreshnessResult := fun _ _ => decidable_of_iff' _ CoverageFreshnessResult.ext_iff

/-- `_single_freshness_policy_id`. -/
def singleFreshnessPolicyId (results : List CoverageFreshnessResult) :
    Except CoverageError (Option String) :=
  let policies := (results.map CoverageFreshnessResult.policyId).dedup
  if 1 < policies.length then
    refuse "Fixture Coverage Assessment requires a single freshness policy."
  else .ok policies.head?

/-! ## Scopes and their results -/

/-- What the assessors read of a scope: its league, its season, its identity and
its half-open window. -/
@[ext]
structure Scope where
  leagueKey : String
  season : String
  scopeId : String
  windowStart : Instant
  windowEnd : Instant
  proper : windowStart < windowEnd

instance : DecidableEq Scope := fun _ _ => decidable_of_iff' _ Scope.ext_iff

structure ScopeAssessment where
  scope : Scope
  coverageState : ScopeCoverageState
  providerAttemptIds : List String
  coverageEvidenceIds : List String
  fixtureRevisions : List FixtureRevisionReference
  identityBlockerCandidateIds : List String
  freshnessResults : List CoverageFreshnessResult
  currentCoverageEvidenceIds : List String
  staleCoverageEvidenceIds : List String
  deriving DecidableEq

/-- The evidence an assessment retains. -/
structure Retained where
  providerAttempts : List ProviderAttempt
  coverageEvidence : List ProviderCoverageEvidence
  fixtureRevisions : List FixtureRevisionReference
  identityResolutions : List FixtureIdentityResolution
  freshnessResults : List CoverageFreshnessResult

namespace Retained

def attempt? (records : Retained) (attemptId : String) : Option ProviderAttempt :=
  records.providerAttempts.find? fun item => item.attemptId = attemptId

def evidence? (records : Retained) (evidenceId : String) : Option ProviderCoverageEvidence :=
  records.coverageEvidence.find? fun item => item.evidenceId = evidenceId

def revision? (records : Retained) (revisionId : String) : Option FixtureRevisionReference :=
  records.fixtureRevisions.find? fun item => item.revisionId = revisionId

def freshness? (records : Retained) (evidenceId : String) : Option CoverageFreshnessResult :=
  records.freshnessResults.find? fun item => item.evidenceId = evidenceId

def evidenceIn (records : Retained) (scopeId : String) : List ProviderCoverageEvidence :=
  records.coverageEvidence.filter fun item => item.scopeId = scopeId

def attemptsIn (records : Retained) (scopeId : String) : List ProviderAttempt :=
  records.providerAttempts.filter fun item => item.scopeId = scopeId

def revisionsIn (records : Retained) (scopeId : String) : List FixtureRevisionReference :=
  records.fixtureRevisions.filter fun item => item.scopeId = scopeId

def identitiesIn (records : Retained) (scopeId : String) : List FixtureIdentityResolution :=
  records.identityResolutions.filter fun item => item.scopeId = scopeId

end Retained

/-! ## Sorting -/

/-- `sorted(items, key=...)` by a text. -/
def sortedBy {α : Type} (key : α → String) (items : List α) : List α :=
  items.insertionSort fun first second => key first ≤ key second

/-- `sorted(items, key=lambda item: (item.scope_id, ...))`. -/
def sortedByScope {α : Type} (scopeId key : α → String) (items : List α) : List α :=
  items.insertionSort fun first second =>
    toLex (scopeId first, key first) ≤ toLex (scopeId second, key second)

/-- The records of an assessment in their retained order. -/
def Retained.sorted (records : Retained) : Retained where
  providerAttempts := sortedByScope ProviderAttempt.scopeId ProviderAttempt.attemptId
    records.providerAttempts
  coverageEvidence := sortedByScope ProviderCoverageEvidence.scopeId
    ProviderCoverageEvidence.evidenceId records.coverageEvidence
  fixtureRevisions := sortedByScope FixtureRevisionReference.scopeId
    FixtureRevisionReference.revisionId records.fixtureRevisions
  identityResolutions := sortedByScope FixtureIdentityResolution.scopeId
    FixtureIdentityResolution.candidateId records.identityResolutions
  freshnessResults := sortedBy CoverageFreshnessResult.evidenceId records.freshnessResults

end MatchVet.F01.Records
