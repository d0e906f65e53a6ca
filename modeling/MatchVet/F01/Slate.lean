import MatchVet.F01.Weekly
import MatchVet.Foundation.JsonTree

/-!
# The slate assessor

`assess_slate_fixture_coverage` assesses the five leagues of an interval.  It
checks its inputs, derives the state of every league with its own loop, and
builds an assessment whose constructor derives everything once more from the
retained records.
-/

namespace MatchVet.F01.Slate

open MatchVet.F01.Records
open MatchVet.F01.Weekly
open MatchVet.Foundation.CanonicalJson
open MatchVet.Foundation.Gregorian
open MatchVet.Foundation.IntervalCover
open MatchVet.Foundation.JsonTree
open MatchVet.Foundation.Runtime
open MatchVet.Foundation.Timestamp

/-! ## Active scopes and windows -/

/-- The installed active scope contracts. -/
inductive ActiveScope where
  | legacySeven
  | successorSix
  | successorFive
  deriving DecidableEq, Repr

namespace ActiveScope

def version : ActiveScope → ℕ
  | .legacySeven => 1
  | .successorSix => 2
  | .successorFive => 3

def contractId (scope : ActiveScope) : String :=
  "matchvet-active-scope-v" ++ toString scope.version

def season (_ : ActiveScope) : String := "2026-27"

def leagueKeys : ActiveScope → List String
  | .legacySeven => ["premier_league", "serie_a", "la_liga", "bundesliga", "ligue_1",
      "liga_portugal", "belgian_pro_league"]
  | .successorSix => ["premier_league", "serie_a", "la_liga", "bundesliga", "ligue_1",
      "liga_portugal"]
  | .successorFive => ["premier_league", "serie_a", "la_liga", "bundesliga", "ligue_1"]

def digest [Hashing] (scope : ActiveScope) : String :=
  "sha256:" ++ sha256 (tokens (.object [
    ("contract_id", .str scope.contractId),
    ("league_keys", .array (scope.leagueKeys.map .str)),
    ("season", .str scope.season),
    ("version", .int scope.version)]))

end ActiveScope

/-- A half-open interval declared by its owner; its version is an integer that equals one. -/
@[ext]
structure SlateWindow where
  startUtc : Instant
  endUtc : Instant
  activeScope : ActiveScope
  version : PyInteger
  start_range : InRange startUtc
  end_range : InRange endUtc
  proper : startUtc < endUtc
  installed : activeScope = .successorFive
  supported : version.value = 1

instance : DecidableEq SlateWindow := fun _ _ => decidable_of_iff' _ SlateWindow.ext_iff

namespace SlateWindow

def digest [Hashing] (window : SlateWindow) : String :=
  "sha256:" ++ sha256 (tokens (.object [
    ("active_scope", .object [
      ("contract_id", .str window.activeScope.contractId),
      ("digest", .str window.activeScope.digest),
      ("version", .int window.activeScope.version)]),
    ("contract_id", .str "matchvet-slate-window-v1"),
    ("display_timezone", .str "Africa/Lagos"),
    ("end_utc", .str (gregorianText window.endUtc)),
    ("start_utc", .str (gregorianText window.startUtc)),
    ("version", window.version.tree)]))

def slateId [Hashing] (window : SlateWindow) : String := "slate:" ++ window.digest

end SlateWindow

@[ext]
structure SlateFixtureScope where
  leagueKey : String
  season : String
  activeScope : ActiveScope
  slateWindow : SlateWindow
  league_known : leagueKey ∈ activeScope.leagueKeys
  season_matches : season = activeScope.season
  installed : activeScope = .successorFive

instance : DecidableEq SlateFixtureScope := fun _ _ => decidable_of_iff' _ SlateFixtureScope.ext_iff

namespace SlateFixtureScope

def scopeId [Hashing] (scope : SlateFixtureScope) : String :=
  scope.leagueKey ++ ":" ++ scope.season ++ ":" ++ scope.slateWindow.slateId

/-- The scope with its bounds set to the slate window. -/
def view [Hashing] (scope : SlateFixtureScope) : Scope where
  leagueKey := scope.leagueKey
  season := scope.season
  scopeId := scope.scopeId
  windowStart := scope.slateWindow.startUtc
  windowEnd := scope.slateWindow.endUtc
  proper := scope.slateWindow.proper

end SlateFixtureScope

/-- `slate_fixture_scopes`. -/
def slateFixtureScopes (window : SlateWindow) (activeScope : ActiveScope) :
    Except CoverageError (List SlateFixtureScope) :=
  if hinstalled : activeScope = .successorFive then
    .ok (activeScope.leagueKeys.attach.map fun key => {
      leagueKey := key.1
      season := activeScope.season
      activeScope := activeScope
      slateWindow := window
      league_known := key.2
      season_matches := rfl
      installed := hinstalled })
  else refuse "Slate F01 supports only the installed five-league scope."

/-! ## The rules of one league -/

/-- `_intersection`. -/
def intersection (window : SlateWindow) (bounds : CoverageBounds) : Option (Instant × Instant) :=
  let start := max window.startUtc bounds.startUtc
  let finish := min window.endUtc bounds.endUtc
  if finish ≤ start then none else some (start, finish)

/-- `_covers`. -/
def covers (window : SlateWindow) (ranges : List (Instant × Instant)) : Bool :=
  sweep window.startUtc window.endUtc (inOrder ranges)

/-- Evidence that the loop passes over. -/
def passedOver (leagueKey season : String) (attempt : ProviderAttempt)
    (evidence : ProviderCoverageEvidence) : Bool :=
  attempt.state ≠ .captured || attempt.captureId ≠ some evidence.captureId ||
    attempt.captureDigest ≠ some evidence.captureDigest || !evidence.permittedForUse ||
    evidence.providerUsePolicyId.isNone || evidence.providerCompetitionKey ≠ leagueKey ||
    evidence.providerSeason ≠ season || evidence.coverageBasis.isNone || evidence.bounds.isNone

section Loop

variable (window : SlateWindow) (leagueKey season : String)
  (attempt? : String → Option ProviderAttempt)
  (freshness? : String → Option CoverageFreshnessResult)

/-- The body of the evidence loop, over the dictionaries of its caller. -/
def collect (tally : Tally) (evidence : ProviderCoverageEvidence) : Except CoverageError Tally :=
  match attempt? evidence.attemptId with
  | none => .error .unexpected
  | some attempt =>
      if passedOver leagueKey season attempt evidence then .ok tally
      else
        match evidence.bounds.bind (intersection window), freshness? evidence.evidenceId with
        | some range, some result => .ok (tally.add evidence range result.isCurrent)
        | _, _ => .ok tally

end Loop

/-- The chain of conditions that names a coverage state. -/
def slateState (window : SlateWindow) (tally : Tally) (unresolved : List String)
    (fixtureIds : List (Option String)) : ScopeCoverageState :=
  if unresolved ≠ [] ∧ tally.current ≠ [] then .partly
  else if covers window tally.currentRanges ∧ fixtureIds ≠ [] then .complete
  else if covers window tally.currentRanges ∧ fixtureIds = [] ∧ covers window tally.emptyRanges then
    .confirmedEmpty
  else if tally.current ≠ [] then .partly
  else if tally.stale ≠ [] then .stale
  else .unknown

structure SlateFixtureScopeAssessment where
  scope : SlateFixtureScope
  coverageState : ScopeCoverageState
  providerAttemptIds : List String
  coverageEvidenceIds : List String
  fixtureRevisions : List FixtureRevisionReference
  identityBlockerCandidateIds : List String
  freshnessResults : List CoverageFreshnessResult
  currentCoverageEvidenceIds : List String
  staleCoverageEvidenceIds : List String
  deriving DecidableEq

section Assessor

variable [Hashing]

/-- The loop of `_assess_slate_with_existing_rules` over one scope. -/
def assessSlateScope (window : SlateWindow) (records : Retained) (scope : SlateFixtureScope) :
    Except CoverageError SlateFixtureScopeAssessment := do
  let evidence := records.evidenceIn scope.scopeId
  let tally ← evidence.foldlM
    (collect window scope.leagueKey scope.season records.attempt? records.freshness?) .empty
  let identities := records.identitiesIn scope.scopeId
  let unresolved := unresolvedIds identities
  .ok {
    scope := scope
    coverageState := slateState window tally unresolved (resolvedFixtureIds identities)
    providerAttemptIds :=
      ((records.attemptsIn scope.scopeId).map ProviderAttempt.attemptId).insertionSort (· ≤ ·)
    coverageEvidenceIds :=
      (evidence.map ProviderCoverageEvidence.evidenceId).insertionSort (· ≤ ·)
    fixtureRevisions :=
      sortedBy FixtureRevisionReference.revisionId (records.revisionsIn scope.scopeId)
    identityBlockerCandidateIds := unresolved
    freshnessResults := sortedBy CoverageFreshnessResult.evidenceId
      (evidence.filterMap fun item => records.freshness? item.evidenceId)
    currentCoverageEvidenceIds := tally.current.insertionSort (· ≤ ·)
    staleCoverageEvidenceIds := tally.stale.insertionSort (· ≤ ·) }

def slateSchedule (items : List SlateFixtureScopeAssessment) : MatchweekScheduleState :=
  if ∀ item ∈ items, item.coverageState ∈ [ScopeCoverageState.complete, .confirmedEmpty] then
    if ∀ item ∈ items, item.coverageState = .confirmedEmpty then .confirmedEmpty else .complete
  else if ∃ item ∈ items, item.currentCoverageEvidenceIds ≠ [] then .partly
  else if ∃ item ∈ items, item.staleCoverageEvidenceIds ≠ [] then .stale
  else .unknown

end Assessor

/-! ## The constructor -/

def slateContractVersion : String := "fixture-coverage-v5-slate-v1"

def slateSchemaVersion : ℕ := 5

structure SlateFixtureCoverageAssessment where
  activeScope : ActiveScope
  slateWindow : SlateWindow
  freshnessPolicyId : Option String
  scopeAssessments : List SlateFixtureScopeAssessment
  records : Retained
  scheduleState : MatchweekScheduleState
  contractVersion : String
  schemaVersion : ℕ

/-- Refuse with a message unless a condition holds. -/
def require (condition : Prop) [Decidable condition] (message : String) :
    Except CoverageError Unit :=
  if condition then .ok () else refuse message

section Constructor

variable (scopeIds : List String) (records : Retained)

/-- An evidence's attempt is retained in the evidence's scope. -/
def AttemptMatches (evidence : ProviderCoverageEvidence) : Prop :=
  (records.attempt? evidence.attemptId).map ProviderAttempt.scopeId = some evidence.scopeId

instance (evidence : ProviderCoverageEvidence) : Decidable (AttemptMatches records evidence) :=
  inferInstanceAs (Decidable (_ = _))

/-- The checks on one revision that an identity links. -/
def checkLink (identity : FixtureIdentityResolution) (revisionId : String) :
    Except CoverageError Unit :=
  match records.revision? revisionId with
  | none => refuse "Slate F01 identity resolution links an unrelated revision."
  | some revision => do
      require (revision.scopeId = identity.scopeId)
        "Slate F01 identity resolution links an unrelated revision."
      require (identity.state = .resolved → some revision.fixtureId = identity.canonicalFixtureId)
        "Slate F01 resolved identity conflicts with its revision."

def checkSlateIdentity (identity : FixtureIdentityResolution) : Except CoverageError Unit := do
  require (identity.scopeId ∈ scopeIds)
    "Slate F01 identity resolutions must belong to its five scopes."
  identity.revisionIds.forM (checkLink records identity)

def linkedRevisions : List String :=
  records.identityResolutions.flatMap FixtureIdentityResolution.revisionIds

/-- The checks of `__post_init__` on the retained records. -/
def checkRecords : Except CoverageError Unit := do
  require ((records.providerAttempts.map ProviderAttempt.attemptId).Nodup ∧
      ∀ attempt ∈ records.providerAttempts, attempt.scopeId ∈ scopeIds)
    "Slate F01 attempts must be unique and belong to its five scopes."
  require (records.coverageEvidence.map ProviderCoverageEvidence.evidenceId).Nodup
    "Slate F01 coverage evidence IDs must be unique."
  require (∀ evidence ∈ records.coverageEvidence,
      evidence.scopeId ∈ scopeIds ∧ AttemptMatches records evidence)
    "Slate F01 evidence must match its retained attempt and scope."
  require ((records.freshnessResults.map CoverageFreshnessResult.evidenceId).Nodup ∧
      ∀ result ∈ records.freshnessResults, (records.evidence? result.evidenceId).isSome = true)
    "Slate F01 freshness results must reference unique retained evidence."
  require ((records.fixtureRevisions.map FixtureRevisionReference.revisionId).Nodup ∧
      ∀ revision ∈ records.fixtureRevisions, revision.scopeId ∈ scopeIds)
    "Slate F01 revisions must be unique and belong to its five scopes."
  require (records.identityResolutions.map FixtureIdentityResolution.candidateId).Nodup
    "Slate F01 candidate identity IDs must be unique."
  records.identityResolutions.forM (checkSlateIdentity scopeIds records)
  require (∀ revision ∈ records.fixtureRevisions, revision.revisionId ∈ linkedRevisions records)
    "Every Slate F01 revision requires an identity resolution."

end Constructor

section Recheck

variable [Hashing]

/-- The checks of `__post_init__` on one scope assessment. -/
def recheckScope (window : SlateWindow) (records : Retained)
    (item : SlateFixtureScopeAssessment) : Except CoverageError Unit := do
  let attempts := sortedBy ProviderAttempt.attemptId (records.attemptsIn item.scope.scopeId)
  let evidence := sortedBy ProviderCoverageEvidence.evidenceId
    (records.evidenceIn item.scope.scopeId)
  require (item.providerAttemptIds = attempts.map ProviderAttempt.attemptId)
    "Slate F01 scope attempt membership differs from its assessment."
  require (item.coverageEvidenceIds = evidence.map ProviderCoverageEvidence.evidenceId)
    "Slate F01 scope evidence membership differs from its assessment."
  require (item.fixtureRevisions =
      sortedBy FixtureRevisionReference.revisionId (records.revisionsIn item.scope.scopeId))
    "Slate F01 scope revision membership differs from its assessment."
  require (item.freshnessResults = sortedBy CoverageFreshnessResult.evidenceId
      (evidence.filterMap fun found => records.freshness? found.evidenceId))
    "Slate F01 scope freshness results differ from retained evidence."
  let tally ← evidence.foldlM
    (collect window item.scope.leagueKey item.scope.season
      (fun attemptId => attempts.find? fun attempt => attempt.attemptId = attemptId)
      records.freshness?) .empty
  require (item.currentCoverageEvidenceIds = tally.current.insertionSort (· ≤ ·))
    "Slate F01 current evidence differs from its retained evidence."
  require (item.staleCoverageEvidenceIds = tally.stale.insertionSort (· ≤ ·))
    "Slate F01 stale evidence differs from its retained evidence."
  let identities := records.identitiesIn item.scope.scopeId
  let unresolved := unresolvedIds identities
  require (item.identityBlockerCandidateIds = unresolved)
    "Slate F01 identity blockers differ from retained resolutions."
  require (item.coverageState =
      slateState window tally unresolved (resolvedFixtureIds identities))
    "Slate F01 scope state is not justified by its retained evidence."

/-- `SlateFixtureCoverageAssessment.__post_init__`. -/
def construct (assessment : SlateFixtureCoverageAssessment) :
    Except CoverageError SlateFixtureCoverageAssessment := do
  require (assessment.activeScope = .successorFive)
    "Slate F01 requires the installed five-league scope."
  require ((assessment.contractVersion, assessment.schemaVersion) =
      (slateContractVersion, slateSchemaVersion))
    "Unsupported five-league interval F01 version."
  let policy ← singleFreshnessPolicyId assessment.records.freshnessResults
  require (assessment.freshnessPolicyId = policy)
    "Slate F01 freshness policy identity must match its results."
  let expected ← slateFixtureScopes assessment.slateWindow assessment.activeScope
  require (assessment.scopeAssessments.map SlateFixtureScopeAssessment.scope = expected)
    "Slate F01 must retain exactly five ordered scopes for its window."
  checkRecords (expected.map SlateFixtureScope.scopeId) assessment.records
  assessment.scopeAssessments.forM (recheckScope assessment.slateWindow assessment.records)
  require (assessment.scheduleState = slateSchedule assessment.scopeAssessments)
    "Slate F01 aggregate state must match its exact five scope states."
  .ok assessment

end Recheck

/-! ## The assessor -/

section Assess

variable (scopeIds : List String) (records : Retained)

/-- The checks of `assess_slate_fixture_coverage` on its arguments. -/
def checkInputs : Except CoverageError Unit := do
  require ((records.providerAttempts.map ProviderAttempt.attemptId).Nodup ∧
      ∀ attempt ∈ records.providerAttempts, attempt.scopeId ∈ scopeIds)
    "Slate F01 attempts must be unique and belong to one exact scope."
  require ((records.coverageEvidence.map ProviderCoverageEvidence.evidenceId).Nodup ∧
      ∀ evidence ∈ records.coverageEvidence,
        evidence.scopeId ∈ scopeIds ∧ AttemptMatches records evidence)
    "Slate F01 coverage evidence must match its exact attempt and scope."
  require (∀ revision ∈ records.fixtureRevisions, revision.scopeId ∈ scopeIds)
    "Slate F01 identity and revisions must belong to the exact window."
  require (∀ identity ∈ records.identityResolutions, identity.scopeId ∈ scopeIds)
    "Slate F01 identity and revisions must belong to the exact window."
  require ((records.freshnessResults.map CoverageFreshnessResult.evidenceId).Nodup ∧
      ∀ result ∈ records.freshnessResults, (records.evidence? result.evidenceId).isSome = true)
    "Slate F01 freshness results must refer to unique retained evidence."

variable [Hashing]

/-- `_assess_slate_with_existing_rules`. -/
def assessWithExistingRules (activeScope : ActiveScope) (window : SlateWindow)
    (scopes : List SlateFixtureScope) : Except CoverageError SlateFixtureCoverageAssessment := do
  let items ← scopes.mapM (assessSlateScope window records)
  let policy ← singleFreshnessPolicyId records.freshnessResults
  construct {
    activeScope := activeScope
    slateWindow := window
    freshnessPolicyId := policy
    scopeAssessments := items
    records := records.sorted
    scheduleState := slateSchedule items
    contractVersion := slateContractVersion
    schemaVersion := slateSchemaVersion }

/-- `assess_slate_fixture_coverage`. -/
def assessSlateFixtureCoverage (window : SlateWindow) (activeScope : ActiveScope) :
    Except CoverageError SlateFixtureCoverageAssessment := do
  let scopes ← slateFixtureScopes window activeScope
  checkInputs (scopes.map SlateFixtureScope.scopeId) records
  assessWithExistingRules records activeScope window scopes

end Assess

end MatchVet.F01.Slate
