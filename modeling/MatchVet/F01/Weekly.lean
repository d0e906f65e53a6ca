import MatchVet.F01.Records

/-!
# The weekly assessor

`_assess_fixture_coverage` checks the references between the records, collects
the current and stale evidence of every league and derives one coverage state
for each league and one for the schedule.
-/

namespace MatchVet.F01.Weekly

open MatchVet.F01.Records
open MatchVet.Foundation.Gregorian
open MatchVet.Foundation.IntervalCover
open MatchVet.Foundation.Runtime
open MatchVet.Foundation.Timestamp

/-! ## Scopes of a Matchweek -/

def targetLeagueKeys : List String :=
  ["premier_league", "serie_a", "la_liga", "bundesliga", "ligue_1", "liga_portugal",
    "belgian_pro_league"]

def dayLength : ℤ := 86400000000

/-- Lagos is one hour ahead of UTC. -/
def lagosOffset : ℤ := 3600000000

/-- `MatchweekWindow.start_utc` of a Friday. -/
def windowStartUtc (friday : ℤ) : Instant := friday * dayLength - lagosOffset

def windowEndUtc (friday : ℤ) : Instant := windowStartUtc friday + 4 * dayLength

/-- One configured league, season and Matchweek. -/
@[ext]
structure FixtureScope where
  leagueKey : String
  season : String
  matchweekFriday : ℤ
  league_known : leagueKey ∈ targetLeagueKeys
  season_text : blank season = false
  date_range : DateInRange matchweekFriday
  friday : weekday matchweekFriday = 4

instance : DecidableEq FixtureScope := fun _ _ => decidable_of_iff' _ FixtureScope.ext_iff

namespace FixtureScope

def scopeId (scope : FixtureScope) : String :=
  scope.leagueKey ++ ":" ++ scope.season ++ ":" ++ dateText scope.matchweekFriday

def view (scope : FixtureScope) : Scope where
  leagueKey := scope.leagueKey
  season := scope.season
  scopeId := scope.scopeId
  windowStart := windowStartUtc scope.matchweekFriday
  windowEnd := windowEndUtc scope.matchweekFriday
  proper := lt_add_of_pos_right _ (by decide)

/-- `fixture_scopes_for_matchweek` for the season and Friday of a scope. -/
def allLeagues (scope : FixtureScope) : List FixtureScope :=
  targetLeagueKeys.attach.map fun key => { scope with
    leagueKey := key.1
    league_known := key.2 }

end FixtureScope

/-! ## References between records -/

/-- Check items in order under distinct keys. -/
def checkEach {α : Type} (key : α → String) (duplicate : String)
    (check : α → Except CoverageError Unit) : List String → List α → Except CoverageError Unit
  | _, [] => .ok ()
  | seen, item :: rest =>
      if seen.contains (key item) then refuse duplicate
      else do
        check item
        checkEach key duplicate check (key item :: seen) rest

section Checks

variable (scopeIds : List String) (records : Retained)

def checkAttempt (attempt : ProviderAttempt) : Except CoverageError Unit :=
  if !scopeIds.contains attempt.scopeId then
    refuse "Provider Attempt references a scope outside the assessment."
  else .ok ()

def checkEvidence (evidence : ProviderCoverageEvidence) : Except CoverageError Unit :=
  if (records.attempt? evidence.attemptId).map ProviderAttempt.scopeId ≠ some evidence.scopeId then
    refuse "Provider Coverage Evidence must reference its scope's Provider Attempt."
  else if !scopeIds.contains evidence.scopeId then
    refuse "Provider Coverage Evidence references a scope outside the assessment."
  else .ok ()

/-- A source capture that belongs to attempts belongs to a captured one of the same
scope. -/
def captureAllowed (scopeId captureId : String) : Bool :=
  let attempted := records.providerAttempts.filter fun item => item.captureId = some captureId
  attempted.isEmpty ||
    attempted.any fun item => item.scopeId = scopeId && item.state = .captured

def checkRevision (revision : FixtureRevisionReference) : Except CoverageError Unit :=
  if !scopeIds.contains revision.scopeId then
    refuse "Fixture Revision references a scope outside the assessment."
  else if !revision.sourceCaptureIds.all (captureAllowed records revision.scopeId) then
    refuse ("Fixture Revision source capture IDs that belong to Provider Attempts must " ++
      "reference a captured Provider Attempt in the same scope.")
  else .ok ()

def checkIdentity (identity : FixtureIdentityResolution) : Except CoverageError Unit :=
  if !scopeIds.contains identity.scopeId then
    refuse "Fixture Identity Resolution references a scope outside the assessment."
  else if !identity.revisionIds.all (fun revisionId =>
      (records.revision? revisionId).map FixtureRevisionReference.scopeId =
        some identity.scopeId) then
    refuse "Fixture Identity Resolution references an unrelated Fixture Revision."
  else if identity.state = .resolved && identity.revisionIds.any (fun revisionId =>
      (records.revision? revisionId).map FixtureRevisionReference.fixtureId ≠
        identity.canonicalFixtureId) then
    refuse "Resolved identity and Fixture Revision IDs must agree."
  else .ok ()

def checkLinked : Except CoverageError Unit :=
  if !records.fixtureRevisions.all (fun revision =>
      records.identityResolutions.any fun identity =>
        identity.revisionIds.contains revision.revisionId) then
    refuse "Every Fixture Revision requires an explicit Fixture Identity Resolution."
  else .ok ()

def checkFreshness (result : CoverageFreshnessResult) : Except CoverageError Unit :=
  if (records.evidence? result.evidenceId).isNone then
    refuse "Coverage Freshness Result references unknown evidence."
  else .ok ()

/-- The checks of `_assess_fixture_coverage` in their order. -/
def checkReferences : Except CoverageError Unit := do
  checkEach ProviderAttempt.attemptId
    "Provider Attempt IDs must be unique within an assessment."
    (checkAttempt scopeIds) [] records.providerAttempts
  checkEach ProviderCoverageEvidence.evidenceId
    "Provider Coverage Evidence IDs must be unique."
    (checkEvidence scopeIds records) [] records.coverageEvidence
  checkEach FixtureRevisionReference.revisionId
    "Fixture Revision IDs must be unique within an assessment."
    (checkRevision scopeIds records) [] records.fixtureRevisions
  checkEach FixtureIdentityResolution.candidateId
    "Fixture identity candidate IDs must be unique."
    (checkIdentity scopeIds records) [] records.identityResolutions
  checkLinked records
  checkEach CoverageFreshnessResult.evidenceId
    "Each coverage claim has one freshness result per assessment."
    (checkFreshness records) [] records.freshnessResults

end Checks

/-! ## The evidence of one scope -/

def fullPartitionsAccounted (evidence : ProviderCoverageEvidence) : Bool :=
  evidence.paginationExhausted &&
    evidence.requiredPartitionIds = evidence.accountedPartitionIds

/-- `_intersected_bounds`. -/
def intersectedBounds (scope : Scope) (bounds : CoverageBounds) : Option (Instant × Instant) :=
  let start := max scope.windowStart bounds.startUtc
  let finish := min scope.windowEnd bounds.endUtc
  if finish ≤ start then none else some (start, finish)

/-- `_covers_window`. -/
def coversWindow (scope : Scope) (ranges : List (Instant × Instant)) : Bool :=
  sweep scope.windowStart scope.windowEnd (inOrder ranges)

/-- A captured, permitted claim about the scope, with its bounds. -/
def claimBounds (scope : Scope) (attempt : ProviderAttempt) (evidence : ProviderCoverageEvidence) :
    Option CoverageBounds :=
  if attempt.state ≠ .captured || attempt.captureId ≠ some evidence.captureId ||
      attempt.captureDigest ≠ some evidence.captureDigest || !evidence.permittedForUse ||
      evidence.providerUsePolicyId.isNone ||
      evidence.providerCompetitionKey ≠ scope.leagueKey ||
      evidence.providerSeason ≠ scope.season || evidence.coverageBasis.isNone then none
  else evidence.bounds

/-- The accumulators of the evidence loop. -/
structure Tally where
  current : List String
  stale : List String
  currentRanges : List (Instant × Instant)
  emptyRanges : List (Instant × Instant)
  deriving DecidableEq

def Tally.empty : Tally := ⟨[], [], [], []⟩

/-- Count one usable claim over a range. -/
def Tally.add (tally : Tally) (evidence : ProviderCoverageEvidence)
    (range : Instant × Instant) (isCurrent : Bool) : Tally :=
  if isCurrent then
    { tally with
      current := tally.current ++ [evidence.evidenceId]
      currentRanges :=
        if fullPartitionsAccounted evidence then tally.currentRanges ++ [range]
        else tally.currentRanges
      emptyRanges :=
        if fullPartitionsAccounted evidence && evidence.affirmativelyEmpty then
          tally.emptyRanges ++ [range]
        else tally.emptyRanges }
  else { tally with stale := tally.stale ++ [evidence.evidenceId] }

/-- The body of the evidence loop. -/
def tallyEvidence (records : Retained) (scope : Scope) (tally : Tally)
    (evidence : ProviderCoverageEvidence) : Except CoverageError Tally :=
  match records.attempt? evidence.attemptId with
  | none => .error .unexpected
  | some attempt =>
      match claimBounds scope attempt evidence with
      | none => .ok tally
      | some bounds =>
          match intersectedBounds scope bounds, records.freshness? evidence.evidenceId with
          | some range, some result => .ok (tally.add evidence range result.isCurrent)
          | _, _ => .ok tally

/-- The candidates that block a scope. -/
def unresolvedIds (identities : List FixtureIdentityResolution) : List String :=
  (((identities.filter fun item => item.state = .unresolvedFixtureIdentity).map
    FixtureIdentityResolution.candidateId)).insertionSort (· ≤ ·)

/-- The fixtures that a scope's identities resolve to. -/
def resolvedFixtureIds (identities : List FixtureIdentityResolution) : List (Option String) :=
  ((identities.filter fun item => item.state = .resolved).map
    FixtureIdentityResolution.canonicalFixtureId).dedup

/-- The chain of conditions that names a coverage state. -/
def coverageState (scope : Scope) (tally : Tally) (unresolved : List String)
    (fixtureIds : List (Option String)) : ScopeCoverageState :=
  if !unresolved.isEmpty && !tally.current.isEmpty then .partly
  else if coversWindow scope tally.currentRanges && !fixtureIds.isEmpty then .complete
  else if coversWindow scope tally.currentRanges && fixtureIds.isEmpty &&
      coversWindow scope tally.emptyRanges then .confirmedEmpty
  else if !tally.current.isEmpty then .partly
  else if !tally.stale.isEmpty then .stale
  else .unknown

/-- The body of the loop over scopes. -/
def assessScope (records : Retained) (scope : Scope) : Except CoverageError ScopeAssessment := do
  let evidence := records.evidenceIn scope.scopeId
  let tally ← evidence.foldlM (tallyEvidence records scope) .empty
  let identities := records.identitiesIn scope.scopeId
  .ok {
    scope := scope
    coverageState := coverageState scope tally (unresolvedIds identities)
      (resolvedFixtureIds identities)
    providerAttemptIds :=
      ((records.attemptsIn scope.scopeId).map ProviderAttempt.attemptId).insertionSort (· ≤ ·)
    coverageEvidenceIds :=
      (evidence.map ProviderCoverageEvidence.evidenceId).insertionSort (· ≤ ·)
    fixtureRevisions :=
      sortedBy FixtureRevisionReference.revisionId (records.revisionsIn scope.scopeId)
    identityBlockerCandidateIds := unresolvedIds identities
    freshnessResults := sortedBy CoverageFreshnessResult.evidenceId
      (evidence.filterMap fun item => records.freshness? item.evidenceId)
    currentCoverageEvidenceIds := tally.current.insertionSort (· ≤ ·)
    staleCoverageEvidenceIds := tally.stale.insertionSort (· ≤ ·) }

/-- A league that needs no more evidence. -/
def settled (item : ScopeAssessment) : Bool :=
  item.coverageState = .complete || item.coverageState = .confirmedEmpty

def scheduleState (items : List ScopeAssessment) : MatchweekScheduleState :=
  if items.all settled then
    if items.all fun item => item.coverageState = .confirmedEmpty then .confirmedEmpty
    else .complete
  else if items.any fun item => !item.currentCoverageEvidenceIds.isEmpty then .partly
  else if items.any fun item => !item.staleCoverageEvidenceIds.isEmpty then .stale
  else .unknown

/-! ## The assessment -/

def contractVersion : String := "fixture-coverage-v2-v2"

def schemaVersion : ℕ := 2

structure FixtureCoverageAssessment where
  contractVersion : String
  schemaVersion : ℕ
  freshnessPolicyId : Option String
  scopeAssessments : List ScopeAssessment
  records : Retained
  scheduleState : MatchweekScheduleState

/-- The checks on the requested scopes; the answer is the first of them. -/
def checkScopes (scopes : List FixtureScope) : Except CoverageError FixtureScope :=
  match scopes with
  | [] => refuse "Fixture Coverage Assessment requires at least one Fixture Scope."
  | first :: _ =>
      if ¬(scopes.map FixtureScope.leagueKey).Nodup then
        refuse "Fixture Coverage Assessment cannot repeat a Target League scope."
      else if scopes.any fun scope => scope.season ≠ first.season ||
          scope.matchweekFriday ≠ first.matchweekFriday then
        refuse "Fixture Coverage Assessment scopes must share season and Matchweek."
      else .ok first

/-- `assess_fixture_coverage`. -/
def assessFixtureCoverage (scopes : List FixtureScope) (records : Retained) :
    Except CoverageError FixtureCoverageAssessment := do
  let freshnessPolicyId ← singleFreshnessPolicyId records.freshnessResults
  let first ← checkScopes scopes
  let views := first.allLeagues.map FixtureScope.view
  checkReferences (views.map Scope.scopeId) records
  let items ← views.mapM (assessScope records)
  .ok {
    contractVersion := contractVersion
    schemaVersion := schemaVersion
    freshnessPolicyId := freshnessPolicyId
    scopeAssessments := items
    records := records.sorted
    scheduleState := scheduleState items }

end MatchVet.F01.Weekly
