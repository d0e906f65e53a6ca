import MatchVet.Foundation.Grouping
import MatchVet.Workload.History

/-!
# Workload of a target match

A calculation selects one revision of every fixture that is known at the cutoff
and derives rest, turnaround, density and unknown reasons of both teams.  Hours
and days are exact rational numbers.
-/

namespace MatchVet.Workload.Calculator

open MatchVet.Foundation.CanonicalJson
open MatchVet.Foundation.Gregorian
open MatchVet.Foundation.Grouping
open MatchVet.Foundation.KeySort
open MatchVet.Foundation.Runtime
open MatchVet.Foundation.Timestamp
open MatchVet.Workload.History

/-- Instants are compared by the computable order of the integers. -/
local instance (priority := 5000) instantOrder : PartialOrder Instant :=
  Int.instLinearOrder.toPartialOrder

inductive WorkloadError where
  | validation (message : String)
  | overflow
  deriving DecidableEq, Repr

/-! ## Rules -/

structure WorkloadRules where
  name : String
  recentWindowsDays : List ℕ
  contextLookbackDays : ℕ
  congestionThresholdHours : ℚ
  named : blank name = false
  windows_given : recentWindowsDays ≠ []
  windows_positive : ∀ day ∈ recentWindowsDays, 0 < day
  windows_sorted : recentWindowsDays.Pairwise (· < ·)
  lookback_covers : ∀ day ∈ recentWindowsDays, day ≤ contextLookbackDays
  threshold_positive : 0 < congestionThresholdHours

def WorkloadRules.digest [Hashing] (rules : WorkloadRules) : String :=
  sha256 (tokens (.object [
    ("congestion_threshold_hours", .number rules.congestionThresholdHours),
    ("context_lookback_days", .int rules.contextLookbackDays),
    ("name", .str rules.name),
    ("recent_windows_days", .array (rules.recentWindowsDays.map fun day => .int day))]))

/-! ## Selection at the cutoff -/

/-- A fixture that is valid for the cutoff and was not observed after it. -/
def admitted (cutoff : Instant) (fixture : CanonicalFixture) : Bool :=
  fixture.effectiveCutoffEligibility = .cutoffValid &&
    fixture.observedAtUtc.all fun observed => observed ≤ cutoff

/-- An absent observation comes before all others. -/
def observationKey (fixture : CanonicalFixture) : WithBot Instant := fixture.observedAtUtc

structure CanonicalView where
  fixture : CanonicalFixture
  conflict : Bool
  deriving DecidableEq

/-- One view of the rows of a revision; the rows are merged for provenance. -/
def revisionView (group : String × List CanonicalFixture) : Option CanonicalFixture :=
  (group.2.argmax fun item => toLex (observationKey item, item.revisionDigest.getD "")).map
    fun chosen => { chosen with
      provenance := provenanceSet (group.2.flatMap CanonicalFixture.provenance) }

/-- Rows of one revision with different signatures. -/
def inConflict (group : String × List CanonicalFixture) : Bool :=
  1 < (group.2.map sameRevisionSignature).dedup.length

section Selection

variable [Hashing]

/-- The latest revision of a fixture. -/
def selectView (entries : List CanonicalFixture) : Option CanonicalView :=
  let groups := groupsBy CanonicalFixture.revisionKey entries
  ((groups.filterMap revisionView).argmax fun item =>
    toLex (observationKey item, item.revisionKey)).map
      fun chosen => ⟨chosen, groups.any inConflict⟩

/-- `_select_canonical_views`. -/
def selectCanonicalViews (fixtures : List CanonicalFixture) (cutoff : Instant) :
    List CanonicalView × List String :=
  let grouped := sortedOn Prod.fst
    (groupsBy CanonicalFixture.fixtureId (fixtures.filter (admitted cutoff)))
  (grouped.filterMap fun group => selectView group.2,
    sortedSet ((grouped.filter fun group =>
      (groupsBy CanonicalFixture.revisionKey group.2).any inConflict).map Prod.fst))

end Selection

/-! ## One team -/

/-- A fixture with its known kickoff. -/
structure Event where
  fixture : CanonicalFixture
  kickoff : Instant
  deriving DecidableEq

def dayLength : ℤ := 86400000000

/-- `instant - timedelta(days=days)`. -/
def daysBefore (instant : Instant) (days : ℕ) : Except WorkloadError Instant :=
  if instant - days * dayLength < earliest then .error .overflow
  else .ok (instant - days * dayLength)

/-- Keep the first event of every fixture. -/
def uniqueEvents : List Event → List Event
  | [] => []
  | event :: rest =>
      event :: (uniqueEvents rest).filter fun other =>
        other.fixture.fixtureId ≠ event.fixture.fixtureId

/-- `_team_events`, for a target with a known kickoff. -/
def teamEvents (views : List CanonicalView) (teamId : String) (target : Event)
    (rules : WorkloadRules) : Except WorkloadError (List Event) := do
  let lower ← daysBefore target.kickoff rules.contextLookbackDays
  let events := views.filterMap fun view =>
    match view.fixture.kickoffUtc with
    | none => none
    | some kickoff =>
        if view.fixture.teamIds.contains teamId && lower ≤ kickoff && kickoff ≤ target.kickoff &&
            [FixtureStatus.completed, .scheduled].contains view.fixture.status then
          some ⟨view.fixture, kickoff⟩
        else none
  let events :=
    if events.any fun event => event.fixture.fixtureId = target.fixture.fixtureId then events
    else events ++ [target]
  .ok (sortedOn (fun event => toLex (event.kickoff, event.fixture.fixtureId))
    (uniqueEvents events))

structure TurnaroundPeriod where
  teamId : String
  previousFixtureId : String
  nextFixtureId : String
  previousKickoffUtc : Instant
  nextKickoffUtc : Instant
  turnaroundHours : ℚ
  restDays : ℚ
  congested : Bool
  competitionKeys : List String
  deriving DecidableEq

inductive WorkloadState where
  | observed
  | unknown
  deriving DecidableEq, Repr

structure TeamWorkload where
  teamId : String
  state : WorkloadState
  latestCompletedFixtureId : Option String
  restDays : Option ℚ
  turnaroundHours : Option ℚ
  recentFixtureIds : List String
  uniqueFixtureCountBeforeTarget : ℕ
  scheduleDensity : List (ℕ × ℕ)
  turnaroundPeriods : List TurnaroundPeriod
  congestionWindows : List TurnaroundPeriod
  crossCompetitionFixtureIds : List String
  unknownReasons : List String
  conflictFixtureIds : List String
  sourceProvenance : List FixtureProvenance
  deriving DecidableEq

/-- Microseconds as hours. -/
def hours (elapsed : ℤ) : ℚ := elapsed / 3600000000

def days (elapsed : ℤ) : ℚ := elapsed / 86400000000

def turnaroundPeriod (teamId : String) (rules : WorkloadRules) (previous following : Event) :
    TurnaroundPeriod :=
  let turnaround := hours (following.kickoff - previous.kickoff)
  { teamId := teamId
    previousFixtureId := previous.fixture.fixtureId
    nextFixtureId := following.fixture.fixtureId
    previousKickoffUtc := previous.kickoff
    nextKickoffUtc := following.kickoff
    turnaroundHours := turnaround
    restDays := turnaround / 24
    congested := turnaround ≤ rules.congestionThresholdHours
    competitionKeys :=
      if previous.fixture.competitionKey = following.fixture.competitionKey then
        [previous.fixture.competitionKey]
      else [previous.fixture.competitionKey, following.fixture.competitionKey] }

/-- `pairwise`. -/
def periods (teamId : String) (rules : WorkloadRules) : List Event → List TurnaroundPeriod
  | previous :: following :: rest =>
      turnaroundPeriod teamId rules previous following ::
        periods teamId rules (following :: rest)
  | _ => []

/-- A fixture that is not expected to be played at a known time. -/
def withdrawn (fixture : CanonicalFixture) : Bool :=
  fixture.status = .postponed || fixture.status = .cancelled

/-- The unknown reasons of a team, in their order. -/
def unknownReasons (teamViews : List CanonicalView) (events : List Event)
    (conflictFixtureIds : List String) (latest : Option Event) : List String :=
  let known := events.map fun event => event.fixture.fixtureId
  (if teamViews.any CanonicalView.conflict || known.any conflictFixtureIds.contains then
    ["FIXTURE_CONFLICT"] else []) ++
  (if teamViews.any fun view => !withdrawn view.fixture &&
      (!known.contains view.fixture.fixtureId || view.fixture.kickoffUtc.isNone) then
    ["FIXTURE_KICKOFF_UNKNOWN"] else []) ++
  (if latest.isNone then ["NO_COMPLETED_HISTORY"] else [])

/-- The distinct fixtures of events with a kickoff in a recent window. -/
def density (prior : List Event) (target : Event) (windowDays : ℕ) :
    Except WorkloadError (ℕ × ℕ) := do
  let lower ← daysBefore target.kickoff windowDays
  .ok (windowDays, ((prior.filter fun event =>
    lower ≤ event.kickoff && event.kickoff < target.kickoff).map
      fun event => event.fixture.fixtureId).dedup.length)

/-- `_team_workload`, for a target with a known kickoff. -/
def teamWorkload (teamId : String) (target : Event) (views : List CanonicalView)
    (conflictFixtureIds : List String) (rules : WorkloadRules) :
    Except WorkloadError TeamWorkload := do
  let teamViews := views.filter fun view => view.fixture.teamIds.contains teamId
  let events ← teamEvents views teamId target rules
  let prior := events.filter fun event =>
    event.fixture.fixtureId ≠ target.fixture.fixtureId && event.kickoff < target.kickoff
  let teamConflicts := sortedSet ((teamViews.filter CanonicalView.conflict).map
    fun view => view.fixture.fixtureId)
  let latest := (prior.filter fun event => event.fixture.status = .completed).argmax Event.kickoff
  let reasons := unknownReasons teamViews events conflictFixtureIds latest
  let windows ← rules.recentWindowsDays.mapM (density prior target)
  let turnaroundPeriods := periods teamId rules events
  -- a conflict of the team is an unknown reason, so a rest is given for an observed state only
  let elapsed := if reasons.isEmpty then latest.map fun event => target.kickoff - event.kickoff
    else none
  .ok {
    teamId := teamId
    state := if reasons.isEmpty then .observed else .unknown
    latestCompletedFixtureId := latest.map fun event => event.fixture.fixtureId
    restDays := elapsed.map days
    turnaroundHours := elapsed.map hours
    recentFixtureIds := prior.map fun event => event.fixture.fixtureId
    uniqueFixtureCountBeforeTarget :=
      (prior.map fun event => event.fixture.fixtureId).dedup.length
    scheduleDensity := windows
    turnaroundPeriods := turnaroundPeriods
    congestionWindows := turnaroundPeriods.filter TurnaroundPeriod.congested
    crossCompetitionFixtureIds := (prior.filter fun event =>
      [CompetitionType.domesticCup, .continental, .international].contains
        event.fixture.competitionType).map fun event => event.fixture.fixtureId
    unknownReasons := reasons
    conflictFixtureIds := teamConflicts
    sourceProvenance := provenanceSet (events.flatMap fun event => event.fixture.provenance) }

/-! ## The calculation -/

structure WorkloadEvidence where
  targetFixtureId : String
  targetKickoffUtc : Instant
  cutoffUtc : Instant
  home : TeamWorkload
  away : TeamWorkload
  state : WorkloadState
  sourceProvenance : List FixtureProvenance
  rulesName : String
  rulesDigest : String
  deriving DecidableEq

section Calculation

variable [Hashing]

/-- `WorkloadCalculator.calculate`. -/
def calculate (fixtures : List CanonicalFixture) (cutoff : Instant) (rules : WorkloadRules)
    (target : CanonicalFixture) : Except WorkloadError WorkloadEvidence :=
  match target.kickoffUtc with
  | none => .error (.validation "A Target Match requires an observed kickoff.")
  | some kickoff =>
      if target.effectiveCutoffEligibility ≠ .cutoffValid then
        .error (.validation "Workload evidence requires a cutoff-valid Target Match.")
      else if kickoff ≤ cutoff then
        .error (.validation "Workload Target Matches must occur after the cutoff.")
      else do
        let (views, conflicts) := selectCanonicalViews (fixtures ++ [target]) cutoff
        let home ← teamWorkload target.homeTeamId ⟨target, kickoff⟩ views conflicts rules
        let away ← teamWorkload target.awayTeamId ⟨target, kickoff⟩ views conflicts rules
        .ok {
          targetFixtureId := target.fixtureId
          targetKickoffUtc := kickoff
          cutoffUtc := cutoff
          home := home
          away := away
          state := if home.state = .observed ∧ away.state = .observed then .observed else .unknown
          sourceProvenance := provenanceSet
            (target.provenance ++ home.sourceProvenance ++ away.sourceProvenance)
          rulesName := rules.name
          rulesDigest := rules.digest }

end Calculation

end MatchVet.Workload.Calculator
