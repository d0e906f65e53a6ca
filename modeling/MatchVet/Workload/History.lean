import Mathlib.Data.List.MinMax
import Mathlib.Data.Prod.Lex
import MatchVet.Foundation.CanonicalJson
import MatchVet.Foundation.Gregorian
import MatchVet.Foundation.JsonText
import MatchVet.Foundation.KeySort

/-!
# Fixture history for workload evidence

The rows of the T06 revision history and of the T08 schedule events become
canonical fixtures.  Loading merges the rows of one revision, and a selection
keeps one revision of every fixture at a cutoff.  Timestamps are canonical UTC
text, which is its instant.
-/

namespace MatchVet.Workload.History

open MatchVet.Foundation.CanonicalJson
open MatchVet.Foundation.Gregorian
open MatchVet.Foundation.JsonText
open MatchVet.Foundation.KeySort
open MatchVet.Foundation.Runtime
open MatchVet.Foundation.Timestamp

/-! ## Canonical fixtures -/

inductive CompetitionType where
  | targetLeague
  | domesticCup
  | continental
  | international
  | friendly
  | lowerDivision
  | other
  deriving DecidableEq, Repr

inductive FixtureStatus where
  | completed
  | scheduled
  | postponed
  | cancelled
  | unknown
  deriving DecidableEq, Repr

def FixtureStatus.value : FixtureStatus → String
  | .completed => "COMPLETED"
  | .scheduled => "SCHEDULED"
  | .postponed => "POSTPONED"
  | .cancelled => "CANCELLED"
  | .unknown => "UNKNOWN"

inductive CutoffEligibility where
  | cutoffValid
  | postCutoff
  | indeterminate
  deriving DecidableEq, Repr

def CutoffEligibility.value : CutoffEligibility → String
  | .cutoffValid => "CUTOFF_VALID"
  | .postCutoff => "POST_CUTOFF"
  | .indeterminate => "INDETERMINATE"

@[ext]
structure FixtureProvenance where
  sourceKey : String
  locator : String
  observedAtUtc : Instant
  publishedAtUtc : Option Instant
  sourceCaptureId : Option String
  revisionId : Option String
  revisionDigest : Option String
  cutoffEligibility : CutoffEligibility
  named : blank sourceKey = false ∧ blank locator = false

instance : DecidableEq FixtureProvenance := fun _ _ => decidable_of_iff' _ FixtureProvenance.ext_iff

/-- One fixture revision as an approved source observed it. -/
structure CanonicalFixture where
  fixtureId : String
  homeTeamId : String
  awayTeamId : String
  kickoffUtc : Option Instant
  competitionKey : String
  competitionName : String
  competitionType : CompetitionType
  season : String
  status : FixtureStatus
  revisionId : Option String
  revisionDigest : Option String
  provenance : List FixtureProvenance
  cutoffEligibility : Option CutoffEligibility
  homeTeamName : Option String
  awayTeamName : Option String
  named : ∀ text ∈ [fixtureId, homeTeamId, awayTeamId, competitionKey, competitionName, season],
    blank text = false
  two_teams : homeTeamId ≠ awayTeamId
  deriving DecidableEq

/-- The later of two optional instants. -/
def later (first : Option Instant) (second : Instant) : Option Instant :=
  some (first.elim second (max second))

/-- `max` of the observation times, if there is one. -/
def latestObservation (provenance : List FixtureProvenance) : Option Instant :=
  provenance.foldl (fun latest item => later latest item.observedAtUtc) none

namespace CanonicalFixture

def teamIds (fixture : CanonicalFixture) : List String := [fixture.homeTeamId, fixture.awayTeamId]

/-- The best eligibility of the provenance, unless the fixture states its own. -/
def effectiveCutoffEligibility (fixture : CanonicalFixture) : CutoffEligibility :=
  match fixture.cutoffEligibility with
  | some eligibility => eligibility
  | none =>
      if fixture.provenance.any fun item => item.cutoffEligibility = .cutoffValid then .cutoffValid
      else if fixture.provenance.any fun item => item.cutoffEligibility = .postCutoff then
        .postCutoff
      else .indeterminate

def observedAtUtc (fixture : CanonicalFixture) : Option Instant :=
  latestObservation fixture.provenance

/-- `deterministic_identifier`. -/
def deterministicIdentifier [Hashing] (kind key : String) : String := uuid5 (kind ++ ":" ++ key)

def revisionKey [Hashing] (fixture : CanonicalFixture) : String :=
  fixture.revisionId.getD (deterministicIdentifier "workload_revision"
    (fixture.fixtureId ++ ":" ++ fixture.kickoffUtc.elim "None" gregorianText ++ ":" ++
      fixture.status.value ++ ":" ++ fixture.homeTeamId ++ ":" ++ fixture.awayTeamId))

end CanonicalFixture

/-- `_same_revision_signature`. -/
structure RevisionSignature where
  homeTeamId : String
  awayTeamId : String
  kickoffUtc : Option Instant
  competitionKey : String
  competitionType : CompetitionType
  status : FixtureStatus
  deriving DecidableEq

def sameRevisionSignature (fixture : CanonicalFixture) : RevisionSignature where
  homeTeamId := fixture.homeTeamId
  awayTeamId := fixture.awayTeamId
  kickoffUtc := fixture.kickoffUtc
  competitionKey := fixture.competitionKey
  competitionType := fixture.competitionType
  status := fixture.status

/-! ## The order of provenance -/

namespace FixtureProvenance

/-- The canonical JSON text of `to_dict`. -/
def jsonText (item : FixtureProvenance) : String := jsonObject [
  ("cutoff_eligibility", some item.cutoffEligibility.value),
  ("locator", some item.locator),
  ("observed_at_utc", some (gregorianText item.observedAtUtc)),
  ("published_at_utc", item.publishedAtUtc.map gregorianText),
  ("revision_digest", item.revisionDigest),
  ("revision_id", item.revisionId),
  ("source_capture_id", item.sourceCaptureId),
  ("source_key", some item.sourceKey)]

/-- `_provenance_sort_key`. -/
def sortKey (item : FixtureProvenance) : Instant ×ₗ String ×ₗ String ×ₗ String :=
  toLex (item.observedAtUtc, toLex (item.sourceKey, toLex (item.locator, item.jsonText)))

end FixtureProvenance

/-- Provenance without repetitions, in its order. -/
def provenanceSet (items : List FixtureProvenance) : List FixtureProvenance :=
  sortedOn FixtureProvenance.sortKey items.dedup

theorem mem_provenanceSet {items : List FixtureProvenance} {item : FixtureProvenance} :
    item ∈ provenanceSet items ↔ item ∈ items := by
  unfold provenanceSet
  rw [(sortedOn_perm FixtureProvenance.sortKey items.dedup).mem_iff, List.mem_dedup]

/-! ## Stored rows -/

/-- A row of the joined T06 history: a revision with its own source capture. -/
structure RevisionRow where
  fixtureId : String
  seasonLabel : String
  homeTeamId : String
  homeName : String
  awayTeamId : String
  awayName : String
  leagueKey : String
  revisionId : String
  revisionDigest : String
  kickoffUtc : Option Instant
  fixtureStatus : FixtureStatus
  observedAtUtc : Instant
  locator : String
  sourceKey : String
  sourcePublishedAtUtc : Option Instant
  captureId : String
  named : ∀ text ∈ [fixtureId, homeTeamId, awayTeamId, leagueKey, leagueKey, seasonLabel],
    blank text = false
  source_named : blank sourceKey = false ∧ blank locator = false
  two_teams : homeTeamId ≠ awayTeamId

/-- The fixture of a row of `_t06_fixture_history`. -/
def RevisionRow.toFixture (row : RevisionRow) : CanonicalFixture where
  fixtureId := row.fixtureId
  homeTeamId := row.homeTeamId
  awayTeamId := row.awayTeamId
  kickoffUtc := row.kickoffUtc
  competitionKey := row.leagueKey
  competitionName := row.leagueKey
  competitionType := .targetLeague
  season := row.seasonLabel
  status := row.fixtureStatus
  revisionId := some row.revisionId
  revisionDigest := some row.revisionDigest
  provenance := [{
    sourceKey := row.sourceKey
    locator := row.locator
    observedAtUtc := row.observedAtUtc
    publishedAtUtc := row.sourcePublishedAtUtc
    sourceCaptureId := some row.captureId
    revisionId := some row.revisionId
    revisionDigest := some row.revisionDigest
    cutoffEligibility := .cutoffValid
    named := row.source_named }]
  cutoffEligibility := none
  homeTeamName := some row.homeName
  awayTeamName := some row.awayName
  named := row.named
  two_teams := row.two_teams

/-- A row of `workload_schedule_events`.  The recorder stores the latest observation
of the provenance as the observation time. -/
structure ScheduleEventRow where
  sourceFixtureId : String
  revisionId : String
  revisionDigest : Option String
  competitionKey : String
  competitionName : String
  competitionType : CompetitionType
  seasonLabel : String
  homeTeamId : String
  homeTeamName : Option String
  awayTeamId : String
  awayTeamName : Option String
  kickoffUtc : Option Instant
  fixtureStatus : FixtureStatus
  observedAtUtc : Instant
  cutoffEligibility : CutoffEligibility
  provenance : List FixtureProvenance
  named : ∀ text ∈ [sourceFixtureId, homeTeamId, awayTeamId, competitionKey, competitionName,
    seasonLabel], blank text = false
  two_teams : homeTeamId ≠ awayTeamId
  observed : latestObservation provenance = some observedAtUtc

/-- The fixture of a row of `_schedule_fixture_history`. -/
def ScheduleEventRow.toFixture (row : ScheduleEventRow) : CanonicalFixture where
  fixtureId := row.sourceFixtureId
  homeTeamId := row.homeTeamId
  awayTeamId := row.awayTeamId
  kickoffUtc := row.kickoffUtc
  competitionKey := row.competitionKey
  competitionName := row.competitionName
  competitionType := row.competitionType
  season := row.seasonLabel
  status := row.fixtureStatus
  revisionId := some row.revisionId
  revisionDigest := row.revisionDigest
  provenance := row.provenance
  cutoffEligibility := some row.cutoffEligibility
  homeTeamName := row.homeTeamName
  awayTeamName := row.awayTeamName
  named := row.named
  two_teams := row.two_teams

/-- A row of `fixture_revision_assertions`: another assertion for a revision. -/
structure SupportRow where
  revisionId : String
  assertionId : String
  retrievedAtUtc : Instant

/-- The stored tables; each is a set of rows. -/
structure WorkloadStore where
  fixtureRevisions : List RevisionRow
  revisionSupports : List SupportRow
  scheduleEvents : List ScheduleEventRow

/-- One more stored row. -/
inductive ExtraRow where
  | revision (row : RevisionRow)
  | support (row : SupportRow)
  | event (row : ScheduleEventRow)

def ExtraRow.observedAtUtc : ExtraRow → Instant
  | .revision row => row.observedAtUtc
  | .support row => row.retrievedAtUtc
  | .event row => row.observedAtUtc

def WorkloadStore.add (store : WorkloadStore) : ExtraRow → WorkloadStore
  | .revision row => { store with fixtureRevisions := row :: store.fixtureRevisions }
  | .support row => { store with revisionSupports := row :: store.revisionSupports }
  | .event row => { store with scheduleEvents := row :: store.scheduleEvents }

/-! ## Loading -/

/-- The arguments of a load: a season and, if given, the exact revisions to read. -/
structure HistoryQuery where
  season : String
  exactRevisions : Option (List (String × Option String × Option String))

/-- The `WHERE` clause on one fixture. -/
def HistoryQuery.selects (query : HistoryQuery) (fixture : CanonicalFixture) : Bool :=
  fixture.season = query.season && query.exactRevisions.all fun exact =>
    exact.contains (fixture.fixtureId, fixture.revisionId, fixture.revisionDigest)

/-- The `ORDER BY` clause on a fixture and its observation time. -/
def rowOrder (row : CanonicalFixture × Instant) : String ×ₗ Instant ×ₗ String :=
  toLex (row.1.fixtureId, toLex (row.2, row.1.revisionId.getD ""))

/-- The selected rows of one table in their order. -/
def readRows (query : HistoryQuery) (rows : List (CanonicalFixture × Instant)) :
    List CanonicalFixture :=
  (sortedOn rowOrder (rows.filter fun row => query.selects row.1)).map Prod.fst

/-- `_t06_fixture_history`. -/
def t06FixtureHistory (store : WorkloadStore) (query : HistoryQuery) : List CanonicalFixture :=
  readRows query (store.fixtureRevisions.map fun row => (row.toFixture, row.observedAtUtc))

/-- `_schedule_fixture_history`. -/
def scheduleFixtureHistory (store : WorkloadStore) (query : HistoryQuery) :
    List CanonicalFixture :=
  readRows query (store.scheduleEvents.map fun row => (row.toFixture, row.observedAtUtc))

section Merging

variable [Hashing]

/-- What tells revisions apart when rows are merged. -/
def identity (fixture : CanonicalFixture) : String × String × RevisionSignature :=
  (fixture.fixtureId, fixture.revisionKey, sameRevisionSignature fixture)

/-- A row of a known revision replaces it, with the provenance of both. -/
def mergeInto : List CanonicalFixture → CanonicalFixture → List CanonicalFixture
  | [], candidate => [candidate]
  | prior :: rest, candidate =>
      if identity prior = identity candidate then
        { candidate with
          provenance := provenanceSet (prior.provenance ++ candidate.provenance) } :: rest
      else prior :: mergeInto rest candidate

def mergeRows (candidates : List CanonicalFixture) : List CanonicalFixture :=
  candidates.foldl mergeInto []

/-- The rows that `load_canonical_fixture_history` merges, in its order. -/
def candidateRows (store : WorkloadStore) (query : HistoryQuery)
    (contextFixtures : List CanonicalFixture) : List CanonicalFixture :=
  t06FixtureHistory store query ++ scheduleFixtureHistory store query ++ contextFixtures

/-- `load_canonical_fixture_history`. -/
def loadCanonicalFixtureHistory (store : WorkloadStore) (query : HistoryQuery)
    (contextFixtures : List CanonicalFixture) : List CanonicalFixture :=
  mergeRows (candidateRows store query contextFixtures)

end Merging

end MatchVet.Workload.History
