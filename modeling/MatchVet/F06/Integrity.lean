import MatchVet.F06.Records
import MatchVet.F01.Weekly

/-!
# Revision conflicts

`matchweek_membership_integrity` compares the revisions of the leading authority
tier: the teams, the status classes and, where the match is scheduled, the typed
kickoffs.  `controller_key` then orders all revisions and the first largest one
controls the decision.
-/

namespace MatchVet.F06.Integrity

open MatchVet.F01.Weekly
open MatchVet.F06.Records
open MatchVet.Foundation.Gregorian
open MatchVet.Foundation.Runtime
open MatchVet.Foundation.Timestamp

/-! ## Exceptions and services -/

/-- Exceptions that are not the package's own. -/
inductive Fault where
  | valueError (message : String)
  | jsonDecodeError
  | typeError
  | keyError (key : String)
  | overflowError
  deriving DecidableEq, Repr

/-- How a membership call ends when it does not return. -/
inductive Failure where
  | refused (code reasonCode message : String)
  | reference (message : String)
  | fault (fault : Fault)
  deriving DecidableEq, Repr

/-- `date.fromisoformat`, `strptime`, the zone database and the zone of the host.
A naive wall clock is placed by the host; a missing zone has no offsets. -/
class Localtime where
  dateFromIsoFormat : String → Option ℤ
  strptime : String → String → Option ℤ
  zoneInfo : String → Option (Instant → ℤ)
  hostInstant : ℤ → Except Fault Instant

/-- `astimezone(UTC)` of a wall clock at an offset. -/
def toUtc (clock offset : ℤ) : Except Fault Instant :=
  if InRange (clock - offset) then .ok (clock - offset) else .error .overflowError

/-- `text.replace("Z", "+00:00")`. -/
def replaceZulu (text : String) : String :=
  String.ofList (text.toList.flatMap fun char => if char = 'Z' then "+00:00".toList else [char])

section Readings

variable [Calendar]

/-- `_candidate_instant`: the instant of a text with an offset. -/
def candidateInstant : Option String → Except Fault (Option Instant)
  | none => .ok none
  | some text =>
      match fromIsoFormat (replaceZulu text) with
      | some ⟨clock, some offset⟩ => (toUtc clock offset).map some
      | _ => .ok none

end Readings

/-- `_parse_date`: the first of the three known patterns that reads the text. -/
def parseDate [Localtime] (raw : String) : Option ℤ :=
  if blank raw then none
  else ["%d/%m/%Y", "%d/%m/%y", "%Y-%m-%d"].findSome? (Localtime.strptime (strip raw))

/-! ## Time zones of the leagues -/

/-- The configured zone of every Target League. -/
def leagueTimezones : List (String × String) :=
  [("premier_league", "Europe/London"), ("serie_a", "Europe/Rome"), ("la_liga", "Europe/Madrid"),
    ("bundesliga", "Europe/Berlin"), ("ligue_1", "Europe/Paris"),
    ("liga_portugal", "Europe/Lisbon"), ("belgian_pro_league", "Europe/Brussels")]

/-- `league_by_key(key).timezone`. -/
def leagueTimezone (key : String) : Except Fault String :=
  match leagueTimezones.lookup key with
  | some zone => .ok zone
  | none => .error (.keyError ("Unknown configured Target League: " ++ key))

/-- The hours ahead of UTC in winter, where the zone database is missing. -/
def baseHours : List (String × ℤ) :=
  [("Europe/London", 0), ("Europe/Lisbon", 0), ("Europe/Rome", 1), ("Europe/Madrid", 1),
    ("Europe/Berlin", 1), ("Europe/Paris", 1), ("Europe/Brussels", 1)]

/-- `_european_summer_time`: from the last Sunday of March to that of October. -/
def europeanSummerTime (day : ℤ) : Bool :=
  let year := (civilOfDays day).year
  let marchLast := daysOfCivil ⟨year, 4, 1⟩ - 1
  let octoberLast := daysOfCivil ⟨year, 11, 1⟩ - 1
  let marchStart := marchLast - (weekday marchLast - 6) % 7
  let octoberEnd := octoberLast - (weekday octoberLast - 6) % 7
  marchStart ≤ day && day < octoberEnd

/-- `_source_timezone`: the offsets of a zone, by its name and the local date. -/
def sourceTimezone [Localtime] (name : String) (localDate : ℤ) : Except Fault (Instant → ℤ) :=
  match Localtime.zoneInfo name with
  | some offsets => .ok offsets
  | none =>
      match baseHours.lookup name with
      | none => .error (.valueError ("Unknown configured timezone " ++ name ++ "."))
      | some hours =>
          .ok fun _ => (hours + if europeanSummerTime localDate then 1 else 0) * 3600000000

/-- `instant.astimezone(zone).date()`. -/
def localDay (offsets : Instant → ℤ) (instant : Instant) : Except Fault ℤ :=
  if InRange (instant + offsets instant) then .ok ((instant + offsets instant) / dayLength)
  else .error .overflowError

/-! ## Status classes -/

/-- The `status_mapping` of every retained policy. -/
def statusMapping : List (String × List String) :=
  [("scheduled", ["SCHEDULED", "CONFIRMED"]),
    ("postponed", ["POSTPONED"]),
    ("cancelled", ["CANCELLED", "CANCELED"]),
    ("not_scheduled", ["COMPLETED", "COMPLETE", "FINAL", "FINISHED", "PLAYED", "IN_PROGRESS",
      "LIVE", "SUSPENDED", "TEMPORARILY_SUSPENDED", "ABANDONED", "UNCOMPLETED", "FORFEITED",
      "FORFEIT", "WALKOVER", "AWARDED", "ADMIN_AWARDED", "ADMINISTRATIVE_AWARD", "WITHDRAWN",
      "VOID", "REPLAYED", "NOT_PLAYED"]),
    ("unknown", ["UNKNOWN"])]

/-- The statuses the policy lists under a category. -/
def listed (category : String) : List String := (statusMapping.lookup category).getD []

section Status

variable [PyRuntime]

/-- `value.strip().upper()`. -/
def normalizedStatus (value : String) : String := upper (strip value)

def statusClass (value : String) : String :=
  match statusMapping.find? fun entry => entry.2.contains (normalizedStatus value) with
  | some (category, _) => upper category
  | none => normalizedStatus value

end Status

/-! ## Kickoffs -/

/-- What the JSON text of a semantic kickoff holds: a precision and a value. -/
inductive KickoffFact where
  | date (day : ℤ)
  | instant (instant : Instant)
  deriving DecidableEq

namespace KickoffFact

def day? : KickoffFact → Option ℤ
  | .date day => some day
  | .instant _ => none

def instant? : KickoffFact → Option Instant
  | .date _ => none
  | .instant value => some value

end KickoffFact

/-- A revision with its support times as instants. -/
abbrev Snapshot := FixtureRevisionSnapshot Instant

section Kickoffs

variable [Calendar] [Localtime]

/-- `_revision_kickoff`. -/
def revisionKickoff (snapshot : Snapshot) : Except Fault (Option KickoffFact) :=
  if snapshot.kickoffState ≠ "OBSERVED" then .ok none
  else if snapshot.kickoffPrecision = "DATE" then
    .ok ((parseDate (snapshot.kickoffLocalText.getD "")).map .date)
  else if snapshot.kickoffPrecision = "INSTANT" then
    (candidateInstant snapshot.kickoffUtc).map (·.map .instant)
  else .ok none

/-- Does an instant fall on another local date than the one given? -/
def dateDiffers (timezone : String) (pair : Instant × ℤ) : Except Fault Bool := do
  let offsets ← sourceTimezone timezone pair.2
  let day ← localDay offsets pair.1
  .ok (day ≠ pair.2)

/-- `semantic_values_conflict` of kickoffs. -/
def semanticKickoffsConflict (facts : List KickoffFact) (leagueKey : String) :
    Except Fault Bool :=
  let instants := (facts.filterMap KickoffFact.instant?).dedup
  let dates := (facts.filterMap KickoffFact.day?).dedup
  if instants.length > 1 ∨ dates.length > 1 then .ok true
  else do
    let timezone ← leagueTimezone leagueKey
    (instants.product dates).anyM (dateDiffers timezone)

/-- `scope_id.split(":")[0]`. -/
def scopeLeague (scopeId : String) : String :=
  String.ofList (scopeId.toList.takeWhile (· ≠ ':'))

/-- The comparison of two scheduled revisions. -/
def scheduledConflict (left right : Snapshot) : Except Fault Bool := do
  let leftKickoff ← revisionKickoff left
  let rightKickoff ← revisionKickoff right
  match leftKickoff, rightKickoff with
  | some leftFact, some rightFact =>
      semanticKickoffsConflict [leftFact, rightFact] (scopeLeague left.scopeId)
  | _, _ => .ok (leftKickoff ≠ rightKickoff)

end Kickoffs

/-! ## Conflicts within the leading tier -/

section Conflicts

variable [PyRuntime] [Calendar] [Localtime]

/-- The body of the loop over the pairs of the leading tier. -/
def pairConflict (left right : Snapshot) : Except Failure Bool :=
  match left.integrity, right.integrity with
  | some leftIntegrity, some rightIntegrity =>
      if (leftIntegrity.homeTeamId, leftIntegrity.awayTeamId) ≠
            (rightIntegrity.homeTeamId, rightIntegrity.awayTeamId) ∨
          statusClass left.fixtureStatus ≠ statusClass right.fixtureStatus then .ok true
      else if statusClass left.fixtureStatus = "SCHEDULED" then
        (scheduledConflict left right).mapError .fault
      else .ok false
  | _, _ => .error (.reference "Semantic revision integrity is missing.")

/-- The revisions of the best rank that have the latest support. -/
def leadingTier (bestRank : ℤ) (bestTime : Instant) (snapshots : List Snapshot) : List Snapshot :=
  snapshots.filter fun item =>
    (item.authorityRank, item.latestSupportRetrievedAtUtc) = (bestRank, bestTime)

def hasRevisionConflict (snapshots : List Snapshot) : Except Failure Bool :=
  match (snapshots.map (·.authorityRank)).max? with
  | none => .error (.fault (.valueError "max() iterable argument is empty"))
  | some bestRank =>
      match ((snapshots.filter (·.authorityRank = bestRank)).map
        (·.latestSupportRetrievedAtUtc)).max? with
      | none => .error (.fault (.valueError "max() iterable argument is empty"))
      | some bestTime => anyCombination pairConflict (leadingTier bestRank bestTime snapshots)

end Conflicts

/-! ## The controlling revision -/

/-- The third part of `controller_key`. -/
def exactKickoff (snapshot : Snapshot) : Bool :=
  snapshot.integrity.isSome && snapshot.kickoffPrecision = "INSTANT"

/-- The part of `controller_key` that stands for authority. -/
def authorityKey (snapshot : Snapshot) : ℤ ×ₗ Instant ×ₗ Bool :=
  toLex (snapshot.authorityRank,
    toLex (snapshot.latestSupportRetrievedAtUtc, exactKickoff snapshot))

/-- `controller_key`. -/
def controllerKey (snapshot : Snapshot) : (ℤ ×ₗ Instant ×ₗ Bool) ×ₗ String ×ₗ String :=
  toLex (authorityKey snapshot, toLex (snapshot.revisionId, snapshot.revisionDigest))

/-- `max(snapshots, key=controller_key)`: the first of the largest. -/
def controlling : List Snapshot → Option Snapshot
  | [] => none
  | first :: rest => some (rest.foldl (fun best item =>
      if controllerKey best < controllerKey item then item else best) first)

end MatchVet.F06.Integrity
