import MatchVet.Foundation.CanonicalJson
import MatchVet.T05.Selection

/-!
# Freezing a Matchweek

`freeze_matchweek` derives a Research Cutoff, decides the membership of every
fixture of the season at it, and writes both once.  It returns exactly when the
search of the cutoff reaches a boundary that agrees with the memberships decided at
it, and what is learned after that boundary decides no Target Match.
-/

namespace MatchVet.T05.Freeze

open MatchVet.Foundation.CanonicalJson (Hashing uuid5)
open MatchVet.Foundation.FixedPoint
open MatchVet.Foundation.Gregorian (dateText)
open MatchVet.Foundation.Grouping
open MatchVet.Foundation.KeySort
open MatchVet.Foundation.Runtime
open MatchVet.Foundation.Timestamp
open MatchVet.T05.Records
open MatchVet.T05.Selection

/-! ## Loading -/

/-- The order of the rows of `_load_revision_candidates`. -/
def candidateKey (candidate : RevisionCandidate) : String ×ₗ Instant ×ₗ String :=
  toLex (candidate.fixtureId, toLex (candidate.observedAtUtc, candidate.revisionId))

/-- `_load_revision_candidates`. -/
def loadRevisionCandidates (store : Store) (season : String) : List RevisionCandidate :=
  sortedOn candidateKey (store.revisions.filter (·.season = season))

/-- `_load_unresolved_fixtures`. -/
def loadUnresolvedFixtures (store : Store) (season : String) : List UnresolvedFixture :=
  sortedOn (·.unresolvedId) (store.unresolvedRows.filter (·.season = season))

/-! ## Material conflicts -/

def materialConflictPredicates : List String :=
  ["kickoff", "home_team", "away_team", "venue", "competition", "status", "fixture_status"]

/-- The unresolved assertions about a fixture that were captured by a boundary. -/
def conflictRows (conflicts : List ConflictAssertion) (fixtureId : String) (boundary : Instant) :
    List ConflictAssertion :=
  conflicts.filter fun row =>
    row.subjectKind = "FIXTURE" && row.subjectKey = fixtureId && row.status ≠ "RESOLVED" &&
      materialConflictPredicates.contains row.predicate && row.retrievedAtUtc ≤ boundary

/-- The values that some rows give to a predicate. -/
def valuesOf (rows : List ConflictAssertion) (predicate : String) : List String :=
  ((rows.filter (·.predicate = predicate)).map (·.normalizedValueJson)).eraseDups

/-- `_material_conflicts`. -/
def materialConflicts (conflicts : List ConflictAssertion) (fixtureId : String)
    (boundary : Instant) : List String :=
  let rows := conflictRows conflicts fixtureId boundary
  sortedSet ((rows.map (·.predicate)).filter fun predicate =>
    2 ≤ (valuesOf rows predicate).length)

/-! ## Memberships -/

section Memberships

variable [PyRuntime] [Hashing]

def deterministicIdentifier (kind key : String) : String := uuid5 (kind ++ ":" ++ key)

/-- `_matchweek_id`. -/
def matchweekId (season : String) (window : MatchweekWindow) : String :=
  deterministicIdentifier "matchweek" (season ++ ":" ++ dateText window.fridayLocal)

/-- `_cutoff_id`. -/
def cutoffId (matchweek : String) : String := deterministicIdentifier "research_cutoff" matchweek

/-- `_membership_id`. -/
def membershipId (matchweek : String) (kind : SubjectKind) (subjectId : String) : String :=
  deterministicIdentifier "frozen_membership"
    (matchweek ++ ":" ++ kind.value ++ ":" ++ subjectId)

/-- The part of a membership that the decision of `_build_memberships` gives. -/
structure Placement where
  membershipState : MembershipState
  reasonCode : String
  reason : String
  decisionState : String

/-- The branches of `_build_memberships` for a fixture with a selected revision. -/
def placeChosen (window : MatchweekWindow) (chosen : RevisionCandidate) (materialConflict : Bool) :
    Placement :=
  match chosen.kickoffUtc with
  | none =>
      ⟨.indeterminate, "KICKOFF_UNKNOWN",
        "The confirmed fixture had no cutoff-valid observed kickoff.",
        "NO_DECISION_INDETERMINATE"⟩
  | some kickoff =>
      if chosen.kickoffState ≠ "OBSERVED" then
        ⟨.indeterminate, "KICKOFF_UNKNOWN",
          "The confirmed fixture had no cutoff-valid observed kickoff.",
          "NO_DECISION_INDETERMINATE"⟩
      else if isScheduled chosen.fixtureStatus = false then
        ⟨.excluded, "NOT_SCHEDULED_AT_CUTOFF",
          "Fixture status was " ++ upper chosen.fixtureStatus ++ " at the Research Cutoff.",
          "NO_DECISION_EXCLUDED"⟩
      else if window.contains kickoff = false then
        ⟨.excluded, "OUTSIDE_MATCHWEEK_WINDOW",
          "The cutoff-valid scheduled kickoff was outside the Friday-to-Monday window.",
          "NO_DECISION_EXCLUDED"⟩
      else if materialConflict then
        ⟨.included, "MATERIAL_CONFLICT",
          "Confirmed identity is in-window, but material fixture details remain unresolved.",
          "MATERIAL_CONFLICT_BLOCKED"⟩
      else
        ⟨.included, "IN_WINDOW_SCHEDULED",
          "Confirmed scheduled fixture falls inside the Africa/Lagos Matchweek window.",
          "ELIGIBLE_FOR_VETTING"⟩

/-- The decision of `_build_memberships`, with the identity state of its reference revision. -/
def place (window : MatchweekWindow) (identityState : Option String)
    (chosen : Option RevisionCandidate) (materialConflict : Bool) : Placement :=
  if identityState ≠ some "CONFIRMED" then
    ⟨.indeterminate, "IDENTITY_UNRESOLVED",
      "Canonical Fixture identity was not confirmed at the Research Cutoff.",
      "NO_DECISION_INDETERMINATE"⟩
  else
    match chosen with
    | none =>
        ⟨.excluded, "NO_CUTOFF_VALID_REVISION",
          "No Fixture Revision for this confirmed fixture was valid at the Research Cutoff.",
          "NO_DECISION_EXCLUDED"⟩
    | some candidate => placeChosen window candidate materialConflict

/-- `chosen or latest_known or fixture_candidates[0]`. -/
def referenceOf (candidates : List RevisionCandidate) (cutoff : Instant) :
    Option RevisionCandidate :=
  (selectRevision candidates cutoff).or
    (((candidates.map (·.observedAtUtc)).max?.bind (selectRevision candidates)).or
      candidates.head?)

/-- The membership of a fixture with its revisions. -/
def fixtureMembership (conflicts : List ConflictAssertion) (matchweek : String)
    (window : MatchweekWindow) (cutoff : Instant) (fixtureId : String)
    (candidates : List RevisionCandidate) : FrozenMembership :=
  let chosen := selectRevision candidates cutoff
  let authority := authorityLabel (chosen.elim [] (validSupports · cutoff))
  let predicates := chosen.elim [] fun _ => materialConflicts conflicts fixtureId cutoff
  let placement := place window ((referenceOf candidates cutoff).map (·.identityState)) chosen
    (!predicates.isEmpty)
  { membershipId := membershipId matchweek .fixture fixtureId
    matchweekId := matchweek
    subjectKind := .fixture
    subjectId := fixtureId
    membershipState := placement.membershipState
    targetMatch := placement.membershipState = .included
    controllingRevisionId := chosen.map (·.revisionId)
    controllingRevisionDigest := chosen.map (·.revisionDigest)
    sourceAuthorityRank := authority.1
    sourceAuthority := authority.2
    originalKickoffUtc := chosen.bind (·.kickoffUtc)
    originalKickoffLocalText := chosen.bind (·.kickoffLocalText)
    materialConflict := !predicates.isEmpty
    conflictPredicates := predicates
    reasonCode := placement.reasonCode
    reason := placement.reason
    decisionState := placement.decisionState
    target_iff := decide_eq_true_iff
    revision_digest := by rw [Option.isSome_map, Option.isSome_map]
    conflicts_sorted := by
      cases hchosen : selectRevision candidates cutoff with
      | none => simp [predicates, chosen, hchosen, sortedSet]
      | some candidate =>
          simp only [predicates, chosen, hchosen, Option.elim_some]
          exact sortedSet_sortedSet _ }

/-- The membership of a source row without a fixture. -/
def unresolvedMembership (matchweek : String) (unresolved : UnresolvedFixture) :
    FrozenMembership where
  membershipId := membershipId matchweek .unresolvedFixtureRow unresolved.unresolvedId
  matchweekId := matchweek
  subjectKind := .unresolvedFixtureRow
  subjectId := unresolved.unresolvedId
  membershipState := .indeterminate
  targetMatch := false
  controllingRevisionId := none
  controllingRevisionDigest := none
  sourceAuthorityRank := 0
  sourceAuthority := "UNKNOWN"
  originalKickoffUtc := unresolved.kickoffUtc
  originalKickoffLocalText := some (unresolved.homeName ++ " v " ++ unresolved.awayName)
  materialConflict := false
  conflictPredicates := []
  reasonCode := "IDENTITY_UNRESOLVED"
  reason := "Source rows could not be mapped to one canonical Fixture identity."
  decisionState := "NO_DECISION_INDETERMINATE"
  target_iff := by simp
  revision_digest := rfl
  conflicts_sorted := rfl

/-- `_build_memberships`. -/
def buildMemberships (store : Store) (matchweek : String) (window : MatchweekWindow)
    (season : String) (cutoff : Instant) (candidates : List RevisionCandidate) :
    List FrozenMembership :=
  sortedOn (·.membershipId)
    ((sortedOn Prod.fst (groupsBy (·.fixtureId) candidates)).map (fun group =>
        fixtureMembership store.conflicts matchweek window cutoff group.1 group.2) ++
      ((loadUnresolvedFixtures store season).filter (·.observedAtUtc ≤ cutoff)).map
        (unresolvedMembership matchweek))

/-! ## The freeze -/

structure FreezeRequest where
  window : MatchweekWindow
  season : String
  asOfUtc : Option Instant

def FreezeRequest.matchweekId (request : FreezeRequest) : String :=
  Freeze.matchweekId request.season request.window

def isIncluded (membership : FrozenMembership) : Bool := membership.membershipState = .included

/-- The order of `min` over included memberships; they have a kickoff. -/
def membershipKey (membership : FrozenMembership) : Moment ×ₗ String :=
  toLex (kickoffRank membership.originalKickoffUtc, membership.subjectId)

/-- The observation time of a request. -/
def observationTime (request : FreezeRequest) (candidates : List RevisionCandidate) :
    Option Instant :=
  (candidates.map (·.observedAtUtc)).max?.map request.asOfUtc.getD

/-- The record of a cutoff, checked against the memberships decided at it. -/
def recordAt (store : Store) (request : FreezeRequest) (candidates : List RevisionCandidate)
    (cutoff : Instant) : Except Fault FreezeRecord :=
  let memberships := buildMemberships store request.matchweekId request.window request.season
    cutoff candidates
  match (memberships.filter isIncluded).argmin membershipKey with
  | none =>
      refuse "MV-T05-NO_INCLUDED_MEMBERSHIP"
        "The derived Research Cutoff produced no INCLUDED Target Match."
  | some earliest =>
      match earliest.originalKickoffUtc with
      | none => .error (.valueError "Timestamp must be an ISO-8601 value with a timezone offset.")
      | some kickoff =>
          if kickoff - matchweekLeadTime ≠ cutoff then
            refuse "MV-T05-CUTOFF_NOT_STABLE"
              ("The Matchweek Research Cutoff did not stabilize at six hours before " ++
                "the earliest INCLUDED kickoff.")
          else if (memberships.map (·.membershipId)).Nodup then
            .ok
              { window := request.window
                season := request.season
                cutoff :=
                  { cutoffId := cutoffId request.matchweekId
                    matchweekId := request.matchweekId
                    cutoffUtc := cutoff
                    earliestIncludedFixtureId := earliest.subjectId
                    earliestIncludedKickoffUtc := kickoff }
                memberships }
          else .error (.valueError "Membership manifest entries must be unique.")

/-- The computation of `freeze_matchweek` before it publishes. -/
def freezeRecord (store : Store) (request : FreezeRequest) : Except Fault FreezeRecord :=
  let candidates := loadRevisionCandidates store request.season
  match observationTime request candidates with
  | none =>
      refuse "MV-T05-NO_FIXTURE_REVISIONS"
        "No T06 Fixture Revisions are available for the requested season."
  | some asOf => do
      let derived ← deriveCutoff candidates request.window asOf
      recordAt store request candidates derived.1

/-- The order of the appendix rows of `_load_freeze`. -/
def appendixKey (entry : PostCutoffFixtureAppendixEntry) : Instant ×ₗ String :=
  toLex (entry.observedAtUtc, entry.appendixId)

/-- `_load_freeze`. -/
def loadFreeze (store : Store) (matchweek : String) : Option MatchweekFreeze :=
  (store.freezes.find? (·.cutoff.matchweekId = matchweek)).map fun record =>
    { record with
      appendix := sortedOn appendixKey (store.appendix.filter (·.matchweekId = matchweek)) }

/-- `freeze_matchweek`, when the publication of its artifacts succeeds. -/
def freezeMatchweek (store : Store) (request : FreezeRequest) :
    Except Fault (Store × MatchweekFreeze) :=
  match loadFreeze store request.matchweekId with
  | some existing => .ok (store, existing)
  | none => do
      let record ← freezeRecord store request
      let next := { store with freezes := store.freezes ++ [record] }
      match loadFreeze next request.matchweekId with
      | none =>
          refuse "MV-T05-FREEZE_NOT_PUBLISHED" "Frozen Matchweek publication was not durable."
      | some freeze => .ok (next, freeze)

/-- `read_frozen_matchweek`. -/
def readFrozenMatchweek (store : Store) (window : MatchweekWindow) (season : String) :
    Except Fault MatchweekFreeze :=
  match loadFreeze store (matchweekId season window) with
  | none => refuse "MV-T05-MATCHWEEK_NOT_FROZEN" "The requested Matchweek is not frozen."
  | some freeze => .ok freeze

end Memberships

end MatchVet.T05.Freeze
