import MatchVet.F06.Decision

/-!
# Matchweek records

T05 reads Fixture Revisions with the source captures that support them, freezes a
membership for each fixture of a Matchweek, and later appends what it learns after
the Research Cutoff.  Times are instants; the window runs from Friday to the end of
Monday in Lagos.
-/

namespace MatchVet.T05.Records

open MatchVet.F01.Weekly (dayLength lagosOffset windowStartUtc windowEndUtc)
open MatchVet.Foundation.Gregorian
open MatchVet.Foundation.Runtime (sortedSet)
open MatchVet.Foundation.Timestamp

/-! ## Enumerations -/

inductive MembershipState where
  | included
  | excluded
  | indeterminate
  deriving DecidableEq, Repr

inductive SubjectKind where
  | fixture
  | unresolvedFixtureRow
  deriving DecidableEq, Repr

def SubjectKind.value : SubjectKind → String
  | .fixture => "FIXTURE"
  | .unresolvedFixtureRow => "UNRESOLVED_FIXTURE_ROW"

inductive AppendixEventKind where
  | fixtureAddedAfterCutoff
  | movedInAfterCutoff
  | sameWindowKickoffChange
  | movedOutsideWindow
  | postponed
  | cancelled
  | invalidPrematchTiming
  | identityConflict
  | materialConflict
  | revisionLearnedAfterCutoff
  deriving DecidableEq, Repr

def AppendixEventKind.value : AppendixEventKind → String
  | .fixtureAddedAfterCutoff => "FIXTURE_ADDED_AFTER_CUTOFF"
  | .movedInAfterCutoff => "MOVED_IN_AFTER_CUTOFF"
  | .sameWindowKickoffChange => "SAME_WINDOW_KICKOFF_CHANGE"
  | .movedOutsideWindow => "MOVED_OUTSIDE_WINDOW"
  | .postponed => "POSTPONED"
  | .cancelled => "CANCELLED"
  | .invalidPrematchTiming => "INVALID_PREMATCH_TIMING"
  | .identityConflict => "IDENTITY_CONFLICT"
  | .materialConflict => "MATERIAL_CONFLICT"
  | .revisionLearnedAfterCutoff => "REVISION_LEARNED_AFTER_CUTOFF"

inductive AppendixDisposition where
  | appendixOnly
  | preserved
  | withdrawn
  deriving DecidableEq, Repr

/-! ## Errors -/

structure MatchweekError where
  code : String
  message : String
  deriving DecidableEq, Repr

/-- What a T05 call raises: its own error, the `ValueError` of a constructor, or the
store's refusal of a second row under one primary key. -/
inductive Fault where
  | matchweek (error : MatchweekError)
  | valueError (message : String)
  | integrityError
  deriving DecidableEq, Repr

def refuse {α : Type} (code message : String) : Except Fault α :=
  .error (.matchweek ⟨code, message⟩)

/-! ## The window -/

/-- `MatchweekWindow`, for the Fridays whose window ends inside the calendar. -/
structure MatchweekWindow where
  fridayLocal : ℤ
  friday : weekday fridayLocal = 4
  starts : DateInRange fridayLocal
  ends : DateInRange (fridayLocal + 4)

namespace MatchweekWindow

def startUtc (window : MatchweekWindow) : Instant := windowStartUtc window.fridayLocal

def endUtc (window : MatchweekWindow) : Instant := windowEndUtc window.fridayLocal

def contains (window : MatchweekWindow) (instant : Instant) : Bool :=
  window.startUtc ≤ instant && instant < window.endUtc

theorem contains_iff {window : MatchweekWindow} {instant : Instant} :
    window.contains instant = true ↔ window.startUtc ≤ instant ∧ instant < window.endUtc := by
  rw [contains, Bool.and_eq_true, decide_eq_true_eq, decide_eq_true_eq]

end MatchweekWindow

/-! ## Revisions -/

structure SourceSupport where
  retrievedAtUtc : Instant
  sourcePublishedAtUtc : Option Instant
  contentSha256 : String
  sourceKey : String
  sourceClass : String
  deriving DecidableEq, Repr

/-- A row of the loader: a Fixture Revision with the columns of its fixture. -/
structure RevisionCandidate where
  fixtureId : String
  identityState : String
  leagueKey : String
  season : String
  homeTeamName : String
  awayTeamName : String
  revisionId : String
  revisionDigest : String
  kickoffState : String
  kickoffUtc : Option Instant
  kickoffLocalText : Option String
  kickoffPrecision : String
  fixtureStatus : String
  observedAtUtc : Instant
  supports : List SourceSupport
  deriving DecidableEq, Repr

structure UnresolvedFixture where
  unresolvedId : String
  leagueKey : String
  season : String
  homeName : String
  awayName : String
  resolutionState : String
  kickoffUtc : Option Instant
  observedAtUtc : Instant
  deriving DecidableEq, Repr

/-- A row of the join of conflict sets, assertions and captures. -/
structure ConflictAssertion where
  subjectKind : String
  subjectKey : String
  status : String
  predicate : String
  normalizedValueJson : String
  retrievedAtUtc : Instant
  deriving DecidableEq, Repr

/-! ## The frozen Matchweek -/

/-- `FrozenMembership` with the checks of its constructor. -/
@[ext]
structure FrozenMembership where
  membershipId : String
  matchweekId : String
  subjectKind : SubjectKind
  subjectId : String
  membershipState : MembershipState
  targetMatch : Bool
  controllingRevisionId : Option String
  controllingRevisionDigest : Option String
  sourceAuthorityRank : ℕ
  sourceAuthority : String
  originalKickoffUtc : Option Instant
  originalKickoffLocalText : Option String
  materialConflict : Bool
  conflictPredicates : List String
  reasonCode : String
  reason : String
  decisionState : String
  target_iff : targetMatch = true ↔ membershipState = .included
  revision_digest : controllingRevisionId.isSome = controllingRevisionDigest.isSome
  conflicts_sorted : sortedSet conflictPredicates = conflictPredicates

/-- `PostCutoffValidityReview`. -/
structure PostCutoffValidityReview where
  identityUnchanged : Option Bool
  scopeUnchanged : Option Bool
  kickoffAfterCutoff : Option Bool
  noPostponementOrCancellation : Option Bool
  preMatchValid : Option Bool
  criticalEvidenceValid : Option Bool
  researchSufficiencyValid : Option Bool
  informationBoundaryValid : Option Bool
  deriving DecidableEq, Repr

namespace PostCutoffValidityReview

/-- The review that answers nothing. -/
def unanswered : PostCutoffValidityReview := ⟨none, none, none, none, none, none, none, none⟩

/-- `_default_review_for_unchanged_fixture`. -/
def defaultReviewForUnchangedFixture : PostCutoffValidityReview :=
  ⟨some true, some true, some true, some true, some true, some true, some true, some true⟩

def passed (review : PostCutoffValidityReview) : Bool :=
  [review.identityUnchanged, review.scopeUnchanged, review.kickoffAfterCutoff,
    review.noPostponementOrCancellation, review.preMatchValid, review.criticalEvidenceValid,
    review.researchSufficiencyValid, review.informationBoundaryValid].all (· == some true)

end PostCutoffValidityReview

/-- The settlement state of a disposition. -/
def settlementResult (disposition : AppendixDisposition) : Option String :=
  if disposition = .withdrawn then some "VOID" else none

/-- `PostCutoffFixtureAppendixEntry` with the check of its constructor. -/
@[ext]
structure PostCutoffFixtureAppendixEntry where
  appendixId : String
  eventKey : String
  matchweekId : String
  subjectKind : SubjectKind
  subjectId : String
  fixtureId : Option String
  membershipId : Option String
  revisionId : Option String
  revisionDigest : Option String
  eventKind : AppendixEventKind
  disposition : AppendixDisposition
  settlementResult : Option String
  originalKickoffUtc : Option Instant
  currentKickoffUtc : Option Instant
  observedAtUtc : Instant
  validityReview : PostCutoffValidityReview
  reasonCode : String
  reason : String
  settled : settlementResult = Records.settlementResult disposition

instance : DecidableEq PostCutoffFixtureAppendixEntry := fun _ _ =>
  decidable_of_iff' _ PostCutoffFixtureAppendixEntry.ext_iff

/-- `MATCHWEEK_LEAD_TIME`. -/
def matchweekLeadTime : ℤ := 21600000000

structure MatchweekResearchCutoff where
  cutoffId : String
  matchweekId : String
  cutoffUtc : Instant
  earliestIncludedFixtureId : String
  earliestIncludedKickoffUtc : Instant
  deriving DecidableEq, Repr

/-- What one freeze writes: its Matchweek, Research Cutoff and memberships. -/
structure FreezeRecord where
  window : MatchweekWindow
  season : String
  cutoff : MatchweekResearchCutoff
  memberships : List FrozenMembership

structure MatchweekFreeze extends FreezeRecord where
  appendix : List PostCutoffFixtureAppendixEntry

namespace MatchweekFreeze

def targetMatches (freeze : MatchweekFreeze) : List FrozenMembership :=
  freeze.memberships.filter (·.targetMatch)

def withdrawnFixtureIds (freeze : MatchweekFreeze) : List String :=
  sortedSet ((freeze.appendix.filter fun entry =>
    entry.disposition = .withdrawn && entry.fixtureId.isSome).map (·.subjectId))

end MatchweekFreeze

/-! ## The store -/

/-- The tables T05 reads and the two it writes. -/
structure Store where
  revisions : List RevisionCandidate
  unresolvedRows : List UnresolvedFixture
  conflicts : List ConflictAssertion
  freezes : List FreezeRecord
  appendix : List PostCutoffFixtureAppendixEntry

end MatchVet.T05.Records
