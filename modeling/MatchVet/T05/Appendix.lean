import MatchVet.T05.Freeze

/-!
# The post-cutoff appendix

What is learned after the Research Cutoff of a frozen Matchweek becomes a row of its
appendix under the key of its event.  A row of an INCLUDED fixture preserves it or
withdraws it; a row of any other fixture only records.
-/

namespace MatchVet.T05.Appendix

open MatchVet.Foundation.CanonicalJson (Hashing)
open MatchVet.Foundation.Gregorian (gregorianText)
open MatchVet.Foundation.KeySort
open MatchVet.Foundation.Runtime
open MatchVet.Foundation.Timestamp
open MatchVet.T05.Records
open MatchVet.T05.Selection
open MatchVet.T05.Freeze

/-! ## Judging a revision -/

/-- What a row says of its revision. -/
structure Judgement where
  eventKind : AppendixEventKind
  disposition : AppendixDisposition
  reasonCode : String
  reason : String

/-- The review that is supplied, with a changed identity noted in it. -/
def suppliedReview (review : Option PostCutoffValidityReview) (identityUnchanged : Bool) :
    Option PostCutoffValidityReview :=
  if identityUnchanged then review
  else some { review.getD .unanswered with identityUnchanged := some false }

/-- `_post_cutoff_observation`. -/
def postCutoffObservation (candidate : RevisionCandidate) (cutoff asOf : Instant) : Instant :=
  (((postCutoffSupports candidate cutoff asOf).map (·.retrievedAtUtc)).min?).getD
    candidate.observedAtUtc

/-- The branch for a fixture that is not INCLUDED. -/
def judgeOther (window : MatchweekWindow) (kickoff : Option Instant)
    (hadPreCutoffRevision : Bool) : Judgement :=
  if kickoff.any window.contains then
    { eventKind :=
        if hadPreCutoffRevision then .movedInAfterCutoff else .fixtureAddedAfterCutoff
      disposition := .appendixOnly
      reasonCode := "POST_CUTOFF_NOT_A_TARGET"
      reason := "Fixture is inside the frozen window only after the Research Cutoff; " ++
        "it remains appendix-only." }
  else
    { eventKind := .revisionLearnedAfterCutoff
      disposition := .appendixOnly
      reasonCode := "POST_CUTOFF_REVISION"
      reason := "A later Fixture Revision was retained outside frozen membership." }

section Judging

variable [PyRuntime]

/-- The status that the branches compare. -/
def currentStatus (candidate : RevisionCandidate) : String := upper (strip candidate.fixtureStatus)

/-- The branch for an INCLUDED fixture that an earlier row withdrew. -/
def judgeWithdrawn (window : MatchweekWindow) (candidate : RevisionCandidate) : Judgement where
  eventKind :=
    if currentStatus candidate = "POSTPONED" then .postponed
    else if currentStatus candidate = "CANCELLED" then .cancelled
    else
      match candidate.kickoffUtc with
      | none => .revisionLearnedAfterCutoff
      | some kickoff =>
          if window.contains kickoff then .sameWindowKickoffChange else .movedOutsideWindow
  disposition := .withdrawn
  reasonCode := "WITHDRAWAL_NOT_RESTORED"
  reason := "The fixture was already withdrawn from the frozen Matchweek; " ++
    "a later reschedule cannot restore its production decision."

/-- The branches for an INCLUDED fixture that no row withdrew. -/
def judgeIncluded (record : FreezeRecord) (conflicts : List ConflictAssertion)
    (candidate : RevisionCandidate) (originalKickoff : Option Instant)
    (review : Option PostCutoffValidityReview) (observedAt : Instant) : Judgement :=
  if currentStatus candidate = "POSTPONED" then
    ⟨.postponed, .withdrawn, "POSTPONED_AFTER_CUTOFF",
      "The INCLUDED fixture was postponed after the Research Cutoff."⟩
  else if currentStatus candidate = "CANCELLED" then
    ⟨.cancelled, .withdrawn, "CANCELLED_AFTER_CUTOFF",
      "The INCLUDED fixture was cancelled after the Research Cutoff."⟩
  else if review.any (·.identityUnchanged = some false) then
    ⟨.identityConflict, .withdrawn, "IDENTITY_CONFLICT_AFTER_CUTOFF",
      "The post-cutoff update could not preserve canonical Fixture identity."⟩
  else
    match candidate.kickoffUtc with
    | none =>
        ⟨.invalidPrematchTiming, .withdrawn, "KICKOFF_NOT_AFTER_CUTOFF",
          "The corrected kickoff was at or before the frozen Research Cutoff."⟩
    | some kickoff =>
        if kickoff ≤ record.cutoff.cutoffUtc then
          ⟨.invalidPrematchTiming, .withdrawn, "KICKOFF_NOT_AFTER_CUTOFF",
            "The corrected kickoff was at or before the frozen Research Cutoff."⟩
        else if record.window.contains kickoff = false then
          ⟨.movedOutsideWindow, .withdrawn, "MOVED_OUTSIDE_MATCHWEEK",
            "The INCLUDED fixture moved outside the frozen Friday-to-Monday window."⟩
        else if originalKickoff ≠ some kickoff then
          if review.any (·.passed) then
            ⟨.sameWindowKickoffChange, .preserved, "SAME_WINDOW_VALIDITY_PASSED",
              "The same-window kickoff change passed every pre-match validity assumption."⟩
          else
            ⟨.sameWindowKickoffChange, .withdrawn, "SAME_WINDOW_VALIDITY_FAILED",
              "The same-window kickoff change did not prove every pre-match validity assumption."⟩
        else if materialConflicts conflicts candidate.fixtureId observedAt ≠ [] then
          ⟨.materialConflict, .preserved, "MATERIAL_CONFLICT_AFTER_CUTOFF",
            "A later Fixture Revision retains unresolved material fixture detail conflict."⟩
        else
          ⟨.revisionLearnedAfterCutoff, .preserved, "POST_CUTOFF_REVISION",
            "A later Fixture Revision was appended without changing frozen membership."⟩

/-- The membership that a freeze gave to a fixture. -/
def membershipOf (record : FreezeRecord) (fixtureId : String) : Option FrozenMembership :=
  record.memberships.find? (·.subjectId = fixtureId)

def previouslyWithdrawn (freeze : MatchweekFreeze) (fixtureId : String) : Bool :=
  freeze.appendix.any fun entry =>
    entry.subjectId = fixtureId && entry.disposition = .withdrawn

/-- The judgement of a revision and the review that its row keeps. -/
def judge (conflicts : List ConflictAssertion) (record : FreezeRecord) (withdrawn : Bool)
    (fixtureCandidates : List RevisionCandidate) (candidate : RevisionCandidate)
    (review : Option PostCutoffValidityReview) (observedAt : Instant) :
    Judgement × PostCutoffValidityReview :=
  match (membershipOf record candidate.fixtureId).filter isIncluded with
  | none =>
      (judgeOther record.window candidate.kickoffUtc
        (fixtureCandidates.any (isValid record.cutoff.cutoffUtc)), review.getD .unanswered)
  | some membership =>
      (if withdrawn then judgeWithdrawn record.window candidate
        else judgeIncluded record conflicts candidate membership.originalKickoffUtc review
          observedAt,
        review.getD .defaultReviewForUnchangedFixture)

end Judging

/-! ## Rows -/

section Rows

variable [Hashing]

/-- The key that tells the events of a Matchweek apart. -/
def eventKeyOf (matchweek subject part : String) (kind : AppendixEventKind) : String :=
  matchweek ++ ":" ++ subject ++ ":" ++ part ++ ":" ++ kind.value

/-- `_appendix_entry`. -/
def appendixEntry (record : FreezeRecord) (candidate : RevisionCandidate)
    (judgement : Judgement) (observedAt : Instant) (review : PostCutoffValidityReview) :
    PostCutoffFixtureAppendixEntry where
  appendixId := deterministicIdentifier "post_cutoff_appendix"
    (eventKeyOf record.cutoff.matchweekId candidate.fixtureId candidate.revisionId
      judgement.eventKind)
  eventKey := eventKeyOf record.cutoff.matchweekId candidate.fixtureId candidate.revisionId
    judgement.eventKind
  matchweekId := record.cutoff.matchweekId
  subjectKind := .fixture
  subjectId := candidate.fixtureId
  fixtureId := some candidate.fixtureId
  membershipId := (membershipOf record candidate.fixtureId).map (·.membershipId)
  revisionId := some candidate.revisionId
  revisionDigest := some candidate.revisionDigest
  eventKind := judgement.eventKind
  disposition := judgement.disposition
  settlementResult := settlementResult judgement.disposition
  originalKickoffUtc :=
    (membershipOf record candidate.fixtureId).bind (·.originalKickoffUtc)
  currentKickoffUtc := candidate.kickoffUtc
  observedAtUtc := observedAt
  validityReview := review
  reasonCode := judgement.reasonCode
  reason := judgement.reason
  settled := rfl

/-- The membership that a freeze gave to a source row without a fixture. -/
def unresolvedMembershipOf (record : FreezeRecord) (unresolvedId : String) :
    Option FrozenMembership :=
  record.memberships.find? fun membership =>
    membership.subjectKind = .unresolvedFixtureRow && membership.subjectId = unresolvedId

/-- `_unresolved_appendix_entry`. -/
def unresolvedAppendixEntry (record : FreezeRecord) (unresolved : UnresolvedFixture) :
    PostCutoffFixtureAppendixEntry where
  appendixId := deterministicIdentifier "post_cutoff_appendix"
    (eventKeyOf record.cutoff.matchweekId unresolved.unresolvedId
      (gregorianText unresolved.observedAtUtc) .identityConflict)
  eventKey := eventKeyOf record.cutoff.matchweekId unresolved.unresolvedId
    (gregorianText unresolved.observedAtUtc) .identityConflict
  matchweekId := record.cutoff.matchweekId
  subjectKind := .unresolvedFixtureRow
  subjectId := unresolved.unresolvedId
  fixtureId := none
  membershipId :=
    (unresolvedMembershipOf record unresolved.unresolvedId).map (·.membershipId)
  revisionId := none
  revisionDigest := none
  eventKind := .identityConflict
  disposition := .appendixOnly
  settlementResult := none
  originalKickoffUtc :=
    (unresolvedMembershipOf record unresolved.unresolvedId).bind
      (·.originalKickoffUtc)
  currentKickoffUtc := unresolved.kickoffUtc
  observedAtUtc := unresolved.observedAtUtc
  validityReview := .unanswered
  reasonCode := "IDENTITY_UNRESOLVED_AFTER_CUTOFF"
  reason := "The post-cutoff source row still has no canonical Fixture identity; " ++
    "it cannot become a retroactive Target Match."
  settled := rfl

end Rows

/-- `_appendix_row_for_event`. -/
def appendixRowForEvent (store : Store) (eventKey : String) :
    Option PostCutoffFixtureAppendixEntry :=
  store.appendix.find? (·.eventKey = eventKey)

/-- `_store_appendix_entry`: the row of an event is written once. -/
def storeAppendixEntry (store : Store) (entry : PostCutoffFixtureAppendixEntry) :
    Except Fault (Store × PostCutoffFixtureAppendixEntry) :=
  match appendixRowForEvent store entry.eventKey with
  | some existing => .ok (store, existing)
  | none =>
      if entry.appendixId ∈ store.appendix.map (·.appendixId) then .error .integrityError
      else .ok ({ store with appendix := store.appendix ++ [entry] }, entry)

/-! ## One revision -/

structure AppendRequest where
  window : MatchweekWindow
  season : String
  fixtureId : String
  revisionId : Option String
  asOfUtc : Option Instant
  validityReview : Option PostCutoffValidityReview
  identityUnchanged : Bool

section Appending

variable [PyRuntime] [Hashing]

/-- The revision that a request names, or the one selected at its observation time. -/
def requestedRevision (request : AppendRequest)
    (candidates fixtureCandidates : List RevisionCandidate) (asOf : Instant) :
    Except Fault RevisionCandidate :=
  match request.revisionId with
  | none =>
      match selectRevision fixtureCandidates asOf with
      | none =>
          refuse "MV-T05-REVISION_NOT_FOUND"
            "No Fixture Revision is available for the appendix event."
      | some candidate => .ok candidate
  | some revisionId =>
      match candidates.find? (·.revisionId = revisionId) with
      | none =>
          refuse "MV-T05-REVISION_NOT_FOUND"
            ("Fixture Revision " ++ revisionId ++ " does not exist.")
      | some candidate =>
          if candidate.fixtureId ≠ request.fixtureId then
            refuse "MV-T05-REVISION_FIXTURE_MISMATCH"
              "The requested Fixture Revision belongs to a different fixture."
          else .ok candidate

/-- The row of a revision that was learned after the cutoff. -/
def postCutoffEntry (conflicts : List ConflictAssertion) (record : FreezeRecord)
    (fixtureCandidates : List RevisionCandidate) (candidate : RevisionCandidate)
    (review : Option PostCutoffValidityReview) (asOf : Instant) (withdrawn : Bool) :
    PostCutoffFixtureAppendixEntry :=
  let observedAt := postCutoffObservation candidate record.cutoff.cutoffUtc asOf
  let judged := judge conflicts record withdrawn fixtureCandidates candidate review observedAt
  appendixEntry record candidate judged.1 observedAt judged.2

/-- The checks of `append_post_cutoff_revision` that a revision is new. -/
def checkPostCutoff (candidate : RevisionCandidate) (cutoff asOf : Instant) :
    Except Fault Unit :=
  if asOf < candidate.observedAtUtc then
    refuse "MV-T05-REVISION_NOT_AVAILABLE"
      "The requested Fixture Revision was not known by the appendix observation time."
  else if postCutoffSupports candidate cutoff asOf = [] ∧ candidate.observedAtUtc ≤ cutoff then
    refuse "MV-T05-REVISION_NOT_POST_CUTOFF"
      "The requested Fixture Revision was already known at the Research Cutoff."
  else .ok ()

/-- The revisions of the season that belong to a fixture. -/
def fixtureCandidatesOf (store : Store) (season fixtureId : String) : List RevisionCandidate :=
  (loadRevisionCandidates store season).filter (·.fixtureId = fixtureId)

/-- `append_post_cutoff_revision`. -/
def appendPostCutoffRevision (store : Store) (request : AppendRequest) :
    Except Fault (Store × PostCutoffFixtureAppendixEntry) := do
  let freeze ← readFrozenMatchweek store request.window request.season
  let fixtureCandidates := fixtureCandidatesOf store request.season request.fixtureId
  match (fixtureCandidates.map (·.observedAtUtc)).max? with
  | none =>
      refuse "MV-T05-FIXTURE_NOT_FOUND" ("Fixture " ++ request.fixtureId ++ " does not exist.")
  | some latest => do
      let asOf := request.asOfUtc.getD latest
      let candidate ← requestedRevision request (loadRevisionCandidates store request.season)
        fixtureCandidates asOf
      let _ ← checkPostCutoff candidate freeze.cutoff.cutoffUtc asOf
      storeAppendixEntry store
        (postCutoffEntry store.conflicts freeze.toFreezeRecord fixtureCandidates candidate
          (suppliedReview request.validityReview request.identityUnchanged) asOf
          (previouslyWithdrawn freeze candidate.fixtureId))

/-! ## All changes -/

/-- Append the rows of some items one by one; the rows before a fault stay. -/
def appendEach {α : Type}
    (append : Store → α → Except Fault (Store × PostCutoffFixtureAppendixEntry)) :
    Store → List α → Store × Except Fault (List PostCutoffFixtureAppendixEntry)
  | store, [] => (store, .ok [])
  | store, item :: rest =>
      match append store item with
      | .error fault => (store, .error fault)
      | .ok (next, entry) =>
          ((appendEach append next rest).1, (appendEach append next rest).2.map (entry :: ·))

structure ChangesRequest where
  window : MatchweekWindow
  season : String
  asOfUtc : Option Instant
  validityReviews : String → Option PostCutoffValidityReview

/-- The observation time of a request for all changes. -/
def changesTime (store : Store) (request : ChangesRequest) (cutoff : Instant) : Instant :=
  request.asOfUtc.getD
    ((((loadRevisionCandidates store request.season).map (·.observedAtUtc) ++
      (loadUnresolvedFixtures store request.season).map (·.observedAtUtc)).max?).getD cutoff)

/-- The order in which revisions are appended. -/
def changeKey (cutoff asOf : Instant) (candidate : RevisionCandidate) :
    Instant ×ₗ String ×ₗ String :=
  toLex (postCutoffObservation candidate cutoff asOf,
    toLex (candidate.fixtureId, candidate.revisionId))

/-- The revisions learned between the cutoff and the observation time. -/
def changedRevisions (store : Store) (season : String) (cutoff asOf : Instant) :
    List RevisionCandidate :=
  sortedOn (changeKey cutoff asOf)
    ((loadRevisionCandidates store season).filter fun candidate =>
      !(postCutoffSupports candidate cutoff asOf).isEmpty ||
        (cutoff < candidate.observedAtUtc && candidate.observedAtUtc ≤ asOf))

/-- The source rows learned between the cutoff and the observation time. -/
def changedRows (store : Store) (season : String) (cutoff asOf : Instant) :
    List UnresolvedFixture :=
  (loadUnresolvedFixtures store season).filter fun row =>
    cutoff < row.observedAtUtc && row.observedAtUtc ≤ asOf

/-- The call that appends one of the changed revisions. -/
def changeRequest (request : ChangesRequest) (asOf : Instant) (candidate : RevisionCandidate) :
    AppendRequest where
  window := request.window
  season := request.season
  fixtureId := candidate.fixtureId
  revisionId := some candidate.revisionId
  asOfUtc := some asOf
  validityReview := (request.validityReviews candidate.revisionId).or
    (request.validityReviews candidate.fixtureId)
  identityUnchanged := true

/-- `append_post_cutoff_changes`, with the store that it leaves. -/
def appendPostCutoffChanges (store : Store) (request : ChangesRequest) :
    Store × Except Fault (List PostCutoffFixtureAppendixEntry) :=
  match readFrozenMatchweek store request.window request.season with
  | .error fault => (store, .error fault)
  | .ok freeze =>
      let cutoff := freeze.cutoff.cutoffUtc
      let asOf := changesTime store request cutoff
      let revised := appendEach
        (fun current candidate =>
          appendPostCutoffRevision current (changeRequest request asOf candidate))
        store (changedRevisions store request.season cutoff asOf)
      match revised.2 with
      | .error fault => (revised.1, .error fault)
      | .ok events =>
          let rows := appendEach
            (fun current row => storeAppendixEntry current
              (unresolvedAppendixEntry freeze.toFreezeRecord row))
            revised.1 (changedRows store request.season cutoff asOf)
          (rows.1, rows.2.map fun others => sortedOn appendixKey (events ++ others))

end Appending

end MatchVet.T05.Appendix
