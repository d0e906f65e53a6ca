import MatchVet.T05.Lifecycle

/-!
# Revisions that fail

A revision of an INCLUDED fixture fails by its status, its review or its kickoff, and the
failure names the kind of its event.  A call for it withdraws the fixture unless the
appendix holds another row under the key of that event, which the call then keeps.
-/

namespace MatchVet.T05.Withdrawal

open MatchVet.Foundation.CanonicalJson (Hashing textHashing)
open MatchVet.Foundation.KeySort
open MatchVet.Foundation.Runtime
open MatchVet.Foundation.Timestamp
open MatchVet.T05.Records
open MatchVet.T05.Selection
open MatchVet.T05.Freeze
open MatchVet.T05.Cutoff
open MatchVet.T05.Appendix
open MatchVet.T05.Lifecycle
open Relation (ReflTransGen)

section Failures

variable [PyRuntime] {record : FreezeRecord} {conflicts : List ConflictAssertion}
  {candidate : RevisionCandidate} {originalKickoff : Option Instant}
  {review : Option PostCutoffValidityReview} {observedAt : Instant} {kind : AppendixEventKind}

/-- The kind of the event by which a revision of an INCLUDED fixture fails. -/
def failure (record : FreezeRecord) (originalKickoff : Option Instant)
    (candidate : RevisionCandidate) (review : Option PostCutoffValidityReview) :
    Option AppendixEventKind :=
  if currentStatus candidate = "POSTPONED" then some .postponed
  else if currentStatus candidate = "CANCELLED" then some .cancelled
  else if review.any (·.identityUnchanged = some false) then some .identityConflict
  else
    match candidate.kickoffUtc with
    | none => some .invalidPrematchTiming
    | some kickoff =>
        if kickoff ≤ record.cutoff.cutoffUtc then some .invalidPrematchTiming
        else if record.window.contains kickoff = false then some .movedOutsideWindow
        else if originalKickoff ≠ some kickoff ∧ review.any (·.passed) = false then
          some .sameWindowKickoffChange
        else none

/-- A failing revision is judged withdrawn by an event of its kind. -/
theorem judgeIncluded_of_failure
    (hfails : failure record originalKickoff candidate review = some kind) :
    (judgeIncluded record conflicts candidate originalKickoff review observedAt).disposition =
        .withdrawn ∧
      (judgeIncluded record conflicts candidate originalKickoff review observedAt).eventKind =
        kind := by
  unfold failure at hfails
  unfold judgeIncluded
  split at hfails
  next hpostponed =>
    rw [if_pos hpostponed]
    exact ⟨rfl, Option.some.inj hfails⟩
  next hpostponed =>
    rw [if_neg hpostponed]
    split at hfails
    next hcancelled =>
      rw [if_pos hcancelled]
      exact ⟨rfl, Option.some.inj hfails⟩
    next hcancelled =>
      rw [if_neg hcancelled]
      split at hfails
      next hidentity =>
        rw [if_pos hidentity]
        exact ⟨rfl, Option.some.inj hfails⟩
      next hidentity =>
        rw [if_neg hidentity]
        cases hkickoff : candidate.kickoffUtc with
        | none =>
            rw [hkickoff] at hfails
            exact ⟨rfl, Option.some.inj hfails⟩
        | some kickoff =>
            rw [hkickoff] at hfails
            dsimp only at hfails ⊢
            split at hfails
            next hbefore =>
              rw [if_pos hbefore]
              exact ⟨rfl, Option.some.inj hfails⟩
            next hbefore =>
              rw [if_neg hbefore]
              split at hfails
              next houtside =>
                rw [if_pos houtside]
                exact ⟨rfl, Option.some.inj hfails⟩
              next houtside =>
                rw [if_neg houtside]
                split at hfails
                next hmoved =>
                  rw [if_pos hmoved.1, if_neg (Bool.eq_false_iff.mp hmoved.2)]
                  exact ⟨rfl, Option.some.inj hfails⟩
                next => cases hfails

end Failures

section Calls

variable [PyRuntime] [Hashing] {start store next : Store} {request : AppendRequest}
  {freeze : MatchweekFreeze} {membership : FrozenMembership} {candidate : RevisionCandidate}
  {stored : PostCutoffFixtureAppendixEntry} {kind : AppendixEventKind}

/-- The revision that a call reads. -/
def namedRevision (store : Store) (request : AppendRequest) : Option RevisionCandidate :=
  (((fixtureCandidatesOf store request.season request.fixtureId).map
    (·.observedAtUtc)).max?).bind fun latest =>
      (requestedRevision request (loadRevisionCandidates store request.season)
        (fixtureCandidatesOf store request.season request.fixtureId)
        (request.asOfUtc.getD latest)).toOption

omit [Hashing] in
theorem namedRevision_fixture (hnamed : namedRevision store request = some candidate) :
    candidate.fixtureId = request.fixtureId := by
  obtain ⟨latest, -, hasked⟩ := Option.bind_eq_some_iff.mp hnamed
  unfold requestedRevision at hasked
  cases hrevision : request.revisionId with
  | none =>
      rw [hrevision] at hasked
      dsimp only at hasked
      cases hselected : selectRevision (fixtureCandidatesOf store request.season
          request.fixtureId) (request.asOfUtc.getD latest) with
      | none =>
          rw [hselected] at hasked
          cases hasked
      | some found =>
          rw [hselected] at hasked
          obtain rfl := Option.some.inj hasked
          have hmem := (selectRevision_mem hselected).1
          exact of_decide_eq_true (List.mem_filter.mp hmem).2
  | some revisionId =>
      rw [hrevision] at hasked
      dsimp only at hasked
      cases hfind : (loadRevisionCandidates store request.season).find?
          (·.revisionId = revisionId) with
      | none =>
          rw [hfind] at hasked
          cases hasked
      | some found =>
          rw [hfind] at hasked
          dsimp only at hasked
          split at hasked
          · cases hasked
          next hsame =>
            obtain rfl := Option.some.inj hasked
            exact not_not.mp hsame

omit [PyRuntime] [Hashing] in
/-- In a ledger the fixtures that are withdrawn are those with a row that withdraws. -/
theorem previouslyWithdrawn_iff_mem {matchweek fixtureId : String} (hledger : Ledger store)
    (hload : loadFreeze store matchweek = some freeze) :
    previouslyWithdrawn freeze fixtureId = true ↔ fixtureId ∈ freeze.withdrawnFixtureIds := by
  rw [previouslyWithdrawn, List.any_eq_true, mem_withdrawnFixtureIds]
  refine exists_congr fun entry => and_congr_right fun hentry => ?_
  rw [Bool.and_eq_true, decide_eq_true_eq, decide_eq_true_eq]
  constructor
  · rintro ⟨hsubject, hwithdrawn⟩
    rw [(loadFreeze_spec hload).2.2, (sortedOn_perm _ _).mem_iff] at hentry
    obtain ⟨record, -, hfits⟩ := hledger.fits entry (List.mem_of_mem_filter hentry)
    have hdecides : entry.disposition ≠ .appendixOnly := by
      rw [hwithdrawn]
      exact fun honly => by cases honly
    exact ⟨hwithdrawn, hfits.owner.mpr (hfits.decides.mp hdecides).1, hsubject⟩
  · rintro ⟨hwithdrawn, -, hsubject⟩
    exact ⟨hsubject, hwithdrawn⟩

/-- What a call for a failing revision of a fixture that is not withdrawn stores. -/
theorem append_failure (hledger : Ledger store)
    (hload : loadFreeze store (matchweekId request.season request.window) = some freeze)
    (hincluded : includedMembership freeze.toFreezeRecord request.fixtureId = some membership)
    (hnamed : namedRevision store request = some candidate)
    (hfails : failure freeze.toFreezeRecord membership.originalKickoffUtc candidate
      (suppliedReview request.validityReview request.identityUnchanged) = some kind)
    (hkept : request.fixtureId ∉ freeze.withdrawnFixtureIds)
    (happend : appendPostCutoffRevision store request = .ok (next, stored)) :
    ∃ entry, storeAppendixEntry store entry = .ok (next, stored) ∧
      entry.eventKey = eventKeyOf freeze.cutoff.matchweekId request.fixtureId
        candidate.revisionId kind ∧
      entry.matchweekId = freeze.cutoff.matchweekId ∧ entry.disposition = .withdrawn ∧
      entry.fixtureId.isSome = true ∧ entry.subjectId = request.fixtureId := by
  have hfixture := namedRevision_fixture hnamed
  obtain ⟨frozen, found, latest, hfrozen, hlatest, hfound, -, hstore⟩ :=
    appendPostCutoffRevision_ok happend
  obtain rfl := Option.some.inj (hload.symm.trans hfrozen)
  obtain rfl : found = candidate := by
    unfold namedRevision at hnamed
    rw [hlatest, Option.bind_some, hfound] at hnamed
    exact Option.some.inj hnamed
  have hunflagged : previouslyWithdrawn freeze found.fixtureId = false := by
    rw [hfixture]
    exact Bool.eq_false_iff.mpr (mt (previouslyWithdrawn_iff_mem hledger hload).mp hkept)
  rw [← hfixture] at hincluded ⊢
  refine ⟨_, hstore, ?_, rfl, ?_, rfl, rfl⟩
  · unfold postCutoffEntry appendixEntry judge
    dsimp only
    rw [show (membershipOf freeze.toFreezeRecord found.fixtureId).filter isIncluded =
      some membership from hincluded, hunflagged]
    dsimp only
    rw [if_neg Bool.false_ne_true, (judgeIncluded_of_failure hfails).2]
  · unfold postCutoffEntry appendixEntry judge
    dsimp only
    rw [show (membershipOf freeze.toFreezeRecord found.fixtureId).filter isIncluded =
      some membership from hincluded, hunflagged]
    dsimp only
    rw [if_neg Bool.false_ne_true]
    exact (judgeIncluded_of_failure hfails).1

end Calls

/-! ## A cancellation -/

section Cancellation

local instance : PyRuntime := plainRuntime

local instance : Hashing := textHashing

theorem cancelledEvening_run : ReflTransGen Step eveningStore cancelledEvening :=
  (ReflTransGen.single frozenEvening_step).tail (Step.observe _ _ _ _)

theorem cancelledEvening_unwritten (key : String) :
    appendixRowForEvent cancelledEvening key = none := by
  have hempty : cancelledEvening.appendix = [] := by decide
  unfold appendixRowForEvent
  rw [hempty]
  rfl

theorem failure_cancelled (record : FreezeRecord) (originalKickoff : Option Instant) :
    failure record originalKickoff cancelledRevision none = some .cancelled := by
  unfold failure
  rw [if_neg (by decide), if_pos (by decide +kernel)]

end Cancellation

end MatchVet.T05.Withdrawal
