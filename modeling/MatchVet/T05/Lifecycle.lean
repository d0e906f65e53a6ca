import MatchVet.Foundation.AppendOnly
import MatchVet.T05.Appendix
import MatchVet.T05.Cutoff

/-!
# The life of a frozen Matchweek

Evidence changes freely, Matchweeks are frozen, and rows are appended.  Every step is
made of changes that add one frozen record or one row, so a record never changes, a row
never goes, and no row restores a fixture that an earlier row withdrew.
-/

namespace MatchVet.T05.Lifecycle

open MatchVet.Foundation.AppendOnly
open MatchVet.Foundation.CanonicalJson (Hashing textHashing)
open MatchVet.Foundation.KeySort
open MatchVet.Foundation.Runtime
open MatchVet.Foundation.Timestamp
open MatchVet.T05.Records
open MatchVet.T05.Selection
open MatchVet.T05.Freeze
open MatchVet.T05.Cutoff
open MatchVet.T05.Appendix
open Relation (ReflTransGen)

/-! ## What a judgement says -/

section Judgements

variable [PyRuntime] {record : FreezeRecord} {conflicts : List ConflictAssertion}
  {candidate : RevisionCandidate} {originalKickoff : Option Instant}
  {review : Option PostCutoffValidityReview} {observedAt : Instant}

/-- What keeps a decision: a kickoff after the cutoff and inside the window that is the
original one or passed its review, under an identity that nothing contests. -/
structure Kept (record : FreezeRecord) (originalKickoff currentKickoff : Option Instant)
    (review : PostCutoffValidityReview) : Prop where
  timely : ∃ kickoff, currentKickoff = some kickoff ∧ record.cutoff.cutoffUtc < kickoff ∧
    record.window.contains kickoff = true ∧
    (originalKickoff = some kickoff ∨ review.passed = true)
  identity : review.identityUnchanged ≠ some false

/-- What withdraws a decision, by the kind of the event. -/
def Withdraws (record : FreezeRecord) (originalKickoff currentKickoff : Option Instant)
    (review : PostCutoffValidityReview) : AppendixEventKind → Prop
  | .postponed | .cancelled => True
  | .identityConflict => review.identityUnchanged = some false
  | .invalidPrematchTiming =>
      ∀ kickoff, currentKickoff = some kickoff → kickoff ≤ record.cutoff.cutoffUtc
  | .movedOutsideWindow =>
      ∃ kickoff, currentKickoff = some kickoff ∧ record.window.contains kickoff = false
  | .sameWindowKickoffChange =>
      ∃ kickoff, currentKickoff = some kickoff ∧ record.window.contains kickoff = true ∧
        originalKickoff ≠ some kickoff
  | _ => False

/-- A revision of an INCLUDED fixture that no row withdrew is kept or withdrawn for a cause. -/
theorem judgeIncluded_cases :
    ((judgeIncluded record conflicts candidate originalKickoff review observedAt).disposition =
        .preserved ∧
      Kept record originalKickoff candidate.kickoffUtc
        (review.getD .defaultReviewForUnchangedFixture)) ∨
    ((judgeIncluded record conflicts candidate originalKickoff review observedAt).disposition =
        .withdrawn ∧
      Withdraws record originalKickoff candidate.kickoffUtc
        (review.getD .defaultReviewForUnchangedFixture)
        (judgeIncluded record conflicts candidate originalKickoff review observedAt).eventKind) := by
  have hunset : ¬review.any (·.identityUnchanged = some false) = true →
      (review.getD .defaultReviewForUnchangedFixture).identityUnchanged ≠ some false := by
    intro hnone
    cases review with
    | none => exact fun hfalse => by cases hfalse
    | some supplied => exact fun hfalse => hnone (decide_eq_true hfalse)
  unfold judgeIncluded
  split
  next => exact Or.inr ⟨rfl, trivial⟩
  next =>
    split
    next => exact Or.inr ⟨rfl, trivial⟩
    next =>
      split
      next hidentity =>
        obtain ⟨supplied, rfl, hfalse⟩ := (Option.any_eq_true _ _).mp hidentity
        have hchanged : supplied.identityUnchanged = some false := of_decide_eq_true hfalse
        exact Or.inr ⟨rfl, hchanged⟩
      next hidentity =>
        cases hkickoff : candidate.kickoffUtc with
        | none => exact Or.inr ⟨rfl, fun kickoff hsome => by cases hsome⟩
        | some kickoff =>
            dsimp only
            split
            next hbefore =>
              refine Or.inr ⟨rfl, fun other hother => ?_⟩
              rwa [← Option.some.inj hother]
            next hbefore =>
              split
              next houtside => exact Or.inr ⟨rfl, kickoff, rfl, houtside⟩
              next hinside =>
                have hwindow := Bool.eq_true_of_not_eq_false hinside
                split
                next hmoved =>
                  split
                  next hpassed =>
                    obtain ⟨supplied, rfl, hpassed⟩ := (Option.any_eq_true _ _).mp hpassed
                    exact Or.inl ⟨rfl, ⟨kickoff, rfl, not_le.mp hbefore, hwindow, Or.inr hpassed⟩,
                      hunset hidentity⟩
                  next => exact Or.inr ⟨rfl, kickoff, rfl, hwindow, hmoved⟩
                next hsame =>
                  have hkept : Kept record originalKickoff (some kickoff)
                      (review.getD .defaultReviewForUnchangedFixture) :=
                    ⟨⟨kickoff, rfl, not_le.mp hbefore, hwindow, Or.inl (not_not.mp hsame)⟩,
                      hunset hidentity⟩
                  split
                  next => exact Or.inl ⟨rfl, hkept⟩
                  next => exact Or.inl ⟨rfl, hkept⟩

end Judgements

/-! ## Rows that fit their record -/

/-- The INCLUDED membership that a freeze gave to a fixture. -/
def includedMembership (record : FreezeRecord) (fixtureId : String) : Option FrozenMembership :=
  (membershipOf record fixtureId).filter isIncluded

/-- A row was learned after the cutoff of its record; only a row of an INCLUDED fixture
decides, and what keeps the decision stands in the row. -/
structure Fits (record : FreezeRecord) (entry : PostCutoffFixtureAppendixEntry) : Prop where
  matchweek : entry.matchweekId = record.cutoff.matchweekId
  late : record.cutoff.cutoffUtc < entry.observedAtUtc
  owner : entry.fixtureId.isSome = true ↔ entry.subjectKind = .fixture
  decides : entry.disposition ≠ .appendixOnly ↔
    entry.subjectKind = .fixture ∧ (includedMembership record entry.subjectId).isSome = true
  preserved : entry.disposition = .preserved →
    Kept record entry.originalKickoffUtc entry.currentKickoffUtc entry.validityReview

/-- A row that withdraws its fixture for a cause of its own. -/
def HasCause (record : FreezeRecord) (entry : PostCutoffFixtureAppendixEntry) : Prop :=
  Withdraws record entry.originalKickoffUtc entry.currentKickoffUtc entry.validityReview
    entry.eventKind

/-- An earlier row withdrew the fixture of a row. -/
def WithdrawnBefore (before : List PostCutoffFixtureAppendixEntry)
    (entry : PostCutoffFixtureAppendixEntry) : Prop :=
  ∃ first ∈ before, first.disposition = .withdrawn ∧
    first.matchweekId = entry.matchweekId ∧ first.subjectId = entry.subjectId

section Entries

variable [PyRuntime] [Hashing] {store : Store} {matchweek : String} {freeze : MatchweekFreeze}

omit [PyRuntime] [Hashing] in
theorem loadFreeze_spec (hload : loadFreeze store matchweek = some freeze) :
    freeze.toFreezeRecord ∈ store.freezes ∧ freeze.cutoff.matchweekId = matchweek ∧
      freeze.appendix = sortedOn appendixKey (store.appendix.filter (·.matchweekId = matchweek)) := by
  obtain ⟨record, hfind, rfl⟩ := Option.map_eq_some_iff.mp hload
  have hkey : record.cutoff.matchweekId = matchweek := by simpa using List.find?_some hfind
  exact ⟨List.mem_of_find?_eq_some hfind, hkey, rfl⟩

omit [PyRuntime] [Hashing] in
theorem previouslyWithdrawn_iff (hload : loadFreeze store matchweek = some freeze)
    {fixtureId : String} :
    previouslyWithdrawn freeze fixtureId = true ↔
      ∃ first ∈ store.appendix, first.matchweekId = matchweek ∧ first.subjectId = fixtureId ∧
        first.disposition = .withdrawn := by
  rw [previouslyWithdrawn, (loadFreeze_spec hload).2.2, List.any_eq_true]
  simp only [(sortedOn_perm _ _).mem_iff, List.mem_filter, Bool.and_eq_true, decide_eq_true_eq,
    and_assoc]

omit [PyRuntime] [Hashing] in
theorem checkPostCutoff_ok {candidate : RevisionCandidate} {cutoff asOf : Instant}
    (hcheck : checkPostCutoff candidate cutoff asOf = .ok ()) :
    cutoff < postCutoffObservation candidate cutoff asOf := by
  unfold checkPostCutoff at hcheck
  split at hcheck
  · cases hcheck
  · split at hcheck
    · cases hcheck
    next hlate =>
      unfold postCutoffObservation
      cases hleast : ((postCutoffSupports candidate cutoff asOf).map (·.retrievedAtUtc)).min? with
      | none =>
          have hnone := List.map_eq_nil_iff.mp (List.min?_eq_none_iff.mp hleast)
          exact not_le.mp fun hobserved => hlate ⟨hnone, hobserved⟩
      | some least =>
          obtain ⟨support, hsupport, rfl⟩ := List.mem_map.mp (List.min?_mem hleast)
          have hkept := (List.mem_filter.mp hsupport).2
          exact of_decide_eq_true (Bool.and_eq_true_iff.mp hkept).1

variable {conflicts : List ConflictAssertion} {fixtureCandidates : List RevisionCandidate}
  {candidate : RevisionCandidate} {review : Option PostCutoffValidityReview}
  {observedAt asOf : Instant} {record : FreezeRecord} {withdrawn : Bool}

omit [Hashing] in
/-- The three ways a revision is judged. -/
theorem judge_cases :
    (includedMembership record candidate.fixtureId = none ∧
      (judge conflicts record withdrawn fixtureCandidates candidate review observedAt).1.disposition =
        .appendixOnly) ∨
    ∃ membership, includedMembership record candidate.fixtureId =
        some membership ∧
      ((withdrawn = true ∧
        (judge conflicts record withdrawn fixtureCandidates candidate review observedAt).1.disposition =
          .withdrawn) ∨
      ((judge conflicts record withdrawn fixtureCandidates candidate review observedAt).1.disposition =
          .preserved ∧ withdrawn = false ∧
        Kept record membership.originalKickoffUtc candidate.kickoffUtc
          (judge conflicts record withdrawn fixtureCandidates candidate review observedAt).2) ∨
      ((judge conflicts record withdrawn fixtureCandidates candidate review observedAt).1.disposition =
          .withdrawn ∧
        Withdraws record membership.originalKickoffUtc candidate.kickoffUtc
          (judge conflicts record withdrawn fixtureCandidates candidate review observedAt).2
          (judge conflicts record withdrawn fixtureCandidates candidate review observedAt).1.eventKind)) := by
  unfold judge includedMembership
  cases (membershipOf record candidate.fixtureId).filter isIncluded with
  | none =>
      refine Or.inl ⟨rfl, ?_⟩
      dsimp only
      unfold judgeOther
      split
      · rfl
      · rfl
  | some membership =>
      refine Or.inr ⟨membership, rfl, ?_⟩
      dsimp only
      cases withdrawn with
      | true => exact Or.inl ⟨rfl, rfl⟩
      | false =>
          rw [if_neg Bool.false_ne_true]
          rcases judgeIncluded_cases with ⟨hpreserved, hkept⟩ | ⟨hdisposition, hcause⟩
          · exact Or.inr (Or.inl ⟨hpreserved, rfl, hkept⟩)
          · exact Or.inr (Or.inr ⟨hdisposition, hcause⟩)

omit [PyRuntime] [Hashing] in
theorem membershipOf_of_included {fixtureId : String}
    {membership : FrozenMembership}
    (hincluded : includedMembership record fixtureId = some membership) :
    membershipOf record fixtureId = some membership :=
  (Option.filter_eq_some_iff.mp hincluded).1

/-- The row of a revision fits the record of its Matchweek. -/
theorem postCutoffEntry_fits
    (hcheck : checkPostCutoff candidate record.cutoff.cutoffUtc asOf = .ok ()) :
    Fits record
      (postCutoffEntry conflicts record fixtureCandidates candidate review asOf withdrawn) := by
  have hlate := checkPostCutoff_ok hcheck
  rcases @judge_cases _ conflicts fixtureCandidates candidate review
      (postCutoffObservation candidate record.cutoff.cutoffUtc asOf) record withdrawn with
    ⟨hnone, hdisposition⟩ | ⟨membership, hincluded, hcases⟩
  · refine ⟨rfl, hlate, iff_of_true rfl rfl, iff_of_false (not_not.mpr hdisposition) fun hboth => ?_, fun hkept => ?_⟩
    · have hsome := hboth.2
      change (includedMembership record candidate.fixtureId).isSome = true at hsome
      rw [hnone] at hsome
      cases hsome
    · have hpreserved := hdisposition.symm.trans hkept
      cases hpreserved
  · have hsome : (includedMembership record candidate.fixtureId).isSome = true := by
      rw [hincluded, Option.isSome_some]
    have hkickoff : (membershipOf record candidate.fixtureId).bind
        (·.originalKickoffUtc) = membership.originalKickoffUtc := by
      rw [membershipOf_of_included hincluded, Option.bind_some]
    rcases hcases with ⟨-, hdisposition⟩ | ⟨hdisposition, -, hkept⟩ | ⟨hdisposition, -⟩
    · refine ⟨rfl, hlate, iff_of_true rfl rfl, iff_of_true (fun honly => ?_) ⟨rfl, hsome⟩, fun hkept => ?_⟩
      · cases hdisposition.symm.trans honly
      · cases hdisposition.symm.trans hkept
    · refine ⟨rfl, hlate, iff_of_true rfl rfl, iff_of_true (fun honly => ?_) ⟨rfl, hsome⟩, fun _ => ?_⟩
      · cases hdisposition.symm.trans honly
      · rw [← hkickoff] at hkept
        exact hkept
    · refine ⟨rfl, hlate, iff_of_true rfl rfl, iff_of_true (fun honly => ?_) ⟨rfl, hsome⟩, fun hkept => ?_⟩
      · cases hdisposition.symm.trans honly
      · cases hdisposition.symm.trans hkept

/-- A row that withdraws its fixture has a cause, or follows a row that withdrew it. -/
theorem postCutoffEntry_withdrawn
    (hdisposition : (postCutoffEntry conflicts record fixtureCandidates candidate review
      asOf withdrawn).disposition = .withdrawn) :
    HasCause record
        (postCutoffEntry conflicts record fixtureCandidates candidate review asOf withdrawn) ∨
      withdrawn = true := by
  rcases @judge_cases _ conflicts fixtureCandidates candidate review
      (postCutoffObservation candidate record.cutoff.cutoffUtc asOf) record withdrawn with
    ⟨-, honly⟩ | ⟨membership, hincluded, ⟨hwithdrawn, -⟩ | ⟨hpreserved, -⟩ | ⟨-, hcause⟩⟩
  · cases hdisposition.symm.trans honly
  · exact Or.inr hwithdrawn
  · cases hdisposition.symm.trans hpreserved
  · have hkickoff : (membershipOf record candidate.fixtureId).bind
        (·.originalKickoffUtc) = membership.originalKickoffUtc := by
      rw [membershipOf_of_included hincluded, Option.bind_some]
    rw [← hkickoff] at hcause
    exact Or.inl hcause

/-- No row preserves a fixture that an earlier row withdrew. -/
theorem postCutoffEntry_not_preserved
    (hwithdrawn : withdrawn = true) :
    (postCutoffEntry conflicts record fixtureCandidates candidate review asOf withdrawn).disposition ≠
      .preserved := by
  intro hpreserved
  rcases @judge_cases _ conflicts fixtureCandidates candidate review
      (postCutoffObservation candidate record.cutoff.cutoffUtc asOf) record withdrawn with
    ⟨-, hother⟩ | ⟨_, -, ⟨-, hother⟩ | ⟨-, hnever, -⟩ | ⟨hother, -⟩⟩
  · cases hpreserved.symm.trans hother
  · cases hpreserved.symm.trans hother
  · rw [hwithdrawn] at hnever
    cases hnever
  · cases hpreserved.symm.trans hother

end Entries

/-! ## Changes of a store -/

section Changes

variable [PyRuntime] [Hashing]

/-- A row that an append may write. -/
inductive Appendable (store : Store) : PostCutoffFixtureAppendixEntry → Prop where
  | revision {matchweek : String} {freeze : MatchweekFreeze}
      {fixtureCandidates : List RevisionCandidate} {candidate : RevisionCandidate}
      {review : Option PostCutoffValidityReview} {asOf : Instant}
      (hload : loadFreeze store matchweek = some freeze)
      (hcheck : checkPostCutoff candidate freeze.cutoff.cutoffUtc asOf = .ok ()) :
      Appendable store
        (postCutoffEntry store.conflicts freeze.toFreezeRecord fixtureCandidates candidate review
          asOf (previouslyWithdrawn freeze candidate.fixtureId))
  | unresolved {record : FreezeRecord} {row : UnresolvedFixture}
      (hrecord : record ∈ store.freezes) (hlate : record.cutoff.cutoffUtc < row.observedAtUtc) :
      Appendable store (unresolvedAppendixEntry record row)

/-- Evidence changes, one Matchweek is frozen, or one row is written. -/
inductive Change : Store → Store → Prop where
  | observe (store : Store) (revisions : List RevisionCandidate)
      (unresolvedRows : List UnresolvedFixture) (conflicts : List ConflictAssertion) :
      Change store { store with
        revisions := revisions, unresolvedRows := unresolvedRows, conflicts := conflicts }
  | freeze {store : Store} {record : FreezeRecord}
      (hunfrozen : loadFreeze store record.cutoff.matchweekId = none) (hsound : Sound record) :
      Change store { store with freezes := store.freezes ++ [record] }
  | row {store : Store} {entry : PostCutoffFixtureAppendixEntry}
      (happendable : Appendable store entry)
      (hkey : appendixRowForEvent store entry.eventKey = none)
      (hid : entry.appendixId ∉ store.appendix.map (·.appendixId)) :
      Change store { store with appendix := store.appendix ++ [entry] }

/-- The calls that T05 offers, and the changes of evidence between them. -/
inductive Step : Store → Store → Prop where
  | observe (store : Store) (revisions : List RevisionCandidate)
      (unresolvedRows : List UnresolvedFixture) (conflicts : List ConflictAssertion) :
      Step store { store with
        revisions := revisions, unresolvedRows := unresolvedRows, conflicts := conflicts }
  | freeze {store next : Store} {request : FreezeRequest} {freeze : MatchweekFreeze}
      (hfreeze : freezeMatchweek store request = .ok (next, freeze)) : Step store next
  | append {store next : Store} {request : AppendRequest}
      {entry : PostCutoffFixtureAppendixEntry}
      (happend : appendPostCutoffRevision store request = .ok (next, entry)) : Step store next
  | changes (store : Store) (request : ChangesRequest) :
      Step store (appendPostCutoffChanges store request).1

/-! ## Steps are made of changes -/

variable {store next : Store} {entry stored : PostCutoffFixtureAppendixEntry}

omit [PyRuntime] [Hashing] in
theorem storeAppendixEntry_cases (hstore : storeAppendixEntry store entry = .ok (next, stored)) :
    (next = store ∧ appendixRowForEvent store entry.eventKey = some stored) ∨
      (appendixRowForEvent store entry.eventKey = none ∧
        entry.appendixId ∉ store.appendix.map (·.appendixId) ∧
        next = { store with appendix := store.appendix ++ [entry] } ∧ stored = entry) := by
  unfold storeAppendixEntry at hstore
  cases hrow : appendixRowForEvent store entry.eventKey with
  | some existing =>
      rw [hrow] at hstore
      dsimp only at hstore
      cases hstore
      exact Or.inl ⟨rfl, rfl⟩
  | none =>
      rw [hrow] at hstore
      dsimp only at hstore
      split at hstore
      · cases hstore
      next hid =>
        cases hstore
        exact Or.inr ⟨rfl, hid, rfl, rfl⟩

theorem storeAppendixEntry_changes (happendable : Appendable store entry)
    (hstore : storeAppendixEntry store entry = .ok (next, stored)) :
    ReflTransGen Change store next ∧ next.freezes = store.freezes := by
  rcases storeAppendixEntry_cases hstore with ⟨rfl, -⟩ | ⟨hkey, hid, rfl, -⟩
  · exact ⟨ReflTransGen.refl, rfl⟩
  · exact ⟨ReflTransGen.single (Change.row happendable hkey hid), rfl⟩

omit [PyRuntime] in
theorem readFrozenMatchweek_ok {window : MatchweekWindow} {season : String}
    {freeze : MatchweekFreeze} (hread : readFrozenMatchweek store window season = .ok freeze) :
    loadFreeze store (matchweekId season window) = some freeze := by
  unfold readFrozenMatchweek at hread
  cases hload : loadFreeze store (matchweekId season window) with
  | none =>
      rw [hload] at hread
      cases hread
  | some loaded =>
      rw [hload] at hread
      exact congrArg some (Except.ok.inj hread)

/-- What a call that appends one revision did. -/
theorem appendPostCutoffRevision_ok {request : AppendRequest}
    (happend : appendPostCutoffRevision store request = .ok (next, stored)) :
    ∃ freeze candidate latest,
      loadFreeze store (matchweekId request.season request.window) = some freeze ∧
      ((fixtureCandidatesOf store request.season request.fixtureId).map
        (·.observedAtUtc)).max? = some latest ∧
      requestedRevision request (loadRevisionCandidates store request.season)
        (fixtureCandidatesOf store request.season request.fixtureId)
        (request.asOfUtc.getD latest) = .ok candidate ∧
      checkPostCutoff candidate freeze.cutoff.cutoffUtc (request.asOfUtc.getD latest) = .ok () ∧
      storeAppendixEntry store (postCutoffEntry store.conflicts freeze.toFreezeRecord
        (fixtureCandidatesOf store request.season request.fixtureId) candidate
        (suppliedReview request.validityReview request.identityUnchanged)
        (request.asOfUtc.getD latest) (previouslyWithdrawn freeze candidate.fixtureId)) =
          .ok (next, stored) := by
  unfold appendPostCutoffRevision at happend
  obtain ⟨freeze, hread, happend⟩ := bind_eq_ok.mp happend
  dsimp only at happend
  cases hlatest : ((fixtureCandidatesOf store request.season request.fixtureId).map
      (·.observedAtUtc)).max? with
  | none =>
      rw [hlatest] at happend
      cases happend
  | some latest =>
      rw [hlatest] at happend
      dsimp only at happend
      obtain ⟨candidate, hcandidate, happend⟩ := bind_eq_ok.mp happend
      obtain ⟨_, hcheck, happend⟩ := bind_eq_ok.mp happend
      exact ⟨freeze, candidate, latest, readFrozenMatchweek_ok hread, rfl, hcandidate, hcheck,
        happend⟩

theorem appendPostCutoffRevision_changes {request : AppendRequest}
    (happend : appendPostCutoffRevision store request = .ok (next, stored)) :
    ReflTransGen Change store next ∧ next.freezes = store.freezes := by
  obtain ⟨freeze, candidate, latest, hload, -, -, hcheck, hstore⟩ :=
    appendPostCutoffRevision_ok happend
  exact storeAppendixEntry_changes (Appendable.revision hload hcheck) hstore

/-- Appends of items, each made of changes that leave the frozen records. -/
theorem appendEach_changes {α : Type} {freezes : List FreezeRecord}
    {append : Store → α → Except Fault (Store × PostCutoffFixtureAppendixEntry)} {items : List α}
    (happend : ∀ item ∈ items, ∀ current after entry, current.freezes = freezes →
      append current item = .ok (after, entry) →
        ReflTransGen Change current after ∧ after.freezes = current.freezes)
    (hfreezes : store.freezes = freezes) :
    ReflTransGen Change store (appendEach append store items).1 ∧
      (appendEach append store items).1.freezes = freezes := by
  induction items generalizing store with
  | nil => exact ⟨ReflTransGen.refl, hfreezes⟩
  | cons item rest ih =>
      rw [appendEach]
      cases hitem : append store item with
      | error fault => exact ⟨ReflTransGen.refl, hfreezes⟩
      | ok result =>
          obtain ⟨after, entry⟩ := result
          obtain ⟨hfirst, hkept⟩ := happend item List.mem_cons_self store after entry hfreezes hitem
          obtain ⟨hrest, hlast⟩ := ih
            (fun other hother => happend other (List.mem_cons_of_mem item hother))
            (hkept.trans hfreezes)
          exact ⟨hfirst.trans hrest, hlast⟩

theorem appendPostCutoffChanges_changes (store : Store) (request : ChangesRequest) :
    ReflTransGen Change store (appendPostCutoffChanges store request).1 := by
  unfold appendPostCutoffChanges
  cases hread : readFrozenMatchweek store request.window request.season with
  | error fault => exact ReflTransGen.refl
  | ok freeze =>
      dsimp only
      have hrevised := @appendEach_changes _ _ store _ store.freezes
        (fun current candidate => appendPostCutoffRevision current (changeRequest request
          (changesTime store request freeze.cutoff.cutoffUtc) candidate))
        (changedRevisions store request.season freeze.cutoff.cutoffUtc
          (changesTime store request freeze.cutoff.cutoffUtc))
        (fun _ _ _ _ _ _ happend => appendPostCutoffRevision_changes happend) rfl
      cases hevents : (appendEach
          (fun current candidate => appendPostCutoffRevision current (changeRequest request
            (changesTime store request freeze.cutoff.cutoffUtc) candidate)) store
          (changedRevisions store request.season freeze.cutoff.cutoffUtc
            (changesTime store request freeze.cutoff.cutoffUtc))).2 with
      | error fault => exact hrevised.1
      | ok events =>
          have hfrozen := (loadFreeze_spec (readFrozenMatchweek_ok hread)).1
          refine hrevised.1.trans (appendEach_changes (fun row hrow current after entry hfreezes
            hstore => ?_) hrevised.2).1
          have hlate := (Bool.and_eq_true_iff.mp (List.mem_filter.mp hrow).2).1
          exact storeAppendixEntry_changes
            (Appendable.unresolved (hfreezes ▸ hfrozen) (of_decide_eq_true hlate)) hstore

theorem freezeMatchweek_changes {request : FreezeRequest} {freeze : MatchweekFreeze}
    (hfreeze : freezeMatchweek store request = .ok (next, freeze)) :
    ReflTransGen Change store next := by
  cases hload : loadFreeze store request.matchweekId with
  | some existing =>
      unfold freezeMatchweek at hfreeze
      rw [hload] at hfreeze
      cases hfreeze
      exact ReflTransGen.refl
  | none =>
      obtain ⟨record, hrecord, rfl, -⟩ := (freezeMatchweek_ok_iff hload).mp hfreeze
      refine ReflTransGen.single (Change.freeze ?_ (freezeRecord_sound hrecord))
      rw [freezeRecord_matchweekId hrecord]
      exact hload

theorem Step.changes_of (hstep : Step store next) : ReflTransGen Change store next := by
  cases hstep with
  | observe => exact ReflTransGen.single (Change.observe _ _ _ _)
  | freeze hfreeze => exact freezeMatchweek_changes hfreeze
  | append happend => exact (appendPostCutoffRevision_changes happend).1
  | changes => exact appendPostCutoffChanges_changes _ _

theorem changes_of_steps (hsteps : ReflTransGen Step store next) :
    ReflTransGen Change store next := by
  induction hsteps with
  | refl => exact ReflTransGen.refl
  | tail _ hstep ih => exact ih.trans hstep.changes_of

end Changes

/-! ## The ledger -/

/-- What holds of the frozen records and the rows of every store. -/
structure Ledger (store : Store) : Prop where
  /-- A Matchweek is frozen once. -/
  frozenOnce : (store.freezes.map (·.cutoff.matchweekId)).Nodup
  /-- Every record gives its Target Matches the lead time. -/
  sound : ∀ record ∈ store.freezes, Sound record
  /-- An event has one row, and a row its own identifier. -/
  eventKeys : (store.appendix.map (·.eventKey)).Nodup
  identifiers : (store.appendix.map (·.appendixId)).Nodup
  /-- A row fits the record of its Matchweek. -/
  fits : ∀ entry ∈ store.appendix, ∃ record ∈ store.freezes, Fits record entry
  /-- A row that withdraws its fixture has a cause, or an earlier row withdrew it. -/
  causes : EachRow (fun before entry => entry.disposition = .withdrawn →
    (∃ record ∈ store.freezes, Fits record entry ∧ HasCause record entry) ∨
      WithdrawnBefore before entry) store.appendix
  /-- No row preserves what an earlier row withdrew. -/
  final : EachRow (fun before entry => WithdrawnBefore before entry →
    entry.disposition ≠ .preserved) store.appendix

section Runs

variable [PyRuntime] [Hashing] {store later : Store} {entry : PostCutoffFixtureAppendixEntry}

omit [PyRuntime] [Hashing] in
theorem ledger_empty (hfreezes : store.freezes = []) (happendix : store.appendix = []) :
    Ledger store where
  frozenOnce := by rw [hfreezes]; exact List.nodup_nil
  sound := by simp [hfreezes]
  eventKeys := by rw [happendix]; exact List.nodup_nil
  identifiers := by rw [happendix]; exact List.nodup_nil
  fits := by simp [happendix]
  causes := by rw [happendix]; exact eachRow_nil
  final := by rw [happendix]; exact eachRow_nil

theorem Appendable.fits (happendable : Appendable store entry) :
    ∃ record ∈ store.freezes, Fits record entry := by
  cases happendable with
  | revision hload hcheck => exact ⟨_, (loadFreeze_spec hload).1, postCutoffEntry_fits hcheck⟩
  | unresolved hrecord hlate =>
      refine ⟨_, hrecord, rfl, hlate, iff_of_false (fun hsome => by cases hsome)
        (fun hkind => by cases hkind), iff_of_false (not_not.mpr rfl) fun hboth => ?_,
        fun hpreserved => ?_⟩
      · cases hboth.1
      · cases hpreserved

theorem Appendable.causes (happendable : Appendable store entry)
    (hwithdrawn : entry.disposition = .withdrawn) :
    (∃ record ∈ store.freezes, Fits record entry ∧ HasCause record entry) ∨
      WithdrawnBefore store.appendix entry := by
  cases happendable with
  | revision hload hcheck =>
      obtain ⟨hfrozen, hmatchweek, -⟩ := loadFreeze_spec hload
      rcases postCutoffEntry_withdrawn hwithdrawn with hcause | hprevious
      · exact Or.inl ⟨_, hfrozen, postCutoffEntry_fits hcheck, hcause⟩
      · obtain ⟨first, hfirst, hsame, hsubject, hdisposition⟩ :=
          (previouslyWithdrawn_iff hload).mp hprevious
        exact Or.inr ⟨first, hfirst, hdisposition, hsame.trans hmatchweek.symm, hsubject⟩
  | unresolved => cases hwithdrawn

theorem Appendable.final (happendable : Appendable store entry)
    (hearlier : WithdrawnBefore store.appendix entry) : entry.disposition ≠ .preserved := by
  cases happendable with
  | revision hload hcheck =>
      obtain ⟨first, hfirst, hdisposition, hsame, hsubject⟩ := hearlier
      obtain ⟨-, hmatchweek, -⟩ := loadFreeze_spec hload
      exact postCutoffEntry_not_preserved ((previouslyWithdrawn_iff hload).mpr
        ⟨first, hfirst, hsame.trans hmatchweek, hsubject, hdisposition⟩)
  | unresolved => exact fun hpreserved => by cases hpreserved

omit [PyRuntime] [Hashing] in
theorem nodup_concat {α β : Type} {key : α → β} {rows : List α} {last : α}
    (hnodup : (rows.map key).Nodup) (hlast : key last ∉ rows.map key) :
    ((rows ++ [last]).map key).Nodup := by
  rw [List.map_append]
  refine hnodup.append (List.nodup_singleton _) fun name hname hsingle => ?_
  rw [List.map_singleton, List.mem_singleton] at hsingle
  exact hlast (hsingle ▸ hname)

omit [PyRuntime] [Hashing] in
theorem notMem_of_loadFreeze {matchweek : String} (hload : loadFreeze store matchweek = none) :
    matchweek ∉ store.freezes.map (·.cutoff.matchweekId) := by
  intro hmem
  obtain ⟨record, hrecord, hkey⟩ := List.mem_map.mp hmem
  have hnone := List.find?_eq_none.mp (Option.map_eq_none_iff.mp hload) record hrecord
  exact hnone (decide_eq_true hkey)

omit [PyRuntime] [Hashing] in
theorem notMem_of_appendixRowForEvent {key : String}
    (hrow : appendixRowForEvent store key = none) :
    key ∉ store.appendix.map (·.eventKey) := by
  intro hmem
  obtain ⟨row, hrow', hkey⟩ := List.mem_map.mp hmem
  exact List.find?_eq_none.mp hrow row hrow' (decide_eq_true hkey)

/-- Every change keeps the ledger. -/
theorem Change.ledger (hchange : Change store later) (hledger : Ledger store) : Ledger later := by
  cases hchange with
  | observe => exact ⟨hledger.1, hledger.2, hledger.3, hledger.4, hledger.5, hledger.6, hledger.7⟩
  | freeze hunfrozen hsound =>
      refine ⟨nodup_concat hledger.frozenOnce (notMem_of_loadFreeze hunfrozen), ?_,
        hledger.eventKeys, hledger.identifiers, fun entry hentry => ?_, ?_, hledger.final⟩
      · intro record hrecord
        rcases List.mem_append.mp hrecord with hold | hnew
        · exact hledger.sound record hold
        · rwa [List.mem_singleton.mp hnew]
      · obtain ⟨record, hrecord, hfits⟩ := hledger.fits entry hentry
        exact ⟨record, List.mem_append_left _ hrecord, hfits⟩
      · refine hledger.causes.mono fun before entry _ hcauses hwithdrawn => ?_
        refine (hcauses hwithdrawn).imp_left ?_
        rintro ⟨record, hrecord, hcause⟩
        exact ⟨record, List.mem_append_left _ hrecord, hcause⟩
  | row happendable hkey hid =>
      refine ⟨hledger.frozenOnce, hledger.sound,
        nodup_concat hledger.eventKeys (notMem_of_appendixRowForEvent hkey),
        nodup_concat hledger.identifiers hid, fun entry hentry => ?_,
        hledger.causes.concat happendable.causes, hledger.final.concat happendable.final⟩
      rcases List.mem_append.mp hentry with hold | hnew
      · exact hledger.fits entry hold
      · rw [List.mem_singleton.mp hnew]
        exact happendable.fits

theorem ledger_of_changes (hchanges : ReflTransGen Change store later) (hledger : Ledger store) :
    Ledger later := by
  induction hchanges with
  | refl => exact hledger
  | tail _ hchange ih => exact hchange.ledger ih

/-- Every run that starts without frozen Matchweeks keeps the ledger. -/
theorem run_ledger (hsteps : ReflTransGen Step store later) (hfreezes : store.freezes = [])
    (happendix : store.appendix = []) : Ledger later :=
  ledger_of_changes (changes_of_steps hsteps) (ledger_empty hfreezes happendix)

/-! ## What stays -/

/-- Records and rows are only added. -/
theorem Change.keeps (hchange : Change store later) :
    store.freezes <+: later.freezes ∧ store.appendix <+: later.appendix := by
  cases hchange with
  | observe => exact ⟨List.prefix_rfl, List.prefix_rfl⟩
  | freeze => exact ⟨List.prefix_append _ _, List.prefix_rfl⟩
  | row => exact ⟨List.prefix_rfl, List.prefix_append _ _⟩

theorem run_keeps (hsteps : ReflTransGen Step store later) :
    store.freezes <+: later.freezes ∧ store.appendix <+: later.appendix := by
  have hchanges := changes_of_steps hsteps
  clear hsteps
  induction hchanges with
  | refl => exact ⟨List.prefix_rfl, List.prefix_rfl⟩
  | tail _ hchange ih => exact ⟨ih.1.trans hchange.keeps.1, ih.2.trans hchange.keeps.2⟩

variable {matchweek : String} {freeze : MatchweekFreeze}

omit [PyRuntime] [Hashing] in
/-- A freeze that is found stays found, with its record and its rows. -/
theorem loadFreeze_of_prefix (hfreezes : store.freezes <+: later.freezes)
    (happendix : store.appendix <+: later.appendix)
    (hload : loadFreeze store matchweek = some freeze) :
    ∃ after, loadFreeze later matchweek = some after ∧
      after.toFreezeRecord = freeze.toFreezeRecord ∧
      ∀ entry ∈ freeze.appendix, entry ∈ after.appendix := by
  obtain ⟨records, hrecords⟩ := hfreezes
  obtain ⟨rows, hrows⟩ := happendix
  obtain ⟨record, hfind, rfl⟩ := Option.map_eq_some_iff.mp hload
  have hafter : loadFreeze later matchweek = some { record with
      appendix := sortedOn appendixKey (later.appendix.filter (·.matchweekId = matchweek)) } := by
    rw [loadFreeze, ← hrecords, List.find?_append, hfind, Option.some_or, Option.map_some]
  refine ⟨_, hafter, rfl, fun entry hentry => ?_⟩
  rw [(sortedOn_perm _ _).mem_iff, List.mem_filter] at hentry ⊢
  rw [← hrows]
  exact ⟨List.mem_append_left _ hentry.1, hentry.2⟩

omit [PyRuntime] [Hashing] in
theorem mem_withdrawnFixtureIds {fixtureId : String} :
    fixtureId ∈ freeze.withdrawnFixtureIds ↔ ∃ entry ∈ freeze.appendix,
      entry.disposition = .withdrawn ∧ entry.fixtureId.isSome = true ∧
        entry.subjectId = fixtureId := by
  rw [MatchweekFreeze.withdrawnFixtureIds, mem_sortedSet, List.mem_map]
  simp only [List.mem_filter, Bool.and_eq_true, decide_eq_true_eq, and_assoc]

/-- After any run a frozen Matchweek freezes to the record it was frozen with, whatever the
evidence says by then; its rows stay, and so do the fixtures they withdrew. -/
theorem run_frozen {request : FreezeRequest} (hsteps : ReflTransGen Step store later)
    (hload : loadFreeze store request.matchweekId = some freeze) :
    ∃ after, freezeMatchweek later request = .ok (later, after) ∧
      after.toFreezeRecord = freeze.toFreezeRecord ∧
      (∀ entry ∈ freeze.appendix, entry ∈ after.appendix) ∧
      ∀ fixtureId ∈ freeze.withdrawnFixtureIds, fixtureId ∈ after.withdrawnFixtureIds := by
  obtain ⟨hfreezes, happendix⟩ := run_keeps hsteps
  obtain ⟨after, hafter, hrecord, hrows⟩ := loadFreeze_of_prefix hfreezes happendix hload
  refine ⟨after, ?_, hrecord, hrows, fun fixtureId hfixture => ?_⟩
  · unfold freezeMatchweek
    rw [hafter]
  · obtain ⟨entry, hentry, hwithdrawn⟩ := mem_withdrawnFixtureIds.mp hfixture
    exact mem_withdrawnFixtureIds.mpr ⟨entry, hrows entry hentry, hwithdrawn⟩

/-! ## What withdraws a Target Match -/

omit [PyRuntime] [Hashing] in
theorem Ledger.record_eq (hledger : Ledger store) {first second : FreezeRecord}
    (hfirst : first ∈ store.freezes) (hsecond : second ∈ store.freezes)
    (hsame : first.cutoff.matchweekId = second.cutoff.matchweekId) : first = second :=
  List.inj_on_of_nodup_map hledger.frozenOnce hfirst hsecond hsame

omit [PyRuntime] [Hashing] in
theorem Ledger.exists_cause (hledger : Ledger store) (hentry : entry ∈ store.appendix)
    (hwithdrawn : entry.disposition = .withdrawn) :
    ∃ first ∈ store.appendix, first.disposition = .withdrawn ∧
      (first.matchweekId = entry.matchweekId ∧ first.subjectId = entry.subjectId) ∧
      ∃ record ∈ store.freezes, Fits record first ∧ HasCause record first :=
  EachRow.exists_cause (fun _ => ⟨rfl, rfl⟩)
    (fun _ _ _ hfirst hsecond => ⟨hsecond.1.trans hfirst.1, hsecond.2.trans hfirst.2⟩)
    hledger.causes hentry hwithdrawn

/-- In every run from an unfrozen store, a withdrawn fixture is a Target Match of its
Matchweek, one of its rows voids it for a cause that the row itself shows, and no row
after a withdrawal preserves it. -/
theorem run_withdrawn (hsteps : ReflTransGen Step store later) (hfreezes : store.freezes = [])
    (happendix : store.appendix = []) (hload : loadFreeze later matchweek = some freeze)
    {fixtureId : String} (hfixture : fixtureId ∈ freeze.withdrawnFixtureIds) :
    (∃ membership ∈ freeze.targetMatches, membership.subjectId = fixtureId) ∧
    (∃ first ∈ freeze.appendix, first.subjectId = fixtureId ∧
      first.settlementResult = some "VOID" ∧ HasCause freeze.toFreezeRecord first) ∧
    EachRow (fun before row => row.matchweekId = matchweek → row.subjectId = fixtureId →
      (∃ first ∈ before, first.matchweekId = matchweek ∧ first.subjectId = fixtureId ∧
        first.disposition = .withdrawn) → row.disposition ≠ .preserved) later.appendix := by
  have hledger := ledger_of_changes (changes_of_steps hsteps) (ledger_empty hfreezes happendix)
  obtain ⟨hfrozen, hmatchweek, hrows⟩ := loadFreeze_spec hload
  obtain ⟨entry, hentry, hwithdrawn, -, rfl⟩ := mem_withdrawnFixtureIds.mp hfixture
  have hrow {row : PostCutoffFixtureAppendixEntry} :
      row ∈ freeze.appendix ↔ row ∈ later.appendix ∧ row.matchweekId = matchweek := by
    rw [hrows, (sortedOn_perm _ _).mem_iff, List.mem_filter, decide_eq_true_eq]
  obtain ⟨hmem, hentryWeek⟩ := hrow.mp hentry
  have hrecord {row : PostCutoffFixtureAppendixEntry} {record : FreezeRecord}
      (hweek : row.matchweekId = matchweek) (hstored : record ∈ later.freezes)
      (hfits : Fits record row) : record = freeze.toFreezeRecord :=
    hledger.record_eq hstored hfrozen ((hfits.matchweek.symm.trans hweek).trans hmatchweek.symm)
  refine ⟨?_, ?_, hledger.final.mono fun before row _ hfinal hweek hsubject hearlier => ?_⟩
  · obtain ⟨record, hstored, hfits⟩ := hledger.fits entry hmem
    obtain rfl := hrecord hentryWeek hstored hfits
    have hdecides : entry.disposition ≠ .appendixOnly := by
      rw [hwithdrawn]
      exact fun honly => by cases honly
    obtain ⟨membership, hmembership⟩ := Option.isSome_iff_exists.mp (hfits.decides.mp hdecides).2
    obtain ⟨hfind, hincluded⟩ := Option.filter_eq_some_iff.mp hmembership
    refine ⟨membership, List.mem_filter.mpr ⟨List.mem_of_find?_eq_some hfind, ?_⟩, ?_⟩
    · exact membership.target_iff.mpr (of_decide_eq_true hincluded)
    · simpa using List.find?_some hfind
  · obtain ⟨first, hfirst, hvoid, ⟨hweek, hsubject⟩, record, hstored, hfits, hcause⟩ :=
      hledger.exists_cause hmem hwithdrawn
    have hfirstWeek := hweek.trans hentryWeek
    obtain rfl := hrecord hfirstWeek hstored hfits
    refine ⟨first, hrow.mpr ⟨hfirst, hfirstWeek⟩, hsubject, ?_, hcause⟩
    rw [first.settled, hvoid]
    rfl
  · obtain ⟨first, hfirst, hfirstWeek, hfirstSubject, hfirstWithdrawn⟩ := hearlier
    exact hfinal ⟨first, hfirst, hfirstWithdrawn, hfirstWeek.trans hweek.symm,
      hfirstSubject.trans hsubject.symm⟩

end Runs

/-! ## A cancelled Friday evening -/

section Cancellation

local instance : PyRuntime := plainRuntime

local instance : Hashing := textHashing

/-- The evening fixture, cancelled in its own hour. -/
def cancelledRevision : RevisionCandidate :=
  { eveningRevision with
    revisionId := "revision-2"
    fixtureStatus := "CANCELLED"
    observedAtUtc := 154800000000 }

/-- The store that a call leaves. -/
def storeAfter {α : Type} (store : Store) : Except Fault (Store × α) → Store
  | .ok result => result.1
  | .error _ => store

theorem exists_storeAfter {α : Type} {store : Store} {call : Except Fault (Store × α)}
    (hreturns : call.toOption.isSome = true) :
    ∃ value, call = .ok (storeAfter store call, value) := by
  cases call with
  | error fault => cases hreturns
  | ok result => exact ⟨result.2, rfl⟩

def frozenEvening : Store := storeAfter eveningStore (freezeMatchweek eveningStore weekendRequest)

/-- The frozen store once the cancellation is known. -/
def cancelledEvening : Store :=
  { frozenEvening with
    revisions := [eveningRevision, cancelledRevision], unresolvedRows := [], conflicts := [] }

def cancellation : AppendRequest where
  window := firstWeekend
  season := "1969-70"
  fixtureId := "fixture-1"
  revisionId := none
  asOfUtc := none
  validityReview := none
  identityUnchanged := true

def withdrawnEvening : Store :=
  storeAfter cancelledEvening (appendPostCutoffRevision cancelledEvening cancellation)

theorem frozenEvening_step : Step eveningStore frozenEvening := by
  obtain ⟨_, hfreeze⟩ := @exists_storeAfter _ eveningStore _
    (show (freezeMatchweek eveningStore weekendRequest).toOption.isSome = true by decide)
  exact Step.freeze hfreeze

theorem withdrawnEvening_run : ReflTransGen Step frozenEvening withdrawnEvening := by
  obtain ⟨_, happend⟩ := @exists_storeAfter _ cancelledEvening _
    (show (appendPostCutoffRevision cancelledEvening cancellation).toOption.isSome = true by
      decide)
  exact (ReflTransGen.single (Step.observe frozenEvening _ _ _)).tail (Step.append happend)

theorem exists_loadFreeze {store : Store} {test : MatchweekFreeze → Bool}
    (htest : (loadFreeze store weekendRequest.matchweekId).any test = true) :
    ∃ freeze, loadFreeze store weekendRequest.matchweekId = some freeze ∧ test freeze = true :=
  (Option.any_eq_true _ _).mp htest

theorem run_frozen_cancelled :
    ∃ freeze after, loadFreeze frozenEvening weekendRequest.matchweekId = some freeze ∧
      freezeMatchweek withdrawnEvening weekendRequest = .ok (withdrawnEvening, after) ∧
      after.toFreezeRecord = freeze.toFreezeRecord := by
  obtain ⟨freeze, hload, -⟩ := @exists_loadFreeze frozenEvening (fun _ => true) (by decide)
  obtain ⟨after, hafter, hrecord, -⟩ := run_frozen withdrawnEvening_run hload
  exact ⟨freeze, after, hload, hafter, hrecord⟩

theorem run_ledger_cancelled : Ledger withdrawnEvening :=
  run_ledger ((ReflTransGen.single frozenEvening_step).trans withdrawnEvening_run) rfl rfl

theorem run_withdrawn_cancelled :
    ∃ freeze, loadFreeze withdrawnEvening weekendRequest.matchweekId = some freeze ∧
      (∃ membership ∈ freeze.targetMatches, membership.subjectId = "fixture-1") ∧
      ∃ first ∈ freeze.appendix, first.subjectId = "fixture-1" ∧
        first.settlementResult = some "VOID" ∧ HasCause freeze.toFreezeRecord first := by
  obtain ⟨freeze, hload, hwithdrawn⟩ := @exists_loadFreeze withdrawnEvening
    (fun freeze => "fixture-1" ∈ freeze.withdrawnFixtureIds) (by decide)
  obtain ⟨htarget, hvoid, -⟩ := run_withdrawn
    ((ReflTransGen.single frozenEvening_step).trans withdrawnEvening_run) rfl rfl hload
    (of_decide_eq_true hwithdrawn)
  exact ⟨freeze, hload, htarget, hvoid⟩

end Cancellation

end MatchVet.T05.Lifecycle
