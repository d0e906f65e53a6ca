import MatchVet.Foundation.WriteOnce
import MatchVet.T05.Lifecycle

/-!
# Appending all changes again

`append_post_cutoff_changes` writes the appendix as a table that keeps the row of an
event: what it asks for depends on whether the fixture was withdrawn before.  A second
call adds what the withdrawals of the first ask for, and from there a call with the same
evidence returns the same rows and writes none.
-/

namespace MatchVet.T05.Settled

open MatchVet.Foundation.CanonicalJson (Hashing textHashing)
open MatchVet.Foundation.KeySort
open MatchVet.Foundation.Runtime
open MatchVet.Foundation.Timestamp
open MatchVet.Foundation.WriteOnce
open MatchVet.T05.Records
open MatchVet.T05.Selection
open MatchVet.T05.Freeze
open MatchVet.T05.Cutoff
open MatchVet.T05.Appendix
open MatchVet.T05.Lifecycle

section Settling

variable [PyRuntime] [Hashing] {store base : Store} {request : ChangesRequest}
  {freeze : MatchweekFreeze} {asOf : Instant} {rows : List PostCutoffFixtureAppendixEntry}

/-! ## The appendix as a table -/

/-- The row that a changed revision asks for. -/
def makeRow (base : Store) (request : ChangesRequest) (record : FreezeRecord) (asOf : Instant)
    (candidate : RevisionCandidate) : Except Fault (Bool → PostCutoffFixtureAppendixEntry) :=
  match ((fixtureCandidatesOf base request.season candidate.fixtureId).map
      (·.observedAtUtc)).max? with
  | none =>
      refuse "MV-T05-FIXTURE_NOT_FOUND" ("Fixture " ++ candidate.fixtureId ++ " does not exist.")
  | some _ => do
      let found ← requestedRevision (changeRequest request asOf candidate)
        (loadRevisionCandidates base request.season)
        (fixtureCandidatesOf base request.season candidate.fixtureId) asOf
      let _ ← checkPostCutoff found record.cutoff.cutoffUtc asOf
      .ok (postCutoffEntry base.conflicts record
        (fixtureCandidatesOf base request.season candidate.fixtureId) found
        (suppliedReview (changeRequest request asOf candidate).validityReview
          (changeRequest request asOf candidate).identityUnchanged) asOf)

/-- The appendix, as changed revisions and source rows write to it. -/
def appendixTable (base : Store) (request : ChangesRequest) (record : FreezeRecord)
    (asOf : Instant) :
    Table PostCutoffFixtureAppendixEntry (RevisionCandidate ⊕ UnresolvedFixture) String Fault where
  key := (·.eventKey)
  raises item entry :=
    match item with
    | .inl candidate =>
        entry.matchweekId = record.cutoff.matchweekId && (entry.subjectId = candidate.fixtureId &&
          entry.disposition = .withdrawn)
    | .inr _ => false
  make item :=
    match item with
    | .inl candidate => makeRow base request record asOf candidate
    | .inr row => .ok fun _ => unresolvedAppendixEntry record row
  blocked rows entry :=
    if entry.appendixId ∈ rows.map (·.appendixId) then some .integrityError else none

omit [Hashing] in
/-- The revision that a call for a changed revision names belongs to its fixture. -/
theorem requestedRevision_fixture {candidate found : RevisionCandidate}
    {candidates fixtureCandidates : List RevisionCandidate}
    (hfound : requestedRevision (changeRequest request asOf candidate) candidates fixtureCandidates
      asOf = .ok found) : found.fixtureId = candidate.fixtureId := by
  unfold requestedRevision changeRequest at hfound
  dsimp only at hfound
  cases hfind : candidates.find? (·.revisionId = candidate.revisionId) with
  | none =>
      rw [hfind] at hfound
      cases hfound
  | some other =>
      rw [hfind] at hfound
      dsimp only at hfound
      split at hfound
      · cases hfound
      next hsame =>
        rw [← Except.ok.inj hfound]
        exact not_not.mp hsame

theorem makeRow_ok {record : FreezeRecord} {candidate : RevisionCandidate}
    {make : Bool → PostCutoffFixtureAppendixEntry}
    (hmake : makeRow base request record asOf candidate = .ok make) (flag : Bool) :
    (make flag).subjectId = candidate.fixtureId := by
  unfold makeRow at hmake
  cases hlatest : ((fixtureCandidatesOf base request.season candidate.fixtureId).map
      (·.observedAtUtc)).max? with
  | none =>
      rw [hlatest] at hmake
      cases hmake
  | some latest =>
      rw [hlatest] at hmake
      obtain ⟨found, hfound, hmake⟩ := bind_eq_ok.mp hmake
      obtain ⟨_, -, hmake⟩ := bind_eq_ok.mp hmake
      rw [← Except.ok.inj hmake]
      exact requestedRevision_fixture hfound

/-- A new row withdraws no fixture but its own. -/
theorem appendixTable_own (base : Store) (request : ChangesRequest) (record : FreezeRecord)
    (asOf : Instant) : (appendixTable base request record asOf).Own := by
  intro item make flag other hmake hraises
  cases other with
  | inr row => cases hraises
  | inl candidate =>
      obtain ⟨-, hrest⟩ := Bool.and_eq_true_iff.mp hraises
      obtain ⟨hsubject, hwithdrawn⟩ := Bool.and_eq_true_iff.mp hrest
      cases item with
      | inr row =>
          obtain rfl := Except.ok.inj hmake
          cases of_decide_eq_true hwithdrawn
      | inl first =>
          have hsame : first.fixtureId = candidate.fixtureId :=
            (makeRow_ok hmake flag).symm.trans (of_decide_eq_true hsubject)
          funext entry
          change (_ && (decide (entry.subjectId = candidate.fixtureId) && _)) =
            (_ && (decide (entry.subjectId = first.fixtureId) && _))
          rw [hsame]

/-! ## The calls write to the table -/

/-- A store with other rows. -/
def withRows (base : Store) (rows : List PostCutoffFixtureAppendixEntry) : Store :=
  { base with appendix := rows }

theorem storeAppendixEntry_eq {record : FreezeRecord} (entry : PostCutoffFixtureAppendixEntry) :
    storeAppendixEntry (withRows base rows) entry =
      ((appendixTable base request record asOf).put rows entry).map fun result =>
        (withRows base result.1, result.2) := by
  have hfind : (appendixTable base request record asOf).find rows entry.eventKey =
      appendixRowForEvent (withRows base rows) entry.eventKey := rfl
  unfold storeAppendixEntry
  cases hrow : appendixRowForEvent (withRows base rows) entry.eventKey with
  | some existing =>
      rw [Table.put_of_find (hfind.trans hrow)]
      rfl
  | none =>
      dsimp only
      split
      next hpresent =>
        rw [Table.put_of_blocked (hfind.trans hrow) (if_pos hpresent)]
        rfl
      next habsent =>
        rw [Table.put_of_free (hfind.trans hrow) (if_neg habsent)]
        rfl

/-- A source row writes the row it asks for. -/
theorem storeAppendixEntry_unresolved {record : FreezeRecord}
    (rows : List PostCutoffFixtureAppendixEntry) (row : UnresolvedFixture) :
    storeAppendixEntry (withRows base rows) (unresolvedAppendixEntry record row) =
      ((appendixTable base request record asOf).write rows (.inr row)).map fun result =>
        (withRows base result.1, result.2) := by
  have hmake : (appendixTable base request record asOf).make (.inr row) =
      .ok fun _ => unresolvedAppendixEntry record row := rfl
  rw [Table.write_of_make hmake]
  exact storeAppendixEntry_eq _

/-- A frozen Matchweek with the rows of a table. -/
def freezeWith (freeze : MatchweekFreeze) (rows : List PostCutoffFixtureAppendixEntry) :
    MatchweekFreeze :=
  { freeze.toFreezeRecord with
    appendix := sortedOn appendixKey (rows.filter (·.matchweekId = freeze.cutoff.matchweekId)) }

omit [PyRuntime] [Hashing] in
theorem loadFreeze_withRows {matchweek : String}
    (hload : loadFreeze base matchweek = some freeze) :
    loadFreeze (withRows base rows) matchweek = some (freezeWith freeze rows) := by
  obtain ⟨-, hmatchweek, -⟩ := loadFreeze_spec hload
  obtain ⟨record, hfind, rfl⟩ := Option.map_eq_some_iff.mp hload
  refine Option.map_eq_some_iff.mpr ⟨record, hfind, ?_⟩
  rw [freezeWith, hmatchweek]
  rfl

omit [PyRuntime] in
theorem readFrozenMatchweek_of_load {window : MatchweekWindow} {season : String}
    (hload : loadFreeze store (matchweekId season window) = some freeze) :
    readFrozenMatchweek store window season = .ok freeze := by
  unfold readFrozenMatchweek
  rw [hload]

/-- The flag that a table raises for a revision is the earlier withdrawal of its fixture. -/
theorem raised_eq {candidate found : RevisionCandidate}
    (hfixture : found.fixtureId = candidate.fixtureId) :
    previouslyWithdrawn (freezeWith freeze rows) found.fixtureId =
      (appendixTable base request freeze.toFreezeRecord asOf).raised (.inl candidate) rows := by
  rw [hfixture]
  unfold previouslyWithdrawn freezeWith Table.raised
  dsimp only
  rw [(sortedOn_perm appendixKey _).any_eq, List.any_filter]
  rfl

/-- A call for one changed revision writes the row it asks for. -/
theorem appendPostCutoffRevision_eq
    (hload : loadFreeze base (matchweekId request.season request.window) = some freeze)
    (rows : List PostCutoffFixtureAppendixEntry) (candidate : RevisionCandidate) :
    appendPostCutoffRevision (withRows base rows) (changeRequest request asOf candidate) =
      ((appendixTable base request freeze.toFreezeRecord asOf).write rows (.inl candidate)).map
        fun result => (withRows base result.1, result.2) := by
  have hread : readFrozenMatchweek (withRows base rows) (changeRequest request asOf
      candidate).window (changeRequest request asOf candidate).season =
        .ok (freezeWith freeze rows) :=
    readFrozenMatchweek_of_load (loadFreeze_withRows hload)
  have hcandidates : fixtureCandidatesOf (withRows base rows) (changeRequest request asOf
      candidate).season (changeRequest request asOf candidate).fixtureId =
        fixtureCandidatesOf base request.season candidate.fixtureId := rfl
  have hmake : (appendixTable base request freeze.toFreezeRecord asOf).make (.inl candidate) =
      makeRow base request freeze.toFreezeRecord asOf candidate := rfl
  unfold appendPostCutoffRevision
  rw [hread, ok_bind]
  dsimp only
  rw [hcandidates]
  unfold makeRow at hmake
  cases hlatest : ((fixtureCandidatesOf base request.season candidate.fixtureId).map
      (·.observedAtUtc)).max? with
  | none =>
      rw [hlatest] at hmake
      rw [Table.write_of_fault hmake]
      rfl
  | some latest =>
      rw [hlatest] at hmake
      dsimp only at hmake ⊢
      have hasked : requestedRevision (changeRequest request asOf candidate)
          (loadRevisionCandidates (withRows base rows) (changeRequest request asOf
            candidate).season) (fixtureCandidatesOf base request.season candidate.fixtureId)
          ((changeRequest request asOf candidate).asOfUtc.getD latest) =
            requestedRevision (changeRequest request asOf candidate)
              (loadRevisionCandidates base request.season)
              (fixtureCandidatesOf base request.season candidate.fixtureId) asOf := rfl
      rw [hasked]
      cases hfound : requestedRevision (changeRequest request asOf candidate)
          (loadRevisionCandidates base request.season)
          (fixtureCandidatesOf base request.season candidate.fixtureId) asOf with
      | error fault =>
          rw [hfound] at hmake
          rw [Table.write_of_fault hmake]
          rfl
      | ok found =>
          rw [hfound, ok_bind] at hmake
          rw [ok_bind]
          cases hcheck : checkPostCutoff found freeze.cutoff.cutoffUtc asOf with
          | error fault =>
              rw [hcheck] at hmake
              rw [Table.write_of_fault hmake]
              change (checkPostCutoff found freeze.cutoff.cutoffUtc asOf >>= fun _ => _) = _
              rw [hcheck]
              rfl
          | ok checked =>
              rw [hcheck, ok_bind] at hmake
              rw [Table.write_of_make hmake, ← raised_eq (requestedRevision_fixture hfound),
                ← storeAppendixEntry_eq]
              change (checkPostCutoff found freeze.cutoff.cutoffUtc asOf >>= fun _ => _) = _
              rw [hcheck]
              rfl

/-- Appends that write to the table make a pass over it. -/
theorem appendEach_eq {α : Type} {record : FreezeRecord} {convert : α →
      RevisionCandidate ⊕ UnresolvedFixture}
    {append : Store → α → Except Fault (Store × PostCutoffFixtureAppendixEntry)}
    (happend : ∀ rows item, append (withRows base rows) item =
      ((appendixTable base request record asOf).write rows (convert item)).map
        fun result => (withRows base result.1, result.2)) (items : List α) :
    appendEach append (withRows base rows) items =
      (withRows base ((appendixTable base request record asOf).pass rows (items.map convert)).1,
        ((appendixTable base request record asOf).pass rows (items.map convert)).2) := by
  induction items generalizing rows with
  | nil => rfl
  | cons item rest ih =>
      rw [appendEach, happend, List.map_cons, Table.pass]
      cases (appendixTable base request record asOf).write rows (convert item) with
      | error fault => rfl
      | ok result =>
          dsimp only [Except.map]
          rw [ih]

/-- What the calls of a request append, in their order. -/
def changedItems (base : Store) (request : ChangesRequest) (cutoff asOf : Instant) :
    List (RevisionCandidate ⊕ UnresolvedFixture) :=
  (changedRevisions base request.season cutoff asOf).map .inl ++
    (changedRows base request.season cutoff asOf).map .inr

/-- A call for all changes is a pass over the table of its evidence. -/
theorem appendPostCutoffChanges_eq
    (hload : loadFreeze base (matchweekId request.season request.window) = some freeze)
    (hasOf : changesTime base request freeze.cutoff.cutoffUtc = asOf)
    (rows : List PostCutoffFixtureAppendixEntry) :
    appendPostCutoffChanges (withRows base rows) request =
      (withRows base ((appendixTable base request freeze.toFreezeRecord asOf).pass rows
          (changedItems base request freeze.cutoff.cutoffUtc asOf)).1,
        ((appendixTable base request freeze.toFreezeRecord asOf).pass rows
          (changedItems base request freeze.cutoff.cutoffUtc asOf)).2.map
            (sortedOn appendixKey)) := by
  have hread : readFrozenMatchweek (withRows base rows) request.window request.season =
      .ok (freezeWith freeze rows) := readFrozenMatchweek_of_load (loadFreeze_withRows hload)
  have htime : changesTime (withRows base rows) request
      (freezeWith freeze rows).cutoff.cutoffUtc = asOf := hasOf
  have hitems : changedRevisions (withRows base rows) request.season
      (freezeWith freeze rows).cutoff.cutoffUtc asOf =
        changedRevisions base request.season freeze.cutoff.cutoffUtc asOf := rfl
  have hrows : changedRows (withRows base rows) request.season
      (freezeWith freeze rows).cutoff.cutoffUtc asOf =
        changedRows base request.season freeze.cutoff.cutoffUtc asOf := rfl
  unfold appendPostCutoffChanges changedItems
  rw [hread]
  dsimp only
  rw [htime, hitems, hrows, appendEach_eq (appendPostCutoffRevision_eq hload)]
  obtain ⟨⟨middle, result⟩, hpass⟩ : ∃ ended, (appendixTable base request freeze.toFreezeRecord
      asOf).pass rows ((changedRevisions base request.season freeze.cutoff.cutoffUtc asOf).map
        .inl) = ended := ⟨_, rfl⟩
  rw [hpass]
  cases result with
  | error fault =>
      rw [Table.pass_append_fault hpass]
      rfl
  | ok events =>
      rw [Table.pass_append_ok hpass]
      dsimp only
      have hrest : appendEach
          (fun current row => storeAppendixEntry current
            (unresolvedAppendixEntry (freezeWith freeze rows).toFreezeRecord row))
          (withRows base middle) (changedRows base request.season freeze.cutoff.cutoffUtc asOf) =
            (withRows base ((appendixTable base request freeze.toFreezeRecord asOf).pass middle
                ((changedRows base request.season freeze.cutoff.cutoffUtc asOf).map .inr)).1,
              ((appendixTable base request freeze.toFreezeRecord asOf).pass middle
                ((changedRows base request.season freeze.cutoff.cutoffUtc asOf).map .inr)).2) :=
        appendEach_eq storeAppendixEntry_unresolved _
      rw [hrest]
      refine Prod.ext rfl ?_
      cases ((appendixTable base request freeze.toFreezeRecord asOf).pass middle
          ((changedRows base request.season freeze.cutoff.cutoffUtc asOf).map .inr)).2 with
      | error fault => rfl
      | ok others => rfl

/-! ## The third call -/

theorem frozen_of_changes {entries : List PostCutoffFixtureAppendixEntry} {next : Store}
    (hchanges : appendPostCutoffChanges store request = (next, .ok entries)) :
    ∃ freeze, loadFreeze store (matchweekId request.season request.window) = some freeze := by
  unfold appendPostCutoffChanges at hchanges
  cases hread : readFrozenMatchweek store request.window request.season with
  | error fault =>
      rw [hread] at hchanges
      cases hchanges
  | ok freeze => exact ⟨freeze, readFrozenMatchweek_ok hread⟩

theorem pass_of_changes
    (hload : loadFreeze base (matchweekId request.season request.window) = some freeze)
    (hasOf : changesTime base request freeze.cutoff.cutoffUtc = asOf)
    {entries : List PostCutoffFixtureAppendixEntry} {next : Store}
    (hchanges : appendPostCutoffChanges (withRows base rows) request = (next, .ok entries)) :
    ∃ last written, (appendixTable base request freeze.toFreezeRecord asOf).pass rows
        (changedItems base request freeze.cutoff.cutoffUtc asOf) = (last, .ok written) ∧
      next = withRows base last ∧ entries = sortedOn appendixKey written := by
  rw [appendPostCutoffChanges_eq hload hasOf] at hchanges
  obtain ⟨⟨last, result⟩, hpass⟩ : ∃ ended, (appendixTable base request freeze.toFreezeRecord
      asOf).pass rows (changedItems base request freeze.cutoff.cutoffUtc asOf) = ended := ⟨_, rfl⟩
  rw [hpass] at hchanges
  obtain ⟨hnext, hentries⟩ := Prod.mk.inj hchanges
  cases result with
  | error fault => cases hentries
  | ok written => exact ⟨last, written, hpass, hnext.symm, (Except.ok.inj hentries).symm⟩

/-- Two calls for all changes with the same evidence settle the appendix: a third call
writes nothing and returns what the second returned. -/
theorem appendPostCutoffChanges_settles {first second : Store}
    {entries again : List PostCutoffFixtureAppendixEntry}
    (hfirst : appendPostCutoffChanges store request = (first, .ok entries))
    (hsecond : appendPostCutoffChanges first request = (second, .ok again)) :
    appendPostCutoffChanges second request = (second, .ok again) := by
  obtain ⟨freeze, hload⟩ := frozen_of_changes hfirst
  obtain ⟨firstRows, written, hpass, rfl, -⟩ :=
    @pass_of_changes _ _ store _ _ _ store.appendix hload rfl _ _ hfirst
  obtain ⟨secondRows, rewritten, hpassAgain, rfl, rfl⟩ := pass_of_changes hload rfl hsecond
  have hsettled := Table.pass_settles (appendixTable_own _ _ _ _) hpass hpassAgain
  rw [appendPostCutoffChanges_eq hload rfl, hsettled]
  rfl

end Settling

/-! ## A repeated and a cancelled revision -/

section Cancellation

local instance : PyRuntime := plainRuntime

local instance : Hashing := textHashing

/-- The evening fixture, seen once more before it was cancelled. -/
def repeatedRevision : RevisionCandidate :=
  { eveningRevision with
    revisionId := "revision-3"
    observedAtUtc := 144000000000 }

def changedEvening : Store :=
  { frozenEvening with revisions := [eveningRevision, repeatedRevision, cancelledRevision] }

def eveningChanges : ChangesRequest := ⟨firstWeekend, "1969-70", none, fun _ => none⟩

theorem exists_entries {call : Store × Except Fault (List PostCutoffFixtureAppendixEntry)}
    (hreturns : call.2.toOption.isSome = true) : ∃ entries, call = (call.1, .ok entries) := by
  obtain ⟨store, result⟩ := call
  cases result with
  | error fault => cases hreturns
  | ok entries => exact ⟨entries, rfl⟩

/-- The first call writes two rows and the second a third one. -/
example :
    (appendPostCutoffChanges changedEvening eveningChanges).1.appendix.length = 2 ∧
      (appendPostCutoffChanges (appendPostCutoffChanges changedEvening eveningChanges).1
        eveningChanges).1.appendix.length = 3 := by
  decide +kernel

theorem appendPostCutoffChanges_settles_evening :
    ∃ second again, appendPostCutoffChanges second eveningChanges = (second, .ok again) ∧
      second = (appendPostCutoffChanges (appendPostCutoffChanges changedEvening eveningChanges).1
        eveningChanges).1 := by
  obtain ⟨entries, hfirst⟩ := @exists_entries (appendPostCutoffChanges changedEvening
    eveningChanges) (by decide +kernel)
  obtain ⟨again, hsecond⟩ := @exists_entries (appendPostCutoffChanges
    (appendPostCutoffChanges changedEvening eveningChanges).1 eveningChanges) (by decide +kernel)
  exact ⟨_, again, appendPostCutoffChanges_settles hfirst hsecond, rfl⟩

end Cancellation

end MatchVet.T05.Settled
