import Mathlib.Logic.Relation
import MatchVet.T05.Cutoff

/-!
# What a freeze does not see

At a boundary a revision is read through the supports that are known there.  What is
observed later leaves that view, and with it the memberships included at every boundary
up to then, the boundary that follows each of them, and the freeze they lead to.
-/

namespace MatchVet.T05.Blindness

open MatchVet.Foundation.CanonicalJson (Hashing textHashing)
open MatchVet.Foundation.FixedPoint
open MatchVet.Foundation.KeySort
open MatchVet.Foundation.Runtime
open MatchVet.Foundation.Timestamp
open MatchVet.T05.Records
open MatchVet.T05.Selection
open MatchVet.T05.Freeze
open MatchVet.T05.Cutoff
open Relation (ReflTransGen)

/-! ## Late observations -/

/-- One thing learned after a horizon: a revision observed after it, one more support of
a revision that has some, or a row of a source that was captured after it. -/
inductive LateObservation (horizon : Instant) : Store → Store → Prop where
  | revision {store : Store} {before after : List RevisionCandidate}
      {candidate : RevisionCandidate} (hrevisions : store.revisions = before ++ after)
      (hlate : horizon < candidate.observedAtUtc) :
      LateObservation horizon store
        { store with revisions := before ++ candidate :: after }
  | support {store : Store} {before after : List RevisionCandidate}
      {candidate : RevisionCandidate} {front back : List SourceSupport} {support : SourceSupport}
      (hrevisions : store.revisions = before ++ candidate :: after)
      (hsupports : candidate.supports = front ++ back) (hsome : candidate.supports ≠ [])
      (hlate : SourceSupport.knownBy horizon support = false) :
      LateObservation horizon store
        { store with
          revisions := before ++ { candidate with supports := front ++ support :: back } :: after }
  | conflict {store : Store} {before after : List ConflictAssertion} {row : ConflictAssertion}
      (hconflicts : store.conflicts = before ++ after) (hlate : horizon < row.retrievedAtUtc) :
      LateObservation horizon store { store with conflicts := before ++ row :: after }
  | unresolved {store : Store} {before after : List UnresolvedFixture} {row : UnresolvedFixture}
      (hrows : store.unresolvedRows = before ++ after) (hlate : horizon < row.observedAtUtc) :
      LateObservation horizon store { store with unresolvedRows := before ++ row :: after }

/-! ## The view of a boundary -/

variable {boundary horizon : Instant} {candidate : RevisionCandidate}

/-- A revision with the supports that are valid at a boundary. -/
def knownView (boundary : Instant) (candidate : RevisionCandidate) : RevisionCandidate :=
  { candidate with supports := validSupports candidate boundary }

/-- The revisions that a boundary sees. -/
def view (boundary : Instant) (candidates : List RevisionCandidate) : List RevisionCandidate :=
  (candidates.filter (isValid boundary)).map (knownView boundary)

theorem view_append (first second : List RevisionCandidate) :
    view boundary (first ++ second) = view boundary first ++ view boundary second := by
  rw [view, List.filter_append, List.map_append]
  rfl

theorem view_cons_invalid (hinvalid : isValid boundary candidate = false)
    (rest : List RevisionCandidate) : view boundary (candidate :: rest) = view boundary rest := by
  rw [view, List.filter_cons_of_neg (by rw [hinvalid]; exact Bool.false_ne_true)]
  rfl

theorem view_cons_congr {other : RevisionCandidate}
    (hsame : knownView boundary candidate = knownView boundary other)
    (rest : List RevisionCandidate) :
    view boundary (candidate :: rest) = view boundary (other :: rest) := by
  have hsupports : validSupports candidate boundary = validSupports other boundary :=
    congrArg RevisionCandidate.supports hsame
  have hvalid : isValid boundary candidate = isValid boundary other := by
    rw [isValid, isValid, hsupports]
  unfold view
  rw [List.filter_cons, List.filter_cons, hvalid]
  split
  · rw [List.map_cons, List.map_cons, hsame]
  · rfl

theorem view_filter {keep : RevisionCandidate → Bool}
    (hkeep : ∀ candidate, keep (knownView boundary candidate) = keep candidate)
    (candidates : List RevisionCandidate) :
    view boundary (candidates.filter keep) = (view boundary candidates).filter keep := by
  unfold view
  rw [List.filter_map, List.filter_filter, List.filter_filter]
  congr 1
  refine List.filter_congr fun candidate _ => ?_
  rw [Function.comp_apply, hkeep, Bool.and_comm]

theorem view_sortedOn (candidates : List RevisionCandidate) :
    view boundary (sortedOn candidateKey candidates) =
      sortedOn candidateKey (view boundary candidates) := by
  unfold view
  rw [filter_sortedOn, sortedOn_map]
  rfl

theorem view_loadRevisionCandidates (store : Store) (season : String) :
    view boundary (loadRevisionCandidates store season) =
      sortedOn candidateKey ((view boundary store.revisions).filter (·.season = season)) := by
  rw [loadRevisionCandidates, view_sortedOn, view_filter fun _ => rfl]

theorem kickoff_of_knownView {other : RevisionCandidate}
    (hknown : knownView boundary other = knownView boundary candidate) :
    other.kickoffUtc = candidate.kickoffUtc := by
  have hviews := congrArg RevisionCandidate.kickoffUtc hknown
  exact hviews

/-! ## What late observations leave -/

theorem SourceSupport.knownBy_mono {support : SourceSupport} (hle : boundary ≤ horizon)
    (hknown : SourceSupport.knownBy boundary support = true) :
    SourceSupport.knownBy horizon support = true := by
  unfold SourceSupport.knownBy at hknown ⊢
  obtain ⟨hretrieved, hpublished⟩ := Bool.and_eq_true_iff.mp hknown
  refine Bool.and_eq_true_iff.mpr
    ⟨decide_eq_true ((of_decide_eq_true hretrieved).trans hle), ?_⟩
  cases hpublication : support.sourcePublishedAtUtc with
  | none => rfl
  | some published =>
      rw [hpublication] at hpublished
      exact decide_eq_true ((of_decide_eq_true hpublished).trans hle)

theorem isValid_late (hle : boundary ≤ horizon) (hlate : horizon < candidate.observedAtUtc) :
    isValid boundary candidate = false := by
  rw [isValid, validSupports, if_pos (hle.trans_lt hlate)]
  rfl

/-- One more support that is not known leaves the valid supports of a revision. -/
theorem validSupports_insert {front back : List SourceSupport} {support : SourceSupport}
    (hsupports : candidate.supports = front ++ back) (hsome : candidate.supports ≠ [])
    (hlate : SourceSupport.knownBy boundary support = false) :
    validSupports { candidate with supports := front ++ support :: back } boundary =
      validSupports candidate boundary := by
  have hfilter : (front ++ support :: back).filter (SourceSupport.knownBy boundary) =
      candidate.supports.filter (SourceSupport.knownBy boundary) := by
    rw [hsupports, List.filter_append, List.filter_append,
      List.filter_cons_of_neg (by rw [hlate]; exact Bool.false_ne_true)]
  unfold validSupports
  dsimp only
  rw [hfilter, if_neg hsome, if_neg (List.append_ne_nil_of_right_ne_nil _ (List.cons_ne_nil _ _))]

/-- Two stores that a boundary cannot tell apart. -/
structure SameView (boundary : Instant) (early late : Store) : Prop where
  revisions : view boundary early.revisions = view boundary late.revisions
  conflicts : ∀ fixtureId, conflictRows early.conflicts fixtureId boundary =
    conflictRows late.conflicts fixtureId boundary

theorem SameView.trans {first second third : Store} (hfirst : SameView boundary first second)
    (hsecond : SameView boundary second third) : SameView boundary first third where
  revisions := hfirst.revisions.trans hsecond.revisions
  conflicts fixtureId := (hfirst.conflicts fixtureId).trans (hsecond.conflicts fixtureId)

/-- A boundary up to the horizon does not see a late observation. -/
theorem LateObservation.sameView {early late : Store} (hle : boundary ≤ horizon)
    (hstep : LateObservation horizon early late) : SameView boundary early late := by
  cases hstep with
  | revision hrevisions hlate =>
      refine ⟨?_, fun _ => rfl⟩
      rw [hrevisions, view_append, view_append, view_cons_invalid (isValid_late hle hlate)]
  | support hrevisions hsupports hsome hlate =>
      refine ⟨?_, fun _ => rfl⟩
      have hunknown : SourceSupport.knownBy boundary _ = false :=
        Bool.eq_false_iff.mpr fun hknown =>
          Bool.eq_false_iff.mp hlate (SourceSupport.knownBy_mono hle hknown)
      rw [hrevisions, view_append, view_append]
      refine congrArg (_ ++ ·) (view_cons_congr ?_ _)
      unfold knownView
      rw [validSupports_insert hsupports hsome hunknown]
  | conflict hconflicts hlate =>
      refine ⟨rfl, fun fixtureId => ?_⟩
      unfold conflictRows
      rw [hconflicts, List.filter_append, List.filter_append, List.filter_cons_of_neg]
      rw [decide_eq_false (not_le.mpr (hle.trans_lt hlate)), Bool.and_false]
      exact Bool.false_ne_true
  | unresolved hrows hlate => exact ⟨rfl, fun _ => rfl⟩

theorem sameView_of_lateObservations {early late : Store} (hle : boundary ≤ horizon)
    (hsteps : ReflTransGen (LateObservation horizon) early late) :
    SameView boundary early late := by
  induction hsteps with
  | refl => exact ⟨rfl, fun _ => rfl⟩
  | tail _ hstep ih => exact ih.trans (hstep.sameView hle)

/-! ## Selection through the view -/

section Selection

variable [PyRuntime] {early late : Store} {window : MatchweekWindow} {season : String}

/-- The key of `_select_revision` on a revision that has its valid supports. -/
def viewKey (candidate : RevisionCandidate) : ℕ ×ₗ Moment ×ₗ String ×ₗ String :=
  toLex ((authorityLabel candidate.supports).1,
    toLex (latestObservation candidate.supports,
      toLex (candidate.revisionId, candidate.revisionDigest)))

theorem selectRevision_view (candidates : List RevisionCandidate) :
    (selectRevision candidates boundary).map (knownView boundary) =
      (view boundary candidates).argmax viewKey := by
  rw [view, argmax_map]
  rfl

omit [PyRuntime] in
theorem view_revisionsOf (candidates : List RevisionCandidate) (fixtureId : String) :
    view boundary (revisionsOf candidates fixtureId) =
      (view boundary candidates).filter (·.fixtureId = fixtureId) :=
  view_filter (fun _ => rfl) candidates

/-- A boundary that cannot tell two stores apart selects the same view of each fixture. -/
theorem SameView.selectRevision (hsame : SameView boundary early late) (fixtureId : String) :
    (Selection.selectRevision (revisionsOf (loadRevisionCandidates early season) fixtureId)
        boundary).map (knownView boundary) =
      (Selection.selectRevision (revisionsOf (loadRevisionCandidates late season) fixtureId)
        boundary).map (knownView boundary) := by
  rw [selectRevision_view, selectRevision_view, view_revisionsOf, view_revisionsOf,
    view_loadRevisionCandidates, view_loadRevisionCandidates, hsame.revisions]

omit [PyRuntime] in
theorem SameView.symm (hsame : SameView boundary early late) : SameView boundary late early where
  revisions := hsame.revisions.symm
  conflicts fixtureId := (hsame.conflicts fixtureId).symm

/-- A fixture included in one store is included in the other, by the same view. -/
theorem SameView.exists_includedAt (hsame : SameView boundary early late)
    {chosen : RevisionCandidate}
    (hchosen : chosen ∈ includedAt (loadRevisionCandidates early season) window boundary) :
    ∃ other ∈ includedAt (loadRevisionCandidates late season) window boundary,
      knownView boundary other = knownView boundary chosen := by
  obtain ⟨hselected, heligible⟩ := mem_includedAt.mp hchosen
  have hview : (Selection.selectRevision (revisionsOf (loadRevisionCandidates early season)
      chosen.fixtureId) boundary).map (knownView boundary) = _ :=
    hsame.selectRevision chosen.fixtureId
  rw [hselected, Option.map_some] at hview
  obtain ⟨other, hother, hknown⟩ := Option.map_eq_some_iff.mp hview.symm
  have hfixture : other.fixtureId = chosen.fixtureId := by
    have hviews := congrArg RevisionCandidate.fixtureId hknown
    exact hviews
  refine ⟨other, mem_includedAt.mpr ⟨hfixture ▸ hother, ?_⟩, hknown⟩
  have hkeep : eligibleSchedule window (knownView boundary other) =
      eligibleSchedule window (knownView boundary chosen) := congrArg _ hknown
  exact hkeep.trans heligible

/-- Such a boundary is followed by the same boundary in both stores. -/
theorem SameView.nextCutoff (hsame : SameView boundary early late) :
    Selection.nextCutoff (loadRevisionCandidates early season) window boundary =
      Selection.nextCutoff (loadRevisionCandidates late season) window boundary := by
  refine bind_of_map_rank
    (map_argmin_eq (fun _ _ => fst_le_of_lex) (fun _ _ => fst_le_of_lex) fun value => ?_)
  rw [List.mem_map, List.mem_map]
  constructor
  · rintro ⟨chosen, hchosen, rfl⟩
    obtain ⟨other, hother, hknown⟩ := hsame.exists_includedAt hchosen
    exact ⟨other, hother, congrArg kickoffRank (kickoff_of_knownView hknown)⟩
  · rintro ⟨chosen, hchosen, rfl⟩
    obtain ⟨other, hother, hknown⟩ := hsame.symm.exists_includedAt hchosen
    exact ⟨other, hother, congrArg kickoffRank (kickoff_of_knownView hknown)⟩

/-- The kickoffs scheduled at a boundary are those of its view. -/
theorem eligibleAt_kickoffs (candidates : List RevisionCandidate) :
    (eligibleAt candidates window boundary).map (fun candidate =>
        kickoffRank candidate.kickoffUtc) =
      ((view boundary candidates).filter (eligibleSchedule window)).map fun candidate =>
        kickoffRank candidate.kickoffUtc := by
  rw [eligibleAt, view, List.filter_map, List.map_map, List.filter_filter]
  refine congrArg₂ _ rfl (List.filter_congr fun candidate _ => Bool.and_comm _ _)

theorem SameView.firstCutoff (hsame : SameView boundary early late) :
    Selection.firstCutoff (loadRevisionCandidates early season) window boundary =
      Selection.firstCutoff (loadRevisionCandidates late season) window boundary := by
  refine bind_of_map_rank
    (map_argmin_eq (fun _ _ => fst_le_of_lex) (fun _ _ => fst_le_of_lex) fun value => ?_)
  rw [eligibleAt_kickoffs, eligibleAt_kickoffs, view_loadRevisionCandidates,
    view_loadRevisionCandidates, hsame.revisions]

end Selection

/-! ## Memberships through the view -/

section Memberships

variable [PyRuntime] [Hashing] {early late : Store} {window : MatchweekWindow}
  {matchweek season : String}

/-- The membership of a fixture with a selected revision reads the view of it. -/
theorem fixtureMembership_congr {conflicts others : List ConflictAssertion} {fixtureId : String}
    {first second : List RevisionCandidate} {chosen other : RevisionCandidate}
    (hfirst : selectRevision first boundary = some chosen)
    (hsecond : selectRevision second boundary = some other)
    (hknown : knownView boundary other = knownView boundary chosen)
    (hconflicts : conflictRows conflicts fixtureId boundary =
      conflictRows others fixtureId boundary) :
    fixtureMembership conflicts matchweek window boundary fixtureId first =
      fixtureMembership others matchweek window boundary fixtureId second := by
  have hsupports : validSupports other boundary = validSupports chosen boundary :=
    congrArg RevisionCandidate.supports hknown
  have hpredicates : materialConflicts conflicts fixtureId boundary =
      materialConflicts others fixtureId boundary := by
    rw [materialConflicts, materialConflicts, hconflicts]
  have hread {α : Type} (read : RevisionCandidate → α)
      (hview : ∀ candidate, read (knownView boundary candidate) = read candidate) :
      read other = read chosen := by
    rw [← hview, hknown, hview]
  have hplace (materialConflict : Bool) :
      place window (some other.identityState) (some other) materialConflict =
        place window (some chosen.identityState) (some chosen) materialConflict :=
    hread (fun candidate => place window (some candidate.identityState) (some candidate)
      materialConflict) fun _ => rfl
  have hreference : referenceOf first boundary = some chosen := by
    rw [referenceOf, hfirst, Option.some_or]
  have hother : referenceOf second boundary = some other := by
    rw [referenceOf, hsecond, Option.some_or]
  have hid := hread (·.revisionId) fun _ => rfl
  have hdigest := hread (·.revisionDigest) fun _ => rfl
  have hkickoff := hread (·.kickoffUtc) fun _ => rfl
  have hlocal := hread (·.kickoffLocalText) fun _ => rfl
  ext1
  all_goals
    simp only [fixtureMembership, hreference, hother, hplace, hfirst, hsecond, Option.elim_some,
      Option.map_some, Option.bind_some, hsupports, hpredicates, hid, hdigest, hkickoff, hlocal]

/-- A boundary that cannot tell two stores apart includes the same memberships. -/
theorem SameView.mem_included (hsame : SameView boundary early late)
    {membership : FrozenMembership}
    (hmem : membership ∈ (buildMemberships early matchweek window season boundary
      (loadRevisionCandidates early season)).filter isIncluded) :
    membership ∈ (buildMemberships late matchweek window season boundary
      (loadRevisionCandidates late season)).filter isIncluded := by
  obtain ⟨chosen, hchosen, rfl⟩ := Cutoff.mem_included.mp hmem
  obtain ⟨other, hother, hknown⟩ := hsame.exists_includedAt hchosen
  refine Cutoff.mem_included.mpr ⟨other, hother, ?_⟩
  have hfixture : other.fixtureId = chosen.fixtureId := by
    have hviews := congrArg RevisionCandidate.fixtureId hknown
    exact hviews
  unfold membershipAt
  rw [hfixture]
  exact fixtureMembership_congr (mem_includedAt.mp hchosen).1
    (hfixture ▸ (mem_includedAt.mp hother).1) hknown (hsame.conflicts _)

omit [PyRuntime] [Hashing] in
/-- Sorted memberships with distinct identifiers are told by what they contain. -/
theorem eq_of_sorted {first second : List FrozenMembership}
    (hfirst : first.Pairwise (·.membershipId ≤ ·.membershipId))
    (hsecond : second.Pairwise (·.membershipId ≤ ·.membershipId))
    (hdistinct : (first.map (·.membershipId)).Nodup)
    (hother : (second.map (·.membershipId)).Nodup)
    (hmem : ∀ membership, membership ∈ first ↔ membership ∈ second) : first = second := by
  have hperm : first.Perm second :=
    (List.perm_ext_iff_of_nodup hdistinct.of_map hother.of_map).mpr hmem
  refine hperm.eq_of_pairwise (fun left right hleft hright hle hge => ?_) hfirst hsecond
  exact List.inj_on_of_nodup_map hdistinct hleft ((hmem right).mpr hright) (le_antisymm hle hge)

omit [PyRuntime] [Hashing] in
theorem filter_target (memberships : List FrozenMembership) :
    memberships.filter (·.targetMatch) = memberships.filter isIncluded := by
  refine List.filter_congr fun membership _ => ?_
  rw [isIncluded, Bool.eq_iff_iff, decide_eq_true_iff]
  exact membership.target_iff

/-- Two records decided at one boundary that cannot tell their stores apart have the
same Research Cutoff and the same Target Matches. -/
theorem SameView.recordAt (hsame : SameView boundary early late) {request : FreezeRequest}
    {first second : FreezeRecord}
    (hfirst : Freeze.recordAt early request (loadRevisionCandidates early request.season)
      boundary = .ok first)
    (hsecond : Freeze.recordAt late request (loadRevisionCandidates late request.season)
      boundary = .ok second) :
    first.cutoff = second.cutoff ∧
      first.memberships.filter (·.targetMatch) = second.memberships.filter (·.targetMatch) := by
  obtain ⟨earliest, kickoff, hearliest, hkickoff, -, hnodup, rfl⟩ := recordAt_ok_iff.mp hfirst
  obtain ⟨other, otherKickoff, hother, hotherKickoff, -, hotherNodup, rfl⟩ :=
    recordAt_ok_iff.mp hsecond
  have htargets : (buildMemberships early request.matchweekId request.window request.season
        boundary (loadRevisionCandidates early request.season)).filter isIncluded =
      (buildMemberships late request.matchweekId request.window request.season
        boundary (loadRevisionCandidates late request.season)).filter isIncluded :=
    eq_of_sorted ((sortedOn_pairwise _ _).filter _) ((sortedOn_pairwise _ _).filter _)
      (hnodup.sublist (List.filter_sublist.map _))
      (hotherNodup.sublist (List.filter_sublist.map _))
      fun membership => ⟨hsame.mem_included, hsame.symm.mem_included⟩
  refine ⟨?_, by rw [filter_target, filter_target]; exact htargets⟩
  rw [earliestIncluded, htargets] at hearliest
  rw [earliestIncluded, hearliest] at hother
  obtain rfl := Option.some.inj hother
  rw [hkickoff] at hotherKickoff
  rw [Option.some.inj hotherKickoff]

end Memberships

/-! ## The freeze -/

section Freezes

variable [PyRuntime] [Hashing] {early late : Store} {request : FreezeRequest}

omit [Hashing] in
theorem nextCutoff_before {candidates : List RevisionCandidate} {window : MatchweekWindow}
    {next : Instant} (hnext : nextCutoff candidates window boundary = some next) :
    next < window.endUtc - matchweekLeadTime := by
  obtain ⟨earliest, hearliest, hmap⟩ := Option.bind_eq_some_iff.mp hnext
  obtain ⟨kickoff, hkickoff, hwindow⟩ :=
    eligible_kickoff (eligible_of_includedAt (List.argmin_mem hearliest))
  rw [hkickoff] at hmap
  obtain rfl := Option.some.inj hmap
  exact sub_lt_sub_right (MatchweekWindow.contains_iff.mp hwindow).2 _

omit [Hashing] in
theorem firstCutoff_before {candidates : List RevisionCandidate} {window : MatchweekWindow}
    {asOf start : Instant} (hstart : firstCutoff candidates window asOf = some start) :
    start < window.endUtc - matchweekLeadTime := by
  obtain ⟨earliest, hearliest, hmap⟩ := Option.bind_eq_some_iff.mp hstart
  have hmem := (List.mem_filter.mp (List.argmin_mem hearliest)).2
  obtain ⟨kickoff, hkickoff, hwindow⟩ := eligible_kickoff (Bool.and_eq_true_iff.mp hmem).2
  rw [hkickoff] at hmap
  obtain rfl := Option.some.inj hmap
  exact sub_lt_sub_right (MatchweekWindow.contains_iff.mp hwindow).2 _

omit [Hashing] in
/-- The search for a cutoff does not see what is learned after the observation time and
the last boundary that the window allows. -/
theorem deriveCutoff_late {asOf cutoff : Instant}
    (hsteps : ReflTransGen (LateObservation horizon) early late) (hasOf : asOf ≤ horizon)
    (hwindow : request.window.endUtc - matchweekLeadTime ≤ horizon) :
    (∃ earliest, deriveCutoff (loadRevisionCandidates early request.season) request.window asOf =
        .ok (cutoff, earliest)) ↔
      ∃ earliest, deriveCutoff (loadRevisionCandidates late request.season) request.window asOf =
        .ok (cutoff, earliest) := by
  rw [deriveCutoff_ok_iff, deriveCutoff_ok_iff,
    (sameView_of_lateObservations hasOf hsteps).firstCutoff]
  refine exists_congr fun start => and_congr_right fun hstart => ?_
  have hinside : ∀ value, value ≤ horizon →
      nextCutoff (loadRevisionCandidates early request.season) request.window value =
        nextCutoff (loadRevisionCandidates late request.season) request.window value :=
    fun value hvalue => (sameView_of_lateObservations hvalue hsteps).nextCutoff
  rw [search_congr hinside
    (fun value _ next hnext => (nextCutoff_before hnext).le.trans hwindow)
    ((firstCutoff_before hstart).le.trans hwindow)]

omit [PyRuntime] [Hashing] in
theorem observationTime_eq {candidates : List RevisionCandidate} {asOf : Instant}
    (hrequest : request.asOfUtc = some asOf) (hcandidates : candidates ≠ []) :
    observationTime request candidates = some asOf := by
  unfold observationTime
  rw [hrequest]
  cases hlatest : (candidates.map (·.observedAtUtc)).max? with
  | none => exact absurd (List.map_eq_nil_iff.mp (List.max?_eq_none_iff.mp hlatest)) hcandidates
  | some latest => rfl

/-- A stable boundary is refused only for memberships that share an identifier. -/
theorem recordAt_shared {store : Store} {cutoff : Instant} {candidates : List RevisionCandidate}
    (hfixed : Fixed (nextCutoff candidates request.window) cutoff)
    (hshared : ¬((buildMemberships store request.matchweekId request.window request.season cutoff
      candidates).map (·.membershipId)).Nodup) :
    recordAt store request candidates cutoff =
      .error (.valueError "Membership manifest entries must be unique.") := by
  rw [Fixed, @nextCutoff_eq _ _ store request.matchweekId request.season] at hfixed
  obtain ⟨earliest, hearliest, hmap⟩ := Option.bind_eq_some_iff.mp hfixed
  obtain ⟨kickoff, hkickoff, hcutoff⟩ := Option.map_eq_some_iff.mp hmap
  rw [earliestIncluded] at hearliest
  unfold recordAt
  dsimp only
  rw [hearliest]
  dsimp only
  rw [hkickoff]
  dsimp only
  rw [if_neg (not_not.mpr hcutoff), if_neg hshared]

/-- A freeze at a given observation time does not see what is learned after it and after the
last boundary that the window allows: it finds the same Research Cutoff and the same Target
Matches, unless a later fixture or row shares a membership identifier. -/
theorem freezeRecord_late {asOf : Instant} {first : FreezeRecord}
    (hsteps : ReflTransGen (LateObservation horizon) early late)
    (hrequest : request.asOfUtc = some asOf) (hasOf : asOf ≤ horizon)
    (hwindow : request.window.endUtc - matchweekLeadTime ≤ horizon)
    (hfirst : freezeRecord early request = .ok first) :
    freezeRecord late request =
        .error (.valueError "Membership manifest entries must be unique.") ∨
      ∃ second, freezeRecord late request = .ok second ∧ first.cutoff = second.cutoff ∧
        first.memberships.filter (·.targetMatch) =
          second.memberships.filter (·.targetMatch) := by
  obtain ⟨time, htime, cutoff, earliest, hderived, hrecord⟩ := freezeRecord_ok_iff.mp hfirst
  have hcandidates : loadRevisionCandidates early request.season ≠ [] := fun hnil => by
    rw [hnil] at htime
    cases htime
  obtain rfl : asOf = time :=
    Option.some.inj ((observationTime_eq hrequest hcandidates).symm.trans htime)
  obtain ⟨lateEarliest, hlateDerived⟩ :=
    (deriveCutoff_late hsteps hasOf hwindow).mp ⟨earliest, hderived⟩
  obtain ⟨start, hstart, -⟩ := deriveCutoff_ok_iff.mp ⟨lateEarliest, hlateDerived⟩
  have hlateCandidates : loadRevisionCandidates late request.season ≠ [] := fun hnil => by
    rw [hnil] at hstart
    cases hstart
  have hlateTime := observationTime_eq hrequest hlateCandidates
  obtain ⟨hfixed, -⟩ := recordAt_returns_iff.mp ⟨first, hrecord⟩
  have hbefore : cutoff ≤ horizon := (nextCutoff_before hfixed).le.trans hwindow
  have hsame := sameView_of_lateObservations hbefore hsteps
  have hlateFixed : Fixed (nextCutoff (loadRevisionCandidates late request.season)
      request.window) cutoff := hsame.nextCutoff.symm.trans hfixed
  by_cases hnodup : ((buildMemberships late request.matchweekId request.window request.season
      cutoff (loadRevisionCandidates late request.season)).map (·.membershipId)).Nodup
  · obtain ⟨second, hsecond⟩ := recordAt_returns_iff.mpr ⟨hlateFixed, hnodup⟩
    exact Or.inr ⟨second, freezeRecord_ok_iff.mpr
      ⟨asOf, hlateTime, cutoff, lateEarliest, hlateDerived, hsecond⟩,
      hsame.recordAt hrecord hsecond⟩
  · refine Or.inl ?_
    unfold freezeRecord
    dsimp only
    rw [hlateTime]
    dsimp only
    rw [hlateDerived, ok_bind]
    exact recordAt_shared hlateFixed hnodup

end Freezes

/-! ## A late postponement -/

section Postponement

local instance : PyRuntime := plainRuntime

local instance : Hashing := textHashing

/-- The evening fixture, postponed after the last boundary of its weekend. -/
def postponedRevision : RevisionCandidate :=
  { eveningRevision with
    revisionId := "revision-2"
    fixtureStatus := "POSTPONED"
    observedAtUtc := firstWeekend.endUtc }

def postponedStore : Store := ⟨[eveningRevision, postponedRevision], [], [], [], []⟩

def earlyRequest : FreezeRequest := ⟨firstWeekend, "1969-70", some 0⟩

theorem freezeRecord_late_postponed :
    ∃ first second, freezeRecord eveningStore earlyRequest = .ok first ∧
      freezeRecord postponedStore earlyRequest = .ok second ∧ first.cutoff = second.cutoff ∧
      first.memberships.filter (·.targetMatch) = second.memberships.filter (·.targetMatch) := by
  obtain ⟨first, hfirst, -⟩ := freezeRecord_returns_iff.mpr
    (show ∃ asOf start, observationTime earlyRequest (loadRevisionCandidates eveningStore
        earlyRequest.season) = some asOf ∧ _ from
      ⟨0, 133200000000, by decide, by decide +kernel, ⟨0, Nat.zero_le 8, rfl⟩,
        by unfold Fixed; decide, by decide +kernel⟩)
  obtain ⟨record, hrecord, -⟩ := freezeRecord_returns_iff.mpr
    (show ∃ asOf start, observationTime earlyRequest (loadRevisionCandidates postponedStore
        earlyRequest.season) = some asOf ∧ _ from
      ⟨0, 133200000000, by decide, by decide +kernel, ⟨0, Nat.zero_le 8, rfl⟩,
        by unfold Fixed; decide, by decide +kernel⟩)
  have hlate : firstWeekend.endUtc - matchweekLeadTime < postponedRevision.observedAtUtc :=
    sub_lt_self _ (by decide)
  have hstep : LateObservation (firstWeekend.endUtc - matchweekLeadTime) eveningStore
      { eveningStore with revisions := [eveningRevision] ++ postponedRevision :: [] } :=
    LateObservation.revision rfl hlate
  rcases freezeRecord_late (Relation.ReflTransGen.single hstep) rfl (by decide) le_rfl hfirst with
    hshared | ⟨second, hsecond, hcutoff, htargets⟩
  · have hfault := hrecord.symm.trans hshared
    cases hfault
  · exact ⟨first, second, hfirst, hsecond, hcutoff, htargets⟩

end Postponement

end MatchVet.T05.Blindness
