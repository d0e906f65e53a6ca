import MatchVet.Workload.Calculator

/-!
# Observations after the cutoff

A stored row that was observed after the cutoff changes no workload evidence,
unless it observes a revision again that is known by the cutoff.  Such a revision
takes over the late observation when it is loaded, and is lost.
-/

namespace MatchVet.Workload.CutoffLaw

open MatchVet.Foundation.CanonicalJson
open MatchVet.Foundation.KeySort
open MatchVet.Foundation.Runtime
open MatchVet.Foundation.Timestamp
open MatchVet.Workload.Calculator
open MatchVet.Workload.History

/-! ## Admission at the cutoff -/

theorem foldl_later_all {cutoff : Instant} {items : List FixtureProvenance}
    {latest : Option Instant} :
    ((items.foldl (fun latest item => later latest item.observedAtUtc) latest).all
        fun observed => observed ≤ cutoff) = true ↔
      (latest.all fun observed => observed ≤ cutoff) = true ∧
        ∀ item ∈ items, item.observedAtUtc ≤ cutoff := by
  induction items generalizing latest with
  | nil => simp
  | cons item rest ih =>
      rw [List.foldl_cons, ih, List.forall_mem_cons, ← and_assoc]
      refine and_congr_left fun _ => ?_
      cases latest with
      | none => simp [later]
      | some observed => simp [later, and_comm]

theorem latestObservation_all {cutoff : Instant} {items : List FixtureProvenance} :
    ((latestObservation items).all fun observed => observed ≤ cutoff) = true ↔
      ∀ item ∈ items, item.observedAtUtc ≤ cutoff :=
  foldl_later_all.trans (and_iff_right rfl)

theorem effectiveCutoffEligibility_iff {fixture : CanonicalFixture} :
    fixture.effectiveCutoffEligibility = .cutoffValid ↔
      fixture.cutoffEligibility = some .cutoffValid ∨ fixture.cutoffEligibility = none ∧
        ∃ item ∈ fixture.provenance, item.cutoffEligibility = .cutoffValid := by
  unfold CanonicalFixture.effectiveCutoffEligibility
  cases fixture.cutoffEligibility with
  | some eligibility => simp
  | none =>
      have hany : (fixture.provenance.any fun item => item.cutoffEligibility = .cutoffValid) =
          true ↔ ∃ item ∈ fixture.provenance, item.cutoffEligibility = .cutoffValid := by
        simp only [List.any_eq_true, decide_eq_true_eq]
      simp only [reduceCtorEq, false_or, true_and, ← hany]
      split
      next hvalid => exact iff_of_true rfl hvalid
      next hvalid =>
        refine iff_of_false (fun hother => ?_) hvalid
        split at hother <;> cases hother

theorem admitted_iff {cutoff : Instant} {fixture : CanonicalFixture} :
    admitted cutoff fixture = true ↔
      fixture.effectiveCutoffEligibility = .cutoffValid ∧
        ∀ item ∈ fixture.provenance, item.observedAtUtc ≤ cutoff := by
  unfold admitted CanonicalFixture.observedAtUtc
  rw [Bool.and_eq_true, decide_eq_true_eq, latestObservation_all]

/-- When the admitted items of one kind are none, the admitted ones are of the other. -/
theorem filter_admitted_eq {kind admits : CanonicalFixture → Bool}
    {items : List CanonicalFixture} (hnone : (items.filter kind).filter admits = []) :
    items.filter admits = (items.filter fun item => !kind item).filter admits := by
  rw [List.filter_filter]
  refine List.filter_congr fun item hitem => ?_
  cases hkind : kind item with
  | false => simp
  | true =>
      have hrefused : ¬admits item = true :=
        List.filter_eq_nil_iff.mp hnone item (List.mem_filter.mpr ⟨hitem, hkind⟩)
      simpa using hrefused

/-! ## Merging, revision by revision -/

section Merging

variable [Hashing]

/-- A predicate on what tells revisions apart. -/
def ofIdentity (p : String × String × RevisionSignature → Bool) (fixture : CanonicalFixture) :
    Bool := p (identity fixture)

/-- The entry that a row of a known revision leaves. -/
def merged (prior candidate : CanonicalFixture) : CanonicalFixture := { candidate with
  provenance := provenanceSet (prior.provenance ++ candidate.provenance) }

theorem mergeInto_cons (prior candidate : CanonicalFixture) (rest : List CanonicalFixture) :
    mergeInto (prior :: rest) candidate =
      if identity prior = identity candidate then merged prior candidate :: rest
      else prior :: mergeInto rest candidate := rfl

/-- Merging one row concerns the rows of its revision only. -/
theorem mergeInto_filter (p : String × String × RevisionSignature → Bool)
    (known : List CanonicalFixture) (candidate : CanonicalFixture) :
    (mergeInto known candidate).filter (ofIdentity p) =
      if ofIdentity p candidate then mergeInto (known.filter (ofIdentity p)) candidate
      else known.filter (ofIdentity p) := by
  induction known with
  | nil =>
      cases hcandidate : ofIdentity p candidate <;> simp [mergeInto, hcandidate]
  | cons prior rest ih =>
      rw [mergeInto_cons, List.filter_cons]
      by_cases hsame : identity prior = identity candidate
      · have hprior : ofIdentity p prior = ofIdentity p candidate := by
          unfold ofIdentity
          rw [hsame]
        have hmerged : ofIdentity p (merged prior candidate) = ofIdentity p candidate := rfl
        rw [if_pos hsame, List.filter_cons, hprior, hmerged]
        cases ofIdentity p candidate with
        | false => rfl
        | true =>
            rw [if_pos rfl, if_pos rfl, if_pos rfl, mergeInto_cons, if_pos hsame]
      · rw [if_neg hsame, List.filter_cons, ih]
        cases ofIdentity p prior with
        | false => rfl
        | true =>
            cases ofIdentity p candidate with
            | false => rfl
            | true => rw [if_pos rfl, if_pos rfl, if_pos rfl, if_pos rfl, mergeInto_cons,
                if_neg hsame]

theorem mergeRows_filter (p : String × String × RevisionSignature → Bool)
    (candidates : List CanonicalFixture) :
    (mergeRows candidates).filter (ofIdentity p) =
      mergeRows (candidates.filter (ofIdentity p)) := by
  have hfold : ∀ known : List CanonicalFixture,
      (candidates.foldl mergeInto known).filter (ofIdentity p) =
        (candidates.filter (ofIdentity p)).foldl mergeInto (known.filter (ofIdentity p)) := by
    induction candidates with
    | nil => exact fun _ => rfl
    | cons candidate rest ih =>
        intro known
        rw [List.foldl_cons, ih, mergeInto_filter]
        cases hcandidate : ofIdentity p candidate with
        | false => rw [List.filter_cons_of_neg (by simp [hcandidate]), if_neg Bool.false_ne_true]
        | true =>
            rw [List.filter_cons_of_pos (by simp [hcandidate]), List.foldl_cons, if_pos rfl]
  exact hfold []

/-- The rows of one revision merge into one entry: the last row with all provenance. -/
theorem mergeRows_group {last : CanonicalFixture} {group : List CanonicalFixture}
    (hsame : ∀ row ∈ group, identity row = identity last) :
    ∃ entry, mergeRows (group ++ [last]) = [entry] ∧ identity entry = identity last ∧
      entry.cutoffEligibility = last.cutoffEligibility ∧
      ∀ item, item ∈ entry.provenance ↔ ∃ row ∈ group ++ [last], item ∈ row.provenance := by
  induction group using List.reverseRecOn generalizing last with
  | nil => exact ⟨last, rfl, rfl, rfl, by simp⟩
  | append_singleton group prior ih =>
      have hprior : identity prior = identity last := hsame prior (by simp)
      obtain ⟨entry, hentry, hidentity, -, hprovenance⟩ := ih fun row hrow =>
        (hsame row (List.mem_append_left _ hrow)).trans hprior.symm
      refine ⟨merged entry last, ?_, rfl, rfl, ?_⟩
      · unfold mergeRows at hentry ⊢
        rw [List.foldl_append, hentry]
        change mergeInto [entry] last = _
        rw [mergeInto_cons, if_pos (hidentity.trans hprior)]
      · intro item
        unfold merged
        rw [mem_provenanceSet, List.mem_append, hprovenance]
        simp only [List.mem_append, List.mem_singleton]
        constructor
        · rintro (⟨row, hrow, hitem⟩ | hitem)
          · exact ⟨row, Or.inl hrow, hitem⟩
          · exact ⟨last, Or.inr rfl, hitem⟩
        · rintro ⟨row, hrow | rfl, hitem⟩
          · exact Or.inl ⟨row, hrow, hitem⟩
          · exact Or.inr hitem

/-! ## Revisions known by the cutoff -/

/-- The rows of a revision, taken together, are valid for the cutoff and none of them
was observed after it. -/
structure KnownByCutoff (cutoff : Instant) (group : List CanonicalFixture) : Prop where
  observed : ∀ row ∈ group, ∀ item ∈ row.provenance, item.observedAtUtc ≤ cutoff
  valid : ∃ last ∈ group.getLast?, last.cutoffEligibility = some .cutoffValid ∨
    last.cutoffEligibility = none ∧
      ∃ row ∈ group, ∃ item ∈ row.provenance, item.cutoffEligibility = .cutoffValid

/-- The rows of the revision of a row. -/
def sameRevision (row : CanonicalFixture) (candidates : List CanonicalFixture) :
    List CanonicalFixture :=
  candidates.filter fun other => identity other = identity row

/-- The entry of a revision is admitted exactly when its rows are known by the cutoff. -/
theorem mergeRows_admitted {cutoff : Instant} {row : CanonicalFixture}
    {group : List CanonicalFixture} (hsame : ∀ other ∈ group, identity other = identity row) :
    (mergeRows group).filter (admitted cutoff) ≠ [] ↔ KnownByCutoff cutoff group := by
  induction group using List.reverseRecOn with
  | nil =>
      constructor
      · intro hnil
        exact absurd rfl hnil
      · rintro ⟨-, last, hlast, -⟩
        cases hlast
  | append_singleton group last =>
      have hlast : identity last = identity row := hsame last (by simp)
      obtain ⟨entry, hentry, -, heligibility, hprovenance⟩ := @mergeRows_group _ last group
        fun other hother => (hsame other (List.mem_append_left _ hother)).trans hlast.symm
      have hadmitted : (mergeRows (group ++ [last])).filter (admitted cutoff) ≠ [] ↔
          admitted cutoff entry = true := by
        rw [hentry]
        cases hentry : admitted cutoff entry <;> simp [hentry]
      rw [hadmitted, admitted_iff, effectiveCutoffEligibility_iff, heligibility]
      simp only [hprovenance]
      constructor
      · rintro ⟨hvalid, hobserved⟩
        refine ⟨fun other hother item hitem => hobserved item ⟨other, hother, hitem⟩, last,
          by simp, hvalid.imp_right fun hnone => ⟨hnone.1, ?_⟩⟩
        obtain ⟨item, ⟨other, hother, hitem⟩, heligible⟩ := hnone.2
        exact ⟨other, hother, item, hitem, heligible⟩
      · rintro ⟨hobserved, found, hfound, hvalid⟩
        obtain rfl : last = found := by simpa using hfound
        refine ⟨hvalid.imp_right fun hnone => ⟨hnone.1, ?_⟩, ?_⟩
        · obtain ⟨other, hother, item, hitem, heligible⟩ := hnone.2
          exact ⟨item, ⟨other, hother, hitem⟩, heligible⟩
        · rintro item ⟨other, hother, hitem⟩
          exact hobserved other hother item hitem

/-- A late row among the rows of its revision keeps the revision from being admitted. -/
theorem mergeRows_late {cutoff : Instant} {row : CanonicalFixture}
    {group : List CanonicalFixture} (hsame : ∀ other ∈ group, identity other = identity row)
    (hmem : row ∈ group) (hlate : ∃ item ∈ row.provenance, cutoff < item.observedAtUtc) :
    (mergeRows group).filter (admitted cutoff) = [] := by
  by_contra hadmitted
  have hknown := (mergeRows_admitted hsame).mp hadmitted
  obtain ⟨item, hitem, hafter⟩ := hlate
  exact absurd (hknown.observed row hmem item hitem) (not_le.mpr hafter)

/-- One more late row leaves the admitted revisions as they are exactly when it does not
observe a known revision again. -/
theorem mergeRows_insert {cutoff : Instant} {row : CanonicalFixture}
    {before after : List CanonicalFixture}
    (hlate : ∃ item ∈ row.provenance, cutoff < item.observedAtUtc) :
    (mergeRows (before ++ row :: after)).filter (admitted cutoff) =
        (mergeRows (before ++ after)).filter (admitted cutoff) ↔
      ¬KnownByCutoff cutoff (sameRevision row (before ++ after)) := by
  let same : String × String × RevisionSignature → Bool := fun name => name = identity row
  have hgroup : ∀ candidates : List CanonicalFixture, ∀ other ∈ candidates.filter (ofIdentity same),
      identity other = identity row := by
    intro candidates other hother
    exact of_decide_eq_true (List.mem_filter.mp hother).2
  have hself : ofIdentity same row = true := decide_eq_true rfl
  have hothers : (mergeRows (before ++ row :: after)).filter (fun item => !ofIdentity same item) =
      (mergeRows (before ++ after)).filter fun item => !ofIdentity same item := by
    have hdrop : (before ++ row :: after).filter (fun item => !ofIdentity same item) =
        (before ++ after).filter fun item => !ofIdentity same item := by
      simp [hself]
    exact ((mergeRows_filter (fun name => !same name) _).trans (congrArg mergeRows hdrop)).trans
      (mergeRows_filter (fun name => !same name) _).symm
  have hwith : ((mergeRows (before ++ row :: after)).filter (ofIdentity same)).filter
      (admitted cutoff) = [] := by
    rw [mergeRows_filter]
    exact mergeRows_late (hgroup _) (List.mem_filter.mpr ⟨by simp, hself⟩) hlate
  have hwithout : ((mergeRows (before ++ after)).filter (ofIdentity same)).filter
      (admitted cutoff) ≠ [] ↔ KnownByCutoff cutoff (sameRevision row (before ++ after)) := by
    rw [mergeRows_filter]
    exact mergeRows_admitted (hgroup _)
  rw [← hwithout, ne_eq, Decidable.not_not]
  constructor
  · intro heq
    rw [List.filter_comm, ← heq, List.filter_comm]
    exact hwith
  · intro hnone
    rw [filter_admitted_eq hwith, filter_admitted_eq hnone, hothers]

end Merging

/-! ## One more stored row -/

/-- The fixture that the loader reads from a stored row; it does not read supports. -/
def readFixture : ExtraRow → Option CanonicalFixture
  | .revision row => some row.toFixture
  | .support _ => none
  | .event row => some row.toFixture

/-- A late stored row carries a late observation. -/
theorem late_provenance {cutoff : Instant} {extra : ExtraRow}
    (hlate : cutoff < extra.observedAtUtc) {fixture : CanonicalFixture}
    (hfixture : fixture ∈ readFixture extra) :
    ∃ item ∈ fixture.provenance, cutoff < item.observedAtUtc := by
  cases extra with
  | support row => cases hfixture
  | revision row =>
      cases hfixture
      exact ⟨_, List.mem_singleton.mpr rfl, hlate⟩
  | event row =>
      cases hfixture
      by_contra hnone
      have hall : ((latestObservation row.provenance).all fun observed => observed ≤ cutoff) =
          true := by
        rw [latestObservation_all]
        intro item hitem
        by_contra hafter
        exact hnone ⟨item, hitem, not_le.mp hafter⟩
      rw [row.observed] at hall
      exact absurd hlate (not_lt.mpr (of_decide_eq_true hall))

/-- A row read from a table comes in somewhere in its order. -/
theorem readRows_cons {query : HistoryQuery} {row : CanonicalFixture × Instant}
    {rows : List (CanonicalFixture × Instant)} (hselected : query.selects row.1 = true) :
    ∃ before after, readRows query rows = before ++ after ∧
      readRows query (row :: rows) = before ++ row.1 :: after := by
  unfold readRows
  rw [List.filter_cons_of_pos (by simpa using hselected)]
  generalize rows.filter (fun row => query.selects row.1) = kept
  refine ⟨((sortedOn rowOrder kept).takeWhile fun other => ¬rowOrder row ≤ rowOrder other).map
    Prod.fst, ((sortedOn rowOrder kept).dropWhile fun other =>
      ¬rowOrder row ≤ rowOrder other).map Prod.fst, ?_, ?_⟩
  · rw [← List.map_append, List.takeWhile_append_dropWhile]
  · have hinsert : sortedOn rowOrder (row :: kept) =
        (sortedOn rowOrder kept).orderedInsert
          (fun first second => rowOrder first ≤ rowOrder second) row := rfl
    rw [hinsert, List.orderedInsert_eq_take_drop, List.map_append, List.map_cons]

theorem readRows_cons_unselected {query : HistoryQuery} {row : CanonicalFixture × Instant}
    {rows : List (CanonicalFixture × Instant)} (hselected : query.selects row.1 = false) :
    readRows query (row :: rows) = readRows query rows := by
  unfold readRows
  rw [List.filter_cons_of_neg (by simpa using hselected)]

/-- The rows to merge, with one more stored row. -/
theorem candidateRows_add (store : WorkloadStore) (query : HistoryQuery)
    (contextFixtures : List CanonicalFixture) (extra : ExtraRow) :
    (candidateRows (store.add extra) query contextFixtures =
        candidateRows store query contextFixtures ∧
      ∀ fixture ∈ readFixture extra, query.selects fixture = false) ∨
    ∃ fixture ∈ readFixture extra, query.selects fixture = true ∧ ∃ before after,
      candidateRows store query contextFixtures = before ++ after ∧
        candidateRows (store.add extra) query contextFixtures = before ++ fixture :: after := by
  cases extra with
  | support row =>
      refine Or.inl ⟨rfl, fun fixture hfixture => ?_⟩
      cases hfixture
  | revision row =>
      cases hselected : query.selects row.toFixture with
      | false =>
          refine Or.inl ⟨?_, fun fixture hfixture => ?_⟩
          · unfold candidateRows t06FixtureHistory
            change readRows query ((row.toFixture, row.observedAtUtc) :: _) ++ _ ++ _ = _
            rw [readRows_cons_unselected hselected]
            rfl
          · cases hfixture
            exact hselected
      | true =>
          obtain ⟨before, after, hwithout, hwith⟩ :=
            @readRows_cons query (row.toFixture, row.observedAtUtc)
              (store.fixtureRevisions.map fun row => (row.toFixture, row.observedAtUtc)) hselected
          refine Or.inr ⟨row.toFixture, rfl, hselected, before,
            after ++ scheduleFixtureHistory store query ++ contextFixtures, ?_, ?_⟩
          · unfold candidateRows t06FixtureHistory
            rw [hwithout, List.append_assoc, List.append_assoc, List.append_assoc]
          · unfold candidateRows t06FixtureHistory
            change readRows query ((row.toFixture, row.observedAtUtc) :: _) ++
              scheduleFixtureHistory store query ++ _ = _
            rw [hwith]
            simp only [List.append_assoc, List.cons_append]
  | event row =>
      cases hselected : query.selects row.toFixture with
      | false =>
          refine Or.inl ⟨?_, fun fixture hfixture => ?_⟩
          · unfold candidateRows scheduleFixtureHistory
            change _ ++ readRows query ((row.toFixture, row.observedAtUtc) :: _) ++ _ = _
            rw [readRows_cons_unselected hselected]
            rfl
          · cases hfixture
            exact hselected
      | true =>
          obtain ⟨before, after, hwithout, hwith⟩ :=
            @readRows_cons query (row.toFixture, row.observedAtUtc)
              (store.scheduleEvents.map fun row => (row.toFixture, row.observedAtUtc)) hselected
          refine Or.inr ⟨row.toFixture, rfl, hselected, t06FixtureHistory store query ++ before,
            after ++ contextFixtures, ?_, ?_⟩
          · unfold candidateRows scheduleFixtureHistory
            rw [hwithout]
            simp only [List.append_assoc]
          · unfold candidateRows scheduleFixtureHistory
            change t06FixtureHistory store query ++
              readRows query ((row.toFixture, row.observedAtUtc) :: _) ++ _ = _
            rw [hwith]
            simp only [List.append_assoc, List.cons_append]

section Loading

variable [Hashing]

/-- The row observes again a revision that is known by the cutoff. -/
def ReobservesKnown (store : WorkloadStore) (query : HistoryQuery)
    (contextFixtures : List CanonicalFixture) (cutoff : Instant) (extra : ExtraRow) : Prop :=
  ∃ fixture ∈ readFixture extra, query.selects fixture = true ∧
    KnownByCutoff cutoff (sameRevision fixture (candidateRows store query contextFixtures))

/-- The calculation sees the admitted fixtures only. -/
theorem calculate_congr {cutoff : Instant} {first second : List CanonicalFixture}
    (hadmitted : first.filter (admitted cutoff) = second.filter (admitted cutoff))
    (rules : WorkloadRules) (target : CanonicalFixture) :
    calculate first cutoff rules target = calculate second cutoff rules target := by
  have hviews : selectCanonicalViews (first ++ [target]) cutoff =
      selectCanonicalViews (second ++ [target]) cutoff := by
    unfold selectCanonicalViews
    rw [List.filter_append, List.filter_append, hadmitted]
  unfold calculate
  rw [hviews]

/-- A stored row that was observed after the cutoff leaves the history that is admitted
at the cutoff as it is exactly when it does not observe again a revision that is known
by then, and in that case it changes no workload evidence. -/
theorem calculate_add {store : WorkloadStore} {query : HistoryQuery}
    {contextFixtures : List CanonicalFixture} {cutoff : Instant} {extra : ExtraRow}
    (hlate : cutoff < extra.observedAtUtc) :
    ((loadCanonicalFixtureHistory (store.add extra) query contextFixtures).filter
          (admitted cutoff) =
        (loadCanonicalFixtureHistory store query contextFixtures).filter (admitted cutoff) ↔
      ¬ReobservesKnown store query contextFixtures cutoff extra) ∧
    (¬ReobservesKnown store query contextFixtures cutoff extra → ∀ rules target,
      calculate (loadCanonicalFixtureHistory (store.add extra) query contextFixtures) cutoff
          rules target =
        calculate (loadCanonicalFixtureHistory store query contextFixtures) cutoff
          rules target) := by
  have hiff : (loadCanonicalFixtureHistory (store.add extra) query contextFixtures).filter
          (admitted cutoff) =
        (loadCanonicalFixtureHistory store query contextFixtures).filter (admitted cutoff) ↔
      ¬ReobservesKnown store query contextFixtures cutoff extra := by
    unfold loadCanonicalFixtureHistory ReobservesKnown
    rcases candidateRows_add store query contextFixtures extra with
      ⟨hsame, hunselected⟩ | ⟨fixture, hfixture, hselected, before, after, hwithout, hwith⟩
    · rw [hsame]
      refine iff_of_true rfl ?_
      rintro ⟨fixture, hfixture, hselected, -⟩
      rw [hunselected fixture hfixture] at hselected
      cases hselected
    · rw [hwithout, hwith, mergeRows_insert (late_provenance hlate hfixture)]
      refine not_congr ⟨fun hknown => ⟨fixture, hfixture, hselected, hknown⟩, ?_⟩
      rintro ⟨other, hother, -, hknown⟩
      rwa [Option.mem_unique hfixture hother]
  exact ⟨hiff, fun hfresh rules target => calculate_congr (hiff.mpr hfresh) rules target⟩

end Loading

namespace RestDays

local instance : Hashing := shapeHashing

def moment (day hour : ℤ) : Instant := day * 86400000000 + hour * 3600000000

def season : HistoryQuery := ⟨"2026-27", none⟩

/-- Noon of Sunday 13 September 2026. -/
def cutoff : Instant := moment 20709 12

/-- A match that was completed three days before the target, seen the next morning. -/
def past : RevisionRow where
  fixtureId := "past"
  seasonLabel := "2026-27"
  homeTeamId := "home"
  homeName := "Home"
  awayTeamId := "opponent"
  awayName := "Opponent"
  leagueKey := "premier_league"
  revisionId := "past-r1"
  revisionDigest := "past-d1"
  kickoffUtc := some (moment 20706 20)
  fixtureStatus := .completed
  observedAtUtc := moment 20707 10
  locator := "https://example.test/schedule"
  sourceKey := "schedule"
  sourcePublishedAtUtc := none
  captureId := "capture-1"
  named := by decide +kernel
  source_named := by decide +kernel
  two_teams := by decide

def store : WorkloadStore := ⟨[past], [], []⟩

/-- A schedule event of a revision of the same match, seen an hour after the cutoff. -/
def event (revisionId : String) : ScheduleEventRow where
  sourceFixtureId := "past"
  revisionId := revisionId
  revisionDigest := some "past-d1"
  competitionKey := "premier_league"
  competitionName := "premier_league"
  competitionType := .targetLeague
  seasonLabel := "2026-27"
  homeTeamId := "home"
  homeTeamName := none
  awayTeamId := "opponent"
  awayTeamName := none
  kickoffUtc := some (moment 20706 20)
  fixtureStatus := .completed
  observedAtUtc := moment 20709 13
  cutoffEligibility := .cutoffValid
  provenance := [{
    sourceKey := "schedule"
    locator := "https://example.test/schedule"
    observedAtUtc := moment 20709 13
    publishedAtUtc := none
    sourceCaptureId := none
    revisionId := none
    revisionDigest := none
    cutoffEligibility := .cutoffValid
    named := by decide +kernel }]
  named := by decide +kernel
  two_teams := by decide
  observed := rfl

def target : CanonicalFixture := { (event "target-r1").toFixture with
  fixtureId := "target"
  kickoffUtc := some (moment 20709 20)
  status := .scheduled
  named := by decide +kernel }

def rules : WorkloadRules where
  name := "t08-workload-v1"
  recentWindowsDays := [7, 14, 28]
  contextLookbackDays := 42
  congestionThresholdHours := 72
  named := by decide +kernel
  windows_given := by decide
  windows_positive := by decide
  windows_sorted := by decide
  lookback_covers := by decide
  threshold_positive := by decide

/-- The evidence on the rest of the home team. -/
def homeRest (history : WorkloadStore) : Option (Option ℚ × List String) :=
  (calculate (loadCanonicalFixtureHistory history season []) cutoff rules target).toOption.map
    fun evidence => (evidence.home.restDays, evidence.home.unknownReasons)

/-- A known revision that is observed again after the cutoff is lost, and with it the
rest of the team. -/
theorem reobserved_changes_rest :
    cutoff < (ExtraRow.event (event "past-r1")).observedAtUtc ∧
      homeRest store = some (some 3, []) ∧
      homeRest (store.add (.event (event "past-r1"))) =
        some (none, ["NO_COMPLETED_HISTORY"]) := by
  decide +kernel

/-- Another revision of the match that is seen after the cutoff changes nothing. -/
theorem moved_calculate :
    calculate (loadCanonicalFixtureHistory (store.add (.event (event "past-r2"))) season [])
        cutoff rules target =
      calculate (loadCanonicalFixtureHistory store season []) cutoff rules target := by
  refine (calculate_add (by decide)).2 ?_ rules target
  rintro ⟨fixture, hfixture, -, hknown⟩
  cases hfixture
  obtain ⟨last, hlast, -⟩ := hknown.valid
  have hnone : (sameRevision (event "past-r2").toFixture
      (candidateRows store season [])).getLast?.isNone = true := by decide +kernel
  rw [Option.mem_def.mp hlast] at hnone
  cases hnone

end RestDays

end MatchVet.Workload.CutoffLaw
