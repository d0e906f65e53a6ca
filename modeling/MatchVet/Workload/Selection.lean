import Mathlib.Data.Finset.Card
import MatchVet.Workload.CutoffLaw

/-!
# The selected revisions

A selection gives one view for each fixture with an admitted row.  The view shows
the revision that was observed last, and one more row of a fixture concerns the
view of that fixture only.
-/

namespace MatchVet.Workload.Selection

open MatchVet.Foundation.CanonicalJson
open MatchVet.Foundation.Grouping
open MatchVet.Foundation.KeySort
open MatchVet.Foundation.Runtime
open MatchVet.Foundation.Timestamp
open MatchVet.Workload.Calculator
open MatchVet.Workload.History

/-- Instants are compared by the computable order of the integers. -/
local instance (priority := 5000) instantOrder : PartialOrder Instant :=
  Int.instLinearOrder.toPartialOrder

/-! ## Observation times -/

theorem latestObservation_eq (items : List FixtureProvenance) :
    (latestObservation items : WithBot Instant) =
      (items.map FixtureProvenance.observedAtUtc).maximum := by
  induction items using List.reverseRecOn with
  | nil => rfl
  | append_singleton items item ih =>
      rw [List.map_append, List.map_singleton, List.maximum_concat, ← ih]
      unfold latestObservation
      rw [List.foldl_append, List.foldl_cons, List.foldl_nil]
      cases items.foldl (fun latest item => later latest item.observedAtUtc) none with
      | none => rfl
      | some observed => exact congrArg WithBot.some (max_comm item.observedAtUtc observed)

theorem observationKey_eq (fixture : CanonicalFixture) :
    observationKey fixture = (fixture.provenance.map FixtureProvenance.observedAtUtc).maximum :=
  latestObservation_eq fixture.provenance

/-! ## Revisions -/

/-- The admitted rows of a fixture. -/
def entriesOf (rows : List CanonicalFixture) (cutoff : Instant) (fixtureId : String) :
    List CanonicalFixture :=
  (rows.filter (admitted cutoff)).filter fun row => row.fixtureId = fixtureId

theorem mem_entriesOf {rows : List CanonicalFixture} {cutoff : Instant} {fixtureId : String}
    {row : CanonicalFixture} : row ∈ entriesOf rows cutoff fixtureId ↔
      row ∈ rows ∧ admitted cutoff row = true ∧ row.fixtureId = fixtureId := by
  unfold entriesOf
  rw [List.mem_filter, List.mem_filter, decide_eq_true_eq, and_assoc]

/-- Rows around one more row. -/
theorem mem_insert {first second : List CanonicalFixture} {row other : CanonicalFixture}
    (hother : other ∈ first ++ second) : other ∈ first ++ row :: second := by
  rcases List.mem_append.mp hother with hfirst | hsecond
  · exact List.mem_append_left _ hfirst
  · exact List.mem_append_right _ (List.mem_cons_of_mem _ hsecond)

theorem mem_entriesOf_insert {first second : List CanonicalFixture} {cutoff : Instant}
    {row : CanonicalFixture} (hadmitted : admitted cutoff row = true) {other : CanonicalFixture} :
    other ∈ entriesOf (first ++ row :: second) cutoff row.fixtureId ↔
      other = row ∨ other ∈ entriesOf (first ++ second) cutoff row.fixtureId := by
  rw [mem_entriesOf, mem_entriesOf]
  constructor
  · rintro ⟨hin, hrest⟩
    rcases List.mem_append.mp hin with hfirst | hsecond
    · exact Or.inr ⟨List.mem_append_left _ hfirst, hrest⟩
    · rcases List.mem_cons.mp hsecond with rfl | hrow
      · exact Or.inl rfl
      · exact Or.inr ⟨List.mem_append_right _ hrow, hrest⟩
  · rintro (rfl | ⟨hin, hrest⟩)
    · exact ⟨by simp, hadmitted, rfl⟩
    · exact ⟨mem_insert hin, hrest⟩

/-- One more row concerns the rows of its fixture only. -/
theorem entriesOf_insert_other {first second : List CanonicalFixture} {cutoff : Instant}
    {row : CanonicalFixture} {fixtureId : String} (hother : row.fixtureId ≠ fixtureId) :
    entriesOf (first ++ row :: second) cutoff fixtureId =
      entriesOf (first ++ second) cutoff fixtureId := by
  unfold entriesOf
  cases hadmitted : admitted cutoff row <;>
    simp [List.filter_append, hadmitted, hother]

theorem revisionView_isSome (name : String) {rows : List CanonicalFixture} (hrows : rows ≠ []) :
    ∃ fixture, revisionView (name, rows) = some fixture := by
  refine Option.isSome_iff_exists.mp ?_
  unfold revisionView
  rw [Option.isSome_map, ← Option.ne_none_iff_isSome]
  exact mt List.argmax_eq_none.mp hrows

section Revisions

variable [Hashing]

/-- The view of the rows of a revision shows one of them, observed when the last of them was. -/
theorem revisionView_spec {group : String × List CanonicalFixture} {fixture : CanonicalFixture}
    (hview : revisionView group = some fixture) :
    (∃ chosen ∈ group.2, fixture.fixtureId = chosen.fixtureId ∧
      fixture.revisionKey = chosen.revisionKey ∧
      sameRevisionSignature fixture = sameRevisionSignature chosen) ∧
    (∀ row ∈ group.2, observationKey row ≤ observationKey fixture) ∧
    ∃ row ∈ group.2, observationKey row = observationKey fixture := by
  unfold revisionView at hview
  obtain ⟨chosen, hchosen, hfixture⟩ := Option.map_eq_some_iff.mp hview
  have hmem : chosen ∈ group.2 := List.argmax_mem hchosen
  have hprovenance : fixture.provenance =
      provenanceSet (group.2.flatMap CanonicalFixture.provenance) := by
    rw [← hfixture]
  have hbound : ∀ row ∈ group.2, observationKey row ≤ observationKey fixture := by
    intro row hrow
    rw [observationKey_eq, observationKey_eq, hprovenance]
    refine List.maximum_mono (List.map_subset _ fun item hitem => ?_)
    exact mem_provenanceSet.mpr (List.mem_flatMap.mpr ⟨row, hrow, hitem⟩)
  refine ⟨⟨chosen, hmem, ?_⟩, hbound, ?_⟩
  · rw [← hfixture]
    exact ⟨rfl, rfl, rfl⟩
  · cases hlatest : observationKey fixture with
    | bot => exact ⟨chosen, hmem, le_bot_iff.mp (hlatest ▸ hbound chosen hmem)⟩
    | coe observed =>
        have hmax := hlatest
        rw [observationKey_eq] at hmax
        obtain ⟨item, hitem, rfl⟩ := List.mem_map.mp (List.maximum_mem hmax)
        rw [hprovenance, mem_provenanceSet] at hitem
        obtain ⟨row, hrow, hown⟩ := List.mem_flatMap.mp hitem
        refine ⟨row, hrow, le_antisymm (hlatest ▸ hbound row hrow) ?_⟩
        rw [observationKey_eq]
        exact List.le_maximum_of_mem' (List.mem_map_of_mem hown)

/-- What a selection compares revisions by. -/
def latestKey (fixture : CanonicalFixture) : WithBot Instant ×ₗ String :=
  toLex (observationKey fixture, fixture.revisionKey)

/-- The rows of one revision. -/
def revisionRows (entries : List CanonicalFixture) (name : String) : List CanonicalFixture :=
  entries.filter fun row => row.revisionKey = name

/-- A view shows the revision with the greatest key. -/
theorem selectView_spec {entries : List CanonicalFixture} {view : CanonicalView}
    (hview : selectView entries = some view) :
    revisionView (view.fixture.revisionKey, revisionRows entries view.fixture.revisionKey) =
        some view.fixture ∧
      (∀ row ∈ entries, latestKey row ≤ latestKey view.fixture) ∧
      (∃ row ∈ entries, latestKey row = latestKey view.fixture) ∧
      view.conflict = (groupsBy CanonicalFixture.revisionKey entries).any inConflict := by
  unfold selectView at hview
  obtain ⟨chosen, hchosen, rfl⟩ := Option.map_eq_some_iff.mp hview
  obtain ⟨group, hgroup, hrevision⟩ := List.mem_filterMap.mp (List.argmax_mem hchosen)
  have hkey : ∀ {other : String × List CanonicalFixture} {fixture : CanonicalFixture},
      other ∈ groupsBy CanonicalFixture.revisionKey entries → revisionView other = some fixture →
      other = (fixture.revisionKey, revisionRows entries fixture.revisionKey) := by
    intro other fixture hother hfixture
    obtain ⟨hmembers, -⟩ := mem_groupsBy.mp hother
    obtain ⟨⟨row, hrow, -, hname, -⟩, -, -⟩ := revisionView_spec hfixture
    rw [hmembers, List.mem_filter, decide_eq_true_eq] at hrow
    rw [revisionRows, hname.trans hrow.2]
    exact Prod.ext rfl hmembers
  have hown := hkey hgroup hrevision
  rw [hown] at hrevision
  obtain ⟨-, -, row, hrow, hobserved⟩ := revisionView_spec hrevision
  obtain ⟨hentry, hname⟩ := List.mem_filter.mp hrow
  refine ⟨hrevision, fun other hother => ?_, ⟨row, hentry, ?_⟩, rfl⟩
  · have hrows : revisionRows entries other.revisionKey ≠ [] :=
      List.ne_nil_of_mem (List.mem_filter.mpr ⟨hother, decide_eq_true rfl⟩)
    obtain ⟨fixture, hfixture⟩ := revisionView_isSome other.revisionKey hrows
    obtain ⟨⟨first, hfirst, -, hfirstName, -⟩, hbound, -⟩ := revisionView_spec hfixture
    have hsame : fixture.revisionKey = other.revisionKey :=
      hfirstName.trans (of_decide_eq_true (List.mem_filter.mp hfirst).2)
    have hother' : latestKey other ≤ latestKey fixture := by
      refine Prod.Lex.toLex_le_toLex.mpr ?_
      rcases (hbound other (List.mem_filter.mpr ⟨hother, decide_eq_true rfl⟩)).lt_or_eq with
        hlt | heq
      · exact Or.inl hlt
      · exact Or.inr ⟨heq, hsame.ge⟩
    refine hother'.trans (List.le_of_mem_argmax (List.mem_filterMap.mpr ⟨_, ?_, hfixture⟩) hchosen)
    exact mem_groupsBy.mpr ⟨rfl, hrows⟩
  · unfold latestKey
    rw [hobserved, of_decide_eq_true hname]

theorem selectView_isSome {entries : List CanonicalFixture} (hentries : entries ≠ []) :
    ∃ view, selectView entries = some view := by
  obtain ⟨row, hrow⟩ := List.exists_mem_of_ne_nil entries hentries
  have hrows : revisionRows entries row.revisionKey ≠ [] :=
    List.ne_nil_of_mem (List.mem_filter.mpr ⟨hrow, decide_eq_true rfl⟩)
  obtain ⟨fixture, hfixture⟩ := revisionView_isSome row.revisionKey hrows
  refine Option.isSome_iff_exists.mp ?_
  unfold selectView
  rw [Option.isSome_map, ← Option.ne_none_iff_isSome]
  refine mt List.argmax_eq_none.mp (List.ne_nil_of_mem (List.mem_filterMap.mpr ⟨_, ?_, hfixture⟩))
  exact mem_groupsBy.mpr ⟨rfl, hrows⟩

/-! ## One more row -/

/-- Rows of one revision of a fixture agree on what identifies it. -/
def NonConflicting (cutoff : Instant) (rows : List CanonicalFixture) : Prop :=
  ∀ first ∈ rows, ∀ second ∈ rows, admitted cutoff first = true → admitted cutoff second = true →
    first.fixtureId = second.fixtureId → first.revisionKey = second.revisionKey →
    sameRevisionSignature first = sameRevisionSignature second

theorem NonConflicting.of_insert {first second : List CanonicalFixture} {cutoff : Instant}
    {row : CanonicalFixture} (hrows : NonConflicting cutoff (first ++ row :: second)) :
    NonConflicting cutoff (first ++ second) := fun left hleft right hright =>
  hrows left (mem_insert hleft) right (mem_insert hright)

/-- No admitted row of the fixture has a greater key. -/
def Latest (cutoff : Instant) (rows : List CanonicalFixture) (row : CanonicalFixture) : Prop :=
  ∀ other ∈ entriesOf rows cutoff row.fixtureId, latestKey other ≤ latestKey row

/-- A fixture with a revision whose rows differ in what identifies it. -/
def InConflict (rows : List CanonicalFixture) (cutoff : Instant) (fixtureId : String) : Prop :=
  ∃ first ∈ entriesOf rows cutoff fixtureId, ∃ second ∈ entriesOf rows cutoff fixtureId,
    first.revisionKey = second.revisionKey ∧
      sameRevisionSignature first ≠ sameRevisionSignature second

theorem any_inConflict_iff {rows : List CanonicalFixture} {cutoff : Instant} {fixtureId : String} :
    (groupsBy CanonicalFixture.revisionKey (entriesOf rows cutoff fixtureId)).any inConflict =
      true ↔ InConflict rows cutoff fixtureId := by
  rw [List.any_eq_true]
  constructor
  · rintro ⟨group, hgroup, hconflict⟩
    obtain ⟨hmembers, hsome⟩ := mem_groupsBy.mp hgroup
    obtain ⟨first, hfirst⟩ := List.exists_mem_of_ne_nil _ hsome
    have hentry : ∀ row ∈ group.2, row ∈ entriesOf rows cutoff fixtureId ∧
        row.revisionKey = group.1 := by
      intro row hrow
      rwa [hmembers, List.mem_filter, decide_eq_true_eq] at hrow
    by_contra hnone
    unfold InConflict at hnone
    push Not at hnone
    have hall : (group.2.map sameRevisionSignature).dedup ⊆ [sameRevisionSignature first] := by
      intro signature hsignature
      obtain ⟨row, hrow, rfl⟩ := List.mem_map.mp (List.mem_dedup.mp hsignature)
      exact List.mem_singleton.mpr (hnone row (hentry row hrow).1 first (hentry first hfirst).1
        ((hentry row hrow).2.trans (hentry first hfirst).2.symm))
    have hfew := (List.subperm_of_subset (List.nodup_dedup _) hall).length_le
    exact absurd (of_decide_eq_true hconflict) (not_lt.mpr hfew)
  · rintro ⟨first, hfirst, second, hsecond, hname, hne⟩
    refine ⟨(second.revisionKey, revisionRows (entriesOf rows cutoff fixtureId)
      second.revisionKey), mem_groupsBy.mpr ⟨rfl, ?_⟩, decide_eq_true ?_⟩
    · exact List.ne_nil_of_mem (List.mem_filter.mpr ⟨hsecond, decide_eq_true rfl⟩)
    · have hpair : [sameRevisionSignature first, sameRevisionSignature second] ⊆
          ((revisionRows (entriesOf rows cutoff fixtureId) second.revisionKey).map
            sameRevisionSignature).dedup := by
        refine List.cons_subset.mpr ⟨?_, List.cons_subset.mpr ⟨?_, List.nil_subset _⟩⟩
        · exact List.mem_dedup.mpr (List.mem_map_of_mem
            (List.mem_filter.mpr ⟨hfirst, decide_eq_true hname⟩))
        · exact List.mem_dedup.mpr (List.mem_map_of_mem
            (List.mem_filter.mpr ⟨hsecond, decide_eq_true rfl⟩))
      have hnodup : [sameRevisionSignature first, sameRevisionSignature second].Nodup :=
        List.nodup_cons.mpr ⟨fun hmem => hne (List.mem_singleton.mp hmem), List.nodup_singleton _⟩
      exact (List.subperm_of_subset hnodup hpair).length_le

theorem not_inConflict {rows : List CanonicalFixture} {cutoff : Instant}
    (hrows : NonConflicting cutoff rows) (fixtureId : String) :
    (groupsBy CanonicalFixture.revisionKey (entriesOf rows cutoff fixtureId)).any inConflict =
      false := by
  rw [Bool.eq_false_iff, ne_eq, any_inConflict_iff]
  rintro ⟨first, hfirst, second, hsecond, hname, hne⟩
  obtain ⟨hin, hadmitted, hid⟩ := mem_entriesOf.mp hfirst
  obtain ⟨hin', hadmitted', hid'⟩ := mem_entriesOf.mp hsecond
  exact hne (hrows first hin second hin' hadmitted hadmitted' (hid.trans hid'.symm) hname)

/-- A view shows a row of its fixture and no conflict. -/
theorem selectView_row {rows : List CanonicalFixture} {cutoff : Instant} {fixtureId : String}
    {view : CanonicalView} (hrows : NonConflicting cutoff rows)
    (hview : selectView (entriesOf rows cutoff fixtureId) = some view) :
    view.conflict = false ∧
      ∀ row ∈ entriesOf rows cutoff fixtureId, row.revisionKey = view.fixture.revisionKey →
        sameRevisionSignature view.fixture = sameRevisionSignature row := by
  obtain ⟨hrevision, -, -, hconflict⟩ := selectView_spec hview
  obtain ⟨⟨chosen, hchosen, hid, hname, hsignature⟩, -, -⟩ := revisionView_spec hrevision
  obtain ⟨hin, hadmitted, hfixture⟩ := mem_entriesOf.mp (List.mem_filter.mp hchosen).1
  refine ⟨hconflict.trans (not_inConflict hrows fixtureId), fun row hrow hsame => ?_⟩
  obtain ⟨hin', hadmitted', hfixture'⟩ := mem_entriesOf.mp hrow
  rw [hsignature]
  exact hrows chosen hin row hin' hadmitted hadmitted' (hfixture.trans hfixture'.symm)
    (hname.symm.trans hsame.symm)

/-- A row with the greatest key gives the view its revision. -/
theorem selectView_latest {rows : List CanonicalFixture} {cutoff : Instant}
    {row : CanonicalFixture} {view : CanonicalView} (hrows : NonConflicting cutoff rows)
    (hrow : row ∈ entriesOf rows cutoff row.fixtureId) (hlatest : Latest cutoff rows row)
    (hview : selectView (entriesOf rows cutoff row.fixtureId) = some view) :
    sameRevisionSignature view.fixture = sameRevisionSignature row := by
  obtain ⟨-, hbound, ⟨other, hother, hattained⟩, -⟩ := selectView_spec hview
  have hkey : latestKey row = latestKey view.fixture :=
    le_antisymm (hbound row hrow) (hattained ▸ hlatest other hother)
  have hname : row.revisionKey = view.fixture.revisionKey :=
    (Prod.ext_iff.mp (congrArg ofLex hkey)).2
  exact (selectView_row hrows hview).2 row hrow hname

/-- A row that is not the latest leaves the view of its fixture, or shows no other
revision than its own. -/
theorem selectView_earlier {first second : List CanonicalFixture} {cutoff : Instant}
    {row latest : CanonicalFixture} {view other : CanonicalView}
    (hrows : NonConflicting cutoff (first ++ row :: second))
    (hadmitted : admitted cutoff row = true)
    (hlatest : latest ∈ entriesOf (first ++ second) cutoff row.fixtureId)
    (hlater : latestKey row < latestKey latest)
    (hview : selectView (entriesOf (first ++ second) cutoff row.fixtureId) = some view)
    (hother : selectView (entriesOf (first ++ row :: second) cutoff row.fixtureId) = some other) :
    other = view ∨ sameRevisionSignature view.fixture = sameRevisionSignature row ∧
      sameRevisionSignature other.fixture = sameRevisionSignature row := by
  have hin : row ∈ entriesOf (first ++ row :: second) cutoff row.fixtureId :=
    mem_entriesOf.mpr ⟨by simp, hadmitted, rfl⟩
  have hmem := @mem_entriesOf_insert first second cutoff row hadmitted
  obtain ⟨hrevision, hbound, ⟨attains, hattains, hattained⟩, -⟩ := selectView_spec hview
  obtain ⟨hrevision', hbound', ⟨attains', hattains', hattained'⟩, -⟩ := selectView_spec hother
  have hle : latestKey other.fixture ≤ latestKey view.fixture := by
    rw [← hattained']
    rcases hmem.mp hattains' with rfl | hearlier
    · exact hlater.le.trans (hbound latest hlatest)
    · exact hbound attains' hearlier
  have hkey : latestKey view.fixture = latestKey other.fixture :=
    le_antisymm (hattained ▸ hbound' attains (hmem.mpr (Or.inr hattains))) hle
  have hname : view.fixture.revisionKey = other.fixture.revisionKey :=
    (Prod.ext_iff.mp (congrArg ofLex hkey)).2
  have hrows' := hrows.of_insert
  obtain ⟨hconflict, hsignature⟩ := selectView_row hrows' hview
  obtain ⟨hconflict', hsignature'⟩ := selectView_row hrows hother
  by_cases hsame : row.revisionKey = other.fixture.revisionKey
  · have hattainsName : attains.revisionKey = view.fixture.revisionKey :=
      (Prod.ext_iff.mp (congrArg ofLex hattained)).2
    obtain ⟨hattainsIn, hattainsAdmitted, hattainsId⟩ := mem_entriesOf.mp hattains
    refine Or.inr ⟨(hsignature attains hattains hattainsName).trans ?_, hsignature' row hin hsame⟩
    exact hrows attains (mem_insert hattainsIn) row (by simp) hattainsAdmitted hadmitted hattainsId
      (hattainsName.trans (hname.trans hsame.symm))
  · have hothers : revisionRows (entriesOf (first ++ row :: second) cutoff row.fixtureId)
          other.fixture.revisionKey =
        revisionRows (entriesOf (first ++ second) cutoff row.fixtureId)
          other.fixture.revisionKey := by
      unfold revisionRows entriesOf
      simp [hsame, List.filter_append, hadmitted]
    rw [hothers, ← hname, hrevision] at hrevision'
    refine Or.inl ?_
    cases view
    cases other
    cases hrevision'
    cases hconflict
    cases hconflict'
    rfl

/-! ## All views -/

/-- The views are those of the fixtures, one each. -/
theorem mem_views {rows : List CanonicalFixture} {cutoff : Instant} {view : CanonicalView} :
    view ∈ (selectCanonicalViews rows cutoff).1 ↔
      ∃ fixtureId, selectView (entriesOf rows cutoff fixtureId) = some view := by
  unfold selectCanonicalViews
  rw [List.mem_filterMap]
  simp only [(sortedOn_perm Prod.fst _).mem_iff]
  constructor
  · rintro ⟨group, hgroup, hview⟩
    obtain ⟨hmembers, -⟩ := mem_groupsBy.mp hgroup
    exact ⟨group.1, by rwa [entriesOf, ← hmembers]⟩
  · rintro ⟨fixtureId, hview⟩
    refine ⟨(fixtureId, entriesOf rows cutoff fixtureId), mem_groupsBy.mpr ⟨rfl, ?_⟩, hview⟩
    intro hnone
    rw [show entriesOf rows cutoff fixtureId = [] from hnone] at hview
    cases hview

theorem selectView_fixtureId {rows : List CanonicalFixture} {cutoff : Instant}
    {fixtureId : String} {view : CanonicalView}
    (hview : selectView (entriesOf rows cutoff fixtureId) = some view) :
    view.fixture.fixtureId = fixtureId := by
  obtain ⟨hrevision, -⟩ := selectView_spec hview
  obtain ⟨⟨chosen, hchosen, hid, -⟩, -⟩ := revisionView_spec hrevision
  exact hid.trans (mem_entriesOf.mp (List.mem_filter.mp hchosen).1).2.2

theorem mem_views_iff {rows : List CanonicalFixture} {cutoff : Instant} {view : CanonicalView} :
    view ∈ (selectCanonicalViews rows cutoff).1 ↔
      selectView (entriesOf rows cutoff view.fixture.fixtureId) = some view := by
  rw [mem_views]
  constructor
  · rintro ⟨fixtureId, hview⟩
    rwa [selectView_fixtureId hview]
  · intro hview
    exact ⟨_, hview⟩

theorem views_nodup (rows : List CanonicalFixture) (cutoff : Instant) :
    ((selectCanonicalViews rows cutoff).1.map fun view => view.fixture.fixtureId).Nodup := by
  have hgroups : (sortedOn Prod.fst (groupsBy CanonicalFixture.fixtureId
      (rows.filter (admitted cutoff)))).Pairwise fun first second => first.1 ≠ second.1 := by
    have hnodup := groupsBy_keys_nodup CanonicalFixture.fixtureId (rows.filter (admitted cutoff))
    exact List.pairwise_map.mp
      ((((sortedOn_perm Prod.fst _).map Prod.fst).nodup_iff).mpr hnodup)
  unfold selectCanonicalViews
  refine List.pairwise_map.mpr (List.pairwise_filterMap.mpr (hgroups.imp_of_mem ?_))
  have hown : ∀ group ∈ sortedOn Prod.fst (groupsBy CanonicalFixture.fixtureId
      (rows.filter (admitted cutoff))), ∀ view ∈ selectView group.2,
      view.fixture.fixtureId = group.1 := by
    intro group hgroup view hview
    obtain ⟨hmembers, -⟩ := mem_groupsBy.mp ((sortedOn_perm Prod.fst _).mem_iff.mp hgroup)
    rw [hmembers] at hview
    exact selectView_fixtureId hview
  intro first second hfirst hsecond hne left hleft right hright heq
  rw [hown first hfirst left hleft, hown second hsecond right hright] at heq
  exact hne heq

/-- Rows without a conflict give views without one. -/
theorem views_not_conflict {rows : List CanonicalFixture} {cutoff : Instant}
    (hrows : NonConflicting cutoff rows) :
    (∀ view ∈ (selectCanonicalViews rows cutoff).1, view.conflict = false) ∧
      (selectCanonicalViews rows cutoff).2 = [] := by
  refine ⟨fun view hview => (selectView_row hrows (mem_views_iff.mp hview)).1, ?_⟩
  unfold selectCanonicalViews
  refine (sortedSet_eq_nil _).mpr (List.map_eq_nil_iff.mpr (List.filter_eq_nil_iff.mpr ?_))
  intro group hgroup
  obtain ⟨hmembers, -⟩ := mem_groupsBy.mp ((sortedOn_perm Prod.fst _).mem_iff.mp hgroup)
  rw [hmembers, Bool.not_eq_true]
  exact not_inConflict hrows group.1

/-- One more row leaves the views of the other fixtures. -/
theorem mem_views_insert {first second : List CanonicalFixture} {cutoff : Instant}
    {row : CanonicalFixture} {view : CanonicalView}
    (hother : row.fixtureId ≠ view.fixture.fixtureId) :
    view ∈ (selectCanonicalViews (first ++ row :: second) cutoff).1 ↔
      view ∈ (selectCanonicalViews (first ++ second) cutoff).1 := by
  rw [mem_views_iff, mem_views_iff, entriesOf_insert_other hother]

/-- A row that is not admitted leaves the selection. -/
theorem selectCanonicalViews_refused {first second : List CanonicalFixture} {cutoff : Instant}
    {row : CanonicalFixture} (hrefused : admitted cutoff row = false) :
    selectCanonicalViews (first ++ row :: second) cutoff =
      selectCanonicalViews (first ++ second) cutoff := by
  unfold selectCanonicalViews
  rw [List.filter_append, List.filter_append, List.filter_cons_of_neg (by simp [hrefused])]

/-- The latest row of its fixture gives the view of that fixture. -/
theorem exists_view_latest {first second : List CanonicalFixture} {cutoff : Instant}
    {row : CanonicalFixture} (hrows : NonConflicting cutoff (first ++ row :: second))
    (hadmitted : admitted cutoff row = true) (hlatest : Latest cutoff (first ++ second) row) :
    ∃ view ∈ (selectCanonicalViews (first ++ row :: second) cutoff).1,
      view.fixture.fixtureId = row.fixtureId ∧
        sameRevisionSignature view.fixture = sameRevisionSignature row := by
  have hrow : row ∈ entriesOf (first ++ row :: second) cutoff row.fixtureId :=
    mem_entriesOf.mpr ⟨by simp, hadmitted, rfl⟩
  obtain ⟨view, hview⟩ := selectView_isSome (List.ne_nil_of_mem hrow)
  refine ⟨view, mem_views.mpr ⟨_, hview⟩, selectView_fixtureId hview,
    selectView_latest hrows hrow ?_ hview⟩
  intro other hother
  rcases (mem_entriesOf_insert hadmitted).mp hother with rfl | hearlier
  · exact le_rfl
  · exact hlatest other hearlier

/-- A row that is not the latest of its fixture leaves the views, or the view of its fixture
shows its revision anyway. -/
theorem views_earlier {first second : List CanonicalFixture} {cutoff : Instant}
    {row : CanonicalFixture} (hrows : NonConflicting cutoff (first ++ row :: second))
    (hadmitted : admitted cutoff row = true) (hlatest : ¬Latest cutoff (first ++ second) row) :
    (∀ view, view ∈ (selectCanonicalViews (first ++ row :: second) cutoff).1 ↔
      view ∈ (selectCanonicalViews (first ++ second) cutoff).1) ∨
    (∃ view ∈ (selectCanonicalViews (first ++ second) cutoff).1,
      view.fixture.fixtureId = row.fixtureId ∧
        sameRevisionSignature view.fixture = sameRevisionSignature row) ∧
    ∃ view ∈ (selectCanonicalViews (first ++ row :: second) cutoff).1,
      view.fixture.fixtureId = row.fixtureId ∧
        sameRevisionSignature view.fixture = sameRevisionSignature row := by
  unfold Latest at hlatest
  push Not at hlatest
  obtain ⟨latest, hmem, hlater⟩ := hlatest
  obtain ⟨view, hview⟩ := selectView_isSome (List.ne_nil_of_mem hmem)
  obtain ⟨other, hother⟩ := selectView_isSome
    (List.ne_nil_of_mem ((mem_entriesOf_insert hadmitted).mpr (Or.inr hmem)))
  rcases selectView_earlier hrows hadmitted hmem hlater hview hother with rfl | ⟨hown, hown'⟩
  · refine Or.inl fun found => ?_
    by_cases hsame : row.fixtureId = found.fixture.fixtureId
    · rw [mem_views_iff, mem_views_iff, ← hsame, hview, hother]
    · exact mem_views_insert hsame
  · exact Or.inr ⟨⟨view, mem_views.mpr ⟨_, hview⟩, selectView_fixtureId hview, hown⟩,
      other, mem_views.mpr ⟨_, hother⟩, selectView_fixtureId hother, hown'⟩

end Revisions

end MatchVet.Workload.Selection
