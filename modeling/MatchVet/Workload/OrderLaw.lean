import MatchVet.Workload.LookbackWindow

/-!
# The order of the fixtures

The evidence reads of every fixture one row of its latest revision.  When the rows
that tie for it tell a team the same, the order of the fixtures does not matter.  A
revision with conflicting rows is held against the teams of the row that is read, and
of no other row.
-/

namespace MatchVet.Workload.OrderLaw

open MatchVet.Foundation.CanonicalJson
open MatchVet.Foundation.Gregorian
open MatchVet.Foundation.Grouping
open MatchVet.Foundation.JsonText
open MatchVet.Foundation.KeySort
open MatchVet.Foundation.Runtime
open MatchVet.Foundation.Timestamp
open MatchVet.Workload.Calculator
open MatchVet.Workload.CutoffLaw
open MatchVet.Workload.History
open MatchVet.Workload.LookbackWindow
open MatchVet.Workload.Selection

/-- Instants are compared by the computable order of the integers. -/
local instance (priority := 5000) instantOrder : PartialOrder Instant :=
  Int.instLinearOrder.toPartialOrder

/-! ## Provenance -/

/-- The publication time is a time of the calendar, as every parsed time is. -/
def Dated (item : FixtureProvenance) : Prop :=
  ∀ published ∈ item.publishedAtUtc, InRange published

theorem eligibility_value_injective : Function.Injective CutoffEligibility.value := by
  intro first second heq
  cases first <;> cases second <;> first | rfl | exact absurd heq (by decide)

/-- What the text of a record lists. -/
def members (item : FixtureProvenance) : List (String × Option String) := [
  ("cutoff_eligibility", some item.cutoffEligibility.value),
  ("locator", some item.locator),
  ("observed_at_utc", some (gregorianText item.observedAtUtc)),
  ("published_at_utc", item.publishedAtUtc.map gregorianText),
  ("revision_digest", item.revisionDigest),
  ("revision_id", item.revisionId),
  ("source_capture_id", item.sourceCaptureId),
  ("source_key", some item.sourceKey)]

/-- The sort key tells records apart. -/
theorem sortKey_inj {first second : FixtureProvenance} (hfirst : Dated first)
    (hsecond : Dated second) (heq : first.sortKey = second.sortKey) : first = second := by
  unfold FixtureProvenance.sortKey at heq
  simp only [toLex_inj, Prod.mk.injEq] at heq
  obtain ⟨hobserved, hsource, hlocator, htext⟩ := heq
  have hmembers : members first = members second := by
    refine jsonObject_inj ?_ htext
    rfl
  simp only [members, List.cons.injEq, Prod.mk.injEq, Option.some.injEq, true_and, and_true]
    at hmembers
  obtain ⟨heligibility, -, -, hpublished, hdigest, hrevision, hcapture, -⟩ := hmembers
  have hsame : first.publishedAtUtc = second.publishedAtUtc := by
    unfold Dated at hfirst hsecond
    cases hleft : first.publishedAtUtc with
    | none =>
        rw [hleft] at hpublished
        exact (Option.map_eq_none_iff.mp hpublished.symm).symm
    | some published =>
        rw [hleft, Option.map_some] at hpublished
        obtain ⟨other, hother, htime⟩ := Option.map_eq_some_iff.mp hpublished.symm
        rw [hother, gregorianText_injOn (hsecond other hother) (hfirst published hleft) htime]
  cases first
  cases second
  cases hobserved
  cases hsource
  cases hlocator
  cases hsame
  cases hdigest
  cases hrevision
  cases hcapture
  cases eligibility_value_injective heligibility
  rfl

/-- Provenance does not depend on the order of its records. -/
theorem provenanceSet_congr {items others : List FixtureProvenance}
    (hdated : ∀ item ∈ items, Dated item) (hsame : ∀ item, item ∈ items ↔ item ∈ others) :
    provenanceSet items = provenanceSet others := by
  refine sortedOn_eq_of_perm FixtureProvenance.sortKey ?_ fun first hfirst second hsecond heq => ?_
  · refine (List.perm_ext_iff_of_nodup (List.nodup_dedup _) (List.nodup_dedup _)).mpr fun item => ?_
    rw [List.mem_dedup, List.mem_dedup, hsame]
  · exact sortKey_inj (hdated first (List.mem_dedup.mp hfirst))
      (hdated second (List.mem_dedup.mp hsecond)) heq

section Selection

variable [Hashing]

/-! ## Rows that are read -/

/-- The order in which the row of a revision is chosen. -/
def choiceKey (row : CanonicalFixture) : WithBot Instant ×ₗ String :=
  toLex (observationKey row, row.revisionDigest.getD "")

/-- A row of the latest revision of its fixture, with the latest observation and the
greatest digest of the revision. -/
structure Leading (rows : List CanonicalFixture) (cutoff : Instant) (row : CanonicalFixture) :
    Prop where
  entry : row ∈ entriesOf rows cutoff row.fixtureId
  latest : Latest cutoff rows row
  chosen : ∀ other ∈ entriesOf rows cutoff row.fixtureId, other.revisionKey = row.revisionKey →
    choiceKey other ≤ choiceKey row

/-- A leading row that some order of the fixtures reads: the target comes last, so it is
read when no row of the fixtures leads. -/
structure Read (fixtures : List CanonicalFixture) (cutoff : Instant) (target row : CanonicalFixture) :
    Prop where
  leading : Leading (fixtures ++ [target]) cutoff row
  preceding : row ∈ fixtures ∨ row = target ∧ ∀ other ∈ fixtures,
    other.fixtureId = row.fixtureId → ¬ Leading (fixtures ++ [target]) cutoff other

/-- The rows of the view's revision. -/
def provenanceOf (rows : List CanonicalFixture) (cutoff : Instant) (row : CanonicalFixture) :
    List FixtureProvenance :=
  provenanceSet ((revisionRows (entriesOf rows cutoff row.fixtureId) row.revisionKey).flatMap
    CanonicalFixture.provenance)

/-- A view reads a row: it shows what identifies its revision, with the provenance of
the revision. -/
structure Shows (rows : List CanonicalFixture) (cutoff : Instant) (row : CanonicalFixture)
    (view : CanonicalView) : Prop where
  fixtureId : view.fixture.fixtureId = row.fixtureId
  signature : sameRevisionSignature view.fixture = sameRevisionSignature row
  provenance : view.fixture.provenance = provenanceOf rows cutoff row

theorem Leading.latestKey_eq {rows : List CanonicalFixture} {cutoff : Instant}
    {first second : CanonicalFixture} (hfirst : Leading rows cutoff first)
    (hsecond : Leading rows cutoff second) (hsame : first.fixtureId = second.fixtureId) :
    latestKey first = latestKey second :=
  le_antisymm (hsecond.latest first (hsame ▸ hfirst.entry))
    (hfirst.latest second (hsame ▸ hsecond.entry))

theorem Leading.revisionKey_eq {rows : List CanonicalFixture} {cutoff : Instant}
    {first second : CanonicalFixture} (hfirst : Leading rows cutoff first)
    (hsecond : Leading rows cutoff second) (hsame : first.fixtureId = second.fixtureId) :
    first.revisionKey = second.revisionKey :=
  (Prod.ext_iff.mp (congrArg ofLex (hfirst.latestKey_eq hsecond hsame))).2

/-- The row that is chosen first among the leading ones. -/
theorem Leading.preceding {fixtures : List CanonicalFixture} {cutoff : Instant}
    {target row : CanonicalFixture} (hleading : Leading (fixtures ++ [target]) cutoff row)
    (hgreatest : row ∈ (revisionRows (entriesOf (fixtures ++ [target]) cutoff row.fixtureId)
      row.revisionKey).argmax choiceKey) :
    row ∈ fixtures ∨ row = target ∧ ∀ other ∈ fixtures, other.fixtureId = row.fixtureId →
      ¬ Leading (fixtures ++ [target]) cutoff other := by
  by_cases hin : row ∈ fixtures
  · exact Or.inl hin
  · have hrow := (mem_entriesOf.mp hleading.entry).1
    obtain rfl : row = target := List.mem_singleton.mp ((List.mem_append.mp hrow).resolve_left hin)
    have hadmitted := (mem_entriesOf.mp hleading.entry).2.1
    have hsplit : revisionRows (entriesOf (fixtures ++ [row]) cutoff row.fixtureId)
        row.revisionKey = revisionRows (entriesOf fixtures cutoff row.fixtureId)
          row.revisionKey ++ [row] := by
      unfold revisionRows entriesOf
      simp [List.filter_append, hadmitted]
    rw [hsplit] at hgreatest
    refine Or.inr ⟨rfl, fun other hother hsame hlead => ?_⟩
    have hname := hlead.revisionKey_eq hleading hsame
    have hpart : other ∈ revisionRows (entriesOf fixtures cutoff row.fixtureId)
        row.revisionKey :=
      List.mem_filter.mpr ⟨mem_entriesOf.mpr ⟨hother, (mem_entriesOf.mp hlead.entry).2.1, hsame⟩,
        decide_eq_true hname⟩
    rcases argmax_concat_cases hgreatest with hown | ⟨-, hless⟩
    · exact hin (mem_entriesOf.mp (List.mem_of_mem_filter hown)).1
    · exact absurd (hlead.chosen row (hsame.symm ▸ hleading.entry) hname.symm)
        (not_le.mpr (hless other hpart))

/-- Every view shows the row that is chosen first of the latest revision of its fixture. -/
theorem exists_chosen {rows : List CanonicalFixture} {cutoff : Instant} {view : CanonicalView}
    (hview : view ∈ (selectCanonicalViews rows cutoff).1) :
    ∃ row, Leading rows cutoff row ∧
      row ∈ (revisionRows (entriesOf rows cutoff row.fixtureId) row.revisionKey).argmax choiceKey ∧
      Shows rows cutoff row view := by
  obtain ⟨hrevision, hbound, -, -⟩ := selectView_spec (mem_views_iff.mp hview)
  obtain ⟨-, hobserved, latest, hlatest, hattained⟩ := revisionView_spec hrevision
  unfold revisionView at hrevision
  obtain ⟨row, hchosen, hfixture⟩ := Option.map_eq_some_iff.mp hrevision
  have hgreatest : row ∈ (revisionRows (entriesOf rows cutoff view.fixture.fixtureId)
      view.fixture.revisionKey).argmax choiceKey := hchosen
  obtain ⟨hentry, hname⟩ := List.mem_filter.mp (List.argmax_mem hgreatest)
  have hid : view.fixture.fixtureId = row.fixtureId := by rw [← hfixture]
  have hkey : view.fixture.revisionKey = row.revisionKey := (of_decide_eq_true hname).symm
  have hmost : observationKey row = observationKey view.fixture := by
    refine le_antisymm (hobserved row (List.argmax_mem hgreatest)) ?_
    rw [← hattained]
    rcases Prod.Lex.toLex_le_toLex.mp (List.le_of_mem_argmax hlatest hgreatest) with
      hless | ⟨hequal, -⟩
    · exact hless.le
    · exact hequal.le
  have hlatestKey : latestKey row = latestKey view.fixture := by
    unfold latestKey
    rw [hmost, hkey]
  rw [hid] at hentry hbound hgreatest
  rw [hkey] at hgreatest
  have hleading : Leading rows cutoff row := by
    refine ⟨hentry, fun other hother => ?_, fun other hother hsame => ?_⟩
    · rw [hlatestKey]
      exact hbound other hother
    · exact List.le_of_mem_argmax (List.mem_filter.mpr ⟨hother, decide_eq_true hsame⟩) hgreatest
  refine ⟨row, hleading, hgreatest, hid, ?_, ?_⟩
  · rw [← hfixture]
    rfl
  · have hprovenance := congrArg CanonicalFixture.provenance hfixture
    dsimp only at hprovenance
    rw [← hprovenance, provenanceOf, hid, hkey]

/-- Every view reads a row. -/
theorem exists_read {fixtures : List CanonicalFixture} {cutoff : Instant}
    {target : CanonicalFixture} {view : CanonicalView}
    (hview : view ∈ (selectCanonicalViews (fixtures ++ [target]) cutoff).1) :
    ∃ row, Read fixtures cutoff target row ∧ Shows (fixtures ++ [target]) cutoff row view := by
  obtain ⟨row, hleading, hgreatest, hshows⟩ := exists_chosen hview
  exact ⟨row, ⟨hleading, hleading.preceding hgreatest⟩, hshows⟩

/-! ## Another order -/

/-- The fixtures with an admitted row, in order. -/
def fixtureIds (rows : List CanonicalFixture) (cutoff : Instant) : List String :=
  sortedSet ((rows.filter (admitted cutoff)).map CanonicalFixture.fixtureId)

omit [Hashing] in
theorem grouped_eq (rows : List CanonicalFixture) (cutoff : Instant) :
    sortedOn Prod.fst (groupsBy CanonicalFixture.fixtureId (rows.filter (admitted cutoff))) =
      (fixtureIds rows cutoff).map fun fixtureId =>
        (fixtureId, entriesOf rows cutoff fixtureId) := by
  obtain ⟨names, hnodup, hnames, hgroups⟩ :=
    groupsBy_spec CanonicalFixture.fixtureId (rows.filter (admitted cutoff))
  have hperm : names.Perm (fixtureIds rows cutoff) := by
    refine (List.perm_ext_iff_of_nodup hnodup (sortedSet_nodup _)).mpr fun name => ?_
    rw [hnames, mem_sortedSet, List.mem_map]
  have hsorted : ((fixtureIds rows cutoff).map fun fixtureId =>
      (fixtureId, entriesOf rows cutoff fixtureId)).Pairwise
        fun first second => first.1 ≤ second.1 :=
    List.pairwise_map.mpr (List.pairwise_insertionSort _ _)
  rw [← sortedOn_of_pairwise Prod.fst hsorted, hgroups]
  refine sortedOn_eq_of_perm Prod.fst (hperm.map _) ?_
  intro first hfirst second hsecond heq
  obtain ⟨name, -, rfl⟩ := List.mem_map.mp hfirst
  obtain ⟨other, -, rfl⟩ := List.mem_map.mp hsecond
  cases heq
  rfl

theorem selectCanonicalViews_eq (rows : List CanonicalFixture) (cutoff : Instant) :
    (selectCanonicalViews rows cutoff).1 = (fixtureIds rows cutoff).filterMap
        (fun fixtureId => selectView (entriesOf rows cutoff fixtureId)) ∧
      (selectCanonicalViews rows cutoff).2 = sortedSet ((fixtureIds rows cutoff).filter
        fun fixtureId => (groupsBy CanonicalFixture.revisionKey
          (entriesOf rows cutoff fixtureId)).any inConflict) := by
  unfold selectCanonicalViews
  dsimp only
  rw [grouped_eq]
  constructor
  · rw [List.filterMap_map]
    rfl
  · rw [List.filter_map, List.map_map]
    exact congrArg sortedSet (List.map_id _)

end Selection

/-! ## What a team reads -/

/-- What a row tells the teams that it names. -/
structure TeamReading where
  kickoffUtc : Option Instant
  competitionKey : String
  competitionType : CompetitionType
  status : FixtureStatus
  deriving DecidableEq

def toldBy (fixture : CanonicalFixture) : TeamReading where
  kickoffUtc := fixture.kickoffUtc
  competitionKey := fixture.competitionKey
  competitionType := fixture.competitionType
  status := fixture.status

/-- What a row tells a team. -/
def teamReading (teamId : String) (fixture : CanonicalFixture) : Option TeamReading :=
  if fixture.teamIds.contains teamId then some (toldBy fixture) else none

theorem teamReading_congr {first second : CanonicalFixture} (teamId : String)
    (hsignature : sameRevisionSignature first = sameRevisionSignature second) :
    teamReading teamId first = teamReading teamId second := by
  simp only [sameRevisionSignature, RevisionSignature.mk.injEq] at hsignature
  obtain ⟨hhome, haway, hkickoff, hkey, htype, hstatus⟩ := hsignature
  unfold teamReading toldBy CanonicalFixture.teamIds
  rw [hhome, haway, hkickoff, hkey, htype, hstatus]

theorem teamIds_congr {first second : CanonicalFixture}
    (hsignature : sameRevisionSignature first = sameRevisionSignature second) :
    first.teamIds = second.teamIds := by
  simp only [sameRevisionSignature, RevisionSignature.mk.injEq] at hsignature
  obtain ⟨hhome, haway, -⟩ := hsignature
  unfold CanonicalFixture.teamIds
  rw [hhome, haway]

/-- A fixture has its place by its identity and signature. -/
theorem place_congr {first second : CanonicalFixture} {teamId : String} {target event : Event}
    {lower : Instant} (hid : first.fixtureId = second.fixtureId)
    (hsignature : sameRevisionSignature first = sameRevisionSignature second)
    (hplace : place teamId target lower first = some event) :
    ∃ event', place teamId target lower second = some event' ∧ stamp event' = stamp event := by
  obtain ⟨hfixture, hkickoff, hteam, hlower, htarget, hstatus⟩ := place_eq_some.mp hplace
  rw [teamIds_congr hsignature] at hteam
  simp only [sameRevisionSignature, RevisionSignature.mk.injEq] at hsignature
  obtain ⟨-, -, hstart, hkey, -, hsame⟩ := hsignature
  refine ⟨⟨second, event.kickoff⟩, place_eq_some.mpr ⟨rfl, hstart.symm.trans hkickoff, hteam, hlower,
    htarget, hsame ▸ hstatus⟩, ?_⟩
  unfold stamp
  rw [← hfixture, hid, hkey]

/-- What the workload of a team reads of a view. -/
structure ViewReading where
  fixtureId : String
  provenance : List FixtureProvenance
  conflict : Bool
  told : Option TeamReading

def viewReading (teamId : String) (view : CanonicalView) : ViewReading where
  fixtureId := view.fixture.fixtureId
  provenance := view.fixture.provenance
  conflict := view.conflict
  told := teamReading teamId view.fixture

/-- What the workload of a team reads of an event. -/
structure EventReading where
  fixtureId : String
  provenance : List FixtureProvenance
  kickoff : Instant
  competitionKey : String
  competitionType : CompetitionType
  status : FixtureStatus

def eventReading (event : Event) : EventReading where
  fixtureId := event.fixture.fixtureId
  provenance := event.fixture.provenance
  kickoff := event.kickoff
  competitionKey := event.fixture.competitionKey
  competitionType := event.fixture.competitionType
  status := event.fixture.status

section Team

variable {views views' : List CanonicalView} {teamId : String} {target : Event} {lower : Instant}
  {events events' : List Event}

/-- A view of the same reading names the team as the other does. -/
theorem named_of_reading {view view' : CanonicalView}
    (hsame : viewReading teamId view' = viewReading teamId view)
    (hnamed : teamId ∈ view.fixture.teamIds) :
    teamId ∈ view'.fixture.teamIds ∧ toldBy view'.fixture = toldBy view.fixture := by
  have htold := congrArg ViewReading.told hsame
  have hleft : teamReading teamId view.fixture = some (toldBy view.fixture) :=
    if_pos (List.contains_iff_mem.mpr hnamed)
  simp only [viewReading, hleft] at htold
  unfold teamReading at htold
  split at htold
  next hnamed' => exact ⟨List.contains_iff_mem.mp hnamed', Option.some.inj htold⟩
  next => cases htold

theorem exists_placed
    (hviews : ∀ view ∈ views, ∃ view' ∈ views', viewReading teamId view' = viewReading teamId view)
    {event : Event} (hplaced : Placed views teamId target lower event) :
    ∃ event', Placed views' teamId target lower event' ∧
      eventReading event' = eventReading event := by
  obtain ⟨view, hview, hplace⟩ := hplaced
  obtain ⟨hfixture, hkickoff, hteam, hlower, htarget, hstatus⟩ := place_eq_some.mp hplace
  obtain ⟨view', hview', hsame⟩ := hviews view hview
  obtain ⟨hteam', htold⟩ := named_of_reading hsame hteam
  have hid := congrArg ViewReading.fixtureId hsame
  have hprovenance := congrArg ViewReading.provenance hsame
  simp only [toldBy, TeamReading.mk.injEq] at htold
  obtain ⟨hkickoff', hkey, htype, hstatus'⟩ := htold
  refine ⟨⟨view'.fixture, event.kickoff⟩, ⟨view', hview', place_eq_some.mpr ⟨rfl,
    hkickoff'.trans hkickoff, hteam', hlower, htarget, ?_⟩⟩, ?_⟩
  · rwa [hstatus']
  · simp only [viewReading] at hid hprovenance
    unfold eventReading
    rw [hid, hprovenance, hkey, htype, hstatus', hfixture]

theorem exists_listed
    (hviews : ∀ view ∈ views, ∃ view' ∈ views', viewReading teamId view' = viewReading teamId view)
    (hviews' : ∀ view ∈ views', ∃ view' ∈ views, viewReading teamId view' = viewReading teamId view)
    {event : Event} (hlisted : Listed views teamId target lower event) :
    ∃ event', Listed views' teamId target lower event' ∧
      eventReading event' = eventReading event := by
  rcases hlisted with hplaced | ⟨rfl, hnone⟩
  · obtain ⟨event', hplaced', hsame⟩ := exists_placed hviews hplaced
    exact ⟨event', Or.inl hplaced', hsame⟩
  · refine ⟨event, Or.inr ⟨rfl, fun other hother => ?_⟩, rfl⟩
    obtain ⟨other', hplaced, hsame⟩ := exists_placed hviews' hother
    have hid : other'.fixture.fixtureId = other.fixture.fixtureId :=
      congrArg EventReading.fixtureId hsame
    exact hid ▸ hnone other' hplaced

/-- Events in order are told by their readings. -/
theorem readings_eq (hordered : events.Pairwise fun first second => eventKey first ≤ eventKey second)
    (hordered' : events'.Pairwise fun first second => eventKey first ≤ eventKey second)
    (hdistinct : (events.map fun event => event.fixture.fixtureId).Nodup)
    (hdistinct' : (events'.map fun event => event.fixture.fixtureId).Nodup)
    (hmem : ∀ reading, reading ∈ events.map eventReading ↔ reading ∈ events'.map eventReading) :
    events.map eventReading = events'.map eventReading := by
  let readingKey (reading : EventReading) : Instant ×ₗ String :=
    toLex (reading.kickoff, reading.fixtureId)
  have hids : ((events.map eventReading).map EventReading.fixtureId).Nodup := by
    rwa [List.map_map]
  have hids' : ((events'.map eventReading).map EventReading.fixtureId).Nodup := by
    rwa [List.map_map]
  have hsorted (list : List Event)
      (hlist : list.Pairwise fun first second => eventKey first ≤ eventKey second) :
      (list.map eventReading).Pairwise fun first second => readingKey first ≤ readingKey second :=
    List.pairwise_map.mpr hlist
  refine List.Perm.eq_of_pairwise ?_ (hsorted events hordered) (hsorted events' hordered')
    ((List.perm_ext_iff_of_nodup hids.of_map hids'.of_map).mpr hmem)
  intro left right hleft hright hle hge
  have hkey := le_antisymm hle hge
  exact List.inj_on_of_nodup_map hids hleft ((hmem right).mpr hright)
    (Prod.ext_iff.mp (congrArg ofLex hkey)).2

/-- Views of the same readings have schedules of the same readings. -/
theorem schedule_readings
    (hsame : views.map (viewReading teamId) = views'.map (viewReading teamId))
    (hschedule : IsSchedule views teamId target lower events)
    (hschedule' : IsSchedule views' teamId target lower events') :
    events.map eventReading = events'.map eventReading := by
  have hviews : ∀ view ∈ views, ∃ view' ∈ views',
      viewReading teamId view' = viewReading teamId view := fun view hview =>
    List.mem_map.mp (hsame ▸ List.mem_map_of_mem hview)
  have hviews' : ∀ view ∈ views', ∃ view' ∈ views,
      viewReading teamId view' = viewReading teamId view := fun view hview =>
    List.mem_map.mp (hsame ▸ List.mem_map_of_mem hview)
  refine readings_eq hschedule.ordered hschedule'.ordered hschedule.distinct hschedule'.distinct
    fun reading => ?_
  rw [List.mem_map, List.mem_map]
  constructor
  · rintro ⟨event, hevent, rfl⟩
    obtain ⟨event', hlisted, heq⟩ := exists_listed hviews hviews' ((hschedule.listed event).mp hevent)
    exact ⟨event', (hschedule'.listed event').mpr hlisted, heq⟩
  · rintro ⟨event, hevent, rfl⟩
    obtain ⟨event', hlisted, heq⟩ :=
      exists_listed hviews' hviews ((hschedule'.listed event).mp hevent)
    exact ⟨event', (hschedule.listed event').mpr hlisted, heq⟩

theorem filter_readings (keep : Event → Bool) (keepReading : EventReading → Bool)
    (hkeep : ∀ event, keep event = keepReading (eventReading event))
    (hsame : events.map eventReading = events'.map eventReading) :
    (events.filter keep).map eventReading = (events'.filter keep).map eventReading := by
  have hfilter (list : List Event) :
      (list.filter keep).map eventReading = (list.map eventReading).filter keepReading := by
    rw [List.filter_map]
    exact congrArg (List.map eventReading) (List.filter_congr fun event _ => hkeep event)
  rw [hfilter, hfilter, hsame]

theorem map_readings {β : Type} (read : Event → β) (readReading : EventReading → β)
    (hread : ∀ event, read event = readReading (eventReading event))
    (hsame : events.map eventReading = events'.map eventReading) :
    events.map read = events'.map read := by
  have hmap (list : List Event) : list.map read = (list.map eventReading).map readReading := by
    rw [List.map_map]
    exact List.map_congr_left fun event _ => hread event
  rw [hmap, hmap, hsame]

theorem priorEvents_readings (hsame : events.map eventReading = events'.map eventReading) :
    (priorEvents target events).map eventReading = (priorEvents target events').map eventReading :=
  filter_readings _ (fun reading => reading.fixtureId ≠ target.fixture.fixtureId &&
    reading.kickoff < target.kickoff) (fun _ => rfl) hsame

theorem latestCompleted_readings (hsame : events.map eventReading = events'.map eventReading) :
    (latestCompleted events).map eventReading = (latestCompleted events').map eventReading := by
  have hcompleted := filter_readings (fun event => event.fixture.status = .completed)
    (fun reading => reading.status = .completed) (fun _ => rfl) hsame
  have hlatest (list : List Event) : (list.map eventReading).argmax EventReading.kickoff =
      (list.argmax Event.kickoff).map eventReading := by
    rw [argmax_map]
    rfl
  unfold latestCompleted
  rw [← hlatest, ← hlatest, hcompleted]

theorem told_isSome (teamId : String) (view : CanonicalView) :
    (viewReading teamId view).told.isSome = view.fixture.teamIds.contains teamId := by
  unfold viewReading teamReading
  split
  next hnamed => exact hnamed.symm
  next hnamed => exact (Bool.not_eq_true _ ▸ hnamed).symm

/-- Some view of the team meets a condition on its reading. -/
theorem any_readings (meets : CanonicalView → Bool) (meetsReading : ViewReading → Bool)
    (hmeets : ∀ view : CanonicalView, teamId ∈ view.fixture.teamIds →
      meets view = meetsReading (viewReading teamId view))
    (hsame : views.map (viewReading teamId) = views'.map (viewReading teamId)) :
    (views.filter fun view => view.fixture.teamIds.contains teamId).any meets =
      (views'.filter fun view => view.fixture.teamIds.contains teamId).any meets := by
  have hany (list : List CanonicalView) :
      (list.filter fun view => view.fixture.teamIds.contains teamId).any meets =
        (list.map (viewReading teamId)).any fun reading =>
          reading.told.isSome && meetsReading reading := by
    rw [List.any_filter, List.any_map]
    refine congrArg (fun condition => list.any condition) (funext fun view => ?_)
    rw [Function.comp_apply, told_isSome]
    cases hnamed : view.fixture.teamIds.contains teamId with
    | false => rfl
    | true => exact hmeets view (List.contains_iff_mem.mp hnamed)
  rw [hany, hany, hsame]

theorem teamConflicts_readings
    (hsame : views.map (viewReading teamId) = views'.map (viewReading teamId)) :
    ((views.filter fun view => view.fixture.teamIds.contains teamId).filter
        CanonicalView.conflict).map (fun view => view.fixture.fixtureId) =
      ((views'.filter fun view => view.fixture.teamIds.contains teamId).filter
        CanonicalView.conflict).map fun view => view.fixture.fixtureId := by
  have hids (list : List CanonicalView) :
      ((list.filter fun view => view.fixture.teamIds.contains teamId).filter
        CanonicalView.conflict).map (fun view => view.fixture.fixtureId) =
      ((list.map (viewReading teamId)).filter fun reading =>
        reading.conflict && reading.told.isSome).map ViewReading.fixtureId := by
    rw [List.filter_map, List.map_map, List.filter_filter]
    refine congrArg (List.map _) (List.filter_congr fun view _ => ?_)
    rw [Function.comp_apply, told_isSome]
    rfl
  rw [hids, hids, hsame]

theorem unknownReasons_readings {conflictFixtureIds : List String} {latest latest' : Option Event}
    (hsame : views.map (viewReading teamId) = views'.map (viewReading teamId))
    (hevents : events.map eventReading = events'.map eventReading)
    (hlatest : latest.map eventReading = latest'.map eventReading) :
    unknownReasons (views.filter fun view => view.fixture.teamIds.contains teamId) events
        conflictFixtureIds latest =
      unknownReasons (views'.filter fun view => view.fixture.teamIds.contains teamId) events'
        conflictFixtureIds latest' := by
  have hknown := map_readings (fun event => event.fixture.fixtureId) EventReading.fixtureId
    (fun _ => rfl) hevents
  have hconflict := any_readings CanonicalView.conflict ViewReading.conflict (fun _ _ => rfl) hsame
  have hkickoff := any_readings (fun view => !withdrawn view.fixture &&
      (!(events'.map fun event => event.fixture.fixtureId).contains view.fixture.fixtureId ||
        view.fixture.kickoffUtc.isNone))
    (fun reading => reading.told.all fun told =>
      !(told.status = .postponed || told.status = .cancelled) &&
        (!(events'.map fun event => event.fixture.fixtureId).contains reading.fixtureId ||
          told.kickoffUtc.isNone)) (fun view hnamed => by
        simp [viewReading, teamReading, toldBy, withdrawn, hnamed]) hsame
  have hnone : latest.isNone = latest'.isNone := by
    rw [← Option.isNone_map, hlatest, Option.isNone_map]
  unfold unknownReasons
  dsimp only
  rw [hknown, hconflict, hkickoff, hnone]

/-- The evidence of a team follows from what it reads of the views. -/
theorem teamWorkload_congr {rules : WorkloadRules} {conflictFixtureIds : List String}
    (hviews : (views.map fun view => view.fixture.fixtureId).Nodup)
    (hviews' : (views'.map fun view => view.fixture.fixtureId).Nodup)
    (hsame : views.map (viewReading teamId) = views'.map (viewReading teamId)) :
    teamWorkload teamId target views conflictFixtureIds rules =
      teamWorkload teamId target views' conflictFixtureIds rules := by
  cases hlower : daysBefore target.kickoff rules.contextLookbackDays with
  | error =>
      unfold teamWorkload teamEvents
      rw [hlower]
      rfl
  | ok lower =>
      obtain ⟨events, hevents, hschedule⟩ := teamEvents_spec hviews hlower
      obtain ⟨events', hevents', hschedule'⟩ := teamEvents_spec hviews' hlower
      have hreadings := schedule_readings hsame hschedule hschedule'
      have hprior : (priorEvents target events).map eventReading =
          (priorEvents target events').map eventReading := priorEvents_readings hreadings
      have hlatest := latestCompleted_readings hprior
      have hreasons := @unknownReasons_readings views views' teamId events events'
        conflictFixtureIds _ _ hsame hreadings hlatest
      have hids := map_readings (fun event => event.fixture.fixtureId) EventReading.fixtureId
        (fun _ => rfl) hprior
      have hlatestId (β : Type) (read : Event → β) (readReading : EventReading → β)
          (hread : ∀ event, read event = readReading (eventReading event)) :
          (latestCompleted (priorEvents target events)).map read =
            (latestCompleted (priorEvents target events')).map read := by
        rw [funext hread, ← Function.comp_def, ← Option.map_map, hlatest, Option.map_map]
      have helapsed := hlatestId ℤ (fun event => target.kickoff - event.kickoff)
        (fun reading => target.kickoff - reading.kickoff) fun _ => rfl
      have hcount (windowDays : ℕ) : recentCount (priorEvents target events) target windowDays =
          recentCount (priorEvents target events') target windowDays := by
        have hrecent := filter_readings (fun event =>
            target.kickoff - windowDays * dayLength ≤ event.kickoff &&
              event.kickoff < target.kickoff)
          (fun reading => target.kickoff - windowDays * dayLength ≤ reading.kickoff &&
            reading.kickoff < target.kickoff) (fun _ => rfl) hprior
        unfold recentCount
        rw [map_readings (fun event => event.fixture.fixtureId) EventReading.fixtureId
          (fun _ => rfl) hrecent]
      have hperiods : periods teamId rules events = periods teamId rules events' :=
        periods_congr (map_readings stamp (fun reading =>
          (reading.fixtureId, reading.kickoff, reading.competitionKey)) (fun _ => rfl) hreadings)
      have hcross := map_readings (fun event => event.fixture.fixtureId) EventReading.fixtureId
        (fun _ => rfl) (filter_readings (fun event =>
            [CompetitionType.domesticCup, .continental, .international].contains
              event.fixture.competitionType)
          (fun reading => [CompetitionType.domesticCup, .continental, .international].contains
            reading.competitionType) (fun _ => rfl) hprior)
      have hprovenance := map_readings (fun event => event.fixture.provenance)
        EventReading.provenance (fun _ => rfl) hreadings
      unfold priorEvents at hids hcross
      unfold latestCompleted priorEvents at hreasons helapsed hlatestId
      unfold teamWorkload
      rw [hevents, hevents', ok_bind, ok_bind]
      dsimp only
      rw [density_mapM hlower, density_mapM hlower, ok_bind, ok_bind, hreasons, helapsed,
        hlatestId String (fun event => event.fixture.fixtureId) EventReading.fixtureId fun _ => rfl,
        hids, hperiods, hcross, teamConflicts_readings hsame, List.flatMap_def, hprovenance,
        ← List.flatMap_def]
      unfold priorEvents at hcount
      simp only [hcount]

end Team

/-! ## The order of the fixtures -/

section Order

variable [Hashing]

/-- The publication times of the rows are times of the calendar. -/
def RowsDated (rows : List CanonicalFixture) : Prop :=
  ∀ row ∈ rows, ∀ item ∈ row.provenance, Dated item

/-- The rows that may be read of one fixture tell the teams of the target the same. -/
def TiesAgree (fixtures : List CanonicalFixture) (cutoff : Instant) (target : CanonicalFixture) :
    Prop :=
  ∀ first second, Read fixtures cutoff target first → Read fixtures cutoff target second →
    first.fixtureId = second.fixtureId →
    ∀ teamId ∈ target.teamIds, teamReading teamId first = teamReading teamId second

section Rows

variable {rows rows' : List CanonicalFixture} {cutoff : Instant}

omit [Hashing] in
theorem entriesOf_perm (hperm : rows.Perm rows') (fixtureId : String) :
    (entriesOf rows cutoff fixtureId).Perm (entriesOf rows' cutoff fixtureId) :=
  (hperm.filter _).filter _

omit [Hashing] in
theorem fixtureIds_perm (hperm : rows.Perm rows') :
    fixtureIds rows cutoff = fixtureIds rows' cutoff :=
  insertionSort_eq_of_perm ((hperm.filter _).map _).dedup

theorem inConflict_perm (hperm : rows.Perm rows') (fixtureId : String) :
    InConflict rows cutoff fixtureId ↔ InConflict rows' cutoff fixtureId := by
  unfold InConflict
  simp only [(entriesOf_perm hperm fixtureId).mem_iff]

theorem Leading.perm (hperm : rows.Perm rows') {row : CanonicalFixture}
    (hleading : Leading rows cutoff row) : Leading rows' cutoff row := by
  have hentries := @entriesOf_perm _ _ cutoff hperm row.fixtureId
  refine ⟨hentries.mem_iff.mp hleading.entry, fun other hother => ?_, fun other hother => ?_⟩
  · exact hleading.latest other (hentries.mem_iff.mpr hother)
  · exact hleading.chosen other (hentries.mem_iff.mpr hother)

theorem provenanceOf_perm (hdated : RowsDated rows) (hperm : rows.Perm rows')
    (row : CanonicalFixture) : provenanceOf rows cutoff row = provenanceOf rows' cutoff row := by
  refine provenanceSet_congr (fun item hitem => ?_) fun item => ?_
  · obtain ⟨other, hother, hitem⟩ := List.mem_flatMap.mp hitem
    exact hdated other (mem_entriesOf.mp (List.mem_of_mem_filter hother)).1 item hitem
  · exact ((((entriesOf_perm hperm _).filter _).flatMap_right _).mem_iff)

theorem view_conflict_iff {view : CanonicalView}
    (hview : view ∈ (selectCanonicalViews rows cutoff).1) :
    view.conflict = true ↔ InConflict rows cutoff view.fixture.fixtureId := by
  rw [(selectView_spec (mem_views_iff.mp hview)).2.2.2, any_inConflict_iff]

theorem conflicts_perm (hperm : rows.Perm rows') :
    (selectCanonicalViews rows cutoff).2 = (selectCanonicalViews rows' cutoff).2 := by
  rw [(selectCanonicalViews_eq rows cutoff).2, (selectCanonicalViews_eq rows' cutoff).2,
    fixtureIds_perm hperm]
  refine congrArg sortedSet (List.filter_congr fun fixtureId _ => ?_)
  rw [Bool.eq_iff_iff, any_inConflict_iff, any_inConflict_iff, inConflict_perm hperm]

end Rows

section Target

variable {fixtures fixtures' : List CanonicalFixture} {cutoff : Instant} {target : CanonicalFixture}

theorem Read.perm (hperm : fixtures.Perm fixtures') {row : CanonicalFixture}
    (hread : Read fixtures cutoff target row) : Read fixtures' cutoff target row := by
  have hrows : (fixtures ++ [target]).Perm (fixtures' ++ [target]) := hperm.append_right _
  refine ⟨hread.leading.perm hrows, ?_⟩
  rcases hread.preceding with hin | ⟨rfl, hnone⟩
  · exact Or.inl (hperm.mem_iff.mp hin)
  · refine Or.inr ⟨rfl, fun other hother hsame hleading => ?_⟩
    exact hnone other (hperm.mem_iff.mpr hother) hsame (hleading.perm hrows.symm)

/-- The view of a fixture in another order shows what this one shows. -/
theorem viewReading_perm (hdated : RowsDated (fixtures ++ [target]))
    (hties : TiesAgree fixtures cutoff target) (hperm : fixtures.Perm fixtures') {teamId : String}
    (hteam : teamId ∈ target.teamIds) {view view' : CanonicalView}
    (hview : view ∈ viewsFor fixtures cutoff target)
    (hview' : view' ∈ viewsFor fixtures' cutoff target)
    (hid : view.fixture.fixtureId = view'.fixture.fixtureId) :
    viewReading teamId view = viewReading teamId view' := by
  have hrows : (fixtures ++ [target]).Perm (fixtures' ++ [target]) := hperm.append_right _
  obtain ⟨row, hread, hshows⟩ := exists_read hview
  obtain ⟨row', hread', hshows'⟩ := exists_read hview'
  have hsame : row.fixtureId = row'.fixtureId :=
    hshows.fixtureId.symm.trans (hid.trans hshows'.fixtureId)
  have hback := hread'.perm hperm.symm
  have hname := hread.leading.revisionKey_eq hback.leading hsame
  have hprovenance : view.fixture.provenance = view'.fixture.provenance := by
    rw [hshows.provenance, hshows'.provenance, provenanceOf_perm hdated hrows row]
    unfold provenanceOf
    rw [hsame, hname]
  have hconflict : view.conflict = view'.conflict := by
    rw [Bool.eq_iff_iff, view_conflict_iff hview, view_conflict_iff hview', inConflict_perm hrows,
      hid]
  have htold : teamReading teamId view.fixture = teamReading teamId view'.fixture := by
    rw [teamReading_congr teamId hshows.signature, teamReading_congr teamId hshows'.signature]
    exact hties row row' hread hback hsame teamId hteam
  unfold viewReading
  rw [hid, hprovenance, hconflict, htold]

theorem viewReadings_perm (hdated : RowsDated (fixtures ++ [target]))
    (hties : TiesAgree fixtures cutoff target) (hperm : fixtures.Perm fixtures') {teamId : String}
    (hteam : teamId ∈ target.teamIds) :
    (viewsFor fixtures cutoff target).map (viewReading teamId) =
      (viewsFor fixtures' cutoff target).map (viewReading teamId) := by
  have hrows : (fixtures ++ [target]).Perm (fixtures' ++ [target]) := hperm.append_right _
  have hview := @viewReading_perm _ _ _ cutoff target hdated hties hperm teamId hteam
  unfold viewsFor at hview ⊢
  simp only [mem_views] at hview
  rw [(selectCanonicalViews_eq _ _).1, (selectCanonicalViews_eq _ _).1, List.map_filterMap,
    List.map_filterMap, fixtureIds_perm hrows]
  refine List.filterMap_congr fun fixtureId _ => ?_
  have hentries := @entriesOf_perm _ _ cutoff hrows fixtureId
  have hempty : entriesOf (fixtures ++ [target]) cutoff fixtureId = [] ↔
      entriesOf (fixtures' ++ [target]) cutoff fixtureId = [] := by
    rw [← List.length_eq_zero_iff, ← List.length_eq_zero_iff, hentries.length_eq]
  by_cases hnone : entriesOf (fixtures ++ [target]) cutoff fixtureId = []
  · rw [hnone, hempty.mp hnone]
  · obtain ⟨view, hselected⟩ := selectView_isSome hnone
    obtain ⟨view', hselected'⟩ := selectView_isSome (mt hempty.mpr hnone)
    rw [hselected, hselected', Option.map_some, Option.map_some]
    refine congrArg some (hview ⟨fixtureId, hselected⟩ ⟨fixtureId, hselected'⟩ ?_)
    rw [selectView_fixtureId hselected, selectView_fixtureId hselected']

/-- When tied rows tell the teams the same, the order of the fixtures does not matter. -/
theorem calculate_perm (hdated : RowsDated (fixtures ++ [target]))
    (hties : TiesAgree fixtures cutoff target) (hperm : fixtures.Perm fixtures')
    (rules : WorkloadRules) :
    calculate fixtures' cutoff rules target = calculate fixtures cutoff rules target := by
  have hconflicts : (selectCanonicalViews (fixtures ++ [target]) cutoff).2 =
      (selectCanonicalViews (fixtures' ++ [target]) cutoff).2 :=
    conflicts_perm (hperm.append_right _)
  have hworkload (kickoff : Instant) {teamId : String} (hteam : teamId ∈ target.teamIds) :
      teamWorkload teamId ⟨target, kickoff⟩ (selectCanonicalViews (fixtures ++ [target]) cutoff).1
          (selectCanonicalViews (fixtures ++ [target]) cutoff).2 rules =
        teamWorkload teamId ⟨target, kickoff⟩
          (selectCanonicalViews (fixtures' ++ [target]) cutoff).1
          (selectCanonicalViews (fixtures' ++ [target]) cutoff).2 rules := by
    rw [← hconflicts]
    exact teamWorkload_congr (views_nodup _ _) (views_nodup _ _)
      (viewReadings_perm hdated hties hperm hteam)
  unfold calculate
  cases target.kickoffUtc with
  | none => rfl
  | some kickoff =>
      dsimp only
      rw [hworkload kickoff (by simp [CanonicalFixture.teamIds]),
        hworkload kickoff (by simp [CanonicalFixture.teamIds])]

end Target

/-! ## Conflicts -/

section Reported

variable {rows : List CanonicalFixture} {cutoff : Instant} {teamId : String} {target : Event}
  {rules : WorkloadRules} {workload : TeamWorkload}

theorem mem_conflicts {fixtureId : String} :
    fixtureId ∈ (selectCanonicalViews rows cutoff).2 ↔ InConflict rows cutoff fixtureId := by
  rw [(selectCanonicalViews_eq rows cutoff).2, mem_sortedSet, List.mem_filter, any_inConflict_iff]
  refine and_iff_right_of_imp ?_
  rintro ⟨first, hfirst, -⟩
  obtain ⟨hin, hadmitted, hid⟩ := mem_entriesOf.mp hfirst
  exact mem_sortedSet.mpr (List.mem_map.mpr ⟨first, List.mem_filter.mpr ⟨hin, hadmitted⟩, hid⟩)

omit [Hashing] in
theorem fixtureConflict_mem {teamViews : List CanonicalView} {events : List Event}
    {conflictFixtureIds : List String} {latest : Option Event} :
    "FIXTURE_CONFLICT" ∈ unknownReasons teamViews events conflictFixtureIds latest ↔
      (∃ view ∈ teamViews, view.conflict = true) ∨
        ∃ event ∈ events, event.fixture.fixtureId ∈ conflictFixtureIds := by
  have hcondition : (teamViews.any CanonicalView.conflict ||
      (events.map fun event => event.fixture.fixtureId).any conflictFixtureIds.contains) = true ↔
      (∃ view ∈ teamViews, view.conflict = true) ∨
        ∃ event ∈ events, event.fixture.fixtureId ∈ conflictFixtureIds := by
    simp [List.any_eq_true]
  rw [← hcondition]
  unfold unknownReasons
  dsimp only
  split <;> split <;> split <;> simp_all

/-- A team is told of a conflict when the view of a fixture in conflict names it, or is the
view of the target's own fixture. -/
theorem reported_iff
    (hworkload : teamWorkload teamId target (selectCanonicalViews rows cutoff).1
      (selectCanonicalViews rows cutoff).2 rules = .ok workload) :
    ("FIXTURE_CONFLICT" ∈ workload.unknownReasons ↔
      ∃ view ∈ (selectCanonicalViews rows cutoff).1, InConflict rows cutoff view.fixture.fixtureId ∧
        (teamId ∈ view.fixture.teamIds ∨
          view.fixture.fixtureId = target.fixture.fixtureId)) ∧
    ("FIXTURE_CONFLICT" ∈ workload.unknownReasons → workload.state = .unknown) := by
  obtain ⟨events, hschedule, workload', hsame, hfacts⟩ :=
    @teamWorkload_spec (selectCanonicalViews rows cutoff).1 teamId target rules _
      (selectCanonicalViews rows cutoff).2 (views_nodup _ _) (daysBefore_of_teamWorkload hworkload)
  obtain rfl : workload' = workload := Except.ok.inj (hsame.symm.trans hworkload)
  have hreasons : workload'.unknownReasons = _ := congrArg ScheduleFacts.unknownReasons hfacts
  have hstate : workload'.state = _ := congrArg ScheduleFacts.state hfacts
  dsimp only [factsOf] at hreasons hstate
  refine ⟨?_, fun hmem => ?_⟩
  · rw [hreasons, fixtureConflict_mem]
    constructor
    · rintro (⟨view, hview, hconflict⟩ | ⟨event, hevent, hconflict⟩)
      · obtain ⟨hview, hteam⟩ := List.mem_filter.mp hview
        exact ⟨view, hview, (view_conflict_iff hview).mp hconflict,
          Or.inl (List.contains_iff_mem.mp hteam)⟩
      · rw [mem_conflicts] at hconflict
        rcases (hschedule.listed event).mp hevent with ⟨view, hview, hplace⟩ | ⟨rfl, -⟩
        · obtain ⟨hfixture, -, hteam, -⟩ := place_eq_some.mp hplace
          exact ⟨view, hview, hfixture ▸ hconflict, Or.inl hteam⟩
        · have ⟨first, hfirst, _⟩ := hconflict
          obtain ⟨view, hview⟩ := selectView_isSome (List.ne_nil_of_mem hfirst)
          have hid := selectView_fixtureId hview
          exact ⟨view, mem_views.mpr ⟨_, hview⟩, hid.symm ▸ hconflict, Or.inr hid⟩
    · rintro ⟨view, hview, hconflict, hteam | hown⟩
      · exact Or.inl ⟨view, List.mem_filter.mpr ⟨hview, List.contains_iff_mem.mpr hteam⟩,
          (view_conflict_iff hview).mpr hconflict⟩
      · obtain ⟨own, hin, hsame⟩ := hschedule.exists_own
        exact Or.inr ⟨own, hin, mem_conflicts.mpr (hsame.trans hown.symm ▸ hconflict)⟩
  · rw [hreasons] at hmem
    rw [hstate, if_neg]
    rw [List.isEmpty_iff]
    exact List.ne_nil_of_mem hmem

end Reported

/-- A revision with conflicting rows, one of which names the team and one of which has its
kickoff in the window of the target. -/
def ConflictInWindow (rows : List CanonicalFixture) (cutoff lower kickoff : Instant)
    (teamId : String) : Prop :=
  ∃ first second inside : CanonicalFixture, first ∈ entriesOf rows cutoff first.fixtureId ∧
    second ∈ entriesOf rows cutoff first.fixtureId ∧
    inside ∈ entriesOf rows cutoff first.fixtureId ∧
    second.revisionKey = first.revisionKey ∧ inside.revisionKey = first.revisionKey ∧
    sameRevisionSignature first ≠ sameRevisionSignature second ∧ teamId ∈ first.teamIds ∧
    ∃ start, inside.kickoffUtc = some start ∧ lower ≤ start ∧ start ≤ kickoff

/-- Every order of the fixtures gives the same evidence, and a team that a conflicting
revision of its window names is told of the conflict. -/
structure LawHolds (fixtures : List CanonicalFixture) (cutoff : Instant) (rules : WorkloadRules)
    (target : CanonicalFixture) : Prop where
  order : ∀ fixtures', fixtures.Perm fixtures' →
    calculate fixtures' cutoff rules target = calculate fixtures cutoff rules target
  shown : ∀ evidence, calculate fixtures cutoff rules target = .ok evidence →
    ∀ named ∈ [(target.homeTeamId, evidence.home), (target.awayTeamId, evidence.away)],
      ConflictInWindow (fixtures ++ [target]) cutoff
        (evidence.targetKickoffUtc - rules.contextLookbackDays * dayLength)
        evidence.targetKickoffUtc named.1 →
      named.2.state = .unknown ∧ "FIXTURE_CONFLICT" ∈ named.2.unknownReasons

/-- What the calculation asks of a target before it reads the fixtures. -/
structure Calculable (cutoff : Instant) (rules : WorkloadRules) (target : CanonicalFixture)
    (kickoff lower : Instant) : Prop where
  observed : target.kickoffUtc = some kickoff
  valid : target.effectiveCutoffEligibility = .cutoffValid
  after : cutoff < kickoff
  window : daysBefore kickoff rules.contextLookbackDays = .ok lower

/-- A team of the target that a conflicting revision of its window names is named by a row
that is read of a fixture in conflict, or the target's own fixture is in conflict. -/
def ConflictsNamed (fixtures : List CanonicalFixture) (cutoff : Instant)
    (target : CanonicalFixture) (kickoff lower : Instant) : Prop :=
  ∀ teamId ∈ target.teamIds, ConflictInWindow (fixtures ++ [target]) cutoff lower kickoff teamId →
    ∃ row, Read fixtures cutoff target row ∧ InConflict (fixtures ++ [target]) cutoff row.fixtureId ∧
      (teamId ∈ row.teamIds ∨ row.fixtureId = target.fixtureId)

section Law

variable {fixtures : List CanonicalFixture} {cutoff kickoff lower : Instant} {rules : WorkloadRules}
  {target : CanonicalFixture} {evidence : WorkloadEvidence}

theorem Calculable.of_ok (hevidence : calculate fixtures cutoff rules target = .ok evidence) :
    Calculable cutoff rules target evidence.targetKickoffUtc
        (evidence.targetKickoffUtc - rules.contextLookbackDays * dayLength) ∧
      ∀ named ∈ [(target.homeTeamId, evidence.home), (target.awayTeamId, evidence.away)],
        named.1 ∈ target.teamIds ∧ teamWorkload named.1 ⟨target, evidence.targetKickoffUtc⟩
          (viewsFor fixtures cutoff target)
          (selectCanonicalViews (fixtures ++ [target]) cutoff).2 rules = .ok named.2 := by
  cases hkickoff : target.kickoffUtc with
  | none =>
      unfold calculate at hevidence
      rw [hkickoff] at hevidence
      cases hevidence
  | some kickoff =>
      obtain ⟨hvalid, hafter, hhome, haway⟩ := calculate_ok hkickoff hevidence
      have hsame : evidence.targetKickoffUtc = kickoff := by
        unfold calculate at hevidence
        rw [hkickoff] at hevidence
        dsimp only at hevidence
        rw [if_neg (not_not.mpr hvalid), if_neg (not_le.mpr hafter)] at hevidence
        obtain ⟨home, -, hrest⟩ := bind_eq_ok.mp hevidence
        obtain ⟨away, -, hdone⟩ := bind_eq_ok.mp hrest
        cases hdone
        rfl
      subst hsame
      refine ⟨⟨hkickoff, hvalid, hafter, daysBefore_of_teamWorkload hhome⟩, ?_⟩
      simp [CanonicalFixture.teamIds, hhome, haway]

theorem exists_evidence (hcalculable : Calculable cutoff rules target kickoff lower) :
    ∃ evidence, calculate fixtures cutoff rules target = .ok evidence ∧
      evidence.targetKickoffUtc = kickoff := by
  obtain ⟨evidence, hevidence⟩ := exists_calculate hcalculable.observed hcalculable.valid
    hcalculable.after hcalculable.window
  refine ⟨evidence, hevidence, Option.some.inj ?_⟩
  rw [← (Calculable.of_ok hevidence).1.observed, hcalculable.observed]

omit [Hashing] in
theorem exists_named (evidence : WorkloadEvidence) {teamId : String}
    (hteam : teamId ∈ target.teamIds) : ∃ workload, (teamId, workload) ∈
      [(target.homeTeamId, evidence.home), (target.awayTeamId, evidence.away)] := by
  unfold CanonicalFixture.teamIds at hteam
  rcases List.mem_cons.mp hteam with rfl | haway
  · exact ⟨evidence.home, List.mem_cons_self⟩
  · rw [List.mem_singleton.mp haway]
    exact ⟨evidence.away, by simp⟩

/-- A view reads a row as every other row that may be read of its fixture. -/
theorem named_of_ties (hties : TiesAgree fixtures cutoff target) {row : CanonicalFixture}
    (hread : Read fixtures cutoff target row) {teamId : String} (hteam : teamId ∈ target.teamIds)
    (hnamed : teamId ∈ row.teamIds) {view : CanonicalView}
    (hview : view ∈ viewsFor fixtures cutoff target)
    (hid : view.fixture.fixtureId = row.fixtureId) : teamId ∈ view.fixture.teamIds := by
  obtain ⟨other, hother, hshows⟩ := exists_read hview
  have htold : teamReading teamId view.fixture = teamReading teamId row := by
    rw [teamReading_congr teamId hshows.signature]
    exact hties other row hother hread (hshows.fixtureId.symm.trans hid) teamId hteam
  unfold teamReading at htold
  rw [if_pos (List.contains_iff_mem.mpr hnamed)] at htold
  split at htold
  next hin => exact List.contains_iff_mem.mp hin
  next => cases htold

/-- With tied rows that agree the law holds when the conflicts are named. -/
theorem lawHolds_of_named (hdated : RowsDated (fixtures ++ [target]))
    (hties : TiesAgree fixtures cutoff target)
    (hnamed : ∀ kickoff lower, Calculable cutoff rules target kickoff lower →
      ConflictsNamed fixtures cutoff target kickoff lower) :
    LawHolds fixtures cutoff rules target := by
  refine ⟨fun fixtures' hperm => calculate_perm hdated hties hperm rules, ?_⟩
  intro evidence hevidence named hin hconflict
  obtain ⟨hcalculable, hteams⟩ := Calculable.of_ok hevidence
  obtain ⟨hteam, hworkload⟩ := hteams named hin
  obtain ⟨hiff, hstate⟩ := reported_iff hworkload
  obtain ⟨row, hread, hrow, hown⟩ := hnamed _ _ hcalculable named.1 hteam hconflict
  obtain ⟨view, hview⟩ := selectView_isSome (List.ne_nil_of_mem hread.leading.entry)
  have hid := selectView_fixtureId hview
  have hmem : view ∈ viewsFor fixtures cutoff target := mem_views.mpr ⟨_, hview⟩
  have hreported : "FIXTURE_CONFLICT" ∈ named.2.unknownReasons := by
    refine hiff.mpr ⟨view, hmem, hid.symm ▸ hrow, ?_⟩
    rcases hown with hnames | hown
    · exact Or.inl (named_of_ties hties hread hteam hnames hmem hid)
    · exact Or.inr (hid.trans hown)
  exact ⟨hstate hreported, hreported⟩

/-- Under the law the conflicts are named. -/
theorem LawHolds.named (hlaw : LawHolds fixtures cutoff rules target)
    (hcalculable : Calculable cutoff rules target kickoff lower) :
    ConflictsNamed fixtures cutoff target kickoff lower := by
  intro teamId hteam hconflict
  obtain ⟨evidence, hevidence, rfl⟩ := @exists_evidence _ fixtures _ _ _ _ _ hcalculable
  obtain ⟨-, hteams⟩ := Calculable.of_ok hevidence
  obtain ⟨-, rfl⟩ := daysBefore_eq_ok.mp hcalculable.window
  obtain ⟨workload, hin⟩ := exists_named evidence hteam
  obtain ⟨view, hview, hrow, hown⟩ := (reported_iff (hteams _ hin).2).1.mp
    (hlaw.shown evidence hevidence _ hin hconflict).2
  obtain ⟨row, hread, hshows⟩ := exists_read hview
  refine ⟨row, hread, hshows.fixtureId ▸ hrow, ?_⟩
  rw [← hshows.fixtureId]
  exact teamIds_congr hshows.signature ▸ hown

end Law

/-! ## Rows that tie -/

/-- The rows that may be read of one fixture agree on naming the teams of the target, and
those of another fixture than the target's on their place in the window. -/
def TiesPlaced (fixtures : List CanonicalFixture) (cutoff : Instant) (target : CanonicalFixture)
    (kickoff lower : Instant) : Prop :=
  ∀ first second, Read fixtures cutoff target first → Read fixtures cutoff target second →
    first.fixtureId = second.fixtureId → ∀ teamId ∈ target.teamIds,
    (teamId ∈ first.teamIds → teamId ∈ second.teamIds) ∧
    (first.fixtureId ≠ target.fixtureId → ∀ event,
      place teamId ⟨target, kickoff⟩ lower first = some event →
      ∃ event', place teamId ⟨target, kickoff⟩ lower second = some event' ∧ stamp event' = stamp event)

omit [Hashing] in
/-- The row that comes first among those of the greatest key is the greatest. -/
theorem argmax_cons_eq {row greatest : CanonicalFixture} {rest : List CanonicalFixture}
    (hgreatest : greatest ∈ (row :: rest).argmax choiceKey)
    (hbound : choiceKey greatest ≤ choiceKey row) : greatest = row := by
  obtain ⟨-, -, hfirst⟩ := List.mem_argmax_iff.mp hgreatest
  have hindex := hfirst row List.mem_cons_self hbound
  rw [List.idxOf_cons_self, Nat.le_zero] at hindex
  by_contra hne
  rw [List.idxOf_cons_ne _ (Ne.symm hne)] at hindex
  cases hindex

/-- A row that may be read is read in some order of the fixtures. -/
theorem Read.exists_order {fixtures : List CanonicalFixture} {cutoff : Instant}
    {target row : CanonicalFixture} (hread : Read fixtures cutoff target row) :
    ∃ fixtures', fixtures.Perm fixtures' ∧ ∃ view ∈ viewsFor fixtures' cutoff target,
      Shows (fixtures' ++ [target]) cutoff row view := by
  have hshown {fixtures' : List CanonicalFixture} (hperm : fixtures.Perm fixtures')
      (hfirst : ∀ other, Leading (fixtures' ++ [target]) cutoff other →
        other.fixtureId = row.fixtureId →
        other ∈ (revisionRows (entriesOf (fixtures' ++ [target]) cutoff other.fixtureId)
          other.revisionKey).argmax choiceKey → other = row) :
      ∃ fixtures', fixtures.Perm fixtures' ∧ ∃ view ∈ viewsFor fixtures' cutoff target,
        Shows (fixtures' ++ [target]) cutoff row view := by
    have hleading := hread.leading.perm (hperm.append_right [target])
    obtain ⟨view, hview⟩ := selectView_isSome (List.ne_nil_of_mem hleading.entry)
    have hmem : view ∈ viewsFor fixtures' cutoff target := mem_views.mpr ⟨_, hview⟩
    obtain ⟨other, hother, hgreatest, hshows⟩ := exists_chosen hmem
    have hsame : other.fixtureId = row.fixtureId :=
      hshows.fixtureId.symm.trans (selectView_fixtureId hview)
    rw [hfirst other hother hsame hgreatest] at hshows
    exact ⟨fixtures', hperm, view, hmem, hshows⟩
  rcases hread.preceding with hin | ⟨rfl, hnone⟩
  · refine hshown (List.perm_cons_erase hin) fun other hother hsame hgreatest => ?_
    have hleading := hread.leading.perm ((List.perm_cons_erase hin).append_right [target])
    have hname := hother.revisionKey_eq hleading hsame
    have hsplit : revisionRows (entriesOf (row :: fixtures.erase row ++ [target]) cutoff
        row.fixtureId) row.revisionKey = row :: revisionRows
          (entriesOf (fixtures.erase row ++ [target]) cutoff row.fixtureId) row.revisionKey := by
      unfold revisionRows entriesOf
      rw [List.cons_append, List.filter_cons_of_pos (mem_entriesOf.mp hleading.entry).2.1]
      simp
    rw [hsame, hname, hsplit] at hgreatest
    refine argmax_cons_eq hgreatest (hleading.chosen other ?_ hname)
    exact hsame ▸ hother.entry
  · refine hshown (List.Perm.refl _) fun other hother hsame hgreatest => ?_
    rcases hother.preceding hgreatest with hin | ⟨heq, -⟩
    · exact absurd hother (hnone other hin hsame)
    · exact heq

section Necessary

variable {fixtures : List CanonicalFixture} {cutoff kickoff lower : Instant} {rules : WorkloadRules}
  {target : CanonicalFixture}

omit [Hashing] in
theorem mem_conflictFixtureIds {views : List CanonicalView} {conflictFixtureIds : List String}
    {teamId fixtureId : String} {event : Event} {workload : TeamWorkload}
    (hworkload : teamWorkload teamId event views conflictFixtureIds rules = .ok workload) :
    fixtureId ∈ workload.conflictFixtureIds ↔ ∃ view ∈ views, view.fixture.fixtureId = fixtureId ∧
      teamId ∈ view.fixture.teamIds ∧ view.conflict = true := by
  unfold teamWorkload at hworkload
  obtain ⟨events, -, hworkload⟩ := bind_eq_ok.mp hworkload
  obtain ⟨windows, -, hworkload⟩ := bind_eq_ok.mp hworkload
  cases hworkload
  dsimp only
  rw [mem_sortedSet, List.mem_map]
  refine exists_congr fun view => ?_
  rw [List.mem_filter, List.mem_filter, List.contains_iff_mem]
  tauto

/-- Under the law every order gives a team of the target the same workload. -/
theorem LawHolds.same_workload (hlaw : LawHolds fixtures cutoff rules target)
    (hcalculable : Calculable cutoff rules target kickoff lower) {teamId : String}
    (hteam : teamId ∈ target.teamIds) :
    ∃ workload, ∀ fixtures', fixtures.Perm fixtures' →
      teamWorkload teamId ⟨target, kickoff⟩ (viewsFor fixtures' cutoff target)
        (selectCanonicalViews (fixtures' ++ [target]) cutoff).2 rules = .ok workload := by
  obtain ⟨evidence, hevidence, rfl⟩ := @exists_evidence _ fixtures _ _ _ _ _ hcalculable
  obtain ⟨workload, hin⟩ := exists_named evidence hteam
  refine ⟨workload, fun fixtures' hperm => ?_⟩
  rw [← hlaw.order fixtures' hperm] at hevidence
  exact ((Calculable.of_ok hevidence).2 _ hin).2

omit [Hashing] in
/-- The periods of two or more events tell where an event of another fixture than the
target's has its place. -/
theorem placed_of_periods {views views' : List CanonicalView} {teamId : String} {event own : Event}
    {events events' : List Event} (hschedule : IsSchedule views teamId own lower events)
    (hschedule' : IsSchedule views' teamId own lower events')
    (heq : periods teamId rules events = periods teamId rules events')
    (hplaced : Placed views teamId own lower event)
    (hother : event.fixture.fixtureId ≠ own.fixture.fixtureId) :
    ∃ event', Placed views' teamId own lower event' ∧ stamp event' = stamp event := by
  have hin : event ∈ events := (hschedule.listed event).mpr (Or.inl hplaced)
  obtain ⟨first, hfirst, hown⟩ := hschedule.exists_own
  have hpair : [first, event].Nodup := by
    refine List.nodup_cons.mpr ⟨fun hmem => hother ?_, List.nodup_singleton _⟩
    rw [← List.mem_singleton.mp hmem, hown]
  have htwo : 2 ≤ events.length := (List.subperm_of_subset hpair (List.cons_subset.mpr
    ⟨hfirst, List.cons_subset.mpr ⟨hin, List.nil_subset _⟩⟩)).length_le
  have hstamp : stamp event ∈ events'.map stamp :=
    stamps_of_periods htwo heq ▸ List.mem_map_of_mem hin
  obtain ⟨event', hin', hsame⟩ := List.mem_map.mp hstamp
  rcases (hschedule'.listed event').mp hin' with hplaced' | ⟨rfl, -⟩
  · exact ⟨event', hplaced', hsame⟩
  · exact absurd (congrArg Prod.fst hsame).symm hother

/-- Under the law tied rows agree on the teams that they name and on their places. -/
theorem LawHolds.placed (hlaw : LawHolds fixtures cutoff rules target)
    (hcalculable : Calculable cutoff rules target kickoff lower) :
    TiesPlaced fixtures cutoff target kickoff lower := by
  intro first second hfirst hsecond hid teamId hteam
  obtain ⟨workload, hworkload⟩ := hlaw.same_workload hcalculable hteam
  obtain ⟨order, hperm, view, hview, hshows⟩ := hfirst.exists_order
  obtain ⟨order', hperm', view', hview', hshows'⟩ := hsecond.exists_order
  have hown (other : CanonicalView) (hother : other ∈ viewsFor order' cutoff target)
      (hsame : other.fixture.fixtureId = first.fixtureId) : other = view' :=
    List.inj_on_of_nodup_map (views_nodup _ _) hother hview'
      (hsame.trans (hid.trans hshows'.fixtureId.symm))
  refine ⟨fun hnamed => ?_, fun hne event hplace => ?_⟩
  · by_cases hsignature : sameRevisionSignature first = sameRevisionSignature second
    · exact teamIds_congr hsignature ▸ hnamed
    · have hconflict : InConflict (fixtures ++ [target]) cutoff view.fixture.fixtureId := by
        rw [hshows.fixtureId]
        exact ⟨first, hfirst.leading.entry, second, hid ▸ hsecond.leading.entry,
          hfirst.leading.revisionKey_eq hsecond.leading hid, hsignature⟩
      have hmem : first.fixtureId ∈ workload.conflictFixtureIds := by
        refine (mem_conflictFixtureIds (hworkload order hperm)).mpr ⟨view, hview, hshows.fixtureId,
          ?_, (view_conflict_iff hview).mpr ?_⟩
        · rwa [teamIds_congr hshows.signature]
        · exact (inConflict_perm (hperm.append_right [target]) _).mp hconflict
      obtain ⟨other, hother, hsame, hteam', -⟩ :=
        (mem_conflictFixtureIds (hworkload order' hperm')).mp hmem
      rwa [hown other hother hsame, teamIds_congr hshows'.signature] at hteam'
  · have hspec (fixtures' : List CanonicalFixture) (hperm : fixtures.Perm fixtures') :
        ∃ events, IsSchedule (viewsFor fixtures' cutoff target) teamId ⟨target, kickoff⟩ lower
            events ∧ workload.turnaroundPeriods = periods teamId rules events := by
      obtain ⟨events, hschedule, workload', hsame, hfacts⟩ :=
        @teamWorkload_spec (viewsFor fixtures' cutoff target) teamId ⟨target, kickoff⟩ rules lower
          (selectCanonicalViews (fixtures' ++ [target]) cutoff).2 (views_nodup _ _)
          hcalculable.window
      obtain rfl : workload' = workload :=
        Except.ok.inj (hsame.symm.trans (hworkload fixtures' hperm))
      exact ⟨events, hschedule, congrArg ScheduleFacts.turnaroundPeriods hfacts⟩
    obtain ⟨events, hschedule, hperiods⟩ := hspec order hperm
    obtain ⟨events', hschedule', hperiods'⟩ := hspec order' hperm'
    obtain ⟨shown, hshown, hstamp⟩ := place_congr hshows.fixtureId.symm hshows.signature.symm hplace
    have hshownId : shown.fixture.fixtureId = first.fixtureId := by
      rw [← (place_eq_some.mp hshown).1, hshows.fixtureId]
    obtain ⟨moved, ⟨other, hother, hmoved⟩, hmovedStamp⟩ := placed_of_periods hschedule hschedule'
      (hperiods.symm.trans hperiods') ⟨view, hview, hshown⟩ (hshownId ▸ hne)
    have hmovedId : other.fixture.fixtureId = first.fixtureId := by
      rw [(place_eq_some.mp hmoved).1]
      exact (congrArg Prod.fst hmovedStamp).trans hshownId
    rw [hown other hother hmovedId] at hmoved
    obtain ⟨event', hplace', hstamp'⟩ := place_congr hshows'.fixtureId hshows'.signature hmoved
    exact ⟨event', hplace', hstamp'.trans (hmovedStamp.trans hstamp)⟩

end Necessary

end Order

namespace TiedRows

open OlderMatch RestDays

local instance : Hashing := shapeHashing

/-- A revision of a match of the home team. -/
def conflicting : CanonicalFixture := homePast

/-- A row of the same revision that names another home team. -/
def conflictingOther : CanonicalFixture :=
  { past with
    homeTeamId := "other-home"
    named := by decide +kernel
    two_teams := by decide }.toFixture

/-- The unknown reasons of the home team. -/
def homeReasons (fixtures : List CanonicalFixture) : Option (List String) :=
  (calculate fixtures cutoff rules fixture).toOption.map fun evidence =>
    evidence.home.unknownReasons

theorem rows_dated : RowsDated ([conflicting] ++ [fixture]) := by
  unfold RowsDated Dated
  decide +kernel

end TiedRows

end MatchVet.Workload.OrderLaw
