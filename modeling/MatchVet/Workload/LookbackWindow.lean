import MatchVet.Workload.Selection

/-!
# The lookback window

Rest, density and turnaround of a team come from the fixtures with a place in its
lookback window.  A fixture without a place there still leaves the team with an
unknown kickoff, also when its own kickoff is known and lies outside the window.
-/

namespace MatchVet.Workload.LookbackWindow

open MatchVet.Foundation.CanonicalJson
open MatchVet.Foundation.KeySort
open MatchVet.Foundation.Runtime
open MatchVet.Foundation.Timestamp
open MatchVet.Workload.Calculator
open MatchVet.Workload.CutoffLaw
open MatchVet.Workload.History
open MatchVet.Workload.Selection

/-- Instants are compared by the computable order of the integers. -/
local instance (priority := 5000) instantOrder : PartialOrder Instant :=
  Int.instLinearOrder.toPartialOrder

/-! ## Turnaround periods -/

/-- What a turnaround period reads of an event. -/
def stamp (event : Event) : String × Instant × String :=
  (event.fixture.fixtureId, event.kickoff, event.fixture.competitionKey)

theorem periods_cons (teamId : String) (rules : WorkloadRules) (first second : Event)
    (rest : List Event) : periods teamId rules (first :: second :: rest) =
      turnaroundPeriod teamId rules first second :: periods teamId rules (second :: rest) := rfl

theorem periods_length (teamId : String) (rules : WorkloadRules) (events : List Event) :
    (periods teamId rules events).length = events.length - 1 := by
  induction events with
  | nil => rfl
  | cons first rest ih =>
      cases rest with
      | nil => rfl
      | cons second rest =>
          rw [periods_cons, List.length_cons, ih]
          rfl

theorem periods_eq_nil {teamId : String} {rules : WorkloadRules} {events : List Event}
    (hlength : events.length ≤ 1) : periods teamId rules events = [] := by
  refine List.eq_nil_of_length_eq_zero ?_
  rw [periods_length]
  omega

theorem turnaroundPeriod_congr {teamId : String} {rules : WorkloadRules}
    {first second first' second' : Event} (hfirst : stamp first = stamp first')
    (hsecond : stamp second = stamp second') :
    turnaroundPeriod teamId rules first second = turnaroundPeriod teamId rules first' second' := by
  unfold stamp at hfirst hsecond
  obtain ⟨hid, hkickoff, hkey⟩ := by simpa only [Prod.mk.injEq] using hfirst
  obtain ⟨hid', hkickoff', hkey'⟩ := by simpa only [Prod.mk.injEq] using hsecond
  unfold turnaroundPeriod
  rw [hid, hkickoff, hkey, hid', hkickoff', hkey']

theorem periods_congr {teamId : String} {rules : WorkloadRules} {first second : List Event}
    (hstamps : first.map stamp = second.map stamp) :
    periods teamId rules first = periods teamId rules second := by
  induction first generalizing second with
  | nil => rw [List.map_eq_nil_iff.mp hstamps.symm]
  | cons event rest ih =>
      obtain ⟨event', rest', rfl, hevent, hrest⟩ := List.map_eq_cons_iff.mp hstamps.symm
      have htail := ih hrest.symm
      cases rest with
      | nil =>
          rw [List.map_eq_nil_iff.mp hrest]
          rfl
      | cons next rest =>
          obtain ⟨next', rest', rfl, hnext, -⟩ := List.map_eq_cons_iff.mp hrest
          rw [periods_cons, periods_cons, htail, turnaroundPeriod_congr hevent.symm hnext.symm]

/-- One or two keys tell the pair that they are the keys of. -/
theorem keys_inj {first second first' second' : String}
    (heq : (if first = second then [first] else [first, second]) =
      if first' = second' then [first'] else [first', second']) :
    first = first' ∧ second = second' := by
  split at heq
  next hsame =>
    split at heq
    next hsame' =>
      obtain ⟨hfirst, -⟩ := List.cons.inj heq
      exact ⟨hfirst, hsame.symm.trans (hfirst.trans hsame')⟩
    next => simp at heq
  next =>
    split at heq
    next => simp at heq
    next =>
      obtain ⟨hfirst, hrest⟩ := List.cons.inj heq
      exact ⟨hfirst, (List.cons.inj hrest).1⟩

theorem stamp_of_turnaroundPeriod {teamId : String} {rules : WorkloadRules}
    {first second first' second' : Event}
    (heq : turnaroundPeriod teamId rules first second =
      turnaroundPeriod teamId rules first' second') :
    stamp first = stamp first' ∧ stamp second = stamp second' := by
  have hid : first.fixture.fixtureId = first'.fixture.fixtureId :=
    congrArg TurnaroundPeriod.previousFixtureId heq
  have hid' : second.fixture.fixtureId = second'.fixture.fixtureId :=
    congrArg TurnaroundPeriod.nextFixtureId heq
  have hkickoff : first.kickoff = first'.kickoff :=
    congrArg TurnaroundPeriod.previousKickoffUtc heq
  have hkickoff' : second.kickoff = second'.kickoff :=
    congrArg TurnaroundPeriod.nextKickoffUtc heq
  obtain ⟨hkey, hkey'⟩ := keys_inj (congrArg TurnaroundPeriod.competitionKeys heq)
  unfold stamp
  exact ⟨by rw [hid, hkickoff, hkey], by rw [hid', hkickoff', hkey']⟩

/-- The periods of two or more events tell the stamps of the events. -/
theorem stamps_of_periods {teamId : String} {rules : WorkloadRules} {first second : List Event}
    (hlength : 2 ≤ first.length) (heq : periods teamId rules first = periods teamId rules second) :
    first.map stamp = second.map stamp := by
  induction first generalizing second with
  | nil => cases hlength
  | cons event rest ih =>
      cases rest with
      | nil => simp at hlength
      | cons next rest =>
          match second with
          | [] => cases heq
          | [_] => cases heq
          | event' :: next' :: rest' =>
              rw [periods_cons, periods_cons] at heq
              obtain ⟨hperiod, htail⟩ := List.cons.inj heq
              obtain ⟨hevent, hnext⟩ := stamp_of_turnaroundPeriod hperiod
              cases rest with
              | nil =>
                  cases rest' with
                  | nil => rw [List.map_cons, List.map_cons, hevent, List.map_cons, hnext]; rfl
                  | cons => cases htail
              | cons =>
                  rw [List.map_cons, hevent, ih (by simp) htail]
                  rfl

/-! ## Places in the window -/

/-- The event of a fixture with a place in the window of a team. -/
def place (teamId : String) (target : Event) (lower : Instant) (fixture : CanonicalFixture) :
    Option Event :=
  match fixture.kickoffUtc with
  | none => none
  | some kickoff =>
      if fixture.teamIds.contains teamId && lower ≤ kickoff && kickoff ≤ target.kickoff &&
          [FixtureStatus.completed, .scheduled].contains fixture.status then
        some ⟨fixture, kickoff⟩
      else none

theorem place_eq_some {teamId : String} {target event : Event} {lower : Instant}
    {fixture : CanonicalFixture} :
    place teamId target lower fixture = some event ↔
      fixture = event.fixture ∧ fixture.kickoffUtc = some event.kickoff ∧
        teamId ∈ fixture.teamIds ∧ lower ≤ event.kickoff ∧ event.kickoff ≤ target.kickoff ∧
        (fixture.status = .completed ∨ fixture.status = .scheduled) := by
  unfold place
  cases hkickoff : fixture.kickoffUtc with
  | none => simp
  | some kickoff =>
      dsimp only
      split
      next hcondition =>
        simp only [Bool.and_eq_true, List.contains_iff_mem, decide_eq_true_eq, List.mem_cons,
          List.not_mem_nil, or_false] at hcondition
        obtain ⟨⟨⟨hteam, hlower⟩, htarget⟩, hstatus⟩ := hcondition
        constructor
        · intro heq
          cases heq
          exact ⟨rfl, rfl, hteam, hlower, htarget, hstatus⟩
        · rintro ⟨hfixture, hsame, -⟩
          cases hsame
          rw [hfixture]
      next hcondition =>
        refine iff_of_false (by simp) ?_
        rintro ⟨-, hsame, hteam, hlower, htarget, hstatus⟩
        cases hsame
        refine hcondition ?_
        simp only [Bool.and_eq_true, List.contains_iff_mem, decide_eq_true_eq, List.mem_cons,
          List.not_mem_nil, or_false]
        exact ⟨⟨⟨hteam, hlower⟩, htarget⟩, hstatus⟩

/-- A fixture that is expected to be played and has no place in the window of its team. -/
def unplaced (teamId : String) (target : Event) (lower : Instant) (fixture : CanonicalFixture) :
    Bool :=
  fixture.teamIds.contains teamId && !withdrawn fixture && (fixture.kickoffUtc.isNone ||
    (fixture.fixtureId ≠ target.fixture.fixtureId && (place teamId target lower fixture).isNone))

/-- A view of a team has a place in the window. -/
def Placed (views : List CanonicalView) (teamId : String) (target : Event) (lower : Instant)
    (event : Event) : Prop :=
  ∃ view ∈ views, place teamId target lower view.fixture = some event

/-- The events of a team: the views with a place in the window, and the target when its
own fixture has no place there. -/
def Listed (views : List CanonicalView) (teamId : String) (target : Event) (lower : Instant)
    (event : Event) : Prop :=
  Placed views teamId target lower event ∨ event = target ∧
    ∀ other, Placed views teamId target lower other →
      other.fixture.fixtureId ≠ target.fixture.fixtureId

/-- The order of events. -/
def eventKey (event : Event) : Instant ×ₗ String :=
  toLex (event.kickoff, event.fixture.fixtureId)

/-- The events of a team in the order of their kickoffs. -/
structure IsSchedule (views : List CanonicalView) (teamId : String) (target : Event)
    (lower : Instant) (events : List Event) : Prop where
  ordered : events.Pairwise fun first second => eventKey first ≤ eventKey second
  distinct : (events.map fun event => event.fixture.fixtureId).Nodup
  listed : ∀ event, event ∈ events ↔ Listed views teamId target lower event

theorem eq_of_ordered {first second : List Event}
    (hfirst : first.Pairwise fun left right => eventKey left ≤ eventKey right)
    (hsecond : second.Pairwise fun left right => eventKey left ≤ eventKey right)
    (hdistinct : (first.map fun event => event.fixture.fixtureId).Nodup)
    (hdistinct' : (second.map fun event => event.fixture.fixtureId).Nodup)
    (hmem : ∀ event, event ∈ first ↔ event ∈ second) : first = second := by
  have hperm : first.Perm second :=
    (List.perm_ext_iff_of_nodup hdistinct.of_map hdistinct'.of_map).mpr hmem
  refine List.Perm.eq_of_pairwise ?_ hfirst hsecond hperm
  intro left right hleft hright hle hge
  have hkey := le_antisymm hle hge
  exact List.inj_on_of_nodup_map hdistinct hleft ((hmem right).mpr hright)
    (Prod.ext_iff.mp (congrArg ofLex hkey)).2

theorem IsSchedule.unique {views views' : List CanonicalView} {teamId : String} {target : Event}
    {lower : Instant} {first second : List Event}
    (hfirst : IsSchedule views teamId target lower first)
    (hsecond : IsSchedule views' teamId target lower second)
    (hplaced : ∀ event, Placed views teamId target lower event ↔
      Placed views' teamId target lower event) : first = second := by
  refine eq_of_ordered hfirst.ordered hsecond.ordered hfirst.distinct hsecond.distinct
    fun event => ?_
  rw [hfirst.listed, hsecond.listed]
  unfold Listed
  simp only [hplaced]

theorem uniqueEvents_of_nodup {events : List Event}
    (hnodup : (events.map fun event => event.fixture.fixtureId).Nodup) :
    uniqueEvents events = events := by
  induction events with
  | nil => rfl
  | cons event rest ih =>
      obtain ⟨hevent, hrest⟩ := List.nodup_cons.mp hnodup
      rw [uniqueEvents, ih hrest, List.filter_eq_self.mpr]
      intro other hother
      rw [decide_eq_true_eq]
      exact fun hsame => hevent (List.mem_map.mpr ⟨other, hother, hsame⟩)

/-- The events of a team are its schedule. -/
theorem teamEvents_spec {views : List CanonicalView} {teamId : String} {target : Event}
    {rules : WorkloadRules} {lower : Instant}
    (hviews : (views.map fun view => view.fixture.fixtureId).Nodup)
    (hlower : daysBefore target.kickoff rules.contextLookbackDays = .ok lower) :
    ∃ events, teamEvents views teamId target rules = .ok events ∧
      IsSchedule views teamId target lower events := by
  let placed := views.filterMap fun view => place teamId target lower view.fixture
  let listed := if placed.any fun event => event.fixture.fixtureId = target.fixture.fixtureId
    then placed else placed ++ [target]
  have hmem : ∀ event, event ∈ placed ↔ Placed views teamId target lower event :=
    fun event => List.mem_filterMap
  have hplaced : (placed.map fun event => event.fixture.fixtureId).Nodup := by
    refine List.pairwise_map.mpr (List.pairwise_filterMap.mpr
      ((List.pairwise_map.mp hviews).imp ?_))
    intro first second hne event hevent other hother heq
    rw [(place_eq_some.mp hevent).1, (place_eq_some.mp hother).1] at hne
    exact hne heq
  have hlisted : (∀ event, event ∈ listed ↔ Listed views teamId target lower event) ∧
      (listed.map fun event => event.fixture.fixtureId).Nodup := by
    cases hown : placed.any fun event => event.fixture.fixtureId = target.fixture.fixtureId with
    | true =>
        obtain ⟨own, hin, hsame⟩ := List.any_eq_true.mp hown
        have hkept : listed = placed := if_pos hown
        rw [hkept]
        refine ⟨fun event => (hmem event).trans (or_iff_left ?_).symm, hplaced⟩
        rintro ⟨-, hnone⟩
        exact hnone own ((hmem own).mp hin) (of_decide_eq_true hsame)
    | false =>
        have hnone : ∀ event ∈ placed, event.fixture.fixtureId ≠ target.fixture.fixtureId := by
          intro event hevent heq
          exact List.any_eq_false.mp hown event hevent (decide_eq_true heq)
        have hkept : listed = placed ++ [target] := if_neg (by simp [hown])
        rw [hkept]
        refine ⟨fun event => ?_, ?_⟩
        · rw [List.mem_append, hmem, List.mem_singleton]
          refine or_congr_right (and_iff_left ?_).symm
          exact fun other hother => hnone other ((hmem other).mpr hother)
        · rw [List.map_append, List.map_singleton]
          refine List.nodup_append.mpr ⟨hplaced, List.nodup_singleton _, ?_⟩
          rintro name hname other hother rfl
          obtain ⟨event, hevent, heq⟩ := List.mem_map.mp hname
          exact hnone event hevent (heq.trans (List.mem_singleton.mp hother))
  refine ⟨sortedOn eventKey (uniqueEvents listed), ?_, ?_⟩
  · unfold teamEvents
    rw [hlower]
    rfl
  · rw [uniqueEvents_of_nodup hlisted.2]
    exact ⟨sortedOn_pairwise eventKey listed,
      (((sortedOn_perm eventKey listed).map _).nodup_iff).mpr hlisted.2,
      fun event => ((sortedOn_perm eventKey listed).mem_iff).trans (hlisted.1 event)⟩

/-! ## What the evidence says of one team -/

/-- The events of other fixtures before the target. -/
def priorEvents (target : Event) (events : List Event) : List Event :=
  events.filter fun event =>
    event.fixture.fixtureId ≠ target.fixture.fixtureId && event.kickoff < target.kickoff

def latestCompleted (prior : List Event) : Option Event :=
  (prior.filter fun event => event.fixture.status = .completed).argmax Event.kickoff

/-- The prior fixtures of a recent window. -/
def recentCount (prior : List Event) (target : Event) (windowDays : ℕ) : ℕ :=
  ((prior.filter fun event => target.kickoff - windowDays * dayLength ≤ event.kickoff &&
    event.kickoff < target.kickoff).map fun event => event.fixture.fixtureId).dedup.length

/-- The schedule context of a team. -/
structure ScheduleFacts where
  state : WorkloadState
  restDays : Option ℚ
  turnaroundHours : Option ℚ
  scheduleDensity : List (ℕ × ℕ)
  turnaroundPeriods : List TurnaroundPeriod
  unknownReasons : List String
  deriving DecidableEq

def scheduleFacts (workload : TeamWorkload) : ScheduleFacts where
  state := workload.state
  restDays := workload.restDays
  turnaroundHours := workload.turnaroundHours
  scheduleDensity := workload.scheduleDensity
  turnaroundPeriods := workload.turnaroundPeriods
  unknownReasons := workload.unknownReasons

/-- The schedule context from the events and the unknown reasons. -/
def factsOf (teamId : String) (rules : WorkloadRules) (target : Event) (events : List Event)
    (reasons : List String) : ScheduleFacts :=
  let elapsed := if reasons.isEmpty then
      (latestCompleted (priorEvents target events)).map fun event => target.kickoff - event.kickoff
    else none
  { state := if reasons.isEmpty then .observed else .unknown
    restDays := elapsed.map days
    turnaroundHours := elapsed.map hours
    scheduleDensity := rules.recentWindowsDays.map fun windowDays =>
      (windowDays, recentCount (priorEvents target events) target windowDays)
    turnaroundPeriods := periods teamId rules events
    unknownReasons := reasons }

theorem daysBefore_eq_ok {instant lower : Instant} {days : ℕ} :
    daysBefore instant days = .ok lower ↔
      earliest ≤ instant - days * dayLength ∧ instant - days * dayLength = lower := by
  unfold daysBefore
  split
  next hearly =>
    refine iff_of_false (by simp) ?_
    rintro ⟨hlate, -⟩
    exact absurd hearly (not_lt.mpr hlate)
  next hlate =>
    rw [Except.ok.injEq]
    exact (and_iff_right (not_lt.mp hlate)).symm

theorem density_mapM {prior : List Event} {target : Event} {rules : WorkloadRules}
    {lower : Instant}
    (hlower : daysBefore target.kickoff rules.contextLookbackDays = .ok lower) :
    rules.recentWindowsDays.mapM (density prior target) =
      .ok (rules.recentWindowsDays.map fun windowDays =>
        (windowDays, recentCount prior target windowDays)) := by
  refine mapM_of_forall fun windowDays hwindow => ?_
  have hcovers : (windowDays : ℤ) * dayLength ≤ rules.contextLookbackDays * dayLength := by
    have hle : (windowDays : ℤ) ≤ rules.contextLookbackDays :=
      Int.ofNat_le.mpr (rules.lookback_covers windowDays hwindow)
    exact Int.mul_le_mul_of_nonneg_right hle (by decide)
  have hearly := (daysBefore_eq_ok.mp hlower).1
  have hwindowLower : daysBefore target.kickoff windowDays =
      .ok (target.kickoff - windowDays * dayLength) :=
    daysBefore_eq_ok.mpr ⟨hearly.trans (Int.sub_le_sub_left hcovers _), rfl⟩
  unfold density
  rw [hwindowLower]
  rfl

/-- The evidence of a team in terms of its schedule. -/
theorem teamWorkload_spec {views : List CanonicalView} {teamId : String} {target : Event}
    {rules : WorkloadRules} {lower : Instant} {conflictFixtureIds : List String}
    (hviews : (views.map fun view => view.fixture.fixtureId).Nodup)
    (hlower : daysBefore target.kickoff rules.contextLookbackDays = .ok lower) :
    ∃ events, IsSchedule views teamId target lower events ∧
      ∃ workload, teamWorkload teamId target views conflictFixtureIds rules = .ok workload ∧
      scheduleFacts workload = factsOf teamId rules target events
        (unknownReasons (views.filter fun view => view.fixture.teamIds.contains teamId) events
          conflictFixtureIds (latestCompleted (priorEvents target events))) := by
  obtain ⟨events, hevents, hschedule⟩ := teamEvents_spec hviews hlower
  refine ⟨events, hschedule, ?_⟩
  unfold teamWorkload
  rw [hevents, ok_bind]
  dsimp only
  rw [density_mapM hlower, ok_bind]
  exact ⟨_, rfl, rfl⟩

/-! ## Unknown kickoffs -/

section Team

variable {views : List CanonicalView} {teamId : String} {target : Event} {lower : Instant}
  {events : List Event}

/-- A schedule has one event of the target's own fixture. -/
theorem IsSchedule.exists_own (hschedule : IsSchedule views teamId target lower events) :
    ∃ own ∈ events, own.fixture.fixtureId = target.fixture.fixtureId := by
  by_cases hown : ∃ own, Placed views teamId target lower own ∧
      own.fixture.fixtureId = target.fixture.fixtureId
  · obtain ⟨own, hplaced, hsame⟩ := hown
    exact ⟨own, (hschedule.listed own).mpr (Or.inl hplaced), hsame⟩
  · refine ⟨target, (hschedule.listed target).mpr (Or.inr ⟨rfl, ?_⟩), rfl⟩
    exact fun other hother hsame => hown ⟨other, hother, hsame⟩

/-- The fixtures of a schedule are the target's own and those with a place. -/
theorem IsSchedule.known_iff (hviews : (views.map fun view => view.fixture.fixtureId).Nodup)
    (hschedule : IsSchedule views teamId target lower events) {view : CanonicalView}
    (hview : view ∈ views) :
    view.fixture.fixtureId ∈ events.map (fun event => event.fixture.fixtureId) ↔
      view.fixture.fixtureId = target.fixture.fixtureId ∨
        (place teamId target lower view.fixture).isSome = true := by
  rw [List.mem_map]
  constructor
  · rintro ⟨event, hevent, hsame⟩
    rcases (hschedule.listed event).mp hevent with ⟨other, hother, hplace⟩ | ⟨rfl, -⟩
    · obtain rfl : other = view := List.inj_on_of_nodup_map hviews hother hview
        (by rw [(place_eq_some.mp hplace).1, hsame])
      exact Or.inr (Option.isSome_of_mem hplace)
    · exact Or.inl hsame.symm
  · rintro (hsame | hplaced)
    · obtain ⟨own, hown, howner⟩ := hschedule.exists_own
      exact ⟨own, hown, howner.trans hsame.symm⟩
    · obtain ⟨event, hplace⟩ := Option.isSome_iff_exists.mp hplaced
      refine ⟨event, (hschedule.listed event).mpr (Or.inl ⟨view, hview, hplace⟩), ?_⟩
      rw [(place_eq_some.mp hplace).1]

theorem IsSchedule.length_le_one (hschedule : IsSchedule views teamId target lower events)
    (honly : ∀ event ∈ events, event.fixture.fixtureId = target.fixture.fixtureId) :
    events.length ≤ 1 := by
  have hsubset : events.map (fun event => event.fixture.fixtureId) ⊆
      [target.fixture.fixtureId] := by
    intro name hname
    obtain ⟨event, hevent, rfl⟩ := List.mem_map.mp hname
    exact List.mem_singleton.mpr (honly event hevent)
  have hle := (List.subperm_of_subset hschedule.distinct hsubset).length_le
  rwa [List.length_map] at hle

/-- The unknown reasons of a team without a conflict. -/
def kickoffReasons (isUnplaced isFirst : Bool) : List String :=
  (if isUnplaced then ["FIXTURE_KICKOFF_UNKNOWN"] else []) ++
    if isFirst then ["NO_COMPLETED_HISTORY"] else []

theorem kickoffReasons_inj {isUnplaced isFirst isUnplaced' isFirst' : Bool}
    (heq : kickoffReasons isUnplaced isFirst = kickoffReasons isUnplaced' isFirst') :
    isUnplaced = isUnplaced' ∧ isFirst = isFirst' := by
  revert isUnplaced isFirst isUnplaced' isFirst'
  decide

/-- Without a conflict a team has an unknown kickoff when one of its fixtures is unplaced. -/
theorem unknownReasons_eq (hviews : (views.map fun view => view.fixture.fixtureId).Nodup)
    (hschedule : IsSchedule views teamId target lower events)
    (hconflict : ∀ view ∈ views, view.conflict = false) (latest : Option Event) :
    unknownReasons (views.filter fun view => view.fixture.teamIds.contains teamId) events []
        latest =
      kickoffReasons (views.any fun view => unplaced teamId target lower view.fixture)
        latest.isNone := by
  have hnone : ((views.filter fun view => view.fixture.teamIds.contains teamId).any
      CanonicalView.conflict || (events.map fun event => event.fixture.fixtureId).any
        ([] : List String).contains) = false := by
    rw [Bool.or_eq_false_iff, List.any_eq_false, List.any_eq_false]
    refine ⟨fun view hview => ?_, fun name _ => ?_⟩
    · rw [hconflict view (List.mem_of_mem_filter hview)]
      exact Bool.false_ne_true
    · simp
  have hunplaced : ((views.filter fun view => view.fixture.teamIds.contains teamId).any
      fun view => !withdrawn view.fixture &&
        (!(events.map fun event => event.fixture.fixtureId).contains view.fixture.fixtureId ||
          view.fixture.kickoffUtc.isNone)) =
      views.any fun view => unplaced teamId target lower view.fixture := by
    rw [List.any_filter, Bool.eq_iff_iff, List.any_eq_true, List.any_eq_true]
    refine exists_congr fun view => and_congr_right fun hview => ?_
    have hknown : (events.map fun event => event.fixture.fixtureId).contains
          view.fixture.fixtureId =
        (decide (view.fixture.fixtureId = target.fixture.fixtureId) ||
          (place teamId target lower view.fixture).isSome) := by
      rw [Bool.eq_iff_iff, List.contains_iff_mem, hschedule.known_iff hviews hview, Bool.or_eq_true,
        decide_eq_true_eq]
    unfold unplaced
    rw [hknown, Bool.not_or, Option.not_isSome, ← decide_not, Bool.and_assoc,
      Bool.or_comm (_ && _)]
  unfold unknownReasons
  dsimp only
  rw [hnone, hunplaced]
  rfl

/-! ## One more row -/

/-- A fixture is unplaced by its identity and signature. -/
theorem unplaced_congr {first second : CanonicalFixture}
    (hid : first.fixtureId = second.fixtureId)
    (hsignature : sameRevisionSignature first = sameRevisionSignature second) :
    (place teamId target lower first).isNone = (place teamId target lower second).isNone ∧
      unplaced teamId target lower first = unplaced teamId target lower second := by
  have hhome := congrArg RevisionSignature.homeTeamId hsignature
  have haway := congrArg RevisionSignature.awayTeamId hsignature
  have hkickoff := congrArg RevisionSignature.kickoffUtc hsignature
  have hstatus := congrArg RevisionSignature.status hsignature
  simp only [sameRevisionSignature] at hhome haway hkickoff hstatus
  have hplace : (place teamId target lower first).isNone =
      (place teamId target lower second).isNone := by
    unfold place CanonicalFixture.teamIds
    rw [hkickoff, hhome, haway, hstatus]
    cases second.kickoffUtc with
    | none => rfl
    | some kickoff =>
        dsimp only
        split
        · rfl
        · rfl
  refine ⟨hplace, ?_⟩
  unfold unplaced withdrawn CanonicalFixture.teamIds
  rw [hplace, hid, hkickoff, hhome, haway, hstatus]

/-- One more row that shows a revision outside the window leaves a team as it was: the
revision that it replaces had no place, and it neither opens nor closes an unknown kickoff. -/
structure NeutralFor (views : List CanonicalView) (teamId : String) (target : Event)
    (lower : Instant) (row : CanonicalFixture) : Prop where
  schedule : ∀ event, Placed views teamId target lower event →
    event.fixture.fixtureId = row.fixtureId → row.fixtureId = target.fixture.fixtureId ∧
      (stamp event = stamp target ∨ ∀ other, Placed views teamId target lower other →
        other.fixture.fixtureId = target.fixture.fixtureId)
  kickoffs : (∃ view ∈ views, view.fixture.fixtureId ≠ row.fixtureId ∧
      unplaced teamId target lower view.fixture = true) ∨
    ((∃ view ∈ views, view.fixture.fixtureId = row.fixtureId ∧
        unplaced teamId target lower view.fixture = true) ↔
      unplaced teamId target lower row = true)

/-- The views with one more row that shows a revision outside the window. -/
structure ShownOutside (views views' : List CanonicalView) (teamId : String) (target : Event)
    (lower : Instant) (row : CanonicalFixture) : Prop where
  distinct : (views.map fun view => view.fixture.fixtureId).Nodup
  distinct' : (views'.map fun view => view.fixture.fixtureId).Nodup
  others : ∀ view : CanonicalView, view.fixture.fixtureId ≠ row.fixtureId →
    (view ∈ views' ↔ view ∈ views)
  shown : ∃ view ∈ views', view.fixture.fixtureId = row.fixtureId ∧
    sameRevisionSignature view.fixture = sameRevisionSignature row
  outside : place teamId target lower row = none

namespace ShownOutside

variable {views' : List CanonicalView} {row : CanonicalFixture} {events' : List Event}

theorem placed_iff (hrow : ShownOutside views views' teamId target lower row) {event : Event} :
    Placed views' teamId target lower event ↔
      Placed views teamId target lower event ∧ event.fixture.fixtureId ≠ row.fixtureId := by
  obtain ⟨shown, hshown, hid, hsignature⟩ := hrow.shown
  have hnone : place teamId target lower shown.fixture = none := by
    rw [← Option.isNone_iff_eq_none, (unplaced_congr hid hsignature).1, hrow.outside]
    rfl
  constructor
  · rintro ⟨view, hview, hplace⟩
    have hfixture := (place_eq_some.mp hplace).1
    have hne : view.fixture.fixtureId ≠ row.fixtureId := by
      intro hsame
      obtain rfl : view = shown :=
        List.inj_on_of_nodup_map hrow.distinct' hview hshown (hsame.trans hid.symm)
      rw [hnone] at hplace
      cases hplace
    exact ⟨⟨view, (hrow.others view hne).mp hview, hplace⟩, hfixture ▸ hne⟩
  · rintro ⟨⟨view, hview, hplace⟩, hne⟩
    have hfixture := (place_eq_some.mp hplace).1
    exact ⟨view, (hrow.others view (hfixture ▸ hne)).mpr hview, hplace⟩

/-- The row leaves the unknown kickoffs exactly when it neither opens nor closes one. -/
theorem unplaced_iff (hrow : ShownOutside views views' teamId target lower row) :
    ((views'.any fun view => unplaced teamId target lower view.fixture) =
        views.any fun view => unplaced teamId target lower view.fixture) ↔
      (∃ view ∈ views, view.fixture.fixtureId ≠ row.fixtureId ∧
        unplaced teamId target lower view.fixture = true) ∨
      ((∃ view ∈ views, view.fixture.fixtureId = row.fixtureId ∧
          unplaced teamId target lower view.fixture = true) ↔
        unplaced teamId target lower row = true) := by
  obtain ⟨shown, hshown, hid, hsignature⟩ := hrow.shown
  have hrowShown : unplaced teamId target lower shown.fixture = unplaced teamId target lower row :=
    (unplaced_congr hid hsignature).2
  rw [Bool.eq_iff_iff, List.any_eq_true, List.any_eq_true]
  have hafter : (∃ view ∈ views', unplaced teamId target lower view.fixture = true) ↔
      (∃ view ∈ views, view.fixture.fixtureId ≠ row.fixtureId ∧
        unplaced teamId target lower view.fixture = true) ∨
      unplaced teamId target lower row = true := by
    constructor
    · rintro ⟨view, hview, hunplaced⟩
      by_cases hsame : view.fixture.fixtureId = row.fixtureId
      · obtain rfl : view = shown :=
          List.inj_on_of_nodup_map hrow.distinct' hview hshown (hsame.trans hid.symm)
        exact Or.inr (hrowShown ▸ hunplaced)
      · exact Or.inl ⟨view, (hrow.others view hsame).mp hview, hsame, hunplaced⟩
    · rintro (⟨view, hview, hne, hunplaced⟩ | hunplaced)
      · exact ⟨view, (hrow.others view hne).mpr hview, hunplaced⟩
      · exact ⟨shown, hshown, hrowShown.trans hunplaced⟩
  have hbefore : (∃ view ∈ views, unplaced teamId target lower view.fixture = true) ↔
      (∃ view ∈ views, view.fixture.fixtureId ≠ row.fixtureId ∧
        unplaced teamId target lower view.fixture = true) ∨
      ∃ view ∈ views, view.fixture.fixtureId = row.fixtureId ∧
        unplaced teamId target lower view.fixture = true := by
    constructor
    · rintro ⟨view, hview, hunplaced⟩
      by_cases hsame : view.fixture.fixtureId = row.fixtureId
      · exact Or.inr ⟨view, hview, hsame, hunplaced⟩
      · exact Or.inl ⟨view, hview, hsame, hunplaced⟩
    · rintro (⟨view, hview, -, hunplaced⟩ | ⟨view, hview, -, hunplaced⟩)
      · exact ⟨view, hview, hunplaced⟩
      · exact ⟨view, hview, hunplaced⟩
  rw [hafter, hbefore]
  by_cases hopen : ∃ view ∈ views, view.fixture.fixtureId ≠ row.fixtureId ∧
      unplaced teamId target lower view.fixture = true
  · exact iff_of_true (iff_of_true (Or.inl hopen) (Or.inl hopen)) (Or.inl hopen)
  · rw [or_iff_right hopen, or_iff_right hopen, or_iff_right hopen]
    exact iff_comm

/-- A replaced revision of another fixture with a place leaves the schedule shorter. -/
theorem length_lt (hrow : ShownOutside views views' teamId target lower row)
    (hschedule : IsSchedule views teamId target lower events)
    (hschedule' : IsSchedule views' teamId target lower events') {event : Event}
    (hevent : Placed views teamId target lower event)
    (hsame : event.fixture.fixtureId = row.fixtureId)
    (hne : row.fixtureId ≠ target.fixture.fixtureId) : events'.length < events.length := by
  have hin : event ∈ events := (hschedule.listed event).mpr (Or.inl hevent)
  have hsubset : events' ⊆ events.filter fun other => other.fixture.fixtureId ≠ row.fixtureId := by
    intro other hother
    refine List.mem_filter.mpr ?_
    rw [hschedule.listed, decide_eq_true_eq]
    rcases (hschedule'.listed other).mp hother with hplaced | ⟨rfl, hnone⟩
    · obtain ⟨hplaced, hother⟩ := hrow.placed_iff.mp hplaced
      exact ⟨Or.inl hplaced, hother⟩
    · refine ⟨Or.inr ⟨rfl, fun own hplaced howner => ?_⟩, Ne.symm hne⟩
      exact hnone own (hrow.placed_iff.mpr ⟨hplaced, howner ▸ Ne.symm hne⟩) howner
  refine ((List.subperm_of_subset hschedule'.distinct.of_map hsubset).length_le).trans_lt ?_
  refine List.length_filter_lt_length_iff_exists.mpr ⟨event, hin, ?_⟩
  rw [decide_eq_true_eq]
  exact not_not.mpr hsame

/-- Unchanged periods show that the replaced revision had no place of its own. -/
theorem replaced_of_periods {rules : WorkloadRules}
    (hrow : ShownOutside views views' teamId target lower row)
    (hschedule : IsSchedule views teamId target lower events)
    (hschedule' : IsSchedule views' teamId target lower events')
    (heq : periods teamId rules events' = periods teamId rules events) {event : Event}
    (hevent : Placed views teamId target lower event)
    (hsame : event.fixture.fixtureId = row.fixtureId) :
    row.fixtureId = target.fixture.fixtureId ∧
      (stamp event = stamp target ∨ ∀ other, Placed views teamId target lower other →
        other.fixture.fixtureId = target.fixture.fixtureId) := by
  have hin : event ∈ events := (hschedule.listed event).mpr (Or.inl hevent)
  have htarget : row.fixtureId = target.fixture.fixtureId := by
    by_contra hne
    have hshorter := hrow.length_lt hschedule hschedule' hevent hsame hne
    obtain ⟨own, hown, -⟩ := hschedule'.exists_own
    have hpositive : 0 < events'.length := List.length_pos_of_mem hown
    have hlength := congrArg List.length heq
    rw [periods_length, periods_length] at hlength
    omega
  refine ⟨htarget, or_iff_not_imp_right.mpr fun hothers => ?_⟩
  push Not at hothers
  obtain ⟨other, hother, hne⟩ := hothers
  have hpair : [event, other] ⊆ events := by
    refine List.cons_subset.mpr ⟨hin, List.cons_subset.mpr ⟨?_, List.nil_subset _⟩⟩
    exact (hschedule.listed other).mpr (Or.inl hother)
  have htwo : [event, other].Nodup := by
    refine List.nodup_cons.mpr ⟨fun hmem => hne ?_, List.nodup_singleton _⟩
    rw [← List.mem_singleton.mp hmem, hsame, htarget]
  have hstamps := stamps_of_periods (List.subperm_of_subset htwo hpair).length_le heq.symm
  have hstamp : stamp event ∈ events'.map stamp := hstamps ▸ List.mem_map_of_mem hin
  obtain ⟨found, hfound, hfoundStamp⟩ := List.mem_map.mp hstamp
  have hfoundId : found.fixture.fixtureId = event.fixture.fixtureId := congrArg Prod.fst hfoundStamp
  rcases (hschedule'.listed found).mp hfound with hplaced | ⟨rfl, -⟩
  · exact absurd (hfoundId.trans hsame) (hrow.placed_iff.mp hplaced).2
  · exact hfoundStamp.symm

/-- Other events than those of the row keep their places. -/
theorem placed_other (hrow : ShownOutside views views' teamId target lower row)
    (hneutral : NeutralFor views teamId target lower row) {event : Event}
    (hother : event.fixture.fixtureId ≠ target.fixture.fixtureId) :
    Placed views' teamId target lower event ↔ Placed views teamId target lower event := by
  rw [hrow.placed_iff]
  refine and_iff_left_of_imp fun hplaced hsame => ?_
  exact hother (hsame.trans (hneutral.schedule event hplaced hsame).1)

theorem priorEvents_eq (hrow : ShownOutside views views' teamId target lower row)
    (hneutral : NeutralFor views teamId target lower row)
    (hschedule : IsSchedule views teamId target lower events)
    (hschedule' : IsSchedule views' teamId target lower events') :
    priorEvents target events' = priorEvents target events := by
  refine eq_of_ordered (hschedule'.ordered.filter _) (hschedule.ordered.filter _)
    (hschedule'.distinct.sublist (List.filter_sublist.map _))
    (hschedule.distinct.sublist (List.filter_sublist.map _)) fun event => ?_
  unfold priorEvents
  rw [List.mem_filter, List.mem_filter]
  refine and_congr_left fun hprior => ?_
  rw [Bool.and_eq_true, decide_eq_true_eq] at hprior
  rw [hschedule.listed, hschedule'.listed]
  unfold Listed
  rw [hrow.placed_other hneutral hprior.1]
  refine or_congr_right (iff_of_false ?_ ?_)
  · rintro ⟨rfl, -⟩
    exact hprior.1 rfl
  · rintro ⟨rfl, -⟩
    exact hprior.1 rfl

/-- A replaced revision of the target with the stamp of the target gives the same periods. -/
theorem periods_of_stamp {rules : WorkloadRules}
    (hrow : ShownOutside views views' teamId target lower row)
    (htarget : row.fixtureId = target.fixture.fixtureId) {own : Event}
    (hown : Placed views teamId target lower own)
    (howner : own.fixture.fixtureId = target.fixture.fixtureId)
    (hstamp : stamp own = stamp target)
    (hschedule : IsSchedule views teamId target lower events)
    (hschedule' : IsSchedule views' teamId target lower events') :
    periods teamId rules events' = periods teamId rules events := by
  let put (event : Event) : Event :=
    if event.fixture.fixtureId = target.fixture.fixtureId then target else event
  have hin : own ∈ events := (hschedule.listed own).mpr (Or.inl hown)
  have hput : ∀ event ∈ events, stamp (put event) = stamp event := by
    intro event hevent
    by_cases hsame : event.fixture.fixtureId = target.fixture.fixtureId
    · obtain rfl : event = own :=
        List.inj_on_of_nodup_map hschedule.distinct hevent hin (hsame.trans howner.symm)
      exact (congrArg stamp (if_pos hsame)).trans hstamp.symm
    · exact congrArg stamp (if_neg hsame)
  have hkey : ∀ event ∈ events, eventKey (put event) = eventKey event := fun event hevent =>
    congrArg (fun mark : String × Instant × String => toLex (mark.2.1, mark.1)) (hput event hevent)
  have hplaced : ∀ event, Placed views' teamId target lower event ↔
      Placed views teamId target lower event ∧
        event.fixture.fixtureId ≠ target.fixture.fixtureId := by
    intro event
    rw [hrow.placed_iff, htarget]
  have hevents : events' = events.map put := by
    refine eq_of_ordered hschedule'.ordered ?_ hschedule'.distinct ?_ fun event => ?_
    · refine List.pairwise_map.mpr (hschedule.ordered.imp_of_mem fun hleft hright hle => ?_)
      rwa [hkey _ hleft, hkey _ hright]
    · have hnames : events.map ((fun event => event.fixture.fixtureId) ∘ put) =
          events.map fun event => event.fixture.fixtureId :=
        List.map_congr_left fun event hevent => congrArg Prod.fst (hput event hevent)
      rw [List.map_map, hnames]
      exact hschedule.distinct
    · rw [hschedule'.listed, List.mem_map]
      constructor
      · rintro (hother | ⟨rfl, -⟩)
        · obtain ⟨hother, hne⟩ := (hplaced event).mp hother
          exact ⟨event, (hschedule.listed event).mpr (Or.inl hother), if_neg hne⟩
        · exact ⟨own, hin, if_pos howner⟩
      · rintro ⟨other, hother, rfl⟩
        by_cases hsame : other.fixture.fixtureId = target.fixture.fixtureId
        · exact Or.inr ⟨if_pos hsame, fun found hfound => ((hplaced found).mp hfound).2⟩
        · rw [show put other = other from if_neg hsame]
          refine Or.inl ((hplaced other).mpr ⟨?_, hsame⟩)
          refine ((hschedule.listed other).mp hother).resolve_right ?_
          rintro ⟨rfl, -⟩
          exact hsame rfl
  rw [hevents]
  refine periods_congr ?_
  rw [List.map_map]
  exact List.map_congr_left hput

theorem periods_eq {rules : WorkloadRules}
    (hrow : ShownOutside views views' teamId target lower row)
    (hneutral : NeutralFor views teamId target lower row)
    (hschedule : IsSchedule views teamId target lower events)
    (hschedule' : IsSchedule views' teamId target lower events') :
    periods teamId rules events' = periods teamId rules events := by
  by_cases hreplaced : ∃ event, Placed views teamId target lower event ∧
      event.fixture.fixtureId = row.fixtureId
  · obtain ⟨event, hevent, hsame⟩ := hreplaced
    obtain ⟨htarget, hstamp | honly⟩ := hneutral.schedule event hevent hsame
    · exact hrow.periods_of_stamp htarget hevent (hsame.trans htarget) hstamp hschedule hschedule'
    · rw [periods_eq_nil, periods_eq_nil]
      · refine hschedule.length_le_one fun other hother => ?_
        rcases (hschedule.listed other).mp hother with hplaced | ⟨rfl, -⟩
        · exact honly other hplaced
        · rfl
      · refine hschedule'.length_le_one fun other hother => ?_
        rcases (hschedule'.listed other).mp hother with hplaced | ⟨rfl, -⟩
        · exact honly other (hrow.placed_iff.mp hplaced).1
        · rfl
  · have hplaced : ∀ event, Placed views' teamId target lower event ↔
        Placed views teamId target lower event := by
      intro event
      rw [hrow.placed_iff]
      exact and_iff_left_of_imp fun hplaced hsame => hreplaced ⟨event, hplaced, hsame⟩
    rw [hschedule'.unique hschedule hplaced]

/-- One more row outside the window keeps the schedule context of a team exactly when it is
neutral for it. -/
theorem factsOf_iff {rules : WorkloadRules}
    (hrow : ShownOutside views views' teamId target lower row)
    (hschedule : IsSchedule views teamId target lower events)
    (hschedule' : IsSchedule views' teamId target lower events') :
    factsOf teamId rules target events'
        (kickoffReasons (views'.any fun view => unplaced teamId target lower view.fixture)
          (latestCompleted (priorEvents target events')).isNone) =
      factsOf teamId rules target events
        (kickoffReasons (views.any fun view => unplaced teamId target lower view.fixture)
          (latestCompleted (priorEvents target events)).isNone) ↔
      NeutralFor views teamId target lower row := by
  constructor
  · intro heq
    have hperiods := congrArg ScheduleFacts.turnaroundPeriods heq
    have hreasons := congrArg ScheduleFacts.unknownReasons heq
    exact ⟨fun event hevent hsame =>
        hrow.replaced_of_periods hschedule hschedule' hperiods hevent hsame,
      hrow.unplaced_iff.mp (kickoffReasons_inj hreasons).1⟩
  · intro hneutral
    unfold factsOf
    rw [hrow.unplaced_iff.mpr hneutral.kickoffs,
      hrow.priorEvents_eq hneutral hschedule hschedule',
      hrow.periods_eq hneutral hschedule hschedule']

end ShownOutside

/-- A row whose revision is shown anyway is neutral. -/
theorem neutralFor_of_shown {row : CanonicalFixture}
    (hviews : (views.map fun view => view.fixture.fixtureId).Nodup)
    (houtside : place teamId target lower row = none) {view : CanonicalView} (hview : view ∈ views)
    (hid : view.fixture.fixtureId = row.fixtureId)
    (hsignature : sameRevisionSignature view.fixture = sameRevisionSignature row) :
    NeutralFor views teamId target lower row := by
  obtain ⟨hplace, hunplaced⟩ := @unplaced_congr teamId target lower _ _ hid hsignature
  have hown : ∀ other ∈ views, other.fixture.fixtureId = row.fixtureId → other = view :=
    fun other hother hsame => List.inj_on_of_nodup_map hviews hother hview (hsame.trans hid.symm)
  constructor
  · rintro event ⟨other, hother, hevent⟩ hsame
    obtain rfl := hown other hother ((place_eq_some.mp hevent).1 ▸ hsame)
    rw [hevent, houtside] at hplace
    cases hplace
  · refine Or.inr ⟨?_, fun hopen => ⟨view, hview, hid, hunplaced.trans hopen⟩⟩
    rintro ⟨other, hother, hsame, hopen⟩
    obtain rfl := hown other hother hsame
    exact hunplaced.symm.trans hopen

end Team

section Workload

variable [Hashing] {cutoff : Instant} {first second : List CanonicalFixture}
  {row : CanonicalFixture} {teamId : String} {target : Event} {rules : WorkloadRules}
  {lower : Instant}

/-- The schedule context of a team without conflicts. -/
theorem teamWorkload_facts {rows : List CanonicalFixture} {workload : TeamWorkload}
    (hrows : NonConflicting cutoff rows)
    (hlower : daysBefore target.kickoff rules.contextLookbackDays = .ok lower)
    (hworkload : teamWorkload teamId target (selectCanonicalViews rows cutoff).1
      (selectCanonicalViews rows cutoff).2 rules = .ok workload) :
    ∃ events, IsSchedule (selectCanonicalViews rows cutoff).1 teamId target lower events ∧
      scheduleFacts workload = factsOf teamId rules target events
        (kickoffReasons ((selectCanonicalViews rows cutoff).1.any fun view =>
            unplaced teamId target lower view.fixture)
          (latestCompleted (priorEvents target events)).isNone) := by
  obtain ⟨hconflict, hnone⟩ := views_not_conflict hrows
  have hviews := views_nodup rows cutoff
  obtain ⟨events, hschedule, found, hfound, hfacts⟩ := @teamWorkload_spec
    (selectCanonicalViews rows cutoff).1 teamId target rules lower
    (selectCanonicalViews rows cutoff).2 hviews hlower
  obtain rfl : found = workload := Except.ok.inj (hfound.symm.trans hworkload)
  refine ⟨events, hschedule, hfacts.trans ?_⟩
  rw [hnone, unknownReasons_eq hviews hschedule hconflict]

/-- One more row outside the window keeps the schedule context of a team exactly when it is
not admitted, is not the latest of its fixture or is neutral for the team. -/
theorem scheduleFacts_iff (hrows : NonConflicting cutoff (first ++ row :: second))
    (hlower : daysBefore target.kickoff rules.contextLookbackDays = .ok lower)
    (houtside : place teamId target lower row = none) {without withRow : TeamWorkload}
    (hwithout : teamWorkload teamId target (selectCanonicalViews (first ++ second) cutoff).1
      (selectCanonicalViews (first ++ second) cutoff).2 rules = .ok without)
    (hwith : teamWorkload teamId target (selectCanonicalViews (first ++ row :: second) cutoff).1
      (selectCanonicalViews (first ++ row :: second) cutoff).2 rules = .ok withRow) :
    scheduleFacts withRow = scheduleFacts without ↔
      (admitted cutoff row = true → Latest cutoff (first ++ second) row →
        NeutralFor (selectCanonicalViews (first ++ second) cutoff).1 teamId target lower row) := by
  cases hadmitted : admitted cutoff row with
  | false =>
      rw [selectCanonicalViews_refused hadmitted, hwithout] at hwith
      rw [Except.ok.inj hwith]
      exact iff_of_true rfl fun hcontrary => absurd hcontrary Bool.false_ne_true
  | true =>
      obtain ⟨events, hschedule, hfacts⟩ := teamWorkload_facts hrows.of_insert hlower hwithout
      obtain ⟨events', hschedule', hfacts'⟩ := teamWorkload_facts hrows hlower hwith
      have hshown (hview : ∃ view ∈ (selectCanonicalViews (first ++ row :: second) cutoff).1,
          view.fixture.fixtureId = row.fixtureId ∧
            sameRevisionSignature view.fixture = sameRevisionSignature row) :
          ShownOutside (selectCanonicalViews (first ++ second) cutoff).1
            (selectCanonicalViews (first ++ row :: second) cutoff).1 teamId target lower row :=
        ⟨views_nodup _ _, views_nodup _ _, fun view hne => mem_views_insert (Ne.symm hne), hview,
          houtside⟩
      rw [hfacts, hfacts']
      by_cases hlatest : Latest cutoff (first ++ second) row
      · have hview := hshown (exists_view_latest hrows hadmitted hlatest)
        rw [hview.factsOf_iff hschedule hschedule']
        exact ⟨fun hneutral _ _ => hneutral, fun hneutral => hneutral rfl hlatest⟩
      · refine iff_of_true ?_ fun _ hcontrary => absurd hcontrary hlatest
        rcases views_earlier hrows hadmitted hlatest with
          hsame | ⟨⟨view, hview, hid, hsignature⟩, hview'⟩
        · have hplaced : ∀ event,
              Placed (selectCanonicalViews (first ++ row :: second) cutoff).1 teamId target lower
                event ↔
              Placed (selectCanonicalViews (first ++ second) cutoff).1 teamId target lower event :=
            fun event => exists_congr fun view => and_congr_left' (hsame view)
          have hunplaced : ((selectCanonicalViews (first ++ row :: second) cutoff).1.any fun view =>
                unplaced teamId target lower view.fixture) =
              (selectCanonicalViews (first ++ second) cutoff).1.any fun view =>
                unplaced teamId target lower view.fixture := by
            rw [Bool.eq_iff_iff, List.any_eq_true, List.any_eq_true]
            exact exists_congr fun view => and_congr_left' (hsame view)
          rw [hschedule'.unique hschedule hplaced, hunplaced]
        · exact ((hshown hview').factsOf_iff hschedule hschedule').mpr
            (neutralFor_of_shown (views_nodup _ _) houtside hview hid hsignature)

end Workload

/-! ## Exactness -/

/-- A fixture of a team before the target within a recent window. -/
def recent (teamId : String) (target : Event) (windowDays : ℕ) (fixture : CanonicalFixture) :
    Bool :=
  fixture.teamIds.contains teamId && fixture.fixtureId ≠ target.fixture.fixtureId &&
    [FixtureStatus.completed, .scheduled].contains fixture.status &&
    fixture.kickoffUtc.any fun kickoff =>
      target.kickoff - windowDays * dayLength ≤ kickoff && kickoff < target.kickoff

/-- The distinct fixtures of a team within a recent window. -/
def recentFixtures (views : List CanonicalView) (teamId : String) (target : Event)
    (windowDays : ℕ) : Finset String :=
  ((views.filter fun view => recent teamId target windowDays view.fixture).map
    fun view => view.fixture.fixtureId).toFinset

/-- A completed fixture of the window strictly before the target. -/
def CompletedBefore (views : List CanonicalView) (teamId : String) (target : Event)
    (lower : Instant) (event : Event) : Prop :=
  Placed views teamId target lower event ∧
    event.fixture.fixtureId ≠ target.fixture.fixtureId ∧ event.kickoff < target.kickoff ∧
    event.fixture.status = .completed

/-- The periods of a team are the consecutive pairs of its fixtures in the order of their
kickoffs, and the last of these is the target. -/
def EndsAtTarget (views : List CanonicalView) (teamId : String) (target : Event)
    (lower : Instant) (rules : WorkloadRules) (turnaroundPeriods : List TurnaroundPeriod) :
    Prop :=
  ∃ earlier last, last.fixture.fixtureId = target.fixture.fixtureId ∧
    last.kickoff = target.kickoff ∧
    (earlier ++ [last]).Pairwise (fun first second => first.kickoff ≤ second.kickoff) ∧
    ((earlier ++ [last]).map fun event => event.fixture.fixtureId).Nodup ∧
    (∀ event, event ∈ earlier ++ [last] ↔ Listed views teamId target lower event) ∧
    turnaroundPeriods = periods teamId rules (earlier ++ [last])

/-- No fixture of the window comes after the target: its own fixture is shown with its
kickoff, and no other one at that kickoff has a greater identifier. -/
structure TargetLast (views : List CanonicalView) (teamId : String) (target : Event)
    (lower : Instant) : Prop where
  own : ∀ event, Placed views teamId target lower event →
    event.fixture.fixtureId = target.fixture.fixtureId → event.kickoff = target.kickoff
  tied : ∀ event, Placed views teamId target lower event → event.kickoff = target.kickoff →
    event.fixture.fixtureId ≤ target.fixture.fixtureId

/-- What the evidence of an observed team says of its fixtures. -/
structure Exact (views : List CanonicalView) (teamId : String) (target : Event)
    (lower : Instant) (rules : WorkloadRules) (facts : ScheduleFacts) : Prop where
  turnaround : ∃ latest, CompletedBefore views teamId target lower latest ∧
    (∀ other, CompletedBefore views teamId target lower other → other.kickoff ≤ latest.kickoff) ∧
    facts.turnaroundHours = some (hours (target.kickoff - latest.kickoff)) ∧
    facts.restDays = some (days (target.kickoff - latest.kickoff))
  density : facts.scheduleDensity = rules.recentWindowsDays.map fun windowDays =>
    (windowDays, (recentFixtures views teamId target windowDays).card)
  monotone : ∀ entry ∈ facts.scheduleDensity, ∀ other ∈ facts.scheduleDensity,
    entry.1 ≤ other.1 → entry.2 ≤ other.2
  periods : EndsAtTarget views teamId target lower rules facts.turnaroundPeriods ↔
    TargetLast views teamId target lower

section Exactness

variable {views : List CanonicalView} {teamId : String} {target : Event} {lower : Instant}
  {events : List Event} {rules : WorkloadRules}

theorem mem_priorEvents (hschedule : IsSchedule views teamId target lower events) {event : Event} :
    event ∈ priorEvents target events ↔ Placed views teamId target lower event ∧
      event.fixture.fixtureId ≠ target.fixture.fixtureId ∧ event.kickoff < target.kickoff := by
  unfold priorEvents
  rw [List.mem_filter, Bool.and_eq_true, decide_eq_true_eq, decide_eq_true_eq, hschedule.listed]
  refine and_congr_left fun hprior => or_iff_left ?_
  rintro ⟨rfl, -⟩
  exact hprior.1 rfl

theorem recentCount_eq (hschedule : IsSchedule views teamId target lower events) {windowDays : ℕ}
    (hlower : lower ≤ target.kickoff - windowDays * dayLength) :
    recentCount (priorEvents target events) target windowDays =
      (recentFixtures views teamId target windowDays).card := by
  unfold recentCount recentFixtures
  rw [← List.card_toFinset]
  refine congrArg Finset.card (Finset.ext fun name => ?_)
  rw [List.mem_toFinset, List.mem_toFinset, List.mem_map, List.mem_map]
  constructor
  · rintro ⟨event, hevent, rfl⟩
    obtain ⟨hprior, hwindow⟩ := List.mem_filter.mp hevent
    obtain ⟨⟨view, hview, hplace⟩, hother, hbefore⟩ := (mem_priorEvents hschedule).mp hprior
    obtain ⟨hfixture, hkickoff, hteam, -, -, hstatus⟩ := place_eq_some.mp hplace
    refine ⟨view, List.mem_filter.mpr ⟨hview, ?_⟩, by rw [hfixture]⟩
    rw [← hfixture] at hother
    unfold recent
    rw [hkickoff]
    simp only [Bool.and_eq_true, List.contains_iff_mem, decide_eq_true_eq, List.mem_cons,
      List.not_mem_nil, or_false, Option.any_some]
    exact ⟨⟨⟨hteam, hother⟩, hstatus⟩, by simpa using hwindow⟩
  · rintro ⟨view, hview, rfl⟩
    obtain ⟨hin, hrecent⟩ := List.mem_filter.mp hview
    unfold recent at hrecent
    cases hkickoff : view.fixture.kickoffUtc with
    | none => simp [hkickoff] at hrecent
    | some kickoff =>
        rw [hkickoff] at hrecent
        simp only [Bool.and_eq_true, List.contains_iff_mem, decide_eq_true_eq, List.mem_cons,
          List.not_mem_nil, or_false, Option.any_some] at hrecent
        obtain ⟨⟨⟨hteam, hother⟩, hstatus⟩, hafter, hbefore⟩ := hrecent
        refine ⟨⟨view.fixture, kickoff⟩, List.mem_filter.mpr ⟨?_, ?_⟩, rfl⟩
        · refine (mem_priorEvents hschedule).mpr ⟨⟨view, hin, ?_⟩, hother, hbefore⟩
          exact place_eq_some.mpr
            ⟨rfl, hkickoff, hteam, hlower.trans hafter, hbefore.le, hstatus⟩
        · simpa using And.intro hafter hbefore

theorem recentFixtures_mono {first second : ℕ} (hle : first ≤ second) :
    recentFixtures views teamId target first ⊆ recentFixtures views teamId target second := by
  intro name hname
  unfold recentFixtures at hname ⊢
  rw [List.mem_toFinset, List.mem_map] at hname ⊢
  obtain ⟨view, hview, rfl⟩ := hname
  obtain ⟨hin, hrecent⟩ := List.mem_filter.mp hview
  refine ⟨view, List.mem_filter.mpr ⟨hin, ?_⟩, rfl⟩
  have hlower : target.kickoff - second * dayLength ≤ target.kickoff - first * dayLength :=
    Int.sub_le_sub_left (Int.mul_le_mul_of_nonneg_right (Int.ofNat_le.mpr hle) (by decide)) _
  unfold recent at hrecent ⊢
  rw [Bool.and_eq_true] at hrecent ⊢
  refine ⟨hrecent.1, ?_⟩
  cases hkickoff : view.fixture.kickoffUtc with
  | none => simp [hkickoff] at hrecent
  | some kickoff =>
      rw [hkickoff] at hrecent
      simp only [Option.any_some, Bool.and_eq_true, decide_eq_true_eq] at hrecent ⊢
      exact ⟨hlower.trans hrecent.2.1, hrecent.2.2⟩

theorem exact_periods (hschedule : IsSchedule views teamId target lower events)
    (htwo : 2 ≤ events.length) :
    EndsAtTarget views teamId target lower rules (periods teamId rules events) ↔
      TargetLast views teamId target lower := by
  have hof (event : Event) (hplaced : Placed views teamId target lower event) : event ∈ events :=
    (hschedule.listed event).mpr (Or.inl hplaced)
  have hne : events ≠ [] := List.length_pos_iff.mp (Nat.lt_of_lt_of_le Nat.zero_lt_two htwo)
  obtain ⟨earlier, last, hevents⟩ : ∃ earlier last, events = earlier ++ [last] :=
    ⟨_, _, (List.dropLast_append_getLast hne).symm⟩
  have hlast : ∀ event ∈ events, eventKey event ≤ eventKey last := by
    intro event hevent
    have hordered := hschedule.ordered
    rw [hevents] at hevent hordered
    rcases List.mem_append.mp hevent with hbefore | hsame
    · exact (List.pairwise_append.mp hordered).2.2 event hbefore last (List.mem_singleton_self _)
    · rw [List.mem_singleton.mp hsame]
  have hin : last ∈ events := by
    rw [hevents]
    exact List.mem_append_right _ (List.mem_singleton_self _)
  constructor
  · rintro ⟨others, final, hid, hkickoff, -, -, -, heq⟩
    have hstamps := stamps_of_periods htwo heq
    rw [hevents, List.map_append, List.map_append] at hstamps
    have hstamp : stamp last = stamp final :=
      List.singleton_inj.mp (List.append_inj_right' hstamps rfl)
    have hlastId : last.fixture.fixtureId = target.fixture.fixtureId :=
      (congrArg Prod.fst hstamp).trans hid
    have hlastKickoff : last.kickoff = target.kickoff :=
      (congrArg (fun mark : String × Instant × String => mark.2.1) hstamp).trans hkickoff
    refine ⟨fun event hplaced hsame => ?_, fun event hplaced hsame => ?_⟩
    · rw [List.inj_on_of_nodup_map hschedule.distinct (hof event hplaced) hin
        (hsame.trans hlastId.symm), hlastKickoff]
    · rcases Prod.Lex.toLex_le_toLex.mp (hlast event (hof event hplaced)) with hlt | ⟨-, hle⟩
      · exact absurd (hsame.trans hlastKickoff.symm) hlt.ne
      · exact hle.trans hlastId.le
  · intro htarget
    obtain ⟨own, hown, howner⟩ := hschedule.exists_own
    have hkickoff : own.kickoff = target.kickoff := by
      rcases (hschedule.listed own).mp hown with hplaced | ⟨rfl, -⟩
      · exact htarget.own own hplaced howner
      · rfl
    have hbound : eventKey last ≤ eventKey own := by
      refine Prod.Lex.toLex_le_toLex.mpr ?_
      rcases (hschedule.listed last).mp hin with hplaced | ⟨rfl, -⟩
      · have hby : last.kickoff ≤ target.kickoff := by
          obtain ⟨view, -, hplace⟩ := hplaced
          exact (place_eq_some.mp hplace).2.2.2.2.1
        rcases hby.lt_or_eq with hlt | heq
        · exact Or.inl (hlt.trans_eq hkickoff.symm)
        · exact Or.inr ⟨heq.trans hkickoff.symm, (htarget.tied last hplaced heq).trans howner.ge⟩
      · exact Or.inr ⟨hkickoff.symm, howner.ge⟩
    have hsame : last = own := List.inj_on_of_nodup_map hschedule.distinct hin hown
      (Prod.ext_iff.mp (congrArg ofLex (le_antisymm hbound (hlast own hown)))).2
    refine ⟨earlier, last, hsame ▸ howner, hsame ▸ hkickoff, ?_, ?_, ?_, by rw [hevents]⟩
    · rw [← hevents]
      refine hschedule.ordered.imp fun hle => ?_
      rcases Prod.Lex.toLex_le_toLex.mp hle with hlt | ⟨heq, -⟩
      · exact hlt.le
      · exact heq.le
    · exact hevents ▸ hschedule.distinct
    · exact hevents ▸ hschedule.listed

/-- The evidence of an observed team is exact. -/
theorem exact_of_observed {reasons : List String}
    (hschedule : IsSchedule views teamId target lower events)
    (hlower : target.kickoff - rules.contextLookbackDays * dayLength = lower)
    (hlatest : reasons = [] → latestCompleted (priorEvents target events) ≠ none)
    (hobserved : (factsOf teamId rules target events reasons).state = .observed) :
    Exact views teamId target lower rules (factsOf teamId rules target events reasons) := by
  have hreasons : reasons = [] := by
    unfold factsOf at hobserved
    cases reasons with
    | nil => rfl
    | cons => cases hobserved
  subst hreasons
  obtain ⟨latest, hfound⟩ := Option.ne_none_iff_exists'.mp (hlatest rfl)
  have hmem : ∀ event, event ∈ (priorEvents target events).filter
      (fun event => event.fixture.status = .completed) ↔
      CompletedBefore views teamId target lower event := by
    intro event
    rw [List.mem_filter, mem_priorEvents hschedule, decide_eq_true_eq]
    unfold CompletedBefore
    rw [and_assoc, and_assoc]
  have hcompleted := (hmem latest).mp (List.argmax_mem hfound)
  have hdensity : (factsOf teamId rules target events []).scheduleDensity =
      rules.recentWindowsDays.map fun windowDays =>
        (windowDays, (recentFixtures views teamId target windowDays).card) := by
    refine List.map_congr_left fun windowDays hwindow => ?_
    have hle : (windowDays : ℤ) ≤ rules.contextLookbackDays :=
      Int.ofNat_le.mpr (rules.lookback_covers windowDays hwindow)
    have hstart : lower ≤ target.kickoff - windowDays * dayLength :=
      hlower ▸ Int.sub_le_sub_left (Int.mul_le_mul_of_nonneg_right hle (by decide)) _
    rw [recentCount_eq hschedule hstart]
  have htwo : 2 ≤ events.length := by
    obtain ⟨own, hown, howner⟩ := hschedule.exists_own
    have hin : latest ∈ events := (hschedule.listed latest).mpr (Or.inl hcompleted.1)
    have hpair : [own, latest].Nodup := by
      refine List.nodup_cons.mpr ⟨fun hsame => hcompleted.2.1 ?_, List.nodup_singleton _⟩
      rw [← List.mem_singleton.mp hsame, howner]
    exact (List.subperm_of_subset hpair
      (List.cons_subset.mpr ⟨hown, List.cons_subset.mpr ⟨hin, List.nil_subset _⟩⟩)).length_le
  refine ⟨⟨latest, hcompleted, fun other hother => ?_, ?_, ?_⟩, hdensity, ?_,
    exact_periods hschedule htwo⟩
  · exact List.le_of_mem_argmax ((hmem other).mpr hother) hfound
  · exact congrArg (fun found : Option Event => (found.map fun event =>
      target.kickoff - event.kickoff).map hours) hfound
  · exact congrArg (fun found : Option Event => (found.map fun event =>
      target.kickoff - event.kickoff).map days) hfound
  · rw [hdensity]
    intro entry hentry other hother hle
    obtain ⟨first, -, rfl⟩ := List.mem_map.mp hentry
    obtain ⟨second, -, rfl⟩ := List.mem_map.mp hother
    exact Finset.card_le_card (recentFixtures_mono hle)

end Exactness

/-! ## The calculation -/

theorem daysBefore_of_teamWorkload {views : List CanonicalView} {teamId : String} {target : Event}
    {rules : WorkloadRules} {conflictFixtureIds : List String} {workload : TeamWorkload}
    (hworkload : teamWorkload teamId target views conflictFixtureIds rules = .ok workload) :
    daysBefore target.kickoff rules.contextLookbackDays =
      .ok (target.kickoff - rules.contextLookbackDays * dayLength) := by
  unfold teamWorkload at hworkload
  obtain ⟨events, hevents, -⟩ := bind_eq_ok.mp hworkload
  unfold teamEvents at hevents
  obtain ⟨lower, hlower, -⟩ := bind_eq_ok.mp hevents
  rw [(daysBefore_eq_ok.mp hlower).2]
  exact hlower

/-- A known kickoff outside the window has no place there. -/
theorem place_outside {teamId : String} {target : Event} {lower kickoff : Instant}
    {row : CanonicalFixture} (hrow : row.kickoffUtc = some kickoff)
    (houtside : kickoff < lower ∨ target.kickoff < kickoff) :
    place teamId target lower row = none := by
  by_contra hsome
  obtain ⟨event, hevent⟩ := Option.ne_none_iff_exists'.mp hsome
  obtain ⟨-, hkickoff, -, hlower, htarget, -⟩ := place_eq_some.mp hevent
  obtain rfl : kickoff = event.kickoff := Option.some.inj (hrow.symm.trans hkickoff)
  rcases houtside with hearly | hlate
  · exact absurd hlower (not_le.mpr hearly)
  · exact absurd htarget (not_le.mpr hlate)

section Calculation

variable [Hashing]

/-- The views of a calculation: those of the fixtures and the target. -/
def viewsFor (fixtures : List CanonicalFixture) (cutoff : Instant) (target : CanonicalFixture) :
    List CanonicalView :=
  (selectCanonicalViews (fixtures ++ [target]) cutoff).1

theorem calculate_ok {fixtures : List CanonicalFixture} {cutoff : Instant} {rules : WorkloadRules}
    {target : CanonicalFixture} {kickoff : Instant} {evidence : WorkloadEvidence}
    (hkickoff : target.kickoffUtc = some kickoff)
    (hevidence : calculate fixtures cutoff rules target = .ok evidence) :
    target.effectiveCutoffEligibility = .cutoffValid ∧ cutoff < kickoff ∧
      teamWorkload target.homeTeamId ⟨target, kickoff⟩ (viewsFor fixtures cutoff target)
        (selectCanonicalViews (fixtures ++ [target]) cutoff).2 rules = .ok evidence.home ∧
      teamWorkload target.awayTeamId ⟨target, kickoff⟩ (viewsFor fixtures cutoff target)
        (selectCanonicalViews (fixtures ++ [target]) cutoff).2 rules = .ok evidence.away := by
  unfold calculate at hevidence
  rw [hkickoff] at hevidence
  dsimp only at hevidence
  split at hevidence
  next => cases hevidence
  next hvalid =>
    split at hevidence
    next => cases hevidence
    next hafter =>
      obtain ⟨home, hhome, hrest⟩ := bind_eq_ok.mp hevidence
      obtain ⟨away, haway, hdone⟩ := bind_eq_ok.mp hrest
      cases hdone
      exact ⟨not_not.mp hvalid, not_le.mp hafter, hhome, haway⟩

theorem exists_calculate {fixtures : List CanonicalFixture} {cutoff : Instant}
    {rules : WorkloadRules} {target : CanonicalFixture} {kickoff lower : Instant}
    (hkickoff : target.kickoffUtc = some kickoff)
    (hvalid : target.effectiveCutoffEligibility = .cutoffValid) (hafter : cutoff < kickoff)
    (hlower : daysBefore kickoff rules.contextLookbackDays = .ok lower) :
    ∃ evidence, calculate fixtures cutoff rules target = .ok evidence := by
  have hteam (teamId : String) : ∃ workload, teamWorkload teamId ⟨target, kickoff⟩
      (viewsFor fixtures cutoff target) (selectCanonicalViews (fixtures ++ [target]) cutoff).2
        rules = .ok workload := by
    obtain ⟨-, -, workload, hworkload, -⟩ := @teamWorkload_spec (viewsFor fixtures cutoff target)
      teamId ⟨target, kickoff⟩ rules lower
      (selectCanonicalViews (fixtures ++ [target]) cutoff).2 (views_nodup _ _) hlower
    exact ⟨workload, hworkload⟩
  obtain ⟨home, hhome⟩ := hteam target.homeTeamId
  obtain ⟨away, haway⟩ := hteam target.awayTeamId
  unfold viewsFor at hhome haway
  unfold calculate
  rw [hkickoff]
  dsimp only
  rw [if_neg (not_not.mpr hvalid), if_neg (not_le.mpr hafter), hhome, ok_bind, haway, ok_bind]
  exact ⟨_, rfl⟩

/-- The evidence of a team that is observed is exact. -/
theorem exact_of_teamWorkload {rows : List CanonicalFixture} {cutoff : Instant} {teamId : String}
    {target : Event} {rules : WorkloadRules} {workload : TeamWorkload}
    (hrows : NonConflicting cutoff rows)
    (hworkload : teamWorkload teamId target (selectCanonicalViews rows cutoff).1
      (selectCanonicalViews rows cutoff).2 rules = .ok workload)
    (hobserved : workload.state = .observed) :
    Exact (selectCanonicalViews rows cutoff).1 teamId target
      (target.kickoff - rules.contextLookbackDays * dayLength) rules (scheduleFacts workload) := by
  obtain ⟨events, hschedule, hfacts⟩ :=
    teamWorkload_facts hrows (daysBefore_of_teamWorkload hworkload) hworkload
  have hstate : (scheduleFacts workload).state = .observed := hobserved
  rw [hfacts] at hstate ⊢
  refine exact_of_observed hschedule rfl (fun hnone hlatest => ?_) hstate
  rw [hlatest] at hnone
  unfold kickoffReasons at hnone
  exact List.cons_ne_nil _ _ (List.append_eq_nil_iff.mp hnone).2

/-- One more fixture with a known kickoff outside the lookback window keeps the schedule
context of both teams exactly when it is not admitted, is not the latest revision of its
fixture or is neutral for both, and what the evidence says of an observed team is exact. -/
theorem calculate_window {before after : List CanonicalFixture} {row target : CanonicalFixture}
    {cutoff kickoff rowKickoff : Instant} {rules : WorkloadRules} {evidence : WorkloadEvidence}
    (hrows : NonConflicting cutoff (before ++ row :: after ++ [target]))
    (hkickoff : target.kickoffUtc = some kickoff) (hrow : row.kickoffUtc = some rowKickoff)
    (houtside : rowKickoff < kickoff - rules.contextLookbackDays * dayLength ∨
      kickoff < rowKickoff)
    (hevidence : calculate (before ++ after) cutoff rules target = .ok evidence) :
    (∃ other, calculate (before ++ row :: after) cutoff rules target = .ok other ∧
      (scheduleFacts other.home = scheduleFacts evidence.home ∧
          scheduleFacts other.away = scheduleFacts evidence.away ↔
        (admitted cutoff row = true → Latest cutoff (before ++ after ++ [target]) row →
          ∀ teamId ∈ target.teamIds, NeutralFor (viewsFor (before ++ after) cutoff target) teamId
            ⟨target, kickoff⟩ (kickoff - rules.contextLookbackDays * dayLength) row))) ∧
    (evidence.home.state = .observed →
      Exact (viewsFor (before ++ after) cutoff target) target.homeTeamId ⟨target, kickoff⟩
        (kickoff - rules.contextLookbackDays * dayLength) rules (scheduleFacts evidence.home)) ∧
    (evidence.away.state = .observed →
      Exact (viewsFor (before ++ after) cutoff target) target.awayTeamId ⟨target, kickoff⟩
        (kickoff - rules.contextLookbackDays * dayLength) rules (scheduleFacts evidence.away)) := by
  obtain ⟨hvalid, hafter, hhome, haway⟩ := calculate_ok hkickoff hevidence
  have hlower := daysBefore_of_teamWorkload hhome
  rw [List.append_assoc, List.cons_append] at hrows
  have hwithout : NonConflicting cutoff (before ++ after ++ [target]) := by
    rw [List.append_assoc]
    exact hrows.of_insert
  refine ⟨?_, exact_of_teamWorkload hwithout hhome, exact_of_teamWorkload hwithout haway⟩
  obtain ⟨other, hother⟩ := @exists_calculate _ (before ++ row :: after) cutoff rules target kickoff
    _ hkickoff hvalid hafter hlower
  obtain ⟨-, -, hhome', haway'⟩ := calculate_ok hkickoff hother
  have hplace (teamId : String) : place teamId ⟨target, kickoff⟩
      (kickoff - rules.contextLookbackDays * dayLength) row = none := place_outside hrow houtside
  unfold viewsFor at hhome haway hhome' haway' ⊢
  rw [List.append_assoc] at hhome haway hhome' haway' ⊢
  rw [List.cons_append] at hhome' haway'
  refine ⟨other, hother, ?_⟩
  rw [scheduleFacts_iff hrows hlower (hplace _) hhome hhome',
    scheduleFacts_iff hrows hlower (hplace _) haway haway']
  unfold CanonicalFixture.teamIds
  simp only [List.forall_mem_cons, List.not_mem_nil, IsEmpty.forall_iff, implies_true, and_true]
  constructor
  · rintro ⟨hhomeNeutral, hawayNeutral⟩ hadmitted hlatest
    exact ⟨hhomeNeutral hadmitted hlatest, hawayNeutral hadmitted hlatest⟩
  · intro hneutral
    exact ⟨fun hadmitted hlatest => (hneutral hadmitted hlatest).1,
      fun hadmitted hlatest => (hneutral hadmitted hlatest).2⟩

end Calculation

namespace OlderMatch

open RestDays

local instance : Hashing := shapeHashing

/-- A match of the home team, completed three days before the target. -/
def homePast : CanonicalFixture := past.toFixture

/-- A match of the away team, completed at the same time. -/
def awayPast : CanonicalFixture :=
  { past with
    fixtureId := "away-past"
    homeTeamId := "away"
    revisionId := "away-r1"
    named := by decide +kernel
    two_teams := by decide }.toFixture

/-- A match of the home team that was completed two months before the target. -/
def older : CanonicalFixture :=
  { past with
    fixtureId := "older"
    revisionId := "older-r1"
    kickoffUtc := some (moment 20650 20)
    named := by decide +kernel }.toFixture

def fixture : CanonicalFixture :=
  { past with
    fixtureId := "target"
    awayTeamId := "away"
    revisionId := "target-r1"
    kickoffUtc := some (moment 20709 20)
    fixtureStatus := .scheduled
    named := by decide +kernel
    two_teams := by decide }.toFixture

/-- The schedule context of the home team. -/
def homeFacts (fixtures : List CanonicalFixture) : Option (WorkloadState × Option ℚ × List String) :=
  (calculate fixtures cutoff rules fixture).toOption.map fun evidence =>
    (evidence.home.state, evidence.home.restDays, evidence.home.unknownReasons)

/-- An older match with a known kickoff before the window takes the rest of its team away. -/
theorem older_changes_rest :
    older.kickoffUtc = some (moment 20650 20) ∧
      moment 20650 20 < moment 20709 20 - rules.contextLookbackDays * dayLength ∧
      homeFacts [homePast, awayPast] = some (.observed, some 3, []) ∧
      homeFacts [older, homePast, awayPast] =
        some (.unknown, none, ["FIXTURE_KICKOFF_UNKNOWN"]) := by
  decide +kernel

theorem rows_nonConflicting :
    NonConflicting cutoff ([] ++ older :: [homePast, awayPast] ++ [fixture]) := by
  unfold NonConflicting
  decide +kernel

theorem older_window : ∃ evidence other,
    calculate [homePast, awayPast] cutoff rules fixture = .ok evidence ∧
      calculate [older, homePast, awayPast] cutoff rules fixture = .ok other ∧
      (scheduleFacts other.home = scheduleFacts evidence.home ∧
          scheduleFacts other.away = scheduleFacts evidence.away ↔
        (admitted cutoff older = true → Latest cutoff ([homePast, awayPast] ++ [fixture]) older →
          ∀ teamId ∈ fixture.teamIds, NeutralFor (viewsFor [homePast, awayPast] cutoff fixture)
            teamId ⟨fixture, moment 20709 20⟩
            (moment 20709 20 - rules.contextLookbackDays * dayLength) older)) := by
  obtain ⟨evidence, hevidence⟩ := @exists_calculate _ ([] ++ [homePast, awayPast]) cutoff rules
    fixture (moment 20709 20) (moment 20709 20 - 42 * dayLength) rfl (by decide +kernel)
    (by decide +kernel) (by decide +kernel)
  obtain ⟨⟨other, hother, hiff⟩, -⟩ := calculate_window rows_nonConflicting rfl rfl
    (Or.inl (by decide +kernel)) hevidence
  exact ⟨evidence, other, hevidence, hother, hiff⟩

end OlderMatch

end MatchVet.Workload.LookbackWindow
