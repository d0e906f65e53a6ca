import MatchVet.F06.Decision

/-!
# Ties between revisions

The revisions of a group that are equal in authority, support time and precision
differ only by their identifiers for `controller_key`.  When the group has no
conflict they come to one outcome exactly when none of two defects is met.
-/

namespace MatchVet.F06.TieBreak

open MatchVet.F01.Weekly
open MatchVet.F06.Decision
open MatchVet.F06.Integrity
open MatchVet.F06.Records
open MatchVet.Foundation.Gregorian
open MatchVet.Foundation.Runtime
open MatchVet.Foundation.Timestamp

/-! ## Kickoff texts -/

section Kickoffs

variable [Calendar]

/-- The comparison and the window test read the same in a kickoff text. -/
def ReadsAlike (text : String) : Prop :=
  match fromIsoFormat text with
  | none => candidateInstant (some text) = .ok none
  | some ⟨clock, some offset⟩ => candidateInstant (some text) = (toUtc clock offset).map some
  | some ⟨_, none⟩ => False

/-- An exact kickoff whose text is read in two ways. -/
structure MisreadKickoff (snapshot : Snapshot) (text : String) : Prop where
  observed : snapshot.kickoffState = "OBSERVED"
  exact_precision : snapshot.kickoffPrecision = "INSTANT"
  kickoff : snapshot.kickoffUtc = some text
  misread : ¬ReadsAlike text

variable [Localtime]

/-- The window of a scope around an instant. -/
def scopeContains (scopeId : String) (instant : Instant) : Except Fault Bool := do
  let text ← fridayFromScopeId scopeId
  let window ← MatchweekWindow.forFriday text
  window.containsInstant instant

theorem inWindow_of_readsAlike {scopeId text : String} (halike : ReadsAlike text)
    {found : Option Instant} (hfound : candidateInstant (some text) = .ok found) :
    inWindow scopeId text = match found with
      | none => .error (.valueError "Invalid isoformat string")
      | some instant => scopeContains scopeId instant := by
  unfold ReadsAlike at halike
  unfold inWindow
  split at halike
  next hread =>
    cases hfound.symm.trans halike
    rw [hread]
  next clock offset hread =>
    rw [hfound] at halike
    obtain ⟨instant, hinstant, rfl⟩ := map_eq_ok.mp halike.symm
    rw [hread]
    unfold MatchweekWindow.contains astimezoneUtc scopeContains
    dsimp only
    rw [hinstant]
    rfl
  · exact halike.elim

/-- The place of an instant, if there is one. -/
def instantPlacement (scopeId : String) : Option Instant → Placement
  | none => .unusable
  | some instant => .ofTest (scopeContains scopeId instant)

/-- The place of a kickoff that is not misread follows from the compared instant. -/
theorem placement_eq {snapshot : Snapshot}
    (hprecision : snapshot.kickoffPrecision = "INSTANT")
    (halike : ∀ text, ¬MisreadKickoff snapshot text) {found : Option Instant}
    (hfound : observedInstant snapshot = .ok found) :
    placement snapshot = instantPlacement snapshot.scopeId found := by
  unfold observedInstant at hfound
  unfold placement
  split_ifs at hfound with hstate
  · cases hfound
    cases snapshot.kickoffUtc with
    | none => rfl
    | some text => exact if_pos (Or.inl hstate)
  · cases hkickoff : snapshot.kickoffUtc with
    | none =>
        rw [hkickoff] at hfound
        cases hfound
        rfl
    | some text =>
        rw [hkickoff] at hfound
        have hreads : ReadsAlike text := by
          by_contra hmisread
          exact halike text ⟨not_not.mp hstate, hprecision, hkickoff, hmisread⟩
        dsimp only
        rw [if_neg (not_or.mpr ⟨hstate, fun hinexact => hinexact.2 hprecision⟩),
          inWindow_of_readsAlike hreads hfound]
        cases found <;> rfl

/-- A revision without an exact kickoff cannot be placed. -/
theorem placement_inexact {snapshot : Snapshot} (hsemantic : snapshot.integrity.isSome)
    (hprecision : snapshot.kickoffPrecision ≠ "INSTANT") : placement snapshot = .unusable := by
  unfold placement
  cases snapshot.kickoffUtc with
  | none => rfl
  | some text => exact if_pos (Or.inr ⟨hsemantic, hprecision⟩)

end Kickoffs

/-! ## One outcome for all maximal revisions -/

section Agreement

variable [PyRuntime] [Calendar] [Localtime]

/-- All maximal revisions of the group have one outcome. -/
def DecidesAlike (group : RevisionGroup) : Prop :=
  ∀ first second, group.Maximal first → group.Maximal second → outcome first = outcome second

/-- No status is spelled like the class of another one's status, and a kickoff
that is misread lies where the other scheduled kickoffs lie. -/
structure Settled (group : RevisionGroup) : Prop where
  status : ∀ first second, group.Maximal first → group.Maximal second →
    normalizedStatus first.fixtureStatus = "NOT_SCHEDULED" →
      normalizedStatus second.fixtureStatus ∉ listed "not_scheduled"
  kickoff : ∀ first second text, group.Maximal first → group.Maximal second →
    normalizedStatus first.fixtureStatus ∈ listed "scheduled" → MisreadKickoff first text →
      placement second = placement first

theorem outcome_scheduled {snapshot : Snapshot}
    (hstatus : category? (normalizedStatus snapshot.fixtureStatus) = some .scheduled) :
    outcome snapshot = (placement snapshot).outcome := by
  rw [outcome_eq, hstatus]

theorem placement_agrees {group : RevisionGroup} (hsettled : Settled group)
    {first second : Snapshot} (hfirst : group.Maximal first) (hsecond : group.Maximal second)
    (hcompatible : Compatible first second)
    (hfirstStatus : category? (normalizedStatus first.fixtureStatus) = some .scheduled)
    (hsecondStatus : category? (normalizedStatus second.fixtureStatus) = some .scheduled) :
    placement first = placement second := by
  by_cases hprecision : first.kickoffPrecision = "INSTANT"
  · have hsecondPrecision := (hfirst.precision_iff hsecond).mp hprecision
    by_cases hmisread : ∃ text, MisreadKickoff first text
    · obtain ⟨text, hmisread⟩ := hmisread
      exact (hsettled.kickoff first second text hfirst hsecond
        ((mem_listed .scheduled).mpr hfirstStatus) hmisread).symm
    · by_cases hother : ∃ text, MisreadKickoff second text
      · obtain ⟨text, hother⟩ := hother
        exact hsettled.kickoff second first text hsecond hfirst
          ((mem_listed .scheduled).mpr hsecondStatus) hother
      · obtain ⟨found, hfirstFound, hsecondFound⟩ := hcompatible.kickoff
          (statusClass_scheduled.mpr hfirstStatus) hprecision hsecondPrecision
        rw [placement_eq hprecision (not_exists.mp hmisread) hfirstFound,
          placement_eq hsecondPrecision (not_exists.mp hother) hsecondFound,
          group.one_scope first hfirst.1, group.one_scope second hsecond.1]
  · have hsecondPrecision := mt (hfirst.precision_iff hsecond).mpr hprecision
    rw [placement_inexact (group.semantic first hfirst.1) hprecision,
      placement_inexact (group.semantic second hsecond.1) hsecondPrecision]

/-- A settled group without a conflict decides alike. -/
theorem decidesAlike_of_settled {group : RevisionGroup}
    (hclear : hasRevisionConflict group.snapshots = .ok false) (hsettled : Settled group) :
    DecidesAlike group := by
  intro first second hfirst hsecond
  by_cases hsame : first = second
  · rw [hsame]
  · have hcompatible := maximal_compatible hclear hfirst hsecond hsame
    have hcategory := category?_eq_of_class hcompatible.status
      (fun hstatus hlisted => hsettled.status first second hfirst hsecond hstatus
        ((mem_listed .notScheduled).mpr hlisted))
      (fun hstatus hlisted => hsettled.status second first hsecond hfirst hstatus
        ((mem_listed .notScheduled).mpr hlisted))
    by_cases hscheduled : category? (normalizedStatus first.fixtureStatus) = some .scheduled
    · have hother := hcategory ▸ hscheduled
      rw [outcome_scheduled hscheduled, outcome_scheduled hother,
        placement_agrees hsettled hfirst hsecond hcompatible hscheduled hother]
    · rw [outcome_eq, outcome_eq, ← hcategory]
      split
      · exact absurd ‹_› hscheduled
      all_goals rfl

/-- A group without a conflict that decides alike is settled. -/
theorem settled_of_decidesAlike {group : RevisionGroup}
    (hclear : hasRevisionConflict group.snapshots = .ok false) (halike : DecidesAlike group) :
    Settled group := by
  refine ⟨?_, ?_⟩
  · intro first second hfirst hsecond hstatus hlisted
    have hunlisted : category? "NOT_SCHEDULED" = none := @category?_label .notScheduled
    have houtcome := halike first second hfirst hsecond
    rw [outcome_eq, outcome_eq, hstatus, hunlisted, (mem_listed .notScheduled).mp hlisted] at houtcome
    cases houtcome
  · intro first second text hfirst hsecond hstatus _
    have hscheduled := (mem_listed .scheduled).mp hstatus
    by_cases hsame : first = second
    · rw [hsame]
    · have hcompatible := maximal_compatible hclear hfirst hsecond hsame
      have hclass := hcompatible.status.symm.trans (statusClass_scheduled.mpr hscheduled)
      have hother := statusClass_scheduled.mp hclass
      have houtcome := halike first second hfirst hsecond
      rw [outcome_scheduled hscheduled, outcome_scheduled hother] at houtcome
      exact (Placement.outcome_injective houtcome).symm

end Agreement

/-! ## The controlling revision -/

theorem controllerKey_le {first second : Snapshot}
    (hkey : controllerKey first ≤ controllerKey second) :
    authorityKey first ≤ authorityKey second :=
  Prod.Lex.monotone_fst _ _ hkey

/-- The search keeps the best revision so far. -/
theorem foldl_controlling (rest : List Snapshot) (best : Snapshot) :
    (rest.foldl (fun best item =>
      if controllerKey best < controllerKey item then item else best) best) ∈ best :: rest ∧
      ∀ item ∈ best :: rest, controllerKey item ≤ controllerKey (rest.foldl (fun best item =>
        if controllerKey best < controllerKey item then item else best) best) := by
  induction rest generalizing best with
  | nil => exact ⟨List.mem_cons_self, fun item hitem => (List.mem_singleton.mp hitem ▸ le_refl _)⟩
  | cons next rest ih =>
      rw [List.foldl_cons]
      obtain ⟨hmem, hgreatest⟩ :=
        ih (if controllerKey best < controllerKey next then next else best)
      have hkept : controllerKey best ≤
          controllerKey (if controllerKey best < controllerKey next then next else best) ∧
          controllerKey next ≤
            controllerKey (if controllerKey best < controllerKey next then next else best) := by
        split
        next hless => exact ⟨hless.le, le_refl _⟩
        next hnot => exact ⟨le_refl _, not_lt.mp hnot⟩
      refine ⟨?_, ?_⟩
      · rcases List.mem_cons.mp hmem with hhead | hrest
        · rw [hhead]
          split
          · exact List.mem_cons_of_mem _ List.mem_cons_self
          · exact List.mem_cons_self
        · exact List.mem_cons_of_mem _ (List.mem_cons_of_mem _ hrest)
      · intro item hitem
        have hfirst := hgreatest _ List.mem_cons_self
        rcases List.mem_cons.mp hitem with rfl | hothers
        · exact hkept.1.trans hfirst
        · rcases List.mem_cons.mp hothers with rfl | hrest
          · exact hkept.2.trans hfirst
          · exact hgreatest item (List.mem_cons_of_mem _ hrest)

/-- The controlling revision of a group is maximal. -/
theorem controlling_maximal (group : RevisionGroup) :
    ∃ chosen, controlling group.snapshots = some chosen ∧ group.Maximal chosen := by
  have hnonempty := group.nonempty
  unfold RevisionGroup.Maximal controlling
  cases hsnapshots : group.snapshots with
  | nil => exact absurd hsnapshots hnonempty
  | cons first rest =>
      obtain ⟨hmem, hgreatest⟩ := foldl_controlling rest first
      exact ⟨_, rfl, hmem, fun other hother => controllerKey_le (hgreatest other hother)⟩

/-- In a group without a conflict the controlling revision is maximal, and all
maximal revisions have one outcome exactly when the group is settled. -/
theorem maximal_outcomes [PyRuntime] [Calendar] [Localtime] (group : RevisionGroup)
    (hclear : hasRevisionConflict group.snapshots = .ok false) :
    (∃ chosen, controlling group.snapshots = some chosen ∧ group.Maximal chosen) ∧
      (DecidesAlike group ↔ Settled group) :=
  ⟨controlling_maximal group, settled_of_decidesAlike hclear, decidesAlike_of_settled hclear⟩

/-! ## Concrete groups -/

namespace Concrete

/-- A host in UTC that has no zone database. -/
@[reducible]
def utcHost : Localtime where
  dateFromIsoFormat := readDate
  strptime text pattern := if pattern = "%Y-%m-%d" then readDate text else none
  zoneInfo _ := none
  hostInstant clock := .ok clock

attribute [local instance] plainRuntime gregorianCalendar utcHost

/-- A revision of one Premier League match, known by its identifier and status. -/
def revision (revisionId fixtureStatus : String) : Snapshot where
  scopeId := "premier_league:2026-27:2026-09-25"
  fixtureId := "fixture"
  revisionId := revisionId
  revisionDigest := revisionId
  predecessorRevisionId := none
  kickoffState := "OBSERVED"
  kickoffUtc := some "2026-09-26T14:00:00+00:00"
  kickoffLocalText := some "2026-09-26T15:00:00+01:00"
  kickoffPrecision := "INSTANT"
  fixtureStatus := fixtureStatus
  sourceCaptureIds := ["capture"]
  sourceAssertionIds := []
  supports := [⟨"capture", "digest", none, 1789560000000000, "openfootball", "PUBLIC", 1⟩]
  authorityRank := 1
  latestSupportRetrievedAtUtc := 1789560000000000
  integrity := some ⟨"home", "away", none, []⟩

/-- Two revisions of equal authority. -/
def pair (firstStatus secondStatus : String) : RevisionGroup where
  scopeId := "premier_league:2026-27:2026-09-25"
  fixtureId := "fixture"
  snapshots := [revision "one" firstStatus, revision "two" secondStatus]
  nonempty := nofun
  one_scope := List.forall_mem_cons.mpr ⟨rfl, List.forall_mem_singleton.mpr rfl⟩
  one_fixture := List.forall_mem_cons.mpr ⟨rfl, List.forall_mem_singleton.mpr rfl⟩
  semantic := List.forall_mem_cons.mpr ⟨rfl, List.forall_mem_singleton.mpr rfl⟩

theorem pair_maximal (firstStatus secondStatus : String) :
    (pair firstStatus secondStatus).Maximal (revision "one" firstStatus) ∧
      (pair firstStatus secondStatus).Maximal (revision "two" secondStatus) := by
  have hequal : ∀ other ∈ (pair firstStatus secondStatus).snapshots,
      authorityKey other = authorityKey (revision "one" firstStatus) :=
    List.forall_mem_cons.mpr ⟨rfl, List.forall_mem_singleton.mpr rfl⟩
  exact ⟨⟨List.mem_cons_self, fun other hother => (hequal other hother).le⟩,
    List.mem_cons_of_mem _ List.mem_cons_self, fun other hother => (hequal other hother).le⟩

/-- A scheduled and a confirmed revision of one kickoff. -/
theorem maximal_outcomes_confirmed :
    (∃ chosen, controlling (pair "SCHEDULED" "CONFIRMED").snapshots = some chosen ∧
        (pair "SCHEDULED" "CONFIRMED").Maximal chosen) ∧
      (DecidesAlike (pair "SCHEDULED" "CONFIRMED") ↔ Settled (pair "SCHEDULED" "CONFIRMED")) :=
  maximal_outcomes (pair "SCHEDULED" "CONFIRMED") (by decide +kernel)

/-- A played match, once as completed and once under the name of the class: no
conflict is found, one revision excludes the match and the other is refused. -/
theorem maximal_outcomes_differ :
    ¬∀ group : RevisionGroup, hasRevisionConflict group.snapshots = .ok false →
      DecidesAlike group := by
  intro halike
  have hclear : hasRevisionConflict (pair "COMPLETED" "NOT_SCHEDULED").snapshots = .ok false := by
    decide +kernel
  have hmaximal := pair_maximal "COMPLETED" "NOT_SCHEDULED"
  have houtcome := halike _ hclear _ _ hmaximal.1 hmaximal.2
  exact absurd houtcome (by decide +kernel)

end Concrete

end MatchVet.F06.TieBreak
