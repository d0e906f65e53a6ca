import MatchVet.F06.Integrity
import Mathlib.Data.List.Pairwise
import Mathlib.Data.Prod.Lex

/-!
# The membership decision

`_decide_membership` reads the status of the controlling revision by the policy's
lists and, where the match is scheduled, places its kickoff in the Matchweek
window.  Revisions of equal authority that are not in conflict decide alike, with
two exceptions: a status spelled like the name of its class, and a kickoff text
that the comparison and the window test read differently.
-/

namespace MatchVet.F06.Decision

open MatchVet.F01.Weekly
open MatchVet.F06.Integrity
open MatchVet.F06.Records
open MatchVet.Foundation.Gregorian
open MatchVet.Foundation.Runtime
open MatchVet.Foundation.Timestamp

/-! ## The Matchweek window -/

structure MatchweekWindow where
  fridayLocal : ℤ
  friday : weekday fridayLocal = 4

/-- `MatchweekWindow.for_friday`. -/
def MatchweekWindow.forFriday [Localtime] (text : String) : Except Fault MatchweekWindow :=
  match Localtime.dateFromIsoFormat text with
  | none => .error (.valueError "Matchweek Friday must use YYYY-MM-DD.")
  | some day =>
      if friday : weekday day = 4 then .ok ⟨day, friday⟩
      else .error (.valueError "Matchweek boundaries must start on Friday.")

/-- `value.astimezone(UTC)`. -/
def astimezoneUtc [Localtime] (kickoff : Reading) : Except Fault Instant :=
  match kickoff.offset with
  | some offset => toUtc kickoff.clock offset
  | none => Localtime.hostInstant kickoff.clock

/-- `start_local + timedelta(days=4)`. -/
def MatchweekWindow.endLocal (window : MatchweekWindow) : Except Fault ℤ :=
  if InRange ((window.fridayLocal + 4) * dayLength) then .ok ((window.fridayLocal + 4) * dayLength)
  else .error .overflowError

/-- `start <= instant < end`; the end is computed only for an instant after the start. -/
def MatchweekWindow.containsInstant (window : MatchweekWindow) (instant : Instant) :
    Except Fault Bool := do
  let start ← toUtc (window.fridayLocal * dayLength) lagosOffset
  if start ≤ instant then do
    let endLocal ← window.endLocal
    let stop ← toUtc endLocal lagosOffset
    .ok (instant < stop)
  else .ok false

def MatchweekWindow.contains [Localtime] (window : MatchweekWindow) (kickoff : Reading) :
    Except Fault Bool := do
  let instant ← astimezoneUtc kickoff
  window.containsInstant instant

/-- `_friday_from_scope_id`: the last part of `scope_id.rsplit(":", 2)`. -/
def fridayFromScopeId (scopeId : String) : Except Fault String :=
  if scopeId.toList.count ':' < 2 then .error (.valueError "Fixture Scope ID is malformed.")
  else .ok (String.ofList (scopeId.toList.reverse.takeWhile (· ≠ ':')).reverse)

/-! ## The decision -/

section Decision

variable [PyRuntime] [Calendar] [Localtime]

/-- The body of the `try` of `_decide_membership`. -/
def inWindow (scopeId kickoffUtc : String) : Except Fault Bool :=
  match fromIsoFormat kickoffUtc with
  | none => .error (.valueError "Invalid isoformat string")
  | some kickoff => do
      let text ← fridayFromScopeId scopeId
      let window ← MatchweekWindow.forFriday text
      window.contains kickoff

def unresolved (reasonCode message : String) : Except Failure (MembershipState × String) :=
  .error (.refused "MV-F06-UNRESOLVED-MEMBERSHIP" reasonCode message)

/-- The part of `_decide_membership` for a scheduled status. -/
def decideScheduled (revision : Snapshot) : Except Failure (MembershipState × String) :=
  match revision.kickoffUtc with
  | none =>
      unresolved "KICKOFF_UNKNOWN" ("Scheduled Fixture Revision " ++ revision.revisionId ++
        " has no observed kickoff.")
  | some kickoffUtc =>
      if revision.kickoffState ≠ "OBSERVED" ∨
          (revision.integrity.isSome ∧ revision.kickoffPrecision ≠ "INSTANT") then
        unresolved "KICKOFF_UNKNOWN" ("Scheduled Fixture Revision " ++ revision.revisionId ++
          " has no observed kickoff.")
      else
        match inWindow revision.scopeId kickoffUtc with
        | .error (.valueError _) | .error .jsonDecodeError | .error .typeError =>
            unresolved "KICKOFF_UNKNOWN" ("Fixture Revision " ++ revision.revisionId ++
              " has malformed kickoff evidence.")
        | .error fault => .error (.fault fault)
        | .ok true => .ok (.included, "IN_WINDOW_SCHEDULED")
        | .ok false => .ok (.excluded, "OUTSIDE_MATCHWEEK_WINDOW")

/-- `_decide_membership`. -/
def decideMembership (revision : Snapshot) : Except Failure (MembershipState × String) :=
  let status := normalizedStatus revision.fixtureStatus
  if status ∈ listed "postponed" then .ok (.excluded, "POSTPONED")
  else if status ∈ listed "cancelled" then .ok (.excluded, "CANCELLED")
  else if status ∈ listed "unknown" ∨
      status ∉ listed "scheduled" ++ listed "not_scheduled" then
    unresolved "STATUS_UNKNOWN" ("Fixture Revision " ++ revision.revisionId ++
      " has unsupported status " ++ PyRuntime.repr (.str status) ++ ".")
  else if status ∈ listed "not_scheduled" then .ok (.excluded, "NOT_SCHEDULED")
  else decideScheduled revision

/-- How a decision comes out: the decision and its reason, the reason of the
refusal, or another exception. -/
inductive Outcome where
  | decided (decision : MembershipState) (reasonCode : String)
  | refused (reasonCode : String)
  | raised (failure : Failure)
  deriving DecidableEq

def Outcome.of : Except Failure (MembershipState × String) → Outcome
  | .ok (decision, reasonCode) => .decided decision reasonCode
  | .error (.refused _ reasonCode _) => .refused reasonCode
  | .error failure => .raised failure

def outcome (revision : Snapshot) : Outcome := .of (decideMembership revision)

end Decision

/-! ## Groups of revisions -/

/-- The revisions of one fixture in one scope, with semantic integrity. -/
structure RevisionGroup where
  scopeId : String
  fixtureId : String
  snapshots : List Snapshot
  nonempty : snapshots ≠ []
  one_scope : ∀ snapshot ∈ snapshots, snapshot.scopeId = scopeId
  one_fixture : ∀ snapshot ∈ snapshots, snapshot.fixtureId = fixtureId
  semantic : ∀ snapshot ∈ snapshots, snapshot.integrity.isSome

/-- A revision of the greatest authority, support time and precision. -/
def RevisionGroup.Maximal (group : RevisionGroup) (snapshot : Snapshot) : Prop :=
  snapshot ∈ group.snapshots ∧ ∀ other ∈ group.snapshots, authorityKey other ≤ authorityKey snapshot

/-! ## Statuses by category -/

inductive Category where
  | scheduled
  | postponed
  | cancelled
  | notScheduled
  | unknown
  deriving DecidableEq

namespace Category

/-- The key of the category in the `status_mapping`. -/
def key : Category → String
  | scheduled => "scheduled"
  | postponed => "postponed"
  | cancelled => "cancelled"
  | notScheduled => "not_scheduled"
  | unknown => "unknown"

/-- The key in capitals. -/
def label : Category → String
  | scheduled => "SCHEDULED"
  | postponed => "POSTPONED"
  | cancelled => "CANCELLED"
  | notScheduled => "NOT_SCHEDULED"
  | unknown => "UNKNOWN"

theorem label_injective : Function.Injective label := by
  intro first second hlabel
  cases first <;> cases second <;> first | rfl | exact absurd hlabel (by decide)

end Category

/-- The category that lists a normalized status. -/
def category? (status : String) : Option Category :=
  if status ∈ listed "scheduled" then some .scheduled
  else if status ∈ listed "postponed" then some .postponed
  else if status ∈ listed "cancelled" then some .cancelled
  else if status ∈ listed "not_scheduled" then some .notScheduled
  else if status ∈ listed "unknown" then some .unknown
  else none

theorem category?_label {category : Category} :
    category? category.label = if category = .notScheduled then none else some category := by
  cases category <;> decide +kernel

/-- The categories list different statuses. -/
theorem mem_listed (category : Category) {status : String} :
    status ∈ listed category.key ↔ category? status = some category := by
  constructor
  · have hdistinct : ∀ status ∈ listed category.key, category? status = some category := by
      cases category <;> decide +kernel
    exact hdistinct status
  · intro hcategory
    unfold category? at hcategory
    split_ifs at hcategory with hlisted hlisted hlisted hlisted hlisted <;>
      (cases hcategory; exact hlisted)

theorem statusMapping_listed :
    statusMapping = ["scheduled", "postponed", "cancelled", "not_scheduled", "unknown"].map
      fun category => (category, listed category) :=
  rfl

theorem upper_category [PyRuntime] :
    ∀ category ∈ statusMapping.map Prod.fst, upper category = asciiUpper category := by
  intro category hcategory
  have hascii : ∀ name ∈ statusMapping.map Prod.fst, asciiOnly name = true := by
    decide +kernel
  exact PyRuntime.upper_ascii category (hascii category hcategory)

/-- The status class is the category in capitals, or the status where none lists it. -/
theorem statusClass_eq [PyRuntime] (value : String) :
    statusClass value = ((category? (normalizedStatus value)).map Category.label).getD
      (normalizedStatus value) := by
  have hscheduled : upper "scheduled" = "SCHEDULED" := upper_category _ (by decide)
  have hpostponed : upper "postponed" = "POSTPONED" := upper_category _ (by decide)
  have hcancelled : upper "cancelled" = "CANCELLED" := upper_category _ (by decide)
  have hnotScheduled : upper "not_scheduled" = "NOT_SCHEDULED" := upper_category _ (by decide)
  have hunknown : upper "unknown" = "UNKNOWN" := upper_category _ (by decide)
  unfold statusClass category?
  generalize normalizedStatus value = status
  rw [statusMapping_listed]
  simp only [List.map_cons, List.find?_cons, List.contains_eq_mem]
  split_ifs <;>
    simp [*, Category.label]

/-- Only one category has a name that no category lists. -/
theorem eq_notScheduled_of_label {status : String} {category : Category}
    (hunlisted : category? status = none) (hlabel : category.label = status) :
    category = .notScheduled := by
  rw [← hlabel, category?_label] at hunlisted
  by_contra hother
  rw [if_neg hother] at hunlisted
  cases hunlisted

section StatusClasses

variable [PyRuntime]

theorem statusClass_scheduled {value : String} :
    statusClass value = "SCHEDULED" ↔ category? (normalizedStatus value) = some .scheduled := by
  rw [statusClass_eq]
  constructor
  · intro hclass
    cases hcategory : category? (normalizedStatus value) with
    | none =>
        rw [hcategory] at hclass
        have hlabel : Category.scheduled.label = normalizedStatus value := hclass.symm
        exact absurd (eq_notScheduled_of_label hcategory hlabel) (by decide)
    | some category =>
        rw [hcategory] at hclass
        exact congrArg some (Category.label_injective hclass)
  · intro hcategory
    rw [hcategory]
    rfl

/-- Statuses of one class are of one category, unless one is the name of the class. -/
theorem category?_eq_of_class {first second : String}
    (hclass : statusClass first = statusClass second)
    (hfirst : normalizedStatus first = "NOT_SCHEDULED" →
      category? (normalizedStatus second) ≠ some .notScheduled)
    (hsecond : normalizedStatus second = "NOT_SCHEDULED" →
      category? (normalizedStatus first) ≠ some .notScheduled) :
    category? (normalizedStatus first) = category? (normalizedStatus second) := by
  rw [statusClass_eq, statusClass_eq] at hclass
  cases hone : category? (normalizedStatus first) with
  | none =>
      cases htwo : category? (normalizedStatus second) with
      | none => rfl
      | some category =>
          rw [hone, htwo] at hclass
          obtain rfl := eq_notScheduled_of_label hone hclass.symm
          exact absurd htwo (hfirst hclass)
  | some category =>
      cases htwo : category? (normalizedStatus second) with
      | none =>
          rw [hone, htwo] at hclass
          obtain rfl := eq_notScheduled_of_label htwo hclass
          exact absurd hone (hsecond hclass.symm)
      | some other =>
          rw [hone, htwo] at hclass
          exact congrArg some (Category.label_injective hclass)

end StatusClasses

/-! ## The place of a kickoff -/

/-- Where the window test puts the kickoff of a revision. -/
inductive Placement where
  | unusable
  | inside
  | outside
  | raised (fault : Fault)
  deriving DecidableEq

namespace Placement

def outcome : Placement → Outcome
  | unusable => .refused "KICKOFF_UNKNOWN"
  | inside => .decided .included "IN_WINDOW_SCHEDULED"
  | outside => .decided .excluded "OUTSIDE_MATCHWEEK_WINDOW"
  | raised fault => .raised (.fault fault)

theorem outcome_injective : Function.Injective outcome := by
  intro first second houtcome
  cases first <;> cases second <;> first | rfl | cases houtcome; rfl | cases houtcome

/-- The place that the answer of the window test stands for. -/
def ofTest : Except Fault Bool → Placement
  | .error (.valueError _) | .error .jsonDecodeError | .error .typeError => .unusable
  | .error fault => .raised fault
  | .ok true => .inside
  | .ok false => .outside

end Placement

section Outcomes

variable [PyRuntime] [Calendar] [Localtime]

def placement (revision : Snapshot) : Placement :=
  match revision.kickoffUtc with
  | none => .unusable
  | some kickoffUtc =>
      if revision.kickoffState ≠ "OBSERVED" ∨
          (revision.integrity.isSome ∧ revision.kickoffPrecision ≠ "INSTANT") then .unusable
      else .ofTest (inWindow revision.scopeId kickoffUtc)

omit [PyRuntime] in
theorem decideScheduled_outcome (revision : Snapshot) :
    Outcome.of (decideScheduled revision) = (placement revision).outcome := by
  unfold decideScheduled placement
  cases revision.kickoffUtc with
  | none => rfl
  | some kickoffUtc =>
      dsimp only
      split
      · rfl
      · cases inWindow revision.scopeId kickoffUtc with
        | error fault => cases fault <;> rfl
        | ok inside => cases inside <;> rfl

/-- The outcome by the category of the status. -/
theorem outcome_eq (revision : Snapshot) :
    outcome revision = match category? (normalizedStatus revision.fixtureStatus) with
      | some .scheduled => (placement revision).outcome
      | some .postponed => .decided .excluded "POSTPONED"
      | some .cancelled => .decided .excluded "CANCELLED"
      | some .notScheduled => .decided .excluded "NOT_SCHEDULED"
      | some .unknown | none => .refused "STATUS_UNKNOWN" := by
  rw [← decideScheduled_outcome]
  unfold outcome decideMembership
  generalize normalizedStatus revision.fixtureStatus = status
  have hscheduled : status ∈ listed "scheduled" ↔ _ := mem_listed .scheduled
  have hpostponed : status ∈ listed "postponed" ↔ _ := mem_listed .postponed
  have hcancelled : status ∈ listed "cancelled" ↔ _ := mem_listed .cancelled
  have hnotScheduled : status ∈ listed "not_scheduled" ↔ _ := mem_listed .notScheduled
  have hunknown : status ∈ listed "unknown" ↔ _ := mem_listed .unknown
  simp only [List.mem_append, hscheduled, hpostponed, hcancelled, hnotScheduled, hunknown]
  cases category? status with
  | none => rfl
  | some category => cases category <;> rfl

end Outcomes

/-! ## The leading tier -/

theorem authorityKey_le {first second : Snapshot} :
    authorityKey first ≤ authorityKey second ↔
      first.authorityRank < second.authorityRank ∨
        first.authorityRank = second.authorityRank ∧
          (first.latestSupportRetrievedAtUtc < second.latestSupportRetrievedAtUtc ∨
            first.latestSupportRetrievedAtUtc = second.latestSupportRetrievedAtUtc ∧
              exactKickoff first ≤ exactKickoff second) := by
  unfold authorityKey
  rw [Prod.Lex.toLex_le_toLex, Prod.Lex.toLex_le_toLex]

/-- Every maximal revision is in the tier that the conflict check compares. -/
theorem mem_leadingTier {group : RevisionGroup} {snapshot : Snapshot}
    (hmaximal : group.Maximal snapshot) {bestRank : ℤ} {bestTime : Instant}
    (hrank : (group.snapshots.map (·.authorityRank)).max? = some bestRank)
    (htime : ((group.snapshots.filter (·.authorityRank = bestRank)).map
      (·.latestSupportRetrievedAtUtc)).max? = some bestTime) :
    snapshot ∈ leadingTier bestRank bestTime group.snapshots := by
  obtain ⟨hmem, hgreatest⟩ := hmaximal
  rw [List.max?_eq_some_iff] at hrank htime
  obtain ⟨first, hfirst, hfirstRank⟩ := List.mem_map.mp hrank.1
  have hranked : snapshot.authorityRank = bestRank := by
    have hle := hrank.2 _ (List.mem_map.mpr ⟨snapshot, hmem, rfl⟩)
    rcases authorityKey_le.mp (hgreatest first hfirst) with hless | ⟨hequal, _⟩
    · exact absurd (hfirstRank ▸ hless) (not_lt.mpr hle)
    · exact hequal.symm.trans hfirstRank
  obtain ⟨latest, hlatest, hlatestTime⟩ := List.mem_map.mp htime.1
  obtain ⟨hlatestMem, hlatestRank⟩ := List.mem_filter.mp hlatest
  have htimed : snapshot.latestSupportRetrievedAtUtc = bestTime := by
    have hle := htime.2 _ (List.mem_map.mpr
      ⟨snapshot, List.mem_filter.mpr ⟨hmem, decide_eq_true hranked⟩, rfl⟩)
    rcases authorityKey_le.mp (hgreatest latest hlatestMem) with hless | ⟨_, hless | ⟨hequal, _⟩⟩
    · rw [of_decide_eq_true hlatestRank, hranked] at hless
      exact absurd hless (lt_irrefl _)
    · exact absurd (hlatestTime ▸ hless) (not_lt.mpr hle)
    · exact hequal.symm.trans hlatestTime
  refine List.mem_filter.mpr ⟨hmem, decide_eq_true ?_⟩
  rw [hranked, htimed]

/-- Maximal revisions have the same authority, support time and precision. -/
theorem RevisionGroup.Maximal.authorityKey_eq {group : RevisionGroup} {first second : Snapshot}
    (hfirst : group.Maximal first) (hsecond : group.Maximal second) :
    authorityKey first = authorityKey second :=
  le_antisymm (hsecond.2 first hfirst.1) (hfirst.2 second hsecond.1)

/-- Maximal revisions of a group both have an exact kickoff, or neither has. -/
theorem RevisionGroup.Maximal.precision_iff {group : RevisionGroup} {first second : Snapshot}
    (hfirst : group.Maximal first) (hsecond : group.Maximal second) :
    first.kickoffPrecision = "INSTANT" ↔ second.kickoffPrecision = "INSTANT" := by
  have hexact : exactKickoff first = exactKickoff second :=
    congrArg (fun key => (ofLex (ofLex key).2).2) (hfirst.authorityKey_eq hsecond)
  unfold exactKickoff at hexact
  rw [group.semantic first hfirst.1, group.semantic second hsecond.1, Bool.true_and,
    Bool.true_and, decide_eq_decide] at hexact
  exact hexact

/-! ## What the comparison establishes -/

section Instants

variable [Calendar]

/-- The instant that the comparison gives an `INSTANT` revision. -/
def observedInstant (snapshot : Snapshot) : Except Fault (Option Instant) :=
  if snapshot.kickoffState ≠ "OBSERVED" then .ok none else candidateInstant snapshot.kickoffUtc

theorem revisionKickoff_instant [Localtime] {snapshot : Snapshot}
    (hprecision : snapshot.kickoffPrecision = "INSTANT") :
    revisionKickoff snapshot = (observedInstant snapshot).map (·.map .instant) := by
  unfold revisionKickoff observedInstant
  rw [hprecision, if_neg (by decide : ¬"INSTANT" = "DATE"), if_pos rfl]
  split <;> rfl

omit [Calendar] in
/-- Two instants that do not conflict are one. -/
theorem instants_agree [Localtime] {first second : Instant} {league : String}
    (hclear : semanticKickoffsConflict [.instant first, .instant second] league = .ok false) :
    first = second := by
  by_contra hdistinct
  have hinstants : (([.instant first, .instant second] : List KickoffFact).filterMap
      KickoffFact.instant?).dedup = [first, second] := by
    change [first, second].dedup = [first, second]
    exact List.Nodup.dedup (by simpa using hdistinct)
  unfold semanticKickoffsConflict at hclear
  rw [hinstants] at hclear
  exact absurd hclear nofun

theorem scheduledConflict_instants [Localtime] {left right : Snapshot}
    (hclear : scheduledConflict left right = .ok false)
    (hleft : left.kickoffPrecision = "INSTANT") (hright : right.kickoffPrecision = "INSTANT") :
    ∃ found, observedInstant left = .ok found ∧ observedInstant right = .ok found := by
  unfold scheduledConflict at hclear
  rw [revisionKickoff_instant hleft, revisionKickoff_instant hright, bind_eq_ok] at hclear
  obtain ⟨leftKickoff, hleftKickoff, hrest⟩ := hclear
  rw [bind_eq_ok] at hrest
  obtain ⟨rightKickoff, hrightKickoff, hcompared⟩ := hrest
  obtain ⟨leftFound, hleftFound, rfl⟩ := map_eq_ok.mp hleftKickoff
  obtain ⟨rightFound, hrightFound, rfl⟩ := map_eq_ok.mp hrightKickoff
  refine ⟨leftFound, hleftFound, hrightFound.trans (congrArg _ ?_)⟩
  cases leftFound with
  | none =>
      cases rightFound with
      | none => rfl
      | some instant => exact absurd hcompared nofun
  | some leftInstant =>
      cases rightFound with
      | none => exact absurd hcompared nofun
      | some rightInstant => rw [instants_agree hcompared]

end Instants

section Comparison

variable [PyRuntime] [Calendar]

/-- Revisions that the comparison does not find in conflict. -/
structure Compatible (first second : Snapshot) : Prop where
  status : statusClass first.fixtureStatus = statusClass second.fixtureStatus
  kickoff : statusClass first.fixtureStatus = "SCHEDULED" →
    first.kickoffPrecision = "INSTANT" → second.kickoffPrecision = "INSTANT" →
    ∃ found, observedInstant first = .ok found ∧ observedInstant second = .ok found

theorem Compatible.symm {first second : Snapshot} (hcompatible : Compatible first second) :
    Compatible second first := by
  refine ⟨hcompatible.status.symm, fun hscheduled hsecond hfirst => ?_⟩
  obtain ⟨found, hfound⟩ :=
    hcompatible.kickoff (hcompatible.status.trans hscheduled) hfirst hsecond
  exact ⟨found, hfound.2, hfound.1⟩

/-- A pair without a conflict is compatible. -/
theorem compatible_of_pairConflict [Localtime] {left right : Snapshot}
    (hclear : pairConflict left right = .ok false) : Compatible left right := by
  unfold pairConflict at hclear
  split at hclear
  · split_ifs at hclear with hdiffer hscheduled
    · cases hclear
    · have hstatus := not_not.mp (not_or.mp hdiffer).2
      exact ⟨hstatus, fun _ hleft hright =>
        scheduledConflict_instants (mapError_eq_ok.mp hclear) hleft hright⟩
    · have hstatus := not_not.mp (not_or.mp hdiffer).2
      exact ⟨hstatus, fun hclass => absurd hclass hscheduled⟩
  · cases hclear

/-- Two maximal revisions of a group without a conflict are compatible. -/
theorem maximal_compatible [Localtime] {group : RevisionGroup}
    (hclear : hasRevisionConflict group.snapshots = .ok false) {first second : Snapshot}
    (hfirst : group.Maximal first) (hsecond : group.Maximal second) (hdistinct : first ≠ second) :
    Compatible first second := by
  unfold hasRevisionConflict at hclear
  split at hclear
  · cases hclear
  next bestRank hrank =>
    split at hclear
    · cases hclear
    next bestTime htime =>
      have hpairs := (anyCombination_eq_false.mp hclear).imp compatible_of_pairConflict
      have : Std.Symm (Compatible : Snapshot → Snapshot → Prop) := ⟨fun _ _ => Compatible.symm⟩
      exact hpairs.forall (mem_leadingTier hfirst hrank htime)
        (mem_leadingTier hsecond hrank htime) hdistinct

end Comparison

end MatchVet.F06.Decision
