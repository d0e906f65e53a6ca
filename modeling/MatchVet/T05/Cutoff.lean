import MatchVet.T05.Freeze

/-!
# The Research Cutoff of a freeze

The memberships decided at a boundary are included exactly where the revision
selected there is eligible, so the cutoff that a freeze checks is a fixed point of
the search.  A freeze of an unfrozen Matchweek therefore returns exactly when the
search reaches such a boundary within eight passes.
-/

namespace MatchVet.T05.Cutoff

open MatchVet.Foundation.CanonicalJson (Hashing textHashing)
open MatchVet.Foundation.FixedPoint
open MatchVet.Foundation.Grouping
open MatchVet.Foundation.KeySort
open MatchVet.Foundation.Runtime
open MatchVet.Foundation.Timestamp
open MatchVet.T05.Records
open MatchVet.T05.Selection
open MatchVet.T05.Freeze

section Included

variable [PyRuntime] [Hashing] {store : Store} {matchweek season : String}
  {window : MatchweekWindow} {cutoff : Instant} {candidates : List RevisionCandidate}

/-! ## Included memberships -/

omit [Hashing] in
theorem placeChosen_included_iff {chosen : RevisionCandidate} {materialConflict : Bool} :
    (placeChosen window chosen materialConflict).membershipState = .included ↔
      chosen.kickoffState = "OBSERVED" ∧ isScheduled chosen.fixtureStatus = true ∧
        ∃ kickoff, chosen.kickoffUtc = some kickoff ∧ window.contains kickoff = true := by
  unfold placeChosen
  cases chosen.kickoffUtc with
  | none => simp
  | some kickoff =>
      dsimp only
      split
      next hstate => simp [hstate]
      next hstate =>
        split
        next hscheduled => simp [hscheduled]
        next hscheduled =>
          split
          next hwindow => simp [hwindow]
          next hwindow =>
            have hplaced : (if materialConflict = true then
                Placement.mk .included "MATERIAL_CONFLICT"
                  "Confirmed identity is in-window, but material fixture details remain unresolved."
                  "MATERIAL_CONFLICT_BLOCKED"
              else Placement.mk .included "IN_WINDOW_SCHEDULED"
                  "Confirmed scheduled fixture falls inside the Africa/Lagos Matchweek window."
                  "ELIGIBLE_FOR_VETTING").membershipState = .included := by
              split
              · rfl
              · rfl
            refine iff_of_true hplaced ⟨not_not.mp hstate, Bool.eq_true_of_not_eq_false hscheduled,
              kickoff, rfl, Bool.eq_true_of_not_eq_false hwindow⟩

/-- A fixture is included exactly when its selected revision is eligible. -/
theorem fixtureMembership_included_iff {fixtureId : String} :
    (fixtureMembership store.conflicts matchweek window cutoff fixtureId
        candidates).membershipState = .included ↔
      ∃ chosen, selectRevision candidates cutoff = some chosen ∧
        eligibleSchedule window chosen = true := by
  unfold fixtureMembership
  dsimp only
  cases hchosen : selectRevision candidates cutoff with
  | none =>
      unfold place
      dsimp only
      split
      · simp
      · simp
  | some chosen =>
      have hreference : referenceOf candidates cutoff = some chosen := by
        rw [referenceOf, hchosen, Option.some_or]
      rw [hreference, Option.map_some, place]
      simp only [Option.some.injEq, exists_eq_left']
      rw [eligibleSchedule_iff]
      split
      next hidentity =>
        exact iff_of_false (by simp) fun heligible => hidentity (congrArg some heligible.1)
      next hidentity =>
        rw [placeChosen_included_iff]
        exact (and_iff_right (Option.some.inj (not_not.mp hidentity))).symm

theorem mem_buildMemberships {membership : FrozenMembership} :
    membership ∈ buildMemberships store matchweek window season cutoff candidates ↔
      (∃ group ∈ groupsBy (·.fixtureId) candidates, membership =
        fixtureMembership store.conflicts matchweek window cutoff group.1 group.2) ∨
      ∃ unresolved ∈ loadUnresolvedFixtures store season,
        unresolved.observedAtUtc ≤ cutoff ∧
          membership = unresolvedMembership matchweek unresolved := by
  unfold buildMemberships
  rw [(sortedOn_perm _ _).mem_iff, List.mem_append, List.mem_map, List.mem_map]
  simp only [(sortedOn_perm _ _).mem_iff, List.mem_filter, decide_eq_true_eq, and_assoc]
  simp only [@eq_comm _ membership]

/-- The revisions of a fixture. -/
def revisionsOf (candidates : List RevisionCandidate) (fixtureId : String) :
    List RevisionCandidate :=
  candidates.filter (·.fixtureId = fixtureId)

omit [Hashing] in
theorem selectRevision_mem {items : List RevisionCandidate} {chosen : RevisionCandidate}
    (hchosen : selectRevision items cutoff = some chosen) :
    chosen ∈ items ∧ isValid cutoff chosen = true :=
  List.mem_filter.mp (List.argmax_mem hchosen)

omit [Hashing] in
/-- The revisions included at a boundary are the eligible selected ones. -/
theorem mem_includedAt {chosen : RevisionCandidate} :
    chosen ∈ includedAt candidates window cutoff ↔
      selectRevision (revisionsOf candidates chosen.fixtureId) cutoff = some chosen ∧
        eligibleSchedule window chosen = true := by
  unfold includedAt latestCandidateByFixture
  rw [List.mem_filter, List.mem_filterMap]
  refine and_congr_left fun _ => ⟨?_, fun hchosen => ?_⟩
  · rintro ⟨group, hgroup, hchosen⟩
    obtain ⟨hitems, -⟩ := mem_groupsBy.mp hgroup
    have hmem := (selectRevision_mem hchosen).1
    rw [hitems, List.mem_filter, decide_eq_true_eq] at hmem
    rw [revisionsOf, hmem.2, ← hitems]
    exact hchosen
  · refine ⟨(chosen.fixtureId, revisionsOf candidates chosen.fixtureId), ?_, hchosen⟩
    exact mem_groupsBy.mpr ⟨rfl, List.ne_nil_of_mem (selectRevision_mem hchosen).1⟩

/-- The membership of a revision that is selected and eligible at a boundary. -/
def membershipAt (store : Store) (matchweek : String) (window : MatchweekWindow)
    (cutoff : Instant) (candidates : List RevisionCandidate) (chosen : RevisionCandidate) :
    FrozenMembership :=
  fixtureMembership store.conflicts matchweek window cutoff chosen.fixtureId
    (revisionsOf candidates chosen.fixtureId)

theorem mem_included {membership : FrozenMembership} :
    membership ∈ (buildMemberships store matchweek window season cutoff candidates).filter
        isIncluded ↔
      ∃ chosen ∈ includedAt candidates window cutoff,
        membership = membershipAt store matchweek window cutoff candidates chosen := by
  rw [List.mem_filter, mem_buildMemberships, isIncluded, decide_eq_true_eq]
  constructor
  · rintro ⟨⟨group, hgroup, rfl⟩ | ⟨unresolved, -, -, rfl⟩, hincluded⟩
    · obtain ⟨chosen, hchosen, heligible⟩ := fixtureMembership_included_iff.mp hincluded
      obtain ⟨hitems, -⟩ := mem_groupsBy.mp hgroup
      have hmem := (selectRevision_mem hchosen).1
      rw [hitems, List.mem_filter, decide_eq_true_eq] at hmem
      have hgroup' : group.2 = revisionsOf candidates chosen.fixtureId := by
        rw [revisionsOf, hmem.2]
        exact hitems
      refine ⟨chosen, mem_includedAt.mpr ⟨hgroup' ▸ hchosen, heligible⟩, ?_⟩
      rw [membershipAt, ← hgroup', hmem.2]
    · cases hincluded
  · rintro ⟨chosen, hchosen, rfl⟩
    obtain ⟨hselected, heligible⟩ := mem_includedAt.mp hchosen
    refine ⟨Or.inl ⟨(chosen.fixtureId, revisionsOf candidates chosen.fixtureId), ?_, rfl⟩,
      fixtureMembership_included_iff.mpr ⟨chosen, hselected, heligible⟩⟩
    exact mem_groupsBy.mpr ⟨rfl, List.ne_nil_of_mem (selectRevision_mem hselected).1⟩

theorem membershipAt_kickoff {chosen : RevisionCandidate}
    (hchosen : chosen ∈ includedAt candidates window cutoff) :
    (membershipAt store matchweek window cutoff candidates chosen).originalKickoffUtc =
      chosen.kickoffUtc := by
  change (selectRevision (revisionsOf candidates chosen.fixtureId) cutoff).bind
    (·.kickoffUtc) = chosen.kickoffUtc
  rw [(mem_includedAt.mp hchosen).1, Option.bind_some]

/-! ## The checked cutoff -/

/-- The earliest of the included memberships. -/
def earliestIncluded (memberships : List FrozenMembership) : Option FrozenMembership :=
  (memberships.filter isIncluded).argmin membershipKey

omit [PyRuntime] [Hashing] in
/-- What is read off the rank of a kickoff. -/
theorem bind_of_map_rank {α β γ : Type} {first : Option α} {second : Option β}
    {kickoff : α → Option Instant} {other : β → Option Instant} {next : Instant → γ}
    (hsame : first.map (fun item => kickoffRank (kickoff item)) =
      second.map fun item => kickoffRank (other item)) :
    first.bind (fun item => (kickoff item).map next) =
      second.bind fun item => (other item).map next := by
  cases first with
  | none =>
      cases second with
      | none => rfl
      | some item => cases hsame
  | some left =>
      cases second with
      | none => cases hsame
      | some right => exact congrArg (Option.map next) (Option.some.inj hsame)

omit [PyRuntime] [Hashing] in
theorem fst_le_of_lex {α β : Type*} [LinearOrder α] [LinearOrder β] {first second : α ×ₗ β}
    (hle : first ≤ second) : (ofLex first).1 ≤ (ofLex second).1 := by
  rcases Prod.Lex.le_iff.mp hle with hlt | ⟨heq, -⟩
  · exact hlt.le
  · exact heq.le

/-- The search reads its next boundary off the memberships decided at the last one. -/
theorem nextCutoff_eq :
    nextCutoff candidates window cutoff =
      (earliestIncluded (buildMemberships store matchweek window season cutoff
        candidates)).bind fun earliest =>
          earliest.originalKickoffUtc.map (· - matchweekLeadTime) := by
  have hsame : (earliestOf (includedAt candidates window cutoff)).map
        (fun chosen => kickoffRank chosen.kickoffUtc) =
      (earliestIncluded (buildMemberships store matchweek window season cutoff candidates)).map
        fun membership => kickoffRank membership.originalKickoffUtc := by
    refine map_argmin_eq (fun _ _ => fst_le_of_lex) (fun _ _ => fst_le_of_lex) fun value => ?_
    rw [List.mem_map, List.mem_map]
    constructor
    · rintro ⟨chosen, hchosen, rfl⟩
      exact ⟨_, mem_included.mpr ⟨chosen, hchosen, rfl⟩, by rw [membershipAt_kickoff hchosen]⟩
    · rintro ⟨membership, hmembership, rfl⟩
      obtain ⟨chosen, hchosen, rfl⟩ := mem_included.mp hmembership
      exact ⟨chosen, hchosen, by rw [membershipAt_kickoff hchosen]⟩
  exact bind_of_map_rank hsame

/-! ## The record of a freeze -/

variable {request : FreezeRequest} {record : FreezeRecord}

/-- What a freeze checks before it writes: the memberships decided at a cutoff put
it six hours before their earliest kickoff, and no two share an identifier. -/
theorem recordAt_ok_iff :
    recordAt store request candidates cutoff = .ok record ↔
      ∃ earliest kickoff,
        earliestIncluded (buildMemberships store request.matchweekId request.window
          request.season cutoff candidates) = some earliest ∧
        earliest.originalKickoffUtc = some kickoff ∧ kickoff - matchweekLeadTime = cutoff ∧
        ((buildMemberships store request.matchweekId request.window request.season cutoff
          candidates).map (·.membershipId)).Nodup ∧
        record =
          { window := request.window
            season := request.season
            cutoff :=
              { cutoffId := cutoffId request.matchweekId
                matchweekId := request.matchweekId
                cutoffUtc := cutoff
                earliestIncludedFixtureId := earliest.subjectId
                earliestIncludedKickoffUtc := kickoff }
            memberships := buildMemberships store request.matchweekId request.window
              request.season cutoff candidates } := by
  unfold recordAt earliestIncluded
  dsimp only
  cases hearliest : ((buildMemberships store request.matchweekId request.window request.season
      cutoff candidates).filter isIncluded).argmin membershipKey with
  | none => simp [refuse]
  | some earliest =>
      dsimp only
      cases hkickoff : earliest.originalKickoffUtc with
      | none => simp [hkickoff]
      | some kickoff =>
          dsimp only
          by_cases hstable : kickoff - matchweekLeadTime = cutoff
          · rw [if_neg (not_not.mpr hstable)]
            split
            next hnodup => simp [hkickoff, hstable, hnodup, eq_comm]
            next hnodup => simp [hnodup]
          · rw [if_pos hstable]
            simp [hkickoff, hstable, refuse]

theorem recordAt_returns_iff :
    (∃ record, recordAt store request candidates cutoff = .ok record) ↔
      Fixed (nextCutoff candidates request.window) cutoff ∧
        ((buildMemberships store request.matchweekId request.window request.season cutoff
          candidates).map (·.membershipId)).Nodup := by
  simp only [recordAt_ok_iff]
  rw [Fixed, @nextCutoff_eq _ _ store request.matchweekId request.season]
  constructor
  · rintro ⟨record, earliest, kickoff, hearliest, hkickoff, hcutoff, hnodup, -⟩
    refine ⟨?_, hnodup⟩
    rw [hearliest, Option.bind_some, hkickoff, Option.map_some, hcutoff]
  · rintro ⟨hfixed, hnodup⟩
    obtain ⟨earliest, hearliest, hmap⟩ := Option.bind_eq_some_iff.mp hfixed
    obtain ⟨kickoff, hkickoff, hcutoff⟩ := Option.map_eq_some_iff.mp hmap
    exact ⟨_, earliest, kickoff, hearliest, hkickoff, hcutoff, hnodup, rfl⟩

theorem freezeRecord_ok_iff :
    freezeRecord store request = .ok record ↔
      ∃ asOf, observationTime request (loadRevisionCandidates store request.season) = some asOf ∧
        ∃ start earliest,
          deriveCutoff (loadRevisionCandidates store request.season) request.window asOf =
            .ok (start, earliest) ∧
          recordAt store request (loadRevisionCandidates store request.season) start =
            .ok record := by
  unfold freezeRecord
  dsimp only
  cases observationTime request (loadRevisionCandidates store request.season) with
  | none => simp [refuse]
  | some asOf =>
      simp only [Option.some.injEq, exists_eq_left']
      cases deriveCutoff (loadRevisionCandidates store request.season) request.window asOf with
      | error fault => exact iff_of_false (fun hok => by cases hok) (by simp)
      | ok derived =>
          obtain ⟨start, earliest⟩ := derived
          rw [ok_bind]
          simp

omit [Hashing] in
/-- The search that a freeze makes for its cutoff. -/
theorem deriveCutoff_ok_iff {asOf : Instant} :
    (∃ earliest, deriveCutoff candidates window asOf = .ok (cutoff, earliest)) ↔
      ∃ start, firstCutoff candidates window asOf = some start ∧
        search (nextCutoff candidates window) 8 [] start = some cutoff := by
  rw [← Option.bind_eq_some_iff, ← deriveCutoff_search]
  cases deriveCutoff candidates window asOf with
  | error fault => simp [Except.toOption]
  | ok derived => simp [Except.toOption, Prod.ext_iff]

/-- A freeze finds a record of a cutoff exactly when the cutoffs that follow the first
one agree with themselves there within eight steps, and the identifiers differ. -/
theorem freezeRecord_returns_iff :
    (∃ record, freezeRecord store request = .ok record ∧ record.cutoff.cutoffUtc = cutoff) ↔
      ∃ asOf start,
        observationTime request (loadRevisionCandidates store request.season) = some asOf ∧
        firstCutoff (loadRevisionCandidates store request.season) request.window asOf =
          some start ∧
        (∃ count ≤ 8, orbit (nextCutoff (loadRevisionCandidates store request.season)
            request.window) count start = some cutoff) ∧
        Fixed (nextCutoff (loadRevisionCandidates store request.season) request.window) cutoff ∧
        ((buildMemberships store request.matchweekId request.window request.season cutoff
          (loadRevisionCandidates store request.season)).map (·.membershipId)).Nodup := by
  constructor
  · rintro ⟨record, hrecord, hcutoff⟩
    obtain ⟨asOf, hasOf, start, earliest, hderived, hat⟩ := freezeRecord_ok_iff.mp hrecord
    obtain ⟨_, _, _, _, _, _, hvalue⟩ := recordAt_ok_iff.mp hat
    obtain rfl : start = cutoff := by rw [← hcutoff, hvalue]
    obtain ⟨hfixed, hnodup⟩ := recordAt_returns_iff.mp ⟨record, hat⟩
    obtain ⟨first, hfirst, hsearch⟩ := deriveCutoff_ok_iff.mp ⟨earliest, hderived⟩
    obtain ⟨count, hcount, horbit⟩ := search_orbit hsearch
    exact ⟨asOf, first, hasOf, hfirst, ⟨count, hcount, horbit⟩, hfixed, hnodup⟩
  · rintro ⟨asOf, first, hasOf, hfirst, ⟨count, hcount, horbit⟩, hfixed, hnodup⟩
    obtain ⟨hsearch, -⟩ := search_fixed_iff.mpr ⟨count, hcount, horbit, hfixed⟩
    obtain ⟨earliest, hderived⟩ := deriveCutoff_ok_iff.mpr ⟨first, hfirst, hsearch⟩
    obtain ⟨record, hat⟩ := recordAt_returns_iff.mpr ⟨hfixed, hnodup⟩
    obtain ⟨_, _, _, _, _, _, hvalue⟩ := recordAt_ok_iff.mp hat
    exact ⟨record, freezeRecord_ok_iff.mpr ⟨asOf, hasOf, cutoff, earliest, hderived, hat⟩,
      by rw [hvalue]⟩

theorem recordAt_matchweekId
    (hrecord : recordAt store request candidates cutoff = .ok record) :
    record.cutoff.matchweekId = request.matchweekId := by
  obtain ⟨_, _, _, _, _, _, rfl⟩ := recordAt_ok_iff.mp hrecord
  rfl

theorem freezeRecord_matchweekId (hrecord : freezeRecord store request = .ok record) :
    record.cutoff.matchweekId = request.matchweekId := by
  obtain ⟨_, -, _, _, -, hat⟩ := freezeRecord_ok_iff.mp hrecord
  exact recordAt_matchweekId hat

omit [PyRuntime] [Hashing] in
theorem loadFreeze_append (hunfrozen : loadFreeze store matchweek = none)
    (hrecord : record.cutoff.matchweekId = matchweek) :
    loadFreeze { store with freezes := store.freezes ++ [record] } matchweek =
      some { record with
        appendix := sortedOn appendixKey (store.appendix.filter (·.matchweekId = matchweek)) } := by
  have hnone : store.freezes.find? (·.cutoff.matchweekId = matchweek) = none :=
    Option.map_eq_none_iff.mp hunfrozen
  unfold loadFreeze
  rw [List.find?_append, hnone, Option.none_or, List.find?_singleton, hrecord, decide_eq_true rfl]
  rfl

/-- A freeze of a Matchweek that is not frozen writes the record it found. -/
theorem freezeMatchweek_ok_iff (hunfrozen : loadFreeze store request.matchweekId = none)
    {next : Store} {freeze : MatchweekFreeze} :
    freezeMatchweek store request = .ok (next, freeze) ↔
      ∃ record, freezeRecord store request = .ok record ∧
        next = { store with freezes := store.freezes ++ [record] } ∧
        loadFreeze next request.matchweekId = some freeze := by
  unfold freezeMatchweek
  rw [hunfrozen]
  dsimp only
  cases hrecord : freezeRecord store request with
  | error fault => exact iff_of_false (fun hok => by cases hok) (by simp)
  | ok record =>
      rw [ok_bind]
      simp only [Except.ok.injEq, exists_eq_left']
      cases hload : loadFreeze { store with freezes := store.freezes ++ [record] }
          request.matchweekId with
      | none =>
          refine iff_of_false (by simp [refuse]) ?_
          rintro ⟨rfl, hsome⟩
          rw [hload] at hsome
          cases hsome
      | some loaded =>
          constructor
          · intro hresult
            obtain ⟨rfl, rfl⟩ := Prod.mk.injEq .. ▸ Except.ok.inj hresult
            exact ⟨rfl, hload⟩
          · rintro ⟨rfl, hsome⟩
            rw [hload] at hsome
            rw [Option.some.inj hsome]

end Included

/-! ## A Friday evening -/

section Friday

local instance : PyRuntime := plainRuntime

local instance : Hashing := textHashing

/-- The weekend of the second of January 1970. -/
def firstWeekend : MatchweekWindow where
  fridayLocal := 1
  friday := by decide
  starts := by decide
  ends := by decide

/-- A revision that puts its fixture on the Friday evening of that weekend. -/
def eveningRevision : RevisionCandidate where
  fixtureId := "fixture-1"
  identityState := "CONFIRMED"
  leagueKey := "england:premier-league"
  season := "1969-70"
  homeTeamName := "Home"
  awayTeamName := "Away"
  revisionId := "revision-1"
  revisionDigest := "digest-1"
  kickoffState := "OBSERVED"
  kickoffUtc := some 154800000000
  kickoffLocalText := none
  kickoffPrecision := "MINUTE"
  fixtureStatus := "SCHEDULED"
  observedAtUtc := 0
  supports := []

def eveningStore : Store := ⟨[eveningRevision], [], [], [], []⟩

def weekendRequest : FreezeRequest := ⟨firstWeekend, "1969-70", none⟩

end Friday

/-! ## What a record says -/

section Sound

variable [PyRuntime] [Hashing] {store : Store} {request : FreezeRequest} {record : FreezeRecord}

/-- What the reader of a freeze relies on. -/
structure Sound (record : FreezeRecord) : Prop where
  /-- Every Target Match kicks off in the window, the lead time after the cutoff at least. -/
  targets : ∀ membership ∈ record.memberships, membership.targetMatch = true →
    ∃ kickoff, membership.originalKickoffUtc = some kickoff ∧
      record.window.contains kickoff = true ∧
      record.cutoff.cutoffUtc + matchweekLeadTime ≤ kickoff
  /-- The named fixture is a Target Match that kicks off the lead time after the cutoff. -/
  earliest : ∃ membership ∈ record.memberships, membership.targetMatch = true ∧
    membership.subjectId = record.cutoff.earliestIncludedFixtureId ∧
    membership.originalKickoffUtc = some record.cutoff.earliestIncludedKickoffUtc ∧
    record.cutoff.earliestIncludedKickoffUtc =
      record.cutoff.cutoffUtc + matchweekLeadTime
  /-- No two memberships share an identifier. -/
  identifiers : (record.memberships.map (·.membershipId)).Nodup

theorem freezeRecord_sound (hrecord : freezeRecord store request = .ok record) :
    Sound record := by
  obtain ⟨_, -, start, _, -, hat⟩ := freezeRecord_ok_iff.mp hrecord
  obtain ⟨earliest, kickoff, hearliest, hkickoff, hcutoff, hnodup, rfl⟩ := recordAt_ok_iff.mp hat
  have hmem := List.mem_filter.mp (List.argmin_mem hearliest)
  refine ⟨fun membership hmembership htarget => ?_, ?_, hnodup⟩
  · have hincluded : membership ∈ (buildMemberships store request.matchweekId request.window
        request.season start (loadRevisionCandidates store request.season)).filter isIncluded :=
      List.mem_filter.mpr ⟨hmembership, decide_eq_true (membership.target_iff.mp htarget)⟩
    obtain ⟨chosen, hchosen, rfl⟩ := mem_included.mp hincluded
    obtain ⟨other, hother, hwindow⟩ := eligible_kickoff (eligible_of_includedAt hchosen)
    have hvalue : (membershipAt store request.matchweekId request.window start
        (loadRevisionCandidates store request.season) chosen).originalKickoffUtc = some other :=
      (membershipAt_kickoff hchosen).trans hother
    refine ⟨other, hvalue, hwindow, ?_⟩
    have hle : kickoffRank earliest.originalKickoffUtc ≤ kickoffRank (membershipAt store
        request.matchweekId request.window start (loadRevisionCandidates store request.season)
        chosen).originalKickoffUtc :=
      fst_le_of_lex (List.le_of_mem_argmin hincluded hearliest)
    rw [hkickoff, hvalue] at hle
    have hle : kickoff ≤ other := kickoffRank_le.mp hle
    change start + matchweekLeadTime ≤ other
    rw [← hcutoff, sub_add_cancel]
    exact hle
  · refine ⟨earliest, hmem.1, earliest.target_iff.mpr (of_decide_eq_true hmem.2), rfl, hkickoff,
      ?_⟩
    change kickoff = start + matchweekLeadTime
    rw [← hcutoff, sub_add_cancel]

end Sound

end MatchVet.T05.Cutoff
