import Mathlib
import MatchVet.F01.Weekly
import MatchVet.Foundation.KeySort

/-!
# Justified coverage states

An accepted assessment names the state of every league exactly: a complete or
confirmed empty league is covered instant by instant by current, fully accounted
evidence, and the other states say which evidence there is.
-/

namespace MatchVet.F01.CoverageStates

open MatchVet.F01.Records
open MatchVet.F01.Weekly
open MatchVet.Foundation.IntervalCover
open MatchVet.Foundation.KeySort
open MatchVet.Foundation.Runtime
open MatchVet.Foundation.Timestamp

/-! ## Usable evidence -/

/-- A piece of coverage evidence that counts in a scope, under its freshness. -/
structure Usable (records : Retained) (scope : Scope) (evidence : ProviderCoverageEvidence)
    (bounds : CoverageBounds) (isCurrent : Bool) : Prop where
  retained : evidence ∈ records.coverageEvidence
  inScope : evidence.scopeId = scope.scopeId
  captured : ∃ attempt ∈ records.providerAttempts, attempt.attemptId = evidence.attemptId ∧
    attempt.state = .captured ∧ attempt.captureId = some evidence.captureId ∧
    attempt.captureDigest = some evidence.captureDigest
  permitted : evidence.permittedForUse = true ∧ evidence.providerUsePolicyId.isSome = true
  league : evidence.providerCompetitionKey = scope.leagueKey
  season : evidence.providerSeason = scope.season
  basis : evidence.coverageBasis.isSome = true
  claims : evidence.bounds = some bounds
  intersects : (Set.Ico scope.windowStart scope.windowEnd ∩
    Set.Ico bounds.startUtc bounds.endUtc).Nonempty
  freshness : ∃ result ∈ records.freshnessResults, result.evidenceId = evidence.evidenceId ∧
    result.isCurrent = isCurrent

/-- Pagination is exhausted and every required partition is accounted for. -/
def FullyAccounted (evidence : ProviderCoverageEvidence) : Prop :=
  evidence.paginationExhausted = true ∧
    evidence.requiredPartitionIds = evidence.accountedPartitionIds

/-- Every instant of the window lies in the bounds of some current, fully accounted
evidence of a kind. -/
def WindowCovered (records : Retained) (scope : Scope)
    (kind : ProviderCoverageEvidence → Prop) : Prop :=
  ∀ instant ∈ Set.Ico scope.windowStart scope.windowEnd, ∃ evidence bounds,
    Usable records scope evidence bounds true ∧ FullyAccounted evidence ∧ kind evidence ∧
      instant ∈ Set.Ico bounds.startUtc bounds.endUtc

def SomeEvidence (records : Retained) (scope : Scope) (isCurrent : Bool) : Prop :=
  ∃ evidence bounds, Usable records scope evidence bounds isCurrent

def SomeIdentity (records : Retained) (scope : Scope) (state : FixtureIdentityState) : Prop :=
  ∃ identity ∈ records.identityResolutions, identity.scopeId = scope.scopeId ∧
    identity.state = state

/-- A scope whose fixtures are all known. -/
def Complete (records : Retained) (scope : Scope) : Prop :=
  WindowCovered records scope (fun _ => True) ∧ SomeIdentity records scope .resolved ∧
    ¬SomeIdentity records scope .unresolvedFixtureIdentity

/-- A scope that is known to have no fixture. -/
def ConfirmedEmpty (records : Retained) (scope : Scope) : Prop :=
  WindowCovered records scope (fun evidence => evidence.affirmativelyEmpty = true) ∧
    ¬SomeIdentity records scope .resolved ∧
    ¬SomeIdentity records scope .unresolvedFixtureIdentity

/-- The state of a scope says exactly what its evidence shows. -/
structure Justified (records : Retained) (scope : Scope) (state : ScopeCoverageState) : Prop where
  complete : state = .complete ↔ Complete records scope
  confirmedEmpty : state = .confirmedEmpty ↔ ConfirmedEmpty records scope
  partly : state = .partly ↔ ¬Complete records scope ∧ ¬ConfirmedEmpty records scope ∧
    SomeEvidence records scope true
  stale : state = .stale ↔ ¬SomeEvidence records scope true ∧ SomeEvidence records scope false
  unknown : state = .unknown ↔ ¬SomeEvidence records scope true ∧
    ¬SomeEvidence records scope false

/-! ## Checked references -/

/-- Items that pass a check in order have distinct keys and pass it one by one. -/
theorem checkEach_ok_iff {α : Type} {key : α → String} {duplicate : String}
    {check : α → Except CoverageError Unit} {seen : List String} {items : List α} :
    checkEach key duplicate check seen items = .ok () ↔
      (items.map key).Nodup ∧ (∀ item ∈ items, key item ∉ seen) ∧
        ∀ item ∈ items, check item = .ok () := by
  induction items generalizing seen with
  | nil => simp [checkEach]
  | cons item rest ih =>
      unfold checkEach
      by_cases hseen : key item ∈ seen
      · rw [if_pos (List.contains_iff_mem.mpr hseen)]
        constructor
        · intro hfalse
          cases hfalse
        · intro hall
          exact absurd hseen (hall.2.1 item List.mem_cons_self)
      · rw [if_neg (by simpa using hseen)]
        simp only [bind_eq_ok, ih, List.map_cons, List.nodup_cons, List.mem_map,
          List.mem_cons, forall_eq_or_imp, not_or]
        constructor
        · rintro ⟨_, hitem, hnodup, hkeys, hrest⟩
          refine ⟨⟨?_, hnodup⟩, ⟨hseen, fun other hother => (hkeys other hother).2⟩, hitem, hrest⟩
          rintro ⟨other, hother, heq⟩
          exact (hkeys other hother).1 heq
        · rintro ⟨⟨hfresh, hnodup⟩, ⟨_, hkeys⟩, hitem, hrest⟩
          exact ⟨(), hitem, hnodup, fun other hother =>
            ⟨fun heq => hfresh ⟨other, hother, heq⟩, hkeys other hother⟩, hrest⟩

/-- What accepted records keep: distinct keys, and evidence with its own attempt. -/
structure Referenced (records : Retained) : Prop where
  attempts : (records.providerAttempts.map ProviderAttempt.attemptId).Nodup
  evidence : (records.coverageEvidence.map ProviderCoverageEvidence.evidenceId).Nodup
  freshness : (records.freshnessResults.map CoverageFreshnessResult.evidenceId).Nodup
  attempted : ∀ evidence ∈ records.coverageEvidence,
    ∃ attempt ∈ records.providerAttempts, attempt.attemptId = evidence.attemptId ∧
      attempt.scopeId = evidence.scopeId

theorem referenced_of_checkReferences {scopeIds : List String} {records : Retained}
    (hcheck : checkReferences scopeIds records = .ok ()) : Referenced records := by
  unfold checkReferences at hcheck
  simp only [bind_eq_ok] at hcheck
  obtain ⟨_, hattempts, _, hevidence, _, -, _, -, _, -, hfreshness⟩ := hcheck
  have hattempts := checkEach_ok_iff.mp hattempts
  have hevidence := checkEach_ok_iff.mp hevidence
  refine ⟨hattempts.1, hevidence.1, (checkEach_ok_iff.mp hfreshness).1, ?_⟩
  intro item hitem
  have hchecked := hevidence.2.2 item hitem
  unfold checkEvidence at hchecked
  split at hchecked
  · cases hchecked
  next hscope =>
    rw [Decidable.not_not] at hscope
    obtain ⟨attempt, hattempt, hsame⟩ := Option.map_eq_some_iff.mp hscope
    obtain ⟨hmem, hname⟩ := (find?_key_iff hattempts.1).mp hattempt
    exact ⟨attempt, hmem, hname, hsame⟩

/-! ## The evidence loop -/

/-- What the loop reads off one piece of evidence: its range in the window and its
freshness. -/
def claim? (records : Retained) (scope : Scope) (evidence : ProviderCoverageEvidence) :
    Option ((Instant × Instant) × Bool) := do
  let attempt ← records.attempt? evidence.attemptId
  let bounds ← claimBounds scope attempt evidence
  let range ← intersectedBounds scope bounds
  let result ← records.freshness? evidence.evidenceId
  some (range, result.isCurrent)

/-- Count a piece of evidence by what the loop reads off it. -/
def addClaim (records : Retained) (scope : Scope) (tally : Tally)
    (evidence : ProviderCoverageEvidence) : Tally :=
  match claim? records scope evidence with
  | none => tally
  | some (range, isCurrent) => tally.add evidence range isCurrent

theorem tallyEvidence_eq {records : Retained} {scope : Scope} {tally : Tally}
    {evidence : ProviderCoverageEvidence}
    (hattempt : (records.attempt? evidence.attemptId).isSome = true) :
    tallyEvidence records scope tally evidence = .ok (addClaim records scope tally evidence) := by
  obtain ⟨attempt, hattempt⟩ := Option.isSome_iff_exists.mp hattempt
  unfold tallyEvidence addClaim claim?
  rw [hattempt]
  simp only [Option.bind_eq_bind, Option.bind_some]
  cases claimBounds scope attempt evidence with
  | none => rfl
  | some bounds =>
      simp only [Option.bind_some]
      cases intersectedBounds scope bounds with
      | none => rfl
      | some range =>
          simp only [Option.bind_some]
          cases records.freshness? evidence.evidenceId <;> rfl

/-- Evidence whose attempts are retained is counted without an error. -/
theorem tally_ok {records : Retained} {scope : Scope} {items : List ProviderCoverageEvidence}
    (hattempts : ∀ item ∈ items, (records.attempt? item.attemptId).isSome = true)
    (tally : Tally) :
    items.foldlM (tallyEvidence records scope) tally =
      .ok (items.foldl (addClaim records scope) tally) := by
  induction items generalizing tally with
  | nil => rfl
  | cons item rest ih =>
      rw [List.foldlM_cons, tallyEvidence_eq (hattempts item List.mem_cons_self)]
      exact ih (fun other hother => hattempts other (List.mem_cons_of_mem _ hother)) _

section Loop

variable (records : Retained) (scope : Scope)

/-! What one piece of evidence appends to each accumulator. -/

theorem addClaim_current (tally : Tally) (item : ProviderCoverageEvidence) :
    (addClaim records scope tally item).current =
      tally.current ++ (addClaim records scope .empty item).current := by
  unfold addClaim
  cases claim? records scope item with
  | none => exact (List.append_nil _).symm
  | some claim =>
      obtain ⟨range, isCurrent⟩ := claim
      cases isCurrent <;> simp [Tally.add, Tally.empty]

theorem addClaim_stale (tally : Tally) (item : ProviderCoverageEvidence) :
    (addClaim records scope tally item).stale =
      tally.stale ++ (addClaim records scope .empty item).stale := by
  unfold addClaim
  cases claim? records scope item with
  | none => exact (List.append_nil _).symm
  | some claim =>
      obtain ⟨range, isCurrent⟩ := claim
      cases isCurrent <;> simp [Tally.add, Tally.empty]

theorem addClaim_currentRanges (tally : Tally) (item : ProviderCoverageEvidence) :
    (addClaim records scope tally item).currentRanges =
      tally.currentRanges ++ (addClaim records scope .empty item).currentRanges := by
  unfold addClaim
  cases claim? records scope item with
  | none => exact (List.append_nil _).symm
  | some claim =>
      obtain ⟨range, isCurrent⟩ := claim
      cases isCurrent <;> cases hfull : fullPartitionsAccounted item <;>
        simp [Tally.add, Tally.empty, hfull]

theorem addClaim_emptyRanges (tally : Tally) (item : ProviderCoverageEvidence) :
    (addClaim records scope tally item).emptyRanges =
      tally.emptyRanges ++ (addClaim records scope .empty item).emptyRanges := by
  unfold addClaim
  cases claim? records scope item with
  | none => exact (List.append_nil _).symm
  | some claim =>
      obtain ⟨range, isCurrent⟩ := claim
      cases isCurrent <;>
        cases hempty : fullPartitionsAccounted item && item.affirmativelyEmpty <;>
          simp [Tally.add, Tally.empty, hempty]

variable {records scope}

theorem mem_current_iff {item : ProviderCoverageEvidence} {id : String} :
    id ∈ (addClaim records scope .empty item).current ↔
      item.evidenceId = id ∧ ∃ range, claim? records scope item = some (range, true) := by
  unfold addClaim
  cases hclaim : claim? records scope item with
  | none => simp [Tally.empty]
  | some claim =>
      obtain ⟨range, isCurrent⟩ := claim
      cases isCurrent <;> simp [Tally.add, Tally.empty, eq_comm (a := id)]

theorem mem_stale_iff {item : ProviderCoverageEvidence} {id : String} :
    id ∈ (addClaim records scope .empty item).stale ↔
      item.evidenceId = id ∧ ∃ range, claim? records scope item = some (range, false) := by
  unfold addClaim
  cases hclaim : claim? records scope item with
  | none => simp [Tally.empty]
  | some claim =>
      obtain ⟨range, isCurrent⟩ := claim
      cases isCurrent <;> simp [Tally.add, Tally.empty, eq_comm (a := id)]

theorem mem_currentRanges_iff {item : ProviderCoverageEvidence} {range : Instant × Instant} :
    range ∈ (addClaim records scope .empty item).currentRanges ↔
      claim? records scope item = some (range, true) ∧ fullPartitionsAccounted item = true := by
  unfold addClaim
  cases hclaim : claim? records scope item with
  | none => simp [Tally.empty]
  | some claim =>
      obtain ⟨found, isCurrent⟩ := claim
      cases isCurrent <;> cases hfull : fullPartitionsAccounted item <;>
        simp [Tally.add, Tally.empty, hfull, eq_comm (a := range)]

theorem mem_emptyRanges_iff {item : ProviderCoverageEvidence} {range : Instant × Instant} :
    range ∈ (addClaim records scope .empty item).emptyRanges ↔
      claim? records scope item = some (range, true) ∧ fullPartitionsAccounted item = true ∧
        item.affirmativelyEmpty = true := by
  rw [← Bool.and_eq_true]
  unfold addClaim
  cases hclaim : claim? records scope item with
  | none => simp [Tally.empty]
  | some claim =>
      obtain ⟨found, isCurrent⟩ := claim
      cases isCurrent <;>
        cases hempty : fullPartitionsAccounted item && item.affirmativelyEmpty <;>
          simp [Tally.add, Tally.empty, hempty, eq_comm (a := range)]

end Loop

/-- What the accumulators hold after the loop. -/
structure Tallied (records : Retained) (scope : Scope) (items : List ProviderCoverageEvidence)
    (tally : Tally) : Prop where
  current : ∀ id, id ∈ tally.current ↔ ∃ item ∈ items, item.evidenceId = id ∧
    ∃ range, claim? records scope item = some (range, true)
  stale : ∀ id, id ∈ tally.stale ↔ ∃ item ∈ items, item.evidenceId = id ∧
    ∃ range, claim? records scope item = some (range, false)
  currentRanges : ∀ range, range ∈ tally.currentRanges ↔ ∃ item ∈ items,
    claim? records scope item = some (range, true) ∧ fullPartitionsAccounted item = true
  emptyRanges : ∀ range, range ∈ tally.emptyRanges ↔ ∃ item ∈ items,
    claim? records scope item = some (range, true) ∧ fullPartitionsAccounted item = true ∧
      item.affirmativelyEmpty = true

/-- Run lemma: the accumulators hold exactly the claims of all the evidence. -/
theorem tallied_foldl (records : Retained) (scope : Scope)
    (items : List ProviderCoverageEvidence) :
    Tallied records scope items (items.foldl (addClaim records scope) .empty) where
  current id := by
    rw [read_foldl (addClaim_current records scope)]
    simp only [Tally.empty, List.nil_append, List.mem_flatMap, ← mem_current_iff]
  stale id := by
    rw [read_foldl (addClaim_stale records scope)]
    simp only [Tally.empty, List.nil_append, List.mem_flatMap, ← mem_stale_iff]
  currentRanges range := by
    rw [read_foldl (addClaim_currentRanges records scope)]
    simp only [Tally.empty, List.nil_append, List.mem_flatMap, ← mem_currentRanges_iff]
  emptyRanges range := by
    rw [read_foldl (addClaim_emptyRanges records scope)]
    simp only [Tally.empty, List.nil_append, List.mem_flatMap, ← mem_emptyRanges_iff]

/-! ## What one piece of evidence claims -/

theorem claimBounds_eq_some_iff {scope : Scope} {attempt : ProviderAttempt}
    {evidence : ProviderCoverageEvidence} {bounds : CoverageBounds} :
    claimBounds scope attempt evidence = some bounds ↔
      attempt.state = .captured ∧ attempt.captureId = some evidence.captureId ∧
        attempt.captureDigest = some evidence.captureDigest ∧ evidence.permittedForUse = true ∧
        evidence.providerUsePolicyId.isSome = true ∧
        evidence.providerCompetitionKey = scope.leagueKey ∧
        evidence.providerSeason = scope.season ∧ evidence.coverageBasis.isSome = true ∧
        evidence.bounds = some bounds := by
  unfold claimBounds
  split
  next hrefused =>
    simp only [Bool.or_eq_true, Bool.not_eq_true', ne_eq, decide_not, decide_eq_false_iff_not,
      Option.isNone_iff_eq_none] at hrefused
    constructor
    · intro hnone
      cases hnone
    · rintro ⟨hstate, hcapture, hdigest, hpermitted, hpolicy, hleague, hseason, hbasis, -⟩
      rw [Option.isSome_iff_ne_none] at hpolicy hbasis
      simp_all
  next haccepted =>
    simp only [Bool.or_eq_true, Bool.not_eq_true', ne_eq, decide_not, decide_eq_false_iff_not,
      Option.isNone_iff_eq_none, not_or, Decidable.not_not, Bool.not_eq_false, ← Option.isSome_iff_ne_none] at haccepted
    constructor
    · intro hbounds
      tauto
    · intro hall
      exact hall.2.2.2.2.2.2.2.2

theorem intersectedBounds_eq_some_iff {scope : Scope} {bounds : CoverageBounds}
    {range : Instant × Instant} :
    intersectedBounds scope bounds = some range ↔
      (Set.Ico scope.windowStart scope.windowEnd ∩
        Set.Ico bounds.startUtc bounds.endUtc).Nonempty ∧
      range = (max scope.windowStart bounds.startUtc, min scope.windowEnd bounds.endUtc) := by
  rw [Set.Ico_inter_Ico, Set.nonempty_Ico]
  unfold intersectedBounds
  by_cases hproper : min scope.windowEnd bounds.endUtc ≤ max scope.windowStart bounds.startUtc
  · rw [if_pos hproper]
    constructor
    · intro hnone
      cases hnone
    · rintro ⟨hlt, -⟩
      exact absurd hlt (not_lt.mpr hproper)
  · rw [if_neg hproper, Option.some.injEq]
    constructor
    · rintro rfl
      exact ⟨not_le.mp hproper, rfl⟩
    · rintro ⟨-, rfl⟩
      rfl

/-- What the loop reads off retained evidence is what makes it usable. -/
theorem claim?_eq_some_iff {records : Retained} {scope : Scope} (hreferenced : Referenced records)
    {evidence : ProviderCoverageEvidence} (hmem : evidence ∈ records.coverageEvidence)
    (hscope : evidence.scopeId = scope.scopeId) {range : Instant × Instant} {isCurrent : Bool} :
    claim? records scope evidence = some (range, isCurrent) ↔
      ∃ bounds, Usable records scope evidence bounds isCurrent ∧
        range = (max scope.windowStart bounds.startUtc, min scope.windowEnd bounds.endUtc) := by
  unfold claim?
  simp only [Option.bind_eq_bind, Option.bind_eq_some_iff, Option.some.injEq, Prod.mk.injEq,
    intersectedBounds_eq_some_iff, claimBounds_eq_some_iff]
  unfold Retained.attempt? Retained.freshness?
  simp only [find?_key_iff hreferenced.attempts, find?_key_iff hreferenced.freshness]
  constructor
  · rintro ⟨attempt, ⟨hattempt, hname⟩, bounds, hclaim, found, ⟨hmeets, hfound⟩, result,
      ⟨hresult, hevidence⟩, hrange, hcurrent⟩
    obtain ⟨hstate, hcapture, hdigest, hpermitted, hpolicy, hleague, hseason, hbasis, hbounds⟩ :=
      hclaim
    refine ⟨bounds, ?_, hrange ▸ hfound⟩
    exact {
      retained := hmem
      inScope := hscope
      captured := ⟨attempt, hattempt, hname, hstate, hcapture, hdigest⟩
      permitted := ⟨hpermitted, hpolicy⟩
      league := hleague
      season := hseason
      basis := hbasis
      claims := hbounds
      intersects := hmeets
      freshness := ⟨result, hresult, hevidence, hcurrent⟩ }
  · rintro ⟨bounds, husable, hrange⟩
    obtain ⟨attempt, hattempt, hname, hstate, hcapture, hdigest⟩ := husable.captured
    obtain ⟨result, hresult, hevidence, hcurrent⟩ := husable.freshness
    exact ⟨attempt, ⟨hattempt, hname⟩, bounds,
      ⟨hstate, hcapture, hdigest, husable.permitted.1, husable.permitted.2, husable.league,
        husable.season, husable.basis, husable.claims⟩,
      range, ⟨husable.intersects, hrange⟩, result, ⟨hresult, hevidence⟩, rfl, hcurrent⟩

/-! ## The accumulators against the evidence -/

theorem fullPartitionsAccounted_iff {evidence : ProviderCoverageEvidence} :
    fullPartitionsAccounted evidence = true ↔ FullyAccounted evidence := by
  unfold fullPartitionsAccounted FullyAccounted
  rw [Bool.and_eq_true, decide_eq_true_eq]

/-- The accumulators after the loop over the evidence of a scope. -/
def finalTally (records : Retained) (scope : Scope) : Tally :=
  (records.evidenceIn scope.scopeId).foldl (addClaim records scope) .empty

theorem mem_evidenceIn {records : Retained} {scopeId : String}
    {evidence : ProviderCoverageEvidence} :
    evidence ∈ records.evidenceIn scopeId ↔
      evidence ∈ records.coverageEvidence ∧ evidence.scopeId = scopeId := by
  unfold Retained.evidenceIn
  rw [List.mem_filter, decide_eq_true_eq]

theorem ne_nil_iff_exists_mem {α : Type} {items : List α} : items ≠ [] ↔ ∃ item, item ∈ items :=
  ⟨List.exists_mem_of_ne_nil items, fun ⟨_, hitem⟩ => List.ne_nil_of_mem hitem⟩

theorem isEmpty_not_iff {α : Type} {items : List α} : (!items.isEmpty) = true ↔ items ≠ [] := by
  cases items <;> simp

section Meaning

variable {records : Retained} {scope : Scope}

theorem exists_claim_iff (hreferenced : Referenced records) {isCurrent : Bool} :
    (∃ item ∈ records.evidenceIn scope.scopeId,
      ∃ range, claim? records scope item = some (range, isCurrent)) ↔
      SomeEvidence records scope isCurrent := by
  constructor
  · rintro ⟨item, hitem, range, hclaim⟩
    obtain ⟨hmem, hscope⟩ := mem_evidenceIn.mp hitem
    obtain ⟨bounds, husable, -⟩ := (claim?_eq_some_iff hreferenced hmem hscope).mp hclaim
    exact ⟨item, bounds, husable⟩
  · rintro ⟨item, bounds, husable⟩
    exact ⟨item, mem_evidenceIn.mpr ⟨husable.retained, husable.inScope⟩, _,
      (claim?_eq_some_iff hreferenced husable.retained husable.inScope).mpr ⟨bounds, husable, rfl⟩⟩

theorem current_ne_nil_iff (hreferenced : Referenced records) :
    (finalTally records scope).current ≠ [] ↔ SomeEvidence records scope true := by
  rw [← exists_claim_iff hreferenced, ne_nil_iff_exists_mem]
  have htallied := (tallied_foldl records scope (records.evidenceIn scope.scopeId)).current
  constructor
  · rintro ⟨id, hid⟩
    obtain ⟨item, hitem, -, hclaim⟩ := (htallied id).mp hid
    exact ⟨item, hitem, hclaim⟩
  · rintro ⟨item, hitem, hclaim⟩
    exact ⟨item.evidenceId, (htallied _).mpr ⟨item, hitem, rfl, hclaim⟩⟩

theorem stale_ne_nil_iff (hreferenced : Referenced records) :
    (finalTally records scope).stale ≠ [] ↔ SomeEvidence records scope false := by
  rw [← exists_claim_iff hreferenced, ne_nil_iff_exists_mem]
  have htallied := (tallied_foldl records scope (records.evidenceIn scope.scopeId)).stale
  constructor
  · rintro ⟨id, hid⟩
    obtain ⟨item, hitem, -, hclaim⟩ := (htallied id).mp hid
    exact ⟨item, hitem, hclaim⟩
  · rintro ⟨item, hitem, hclaim⟩
    exact ⟨item.evidenceId, (htallied _).mpr ⟨item, hitem, rfl, hclaim⟩⟩

/-- A sweep over ranges read off the evidence decides coverage by that evidence. -/
theorem coversWindow_iff (hreferenced : Referenced records)
    {kind : ProviderCoverageEvidence → Prop} {ranges : List (Instant × Instant)}
    (hranges : ∀ range, range ∈ ranges ↔ ∃ item ∈ records.evidenceIn scope.scopeId,
      claim? records scope item = some (range, true) ∧ FullyAccounted item ∧ kind item) :
    coversWindow scope ranges = true ↔ WindowCovered records scope kind := by
  unfold coversWindow
  rw [sweep_inOrder_iff ranges scope.proper]
  unfold CoveredBy WindowCovered
  refine forall₂_congr fun instant hinstant => ?_
  constructor
  · rintro ⟨range, hrange, hinside⟩
    obtain ⟨item, hitem, hclaim, haccounted, hkind⟩ := (hranges range).mp hrange
    obtain ⟨hmem, hscope⟩ := mem_evidenceIn.mp hitem
    obtain ⟨bounds, husable, rfl⟩ := (claim?_eq_some_iff hreferenced hmem hscope).mp hclaim
    exact ⟨item, bounds, husable, haccounted, hkind, (le_max_right ..).trans hinside.1,
      hinside.2.trans_le (min_le_right ..)⟩
  · rintro ⟨item, bounds, husable, haccounted, hkind, hinside⟩
    refine ⟨_, (hranges _).mpr ⟨item, mem_evidenceIn.mpr ⟨husable.retained, husable.inScope⟩,
      (claim?_eq_some_iff hreferenced husable.retained husable.inScope).mpr ⟨bounds, husable, rfl⟩,
      haccounted, hkind⟩, ?_⟩
    exact ⟨max_le hinstant.1 hinside.1, lt_min hinstant.2 hinside.2⟩

theorem currentRanges_covers_iff (hreferenced : Referenced records) :
    coversWindow scope (finalTally records scope).currentRanges = true ↔
      WindowCovered records scope fun _ => True := by
  refine coversWindow_iff hreferenced fun range => ?_
  rw [finalTally, (tallied_foldl records scope _).currentRanges]
  simp only [fullPartitionsAccounted_iff, and_true]

theorem emptyRanges_covers_iff (hreferenced : Referenced records) :
    coversWindow scope (finalTally records scope).emptyRanges = true ↔
      WindowCovered records scope fun evidence => evidence.affirmativelyEmpty = true := by
  refine coversWindow_iff hreferenced fun range => ?_
  rw [finalTally, (tallied_foldl records scope _).emptyRanges]
  simp only [fullPartitionsAccounted_iff]

theorem windowCovered_mono {kind other : ProviderCoverageEvidence → Prop}
    (hcovered : WindowCovered records scope kind) (himp : ∀ evidence, kind evidence → other evidence) :
    WindowCovered records scope other := by
  intro instant hinstant
  obtain ⟨evidence, bounds, husable, haccounted, hkind, hinside⟩ := hcovered instant hinstant
  exact ⟨evidence, bounds, husable, haccounted, himp evidence hkind, hinside⟩

/-- A covered window has current evidence, since the window has a first instant. -/
theorem someEvidence_of_windowCovered {kind : ProviderCoverageEvidence → Prop}
    (hcovered : WindowCovered records scope kind) : SomeEvidence records scope true := by
  obtain ⟨evidence, bounds, husable, -⟩ :=
    hcovered scope.windowStart ⟨le_rfl, scope.proper⟩
  exact ⟨evidence, bounds, husable⟩

theorem mem_identitiesIn {scopeId : String} {identity : FixtureIdentityResolution} :
    identity ∈ records.identitiesIn scopeId ↔
      identity ∈ records.identityResolutions ∧ identity.scopeId = scopeId := by
  unfold Retained.identitiesIn
  rw [List.mem_filter, decide_eq_true_eq]

theorem unresolvedIds_ne_nil_iff :
    unresolvedIds (records.identitiesIn scope.scopeId) ≠ [] ↔
      SomeIdentity records scope .unresolvedFixtureIdentity := by
  rw [ne_nil_iff_exists_mem]
  unfold unresolvedIds SomeIdentity
  simp only [List.mem_insertionSort, List.mem_map, List.mem_filter, mem_identitiesIn,
    decide_eq_true_eq]
  constructor
  · rintro ⟨_, identity, ⟨⟨hmem, hscope⟩, hstate⟩, -⟩
    exact ⟨identity, hmem, hscope, hstate⟩
  · rintro ⟨identity, hmem, hscope, hstate⟩
    exact ⟨_, identity, ⟨⟨hmem, hscope⟩, hstate⟩, rfl⟩

theorem resolvedFixtureIds_ne_nil_iff :
    resolvedFixtureIds (records.identitiesIn scope.scopeId) ≠ [] ↔
      SomeIdentity records scope .resolved := by
  rw [ne_nil_iff_exists_mem]
  unfold resolvedFixtureIds SomeIdentity
  simp only [List.mem_dedup, List.mem_map, List.mem_filter, mem_identitiesIn, decide_eq_true_eq]
  constructor
  · rintro ⟨_, identity, ⟨⟨hmem, hscope⟩, hstate⟩, -⟩
    exact ⟨identity, hmem, hscope, hstate⟩
  · rintro ⟨identity, hmem, hscope, hstate⟩
    exact ⟨_, identity, ⟨⟨hmem, hscope⟩, hstate⟩, rfl⟩

end Meaning

/-! ## One scope -/

theorem attempts_retained {records : Retained} (hreferenced : Referenced records)
    (scopeId : String) :
    ∀ item ∈ records.evidenceIn scopeId, (records.attempt? item.attemptId).isSome = true := by
  intro item hitem
  obtain ⟨attempt, hmem, hname, -⟩ := hreferenced.attempted item (mem_evidenceIn.mp hitem).1
  exact Option.isSome_iff_exists.mpr
    ⟨attempt, (find?_key_iff hreferenced.attempts).mpr ⟨hmem, hname⟩⟩

/-- The assessment of a scope in terms of its accumulators. -/
theorem assessScope_ok {records : Retained} {scope : Scope} {item : ScopeAssessment}
    (hreferenced : Referenced records) (hitem : assessScope records scope = .ok item) :
    item.scope = scope ∧
      item.coverageState = coverageState scope (finalTally records scope)
        (unresolvedIds (records.identitiesIn scope.scopeId))
        (resolvedFixtureIds (records.identitiesIn scope.scopeId)) ∧
      item.currentCoverageEvidenceIds =
        (finalTally records scope).current.insertionSort (· ≤ ·) ∧
      item.staleCoverageEvidenceIds =
        (finalTally records scope).stale.insertionSort (· ≤ ·) := by
  unfold assessScope at hitem
  simp only [] at hitem
  rw [tally_ok (attempts_retained hreferenced scope.scopeId)] at hitem
  cases hitem
  exact ⟨rfl, rfl, rfl, rfl⟩

/-- The chain of conditions, read with the meaning of every test. -/
theorem coverageState_justified {records : Retained} {scope : Scope}
    (hreferenced : Referenced records) :
    Justified records scope (coverageState scope (finalTally records scope)
      (unresolvedIds (records.identitiesIn scope.scopeId))
      (resolvedFixtureIds (records.identitiesIn scope.scopeId))) := by
  have hcurrent := @current_ne_nil_iff records scope hreferenced
  have hstale := @stale_ne_nil_iff records scope hreferenced
  have hcovered := @currentRanges_covers_iff records scope hreferenced
  have hempty := @emptyRanges_covers_iff records scope hreferenced
  have hunresolved := @unresolvedIds_ne_nil_iff records scope
  have hresolved := @resolvedFixtureIds_ne_nil_iff records scope
  have hsome : WindowCovered records scope (fun _ => True) → SomeEvidence records scope true :=
    someEvidence_of_windowCovered
  have hwider : WindowCovered records scope (fun evidence => evidence.affirmativelyEmpty = true) →
      WindowCovered records scope fun _ => True :=
    fun hwindow => windowCovered_mono hwindow fun _ _ => trivial
  have hnone : resolvedFixtureIds (records.identitiesIn scope.scopeId) = [] ↔
      ¬SomeIdentity records scope .resolved := by
    rw [← hresolved, ne_eq, Decidable.not_not]
  unfold coverageState
  split_ifs with hblocked hcomplete hvacant hpartial hold <;>
    simp only [Bool.and_eq_true, List.isEmpty_iff, isEmpty_not_iff, hcovered, hempty, hcurrent, hstale,
      hunresolved, hresolved, hnone] at *
  all_goals
    constructor <;> simp only [Complete, ConfirmedEmpty, reduceCtorEq, true_iff, false_iff] <;> tauto

/-! ## The schedule -/

/-- The state of the schedule says exactly what the states of its leagues show. -/
structure ScheduleJustified (records : Retained) (scopes : List Scope)
    (state : MatchweekScheduleState) : Prop where
  confirmedEmpty : state = .confirmedEmpty ↔ ∀ scope ∈ scopes, ConfirmedEmpty records scope
  complete : state = .complete ↔
    (∀ scope ∈ scopes, Complete records scope ∨ ConfirmedEmpty records scope) ∧
      ∃ scope ∈ scopes, Complete records scope
  partly : state = .partly ↔
    (∃ scope ∈ scopes, ¬Complete records scope ∧ ¬ConfirmedEmpty records scope) ∧
      ∃ scope ∈ scopes, SomeEvidence records scope true
  stale : state = .stale ↔ (∀ scope ∈ scopes, ¬SomeEvidence records scope true) ∧
    ∃ scope ∈ scopes, SomeEvidence records scope false
  unknown : state = .unknown ↔ (∀ scope ∈ scopes, ¬SomeEvidence records scope true) ∧
    ∀ scope ∈ scopes, ¬SomeEvidence records scope false

/-- What the assessment of one scope reports about its records. -/
structure Reported (records : Retained) (item : ScopeAssessment) : Prop where
  state : Justified records item.scope item.coverageState
  current : item.currentCoverageEvidenceIds ≠ [] ↔ SomeEvidence records item.scope true
  stale : item.staleCoverageEvidenceIds ≠ [] ↔ SomeEvidence records item.scope false

theorem insertionSort_ne_nil_iff {ids : List String} :
    ids.insertionSort (· ≤ ·) ≠ [] ↔ ids ≠ [] := by
  rw [ne_nil_iff_exists_mem, ne_nil_iff_exists_mem]
  simp only [List.mem_insertionSort]

theorem assessScope_reported {records : Retained} {scope : Scope} {item : ScopeAssessment}
    (hreferenced : Referenced records) (hitem : assessScope records scope = .ok item) :
    item.scope = scope ∧ Reported records item := by
  obtain ⟨rfl, hstate, hcurrent, hstale⟩ := assessScope_ok hreferenced hitem
  refine ⟨rfl, ?_, ?_, ?_⟩
  · rw [hstate]
    exact coverageState_justified hreferenced
  · rw [hcurrent, insertionSort_ne_nil_iff]
    exact current_ne_nil_iff hreferenced
  · rw [hstale, insertionSort_ne_nil_iff]
    exact stale_ne_nil_iff hreferenced

/-- The assessments of a list of scopes, one for each in their order. -/
theorem mapM_assessScope {records : Retained} {scopes : List Scope} {items : List ScopeAssessment}
    (hreferenced : Referenced records) (hitems : scopes.mapM (assessScope records) = .ok items) :
    items.map ScopeAssessment.scope = scopes ∧ ∀ item ∈ items, Reported records item := by
  induction scopes generalizing items with
  | nil =>
      cases hitems
      exact ⟨rfl, fun item hitem => absurd hitem List.not_mem_nil⟩
  | cons scope rest ih =>
      rw [List.mapM_cons] at hitems
      obtain ⟨item, hitem, hrest⟩ := bind_eq_ok.mp hitems
      obtain ⟨others, hothers, heq⟩ := bind_eq_ok.mp hrest
      cases heq
      obtain ⟨rfl, hreported⟩ := assessScope_reported hreferenced hitem
      obtain ⟨hscopes, hall⟩ := ih hothers
      exact ⟨congrArg _ hscopes, List.forall_mem_cons.mpr ⟨hreported, hall⟩⟩

theorem settled_iff {records : Retained} {item : ScopeAssessment}
    (hreported : Reported records item) :
    settled item = true ↔
      Complete records item.scope ∨ ConfirmedEmpty records item.scope := by
  unfold settled
  rw [Bool.or_eq_true, decide_eq_true_eq, decide_eq_true_eq, hreported.state.complete,
    hreported.state.confirmedEmpty]

/-- A complete league and a confirmed empty one exclude each other. -/
theorem not_confirmedEmpty_of_complete {records : Retained} {scope : Scope}
    (hcomplete : Complete records scope) : ¬ConfirmedEmpty records scope :=
  fun hempty => hempty.2.1 hcomplete.2.1

/-- The chain of tests on the schedule, read as propositions about its leagues. -/
theorem scheduleChain {settledAll emptyAll someComplete someCurrent someStale : Prop}
    [Decidable settledAll] [Decidable emptyAll] [Decidable someCurrent] [Decidable someStale]
    {state : MatchweekScheduleState}
    (hweaker : emptyAll → settledAll) (hsome : settledAll → (emptyAll ↔ ¬someComplete))
    (hevidence : settledAll → someCurrent)
    (hstate : state = if settledAll then if emptyAll then .confirmedEmpty else .complete
      else if someCurrent then .partly else if someStale then .stale else .unknown) :
    (state = .confirmedEmpty ↔ emptyAll) ∧ (state = .complete ↔ settledAll ∧ someComplete) ∧
      (state = .partly ↔ ¬settledAll ∧ someCurrent) ∧
      (state = .stale ↔ ¬someCurrent ∧ someStale) ∧
      (state = .unknown ↔ ¬someCurrent ∧ ¬someStale) := by
  subst hstate
  split_ifs <;> simp only [true_iff, false_iff] <;> tauto

theorem scheduleState_justified {records : Retained} {items : List ScopeAssessment}
    (hitems : items ≠ []) (hreported : ∀ item ∈ items, Reported records item) :
    ScheduleJustified records (items.map ScopeAssessment.scope) (scheduleState items) := by
  classical
  have hsettled : items.all settled = true ↔ ∀ scope ∈ items.map ScopeAssessment.scope,
      Complete records scope ∨ ConfirmedEmpty records scope := by
    rw [List.forall_mem_map, List.all_eq_true]
    exact forall₂_congr fun item hitem => settled_iff (hreported item hitem)
  have hempty : (items.all fun item => item.coverageState = .confirmedEmpty) = true ↔
      ∀ scope ∈ items.map ScopeAssessment.scope, ConfirmedEmpty records scope := by
    simp only [List.forall_mem_map, List.all_eq_true, decide_eq_true_eq]
    exact forall₂_congr fun item hitem => (hreported item hitem).state.confirmedEmpty
  have hcurrent : (items.any fun item => !item.currentCoverageEvidenceIds.isEmpty) = true ↔
      ∃ scope ∈ items.map ScopeAssessment.scope, SomeEvidence records scope true := by
    simp only [List.mem_map, exists_exists_and_eq_and, List.any_eq_true, isEmpty_not_iff]
    exact exists_congr fun item => and_congr_right fun hitem => (hreported item hitem).current
  have hstale : (items.any fun item => !item.staleCoverageEvidenceIds.isEmpty) = true ↔
      ∃ scope ∈ items.map ScopeAssessment.scope, SomeEvidence records scope false := by
    simp only [List.mem_map, exists_exists_and_eq_and, List.any_eq_true, isEmpty_not_iff]
    exact exists_congr fun item => and_congr_right fun hitem => (hreported item hitem).stale
  -- a settled league has current evidence, so the later tests see unsettled leagues only
  have hevidence : (∀ scope ∈ items.map ScopeAssessment.scope,
      Complete records scope ∨ ConfirmedEmpty records scope) →
      ∃ scope ∈ items.map ScopeAssessment.scope, SomeEvidence records scope true := by
    intro hall
    obtain ⟨item, hitem⟩ := List.exists_mem_of_ne_nil items hitems
    refine ⟨item.scope, List.mem_map_of_mem hitem, ?_⟩
    rcases hall item.scope (List.mem_map_of_mem hitem) with hcomplete | hvacant
    · exact someEvidence_of_windowCovered hcomplete.1
    · exact someEvidence_of_windowCovered hvacant.1
  have hsome : (∀ scope ∈ items.map ScopeAssessment.scope,
      Complete records scope ∨ ConfirmedEmpty records scope) →
      ((∀ scope ∈ items.map ScopeAssessment.scope, ConfirmedEmpty records scope) ↔
        ¬∃ scope ∈ items.map ScopeAssessment.scope, Complete records scope) := by
    intro hall
    constructor
    · rintro hvacant ⟨scope, hscope, hcomplete⟩
      exact not_confirmedEmpty_of_complete hcomplete (hvacant scope hscope)
    · intro hnone scope hscope
      exact (hall scope hscope).resolve_left fun hcomplete => hnone ⟨scope, hscope, hcomplete⟩
  have hstate : scheduleState items = if items.all settled = true then
      if (items.all fun item => item.coverageState = .confirmedEmpty) = true then .confirmedEmpty
      else .complete
      else if (items.any fun item => !item.currentCoverageEvidenceIds.isEmpty) = true then .partly
      else if (items.any fun item => !item.staleCoverageEvidenceIds.isEmpty) = true then .stale
      else .unknown := rfl
  simp only [hsettled, hempty, hcurrent, hstale] at hstate
  obtain ⟨hvacant, hcomplete, hpartly, hold, hunknown⟩ := scheduleChain
    (fun hall scope hscope => Or.inr (hall scope hscope)) hsome hevidence hstate
  refine ⟨hvacant, hcomplete, ?_, ?_, ?_⟩
  · rw [hpartly]
    push Not
    rfl
  · rw [hold]
    push Not
    rfl
  · rw [hunknown]
    push Not
    rfl

/-! ## The accepted assessment -/

theorem allLeagues_ne_nil (scope : FixtureScope) : scope.allLeagues ≠ [] := by
  unfold FixtureScope.allLeagues
  rw [ne_eq, List.map_eq_nil_iff, List.attach_eq_nil_iff]
  exact List.cons_ne_nil _ _

theorem checkScopes_ok {scopes : List FixtureScope} {first : FixtureScope}
    (hcheck : checkScopes scopes = .ok first) : scopes.head? = some first := by
  unfold checkScopes at hcheck
  split at hcheck
  · cases hcheck
  · split at hcheck
    · cases hcheck
    · split at hcheck
      · cases hcheck
      · cases hcheck
        rfl

/-- Every state of an accepted assessment is exactly justified by its records, for all
the leagues of the season and Matchweek of the first scope. -/
theorem assessFixtureCoverage_justified {scopes : List FixtureScope} {records : Retained}
    {assessment : FixtureCoverageAssessment}
    (haccepted : assessFixtureCoverage scopes records = .ok assessment) :
    ∃ first ∈ scopes.head?,
      assessment.scopeAssessments.map ScopeAssessment.scope =
        first.allLeagues.map FixtureScope.view ∧
      (∀ item ∈ assessment.scopeAssessments, Justified records item.scope item.coverageState) ∧
      ScheduleJustified records (first.allLeagues.map FixtureScope.view)
        assessment.scheduleState := by
  unfold assessFixtureCoverage at haccepted
  simp only [bind_eq_ok] at haccepted
  obtain ⟨_, -, first, hfirst, _, hcheck, items, hitems, heq⟩ := haccepted
  cases heq
  obtain ⟨hscopes, hreported⟩ := mapM_assessScope (referenced_of_checkReferences hcheck) hitems
  refine ⟨first, checkScopes_ok hfirst, hscopes, fun item hitem => (hreported item hitem).state, ?_⟩
  have hitems : items ≠ [] := by
    rintro rfl
    exact allLeagues_ne_nil first (List.map_eq_nil_iff.mp hscopes.symm)
  rw [← hscopes]
  exact scheduleState_justified hitems hreported

namespace EmptyLeague

/-- The Premier League in the Matchweek of Friday 2 October 2026. -/
def premierLeague : FixtureScope where
  leagueKey := "premier_league"
  season := "2026-27"
  matchweekFriday := 20728
  league_known := List.mem_cons_self
  season_text := by decide +kernel
  date_range := by decide
  friday := by decide

def attempt : ProviderAttempt where
  attemptId := "attempt-1"
  scopeId := premierLeague.scopeId
  providerId := "provider"
  capabilityId := "fixtures"
  state := .captured
  retrievedAtUtc := 0
  httpStatus := some 200
  captureId := some "capture-1"
  captureDigest := some "digest-1"
  named := by decide +kernel
  retrieved_range := Foundation.Timestamp.inRange_zero
  status_range := by decide
  capture_pair := rfl
  captured _ := rfl
  unavailable hunavailable := by cases hunavailable

/-- Affirmatively empty evidence for the whole window. -/
def evidence : ProviderCoverageEvidence where
  evidenceId := "evidence-1"
  attemptId := "attempt-1"
  scopeId := premierLeague.scopeId
  providerCompetitionKey := "premier_league"
  providerSeason := "2026-27"
  captureId := "capture-1"
  captureDigest := "digest-1"
  coverageBasis := some {
    kind := .explicitProviderMetadata
    referenceId := "metadata"
    version := none
    reference_text := by decide +kernel
    version_text := by decide
    versioned := by decide }
  bounds := some {
    startUtc := windowStartUtc 20728
    endUtc := windowEndUtc 20728
    start_range := by decide
    end_range := by decide
    ordered := by decide }
  providerUsePolicyId := some "policy"
  permittedForUse := true
  requiredPartitionIds := []
  accountedPartitionIds := []
  paginationExhausted := true
  affirmativelyEmpty := true
  named := by decide +kernel
  policy_text := by decide +kernel
  permitted_policy _ := rfl
  required_unique := sortedUnique_nil
  accounted_unique := sortedUnique_nil
  accounted_subset := List.Subset.refl _

theorem evidence_named : blank "evidence-1" = false ∧ blank "freshness" = false := by
  decide +kernel

def records : Retained where
  providerAttempts := [attempt]
  coverageEvidence := [evidence]
  fixtureRevisions := []
  identityResolutions := []
  freshnessResults := [{
    evidenceId := "evidence-1"
    policyId := "freshness"
    evaluatedAtUtc := 0
    isCurrent := true
    named := evidence_named
    evaluated_range := Foundation.Timestamp.inRange_zero }]

theorem accepted :
    (assessFixtureCoverage [premierLeague] records).toOption.isSome = true := by
  decide +kernel

/-- One league without a fixture, and six leagues without evidence. -/
theorem emptyLeague_justified :
    ∃ assessment, assessFixtureCoverage [premierLeague] records = .ok assessment ∧
      ∃ first ∈ [premierLeague].head?,
        assessment.scopeAssessments.map ScopeAssessment.scope =
          first.allLeagues.map FixtureScope.view ∧
        (∀ item ∈ assessment.scopeAssessments,
          Justified records item.scope item.coverageState) ∧
        ScheduleJustified records (first.allLeagues.map FixtureScope.view)
          assessment.scheduleState := by
  obtain ⟨assessment, hassess⟩ := exists_ok_of_isSome accepted
  exact ⟨assessment, hassess, assessFixtureCoverage_justified hassess⟩

end EmptyLeague

end MatchVet.F01.CoverageStates
