import MatchVet.F01.Payload
import MatchVet.F01.SlateAgreement

/-!
# Input order

An assessment and its digest do not depend on the order in which the scopes and the
five kinds of records are given.
-/

namespace MatchVet.F01.InputOrder

open MatchVet.F01.CoverageStates
open MatchVet.F01.Payload
open MatchVet.F01.Records
open MatchVet.F01.Slate
open MatchVet.F01.SlateAgreement
open MatchVet.F01.Weekly
open MatchVet.Foundation.CanonicalJson
open MatchVet.Foundation.KeySort
open MatchVet.Foundation.Runtime

/-- The same records, every kind in some other order. -/
structure Reordered (records others : Retained) : Prop where
  attempts : records.providerAttempts.Perm others.providerAttempts
  evidence : records.coverageEvidence.Perm others.coverageEvidence
  revisions : records.fixtureRevisions.Perm others.fixtureRevisions
  identities : records.identityResolutions.Perm others.identityResolutions
  freshness : records.freshnessResults.Perm others.freshnessResults

/-- Records that are told apart by their keys. -/
structure DistinctKeys (records : Retained) : Prop where
  attempts : (records.providerAttempts.map ProviderAttempt.attemptId).Nodup
  evidence : (records.coverageEvidence.map ProviderCoverageEvidence.evidenceId).Nodup
  revisions : (records.fixtureRevisions.map FixtureRevisionReference.revisionId).Nodup
  identities : (records.identityResolutions.map FixtureIdentityResolution.candidateId).Nodup
  freshness : (records.freshnessResults.map CoverageFreshnessResult.evidenceId).Nodup

/-! ## Arguments that are read in order -/

/-- One policy is found in any order of the results, and several are refused. -/
theorem singleFreshnessPolicyId_perm {first second : List CoverageFreshnessResult}
    (hperm : first.Perm second) :
    singleFreshnessPolicyId first = singleFreshnessPolicyId second := by
  have hpolicies : (first.map CoverageFreshnessResult.policyId).dedup.Perm
      (second.map CoverageFreshnessResult.policyId).dedup := (hperm.map _).dedup
  unfold singleFreshnessPolicyId
  dsimp only
  rw [hpolicies.length_eq]
  split
  · rfl
  next hsingle =>
    have hlength : (second.map CoverageFreshnessResult.policyId).dedup.length ≤ 1 :=
      Nat.le_of_not_lt hsingle
    match hsecond : (second.map CoverageFreshnessResult.policyId).dedup, hlength with
    | [], _ =>
        rw [hsecond] at hpolicies
        rw [List.perm_nil.mp hpolicies]
    | [policy], _ =>
        rw [hsecond] at hpolicies
        rw [List.perm_singleton.mp hpolicies]

/-- Scopes of one season and Matchweek name the same seven leagues, whichever is first. -/
theorem allLeagues_eq {first second : FixtureScope} (hseason : first.season = second.season)
    (hfriday : first.matchweekFriday = second.matchweekFriday) :
    first.allLeagues = second.allLeagues := by
  cases first
  cases second
  cases hseason
  cases hfriday
  rfl

theorem checkScopes_ok_iff {first : FixtureScope} {rest : List FixtureScope}
    {found : FixtureScope} :
    checkScopes (first :: rest) = .ok found ↔
      found = first ∧ ((first :: rest).map FixtureScope.leagueKey).Nodup ∧
        ∀ scope ∈ first :: rest,
          scope.season = first.season ∧ scope.matchweekFriday = first.matchweekFriday := by
  unfold checkScopes
  dsimp only
  split
  next hrepeated =>
    constructor
    · intro hfalse
      cases hfalse
    · intro hall
      exact absurd hall.2.1 hrepeated
  next hdistinct =>
    rw [Decidable.not_not] at hdistinct
    split
    next hmixed =>
      obtain ⟨scope, hscope, hother⟩ := List.any_eq_true.mp hmixed
      constructor
      · intro hfalse
        cases hfalse
      · intro hall
        simp [hall.2.2 scope hscope] at hother
    next hshared =>
      have hall : ∀ scope ∈ first :: rest,
          scope.season = first.season ∧ scope.matchweekFriday = first.matchweekFriday := by
        intro scope hscope
        by_contra hother
        refine hshared (List.any_eq_true.mpr ⟨scope, hscope, ?_⟩)
        rw [not_and_or] at hother
        rcases hother with hseason | hfriday
        · simp [hseason]
        · simp [hfriday]
      constructor
      · intro hfound
        cases hfound
        exact ⟨rfl, hdistinct, hall⟩
      · rintro ⟨rfl, -⟩
        rfl

/-- Accepted scopes are accepted in any order, for the same seven leagues. -/
theorem checkScopes_perm {scopes others : List FixtureScope} {first : FixtureScope}
    (hperm : scopes.Perm others) (hcheck : checkScopes scopes = .ok first) :
    ∃ second, checkScopes others = .ok second ∧ second.allLeagues = first.allLeagues := by
  cases scopes with
  | nil => cases hcheck
  | cons head rest =>
      obtain ⟨rfl, hdistinct, hshared⟩ := checkScopes_ok_iff.mp hcheck
      cases others with
      | nil => exact absurd (List.perm_nil.mp hperm) (List.cons_ne_nil _ _)
      | cons second tail =>
          have hmem : ∀ scope ∈ second :: tail, scope ∈ first :: rest :=
            fun scope hscope => hperm.mem_iff.mpr hscope
          have hsecond := hshared second (hmem second List.mem_cons_self)
          refine ⟨second, checkScopes_ok_iff.mpr ⟨rfl, ?_, ?_⟩, allLeagues_eq hsecond.1 hsecond.2⟩
          · exact (hperm.map _).nodup_iff.mp hdistinct
          · intro scope hscope
            have hscope := hshared scope (hmem scope hscope)
            exact ⟨hscope.1.trans hsecond.1.symm, hscope.2.trans hsecond.2.symm⟩

/-! ## Lookups -/

section Lookups

variable {records others : Retained}

theorem DistinctKeys.reordered (hkeys : DistinctKeys records)
    (hreordered : Reordered records others) : DistinctKeys others where
  attempts := (hreordered.attempts.map _).nodup_iff.mp hkeys.attempts
  evidence := (hreordered.evidence.map _).nodup_iff.mp hkeys.evidence
  revisions := (hreordered.revisions.map _).nodup_iff.mp hkeys.revisions
  identities := (hreordered.identities.map _).nodup_iff.mp hkeys.identities
  freshness := (hreordered.freshness.map _).nodup_iff.mp hkeys.freshness

theorem attempt?_reordered (hreordered : Reordered records others)
    (hnodup : (records.providerAttempts.map ProviderAttempt.attemptId).Nodup) :
    others.attempt? = records.attempt? :=
  funext fun name => (find?_key_eq_of_perm hreordered.attempts hnodup name).symm

theorem evidence?_reordered (hreordered : Reordered records others)
    (hnodup : (records.coverageEvidence.map ProviderCoverageEvidence.evidenceId).Nodup) :
    others.evidence? = records.evidence? :=
  funext fun name => (find?_key_eq_of_perm hreordered.evidence hnodup name).symm

theorem revision?_reordered (hreordered : Reordered records others)
    (hnodup : (records.fixtureRevisions.map FixtureRevisionReference.revisionId).Nodup) :
    others.revision? = records.revision? :=
  funext fun name => (find?_key_eq_of_perm hreordered.revisions hnodup name).symm

theorem freshness?_reordered (hreordered : Reordered records others)
    (hnodup : (records.freshnessResults.map CoverageFreshnessResult.evidenceId).Nodup) :
    others.freshness? = records.freshness? :=
  funext fun name => (find?_key_eq_of_perm hreordered.freshness hnodup name).symm

/-- Records with distinct keys are retained in the same order. -/
theorem sorted_reordered (hreordered : Reordered records others) (hkeys : DistinctKeys records) :
    others.sorted = records.sorted := by
  have hscoped : ∀ {α : Type} {scopeId key : α → String} {first second : List α},
      first.Perm second → (first.map key).Nodup →
        sortedByScope scopeId key second = sortedByScope scopeId key first := by
    intro α scopeId key first second hperm hnodup
    refine (sortedOn_eq_of_perm (fun item => toLex (scopeId item, key item)) hperm ?_).symm
    intro left hleft right hright heq
    have hpair : (scopeId left, key left) = (scopeId right, key right) := toLex.injective heq
    exact List.inj_on_of_nodup_map hnodup hleft hright (congrArg Prod.snd hpair)
  have hfreshness : sortedBy CoverageFreshnessResult.evidenceId others.freshnessResults =
      sortedBy CoverageFreshnessResult.evidenceId records.freshnessResults := by
    refine (sortedOn_eq_of_perm CoverageFreshnessResult.evidenceId hreordered.freshness ?_).symm
    intro left hleft right hright heq
    exact List.inj_on_of_nodup_map hkeys.freshness hleft hright heq
  unfold Retained.sorted
  rw [hscoped hreordered.attempts hkeys.attempts, hscoped hreordered.evidence hkeys.evidence,
    hscoped hreordered.revisions hkeys.revisions, hscoped hreordered.identities hkeys.identities,
    hfreshness]

end Lookups

/-! ## Checks of the weekly assessor -/

/-- A check that accepts the items in one order accepts them in every order. -/
theorem checkEach_perm {α : Type} {key : α → String} {duplicate : String}
    {check other : α → Except CoverageError Unit} {first second : List α}
    (hperm : first.Perm second) (hcheck : ∀ item ∈ first, check item = .ok () → other item = .ok ())
    (haccepted : checkEach key duplicate check [] first = .ok ()) :
    checkEach key duplicate other [] second = .ok () := by
  obtain ⟨hnodup, -, hall⟩ := checkEach_ok_iff.mp haccepted
  refine checkEach_ok_iff.mpr ⟨(hperm.map _).nodup_iff.mp hnodup, fun _ _ => List.not_mem_nil, ?_⟩
  intro item hitem
  have hitem := hperm.mem_iff.mpr hitem
  exact hcheck item hitem (hall item hitem)

section Checks

variable {records others : Retained} {scopeIds : List String}

theorem distinctKeys_of_checkReferences (hcheck : checkReferences scopeIds records = .ok ()) :
    DistinctKeys records := by
  unfold checkReferences at hcheck
  simp only [bind_eq_ok] at hcheck
  obtain ⟨_, hattempts, _, hevidence, _, hrevisions, _, hidentities, _, -, hfreshness⟩ := hcheck
  exact {
    attempts := (checkEach_ok_iff.mp hattempts).1
    evidence := (checkEach_ok_iff.mp hevidence).1
    revisions := (checkEach_ok_iff.mp hrevisions).1
    identities := (checkEach_ok_iff.mp hidentities).1
    freshness := (checkEach_ok_iff.mp hfreshness).1 }

theorem captureAllowed_reordered (hreordered : Reordered records others)
    (scopeId captureId : String) :
    captureAllowed others scopeId captureId = captureAllowed records scopeId captureId := by
  have hattempted : (records.providerAttempts.filter fun item =>
      item.captureId = some captureId).Perm (others.providerAttempts.filter fun item =>
      item.captureId = some captureId) := hreordered.attempts.filter _
  unfold captureAllowed
  dsimp only
  rw [hattempted.isEmpty_eq, hattempted.any_eq]

theorem checkRevision_reordered (hreordered : Reordered records others) :
    checkRevision scopeIds others = checkRevision scopeIds records := by
  funext revision
  have hcaptures : captureAllowed others revision.scopeId =
      captureAllowed records revision.scopeId :=
    funext (captureAllowed_reordered hreordered revision.scopeId)
  unfold checkRevision
  rw [hcaptures]

theorem checkLinked_reordered (hreordered : Reordered records others) :
    checkLinked others = checkLinked records := by
  have hlinked : ∀ revision : FixtureRevisionReference,
      (others.identityResolutions.any fun identity =>
        identity.revisionIds.contains revision.revisionId) =
      records.identityResolutions.any fun identity =>
        identity.revisionIds.contains revision.revisionId :=
    fun revision => hreordered.identities.any_eq.symm
  unfold checkLinked
  simp only [hlinked, hreordered.revisions.all_eq]

/-- The references of accepted records are accepted in any order. -/
theorem checkReferences_reordered (hreordered : Reordered records others)
    (hcheck : checkReferences scopeIds records = .ok ()) :
    checkReferences scopeIds others = .ok () := by
  have hkeys := distinctKeys_of_checkReferences hcheck
  unfold checkReferences at hcheck ⊢
  simp only [bind_eq_ok] at hcheck ⊢
  obtain ⟨_, hattempts, _, hevidence, _, hrevisions, _, hidentities, _, hlinked, hfreshness⟩ :=
    hcheck
  refine ⟨(), ?_, (), ?_, (), ?_, (), ?_, (), ?_, ?_⟩
  · exact checkEach_perm hreordered.attempts (fun _ _ hitem => hitem) hattempts
  · refine checkEach_perm hreordered.evidence (fun item _ hitem => ?_) hevidence
    unfold checkEvidence at hitem ⊢
    rw [attempt?_reordered hreordered hkeys.attempts]
    exact hitem
  · refine checkEach_perm hreordered.revisions (fun item _ hitem => ?_) hrevisions
    rw [checkRevision_reordered hreordered]
    exact hitem
  · refine checkEach_perm hreordered.identities (fun item _ hitem => ?_) hidentities
    unfold checkIdentity at hitem ⊢
    rw [revision?_reordered hreordered hkeys.revisions]
    exact hitem
  · rw [checkLinked_reordered hreordered]
    exact hlinked
  · refine checkEach_perm hreordered.freshness (fun item _ hitem => ?_) hfreshness
    unfold checkFreshness at hitem ⊢
    rw [evidence?_reordered hreordered hkeys.evidence]
    exact hitem

end Checks

/-! ## One scope -/

section Scope

variable {records others : Retained}

theorem referenced_reordered (hreferenced : Referenced records)
    (hreordered : Reordered records others) : Referenced others where
  attempts := (hreordered.attempts.map _).nodup_iff.mp hreferenced.attempts
  evidence := (hreordered.evidence.map _).nodup_iff.mp hreferenced.evidence
  freshness := (hreordered.freshness.map _).nodup_iff.mp hreferenced.freshness
  attempted evidence hevidence := by
    obtain ⟨attempt, hattempt, hfacts⟩ :=
      hreferenced.attempted evidence (hreordered.evidence.mem_iff.mpr hevidence)
    exact ⟨attempt, hreordered.attempts.mem_iff.mp hattempt, hfacts⟩

theorem evidenceIn_reordered (hreordered : Reordered records others) (scopeId : String) :
    (records.evidenceIn scopeId).Perm (others.evidenceIn scopeId) :=
  hreordered.evidence.filter _

theorem identitiesIn_reordered (hreordered : Reordered records others) (scopeId : String) :
    (records.identitiesIn scopeId).Perm (others.identitiesIn scopeId) :=
  hreordered.identities.filter _

/-- Another order of the records changes no claim. -/
theorem addClaim_reordered (hreordered : Reordered records others)
    (hreferenced : Referenced records) (scope : Scope) :
    addClaim others scope = addClaim records scope := by
  funext tally evidence
  unfold addClaim claim?
  rw [attempt?_reordered hreordered hreferenced.attempts,
    freshness?_reordered hreordered hreferenced.freshness]

theorem finalTally_reordered (hreordered : Reordered records others)
    (hreferenced : Referenced records) (scope : Scope) :
    Rearranged (finalTally records scope) (finalTally others scope) := by
  unfold finalTally
  rw [addClaim_reordered hreordered hreferenced]
  exact foldl_rearranged (evidenceIn_reordered hreordered scope.scopeId) .empty

/-- The sorted parts of a scope's assessment, read off either order of the records. -/
structure SameParts (records others : Retained) (scopeId : String) : Prop where
  attempts : ((records.attemptsIn scopeId).map ProviderAttempt.attemptId).insertionSort (· ≤ ·) =
    ((others.attemptsIn scopeId).map ProviderAttempt.attemptId).insertionSort (· ≤ ·)
  evidence :
    ((records.evidenceIn scopeId).map
      ProviderCoverageEvidence.evidenceId).insertionSort (· ≤ ·) =
    ((others.evidenceIn scopeId).map ProviderCoverageEvidence.evidenceId).insertionSort (· ≤ ·)
  revisions : sortedBy FixtureRevisionReference.revisionId (records.revisionsIn scopeId) =
    sortedBy FixtureRevisionReference.revisionId (others.revisionsIn scopeId)
  freshness : sortedBy CoverageFreshnessResult.evidenceId
      ((records.evidenceIn scopeId).filterMap fun item => records.freshness? item.evidenceId) =
    sortedBy CoverageFreshnessResult.evidenceId
      ((others.evidenceIn scopeId).filterMap fun item => others.freshness? item.evidenceId)
  unresolved : unresolvedIds (records.identitiesIn scopeId) =
    unresolvedIds (others.identitiesIn scopeId)

theorem sameParts (hreordered : Reordered records others) (hkeys : DistinctKeys records)
    (hreferenced : Referenced records) (scopeId : String) :
    SameParts records others scopeId where
  attempts := insertionSort_eq_of_perm ((hreordered.attempts.filter _).map _)
  evidence := insertionSort_eq_of_perm ((evidenceIn_reordered hreordered scopeId).map _)
  revisions := by
    refine sortedOn_eq_of_perm FixtureRevisionReference.revisionId
      (hreordered.revisions.filter _) ?_
    intro left hleft right hright heq
    exact List.inj_on_of_nodup_map (hkeys.revisions.sublist (List.filter_sublist.map _)) hleft
      hright heq
  freshness := by
    rw [freshness?_reordered hreordered hreferenced.freshness]
    refine sortedOn_eq_of_perm CoverageFreshnessResult.evidenceId
      ((evidenceIn_reordered hreordered scopeId).filterMap _) ?_
    intro left hleft right hright heq
    exact List.inj_on_of_nodup_map (freshness_nodup hreferenced scopeId) hleft hright heq
  unresolved := unresolvedIds_eq_of_perm (identitiesIn_reordered hreordered scopeId)

/-- The state of a scope is the same from either order of the records. -/
theorem coverageState_reordered (hreordered : Reordered records others)
    (hreferenced : Referenced records) (scope : Scope) :
    coverageState scope (finalTally records scope)
        (unresolvedIds (records.identitiesIn scope.scopeId))
        (resolvedFixtureIds (records.identitiesIn scope.scopeId)) =
      coverageState scope (finalTally others scope)
        (unresolvedIds (others.identitiesIn scope.scopeId))
        (resolvedFixtureIds (others.identitiesIn scope.scopeId)) := by
  have hidentities := identitiesIn_reordered hreordered scope.scopeId
  rw [unresolvedIds_eq_of_perm hidentities]
  exact coverageState_rearranged (finalTally_reordered hreordered hreferenced scope) _
    (resolvedFixtureIds_perm hidentities)

/-- The weekly assessment of a scope by its accumulators. -/
def weeklyItem (records : Retained) (scope : Scope) : ScopeAssessment where
  scope := scope
  coverageState := coverageState scope (finalTally records scope)
    (unresolvedIds (records.identitiesIn scope.scopeId))
    (resolvedFixtureIds (records.identitiesIn scope.scopeId))
  providerAttemptIds :=
    ((records.attemptsIn scope.scopeId).map ProviderAttempt.attemptId).insertionSort (· ≤ ·)
  coverageEvidenceIds :=
    ((records.evidenceIn scope.scopeId).map
      ProviderCoverageEvidence.evidenceId).insertionSort (· ≤ ·)
  fixtureRevisions :=
    sortedBy FixtureRevisionReference.revisionId (records.revisionsIn scope.scopeId)
  identityBlockerCandidateIds := unresolvedIds (records.identitiesIn scope.scopeId)
  freshnessResults := sortedBy CoverageFreshnessResult.evidenceId
    ((records.evidenceIn scope.scopeId).filterMap fun item => records.freshness? item.evidenceId)
  currentCoverageEvidenceIds := (finalTally records scope).current.insertionSort (· ≤ ·)
  staleCoverageEvidenceIds := (finalTally records scope).stale.insertionSort (· ≤ ·)

theorem assessScope_eq (hreferenced : Referenced records) (scope : Scope) :
    assessScope records scope = .ok (weeklyItem records scope) := by
  unfold assessScope
  dsimp only
  rw [tally_ok (attempts_retained hreferenced scope.scopeId)]
  rfl

theorem weeklyItem_reordered (hreordered : Reordered records others)
    (hkeys : DistinctKeys records) (hreferenced : Referenced records) (scope : Scope) :
    weeklyItem others scope = weeklyItem records scope := by
  have hparts := sameParts hreordered hkeys hreferenced scope.scopeId
  have htally := finalTally_reordered hreordered hreferenced scope
  unfold weeklyItem
  rw [coverageState_reordered hreordered hreferenced, hparts.attempts, hparts.evidence,
    hparts.revisions, hparts.freshness, hparts.unresolved,
    insertionSort_eq_of_perm htally.current, insertionSort_eq_of_perm htally.stale]

/-- The assessment of a slate scope with the entries of a weekly one. -/
def ofWeekly (scope : SlateFixtureScope) (item : ScopeAssessment) :
    SlateFixtureScopeAssessment where
  scope := scope
  coverageState := item.coverageState
  providerAttemptIds := item.providerAttemptIds
  coverageEvidenceIds := item.coverageEvidenceIds
  fixtureRevisions := item.fixtureRevisions
  identityBlockerCandidateIds := item.identityBlockerCandidateIds
  freshnessResults := item.freshnessResults
  currentCoverageEvidenceIds := item.currentCoverageEvidenceIds
  staleCoverageEvidenceIds := item.staleCoverageEvidenceIds

theorem slateItem_reordered [Hashing] (hreordered : Reordered records others)
    (hkeys : DistinctKeys records) (hreferenced : Referenced records)
    (scope : SlateFixtureScope) : slateItem others scope = slateItem records scope :=
  congrArg (ofWeekly scope) (weeklyItem_reordered hreordered hkeys hreferenced scope.view)

end Scope

/-! ## The whole assessments -/

section Whole

variable {records others : Retained}

theorem mapM_assessScope_eq (hreferenced : Referenced records) (scopes : List Scope) :
    scopes.mapM (assessScope records) = .ok (scopes.map (weeklyItem records)) := by
  induction scopes with
  | nil => rfl
  | cons scope rest ih =>
      rw [List.mapM_cons, assessScope_eq hreferenced scope, ih]
      rfl

/-- The scopes of an accepted call are accepted in any order, for the same leagues. -/
theorem assessFixtureCoverage_reordered {scopes otherScopes : List FixtureScope}
    {assessment : FixtureCoverageAssessment} (hscopes : scopes.Perm otherScopes)
    (hreordered : Reordered records others)
    (haccepted : assessFixtureCoverage scopes records = .ok assessment) :
    assessFixtureCoverage otherScopes others = .ok assessment := by
  unfold assessFixtureCoverage at haccepted
  simp only [bind_eq_ok] at haccepted
  obtain ⟨policy, hpolicy, first, hfirst, _, hcheck, items, hitems, heq⟩ := haccepted
  obtain ⟨second, hsecond, hleagues⟩ := checkScopes_perm hscopes hfirst
  have hkeys := distinctKeys_of_checkReferences hcheck
  have hreferenced := referenced_of_checkReferences hcheck
  rw [mapM_assessScope_eq hreferenced] at hitems
  have hsame : weeklyItem others = weeklyItem records :=
    funext (weeklyItem_reordered hreordered hkeys hreferenced)
  unfold assessFixtureCoverage
  simp only [bind_eq_ok]
  refine ⟨policy, ?_, second, hsecond, (), ?_, items, ?_, ?_⟩
  · rw [← singleFreshnessPolicyId_perm hreordered.freshness]
    exact hpolicy
  · rw [hleagues]
    exact checkReferences_reordered hreordered hcheck
  · rw [hleagues, mapM_assessScope_eq (referenced_reordered hreferenced hreordered), hsame]
    exact hitems
  · rw [sorted_reordered hreordered hkeys]
    exact heq

theorem checked_reordered {scopeIds : List String} (hchecked : Checked scopeIds records)
    (hreordered : Reordered records others) : Checked scopeIds others where
  attempts := (hreordered.attempts.map _).nodup_iff.mp hchecked.attempts
  attemptScopes item hitem :=
    hchecked.attemptScopes item (hreordered.attempts.mem_iff.mpr hitem)
  evidence := (hreordered.evidence.map _).nodup_iff.mp hchecked.evidence
  evidenceScopes item hitem :=
    hchecked.evidenceScopes item (hreordered.evidence.mem_iff.mpr hitem)
  evidenceAttempts item hitem := by
    unfold AttemptMatches
    rw [attempt?_reordered hreordered hchecked.attempts]
    exact hchecked.evidenceAttempts item (hreordered.evidence.mem_iff.mpr hitem)
  revisionScopes item hitem :=
    hchecked.revisionScopes item (hreordered.revisions.mem_iff.mpr hitem)
  identityScopes item hitem :=
    hchecked.identityScopes item (hreordered.identities.mem_iff.mpr hitem)
  freshness := (hreordered.freshness.map _).nodup_iff.mp hchecked.freshness
  freshnessKnown item hitem := by
    rw [evidence?_reordered hreordered hchecked.evidence]
    exact hchecked.freshnessKnown item (hreordered.freshness.mem_iff.mpr hitem)

/-- The records of an assessment are told apart when their retained order is. -/
theorem DistinctKeys.of_sorted (hkeys : DistinctKeys records.sorted) : DistinctKeys records where
  attempts := ((sorted_attempts records).map _).nodup_iff.mp hkeys.attempts
  evidence := ((sorted_evidence records).map _).nodup_iff.mp hkeys.evidence
  revisions := ((sorted_revisions records).map _).nodup_iff.mp hkeys.revisions
  identities := ((sorted_identities records).map _).nodup_iff.mp hkeys.identities
  freshness := ((sorted_freshness records).map _).nodup_iff.mp hkeys.freshness

variable [Hashing]

/-- The stored weekly assessment is the same for every order of an accepted call. -/
theorem assessWeekly_reordered {scopes otherScopes : List FixtureScope}
    {assessment : WeeklyAssessment} (hscopes : scopes.Perm otherScopes)
    (hreordered : Reordered records others)
    (haccepted : assessWeekly scopes records = .ok assessment) :
    assessWeekly otherScopes others = .ok assessment := by
  unfold assessWeekly at haccepted
  simp only [bind_eq_ok] at haccepted
  obtain ⟨found, hfound, first, hfirst, hconstruct⟩ := haccepted
  obtain ⟨second, hsecond, hleagues⟩ := checkScopes_perm hscopes hfirst
  unfold assessWeekly
  simp only [bind_eq_ok]
  refine ⟨found, assessFixtureCoverage_reordered hscopes hreordered hfound, second, hsecond, ?_⟩
  rw [hleagues]
  exact hconstruct

/-- A constructed slate assessment tells its records apart. -/
theorem distinctKeys_of_construct {made assessment : SlateFixtureCoverageAssessment}
    (hconstruct : construct made = .ok assessment) : DistinctKeys made.records := by
  unfold construct at hconstruct
  simp only [bind_eq_ok, require_ok_iff] at hconstruct
  obtain ⟨_, -, _, -, _, -, _, -, scopes, -, _, -, _, hrecords, -⟩ := hconstruct
  unfold checkRecords at hrecords
  simp only [bind_eq_ok, require_ok_iff] at hrecords
  obtain ⟨_, ⟨hattempts, -⟩, _, hevidence, _, -, _, ⟨hfreshness, -⟩, _, ⟨hrevisions, -⟩, _,
    hidentities, -⟩ := hrecords
  exact ⟨hattempts, hevidence, hrevisions, hidentities, hfreshness⟩

/-- The slate assessment is the same for every order of an accepted call. -/
theorem assessSlateFixtureCoverage_reordered {window : SlateWindow} {activeScope : ActiveScope}
    {assessment : SlateFixtureCoverageAssessment} (hreordered : Reordered records others)
    (haccepted : assessSlateFixtureCoverage records window activeScope = .ok assessment) :
    assessSlateFixtureCoverage others window activeScope = .ok assessment := by
  unfold assessSlateFixtureCoverage assessWithExistingRules at haccepted
  simp only [bind_eq_ok] at haccepted
  obtain ⟨scopes, hscopes, _, hinputs, items, hitems, policy, hpolicy, hconstruct⟩ := haccepted
  have hchecked := checkInputs_ok_iff.mp hinputs
  have hkeys := (distinctKeys_of_construct hconstruct).of_sorted
  have hreferenced := hchecked.referenced
  have hwindow := (mem_slateFixtureScopes hscopes).2
  rw [mapM_assessSlateScope hreferenced hwindow] at hitems
  have hsame : slateItem others = slateItem records :=
    funext (slateItem_reordered hreordered hkeys hreferenced)
  unfold assessSlateFixtureCoverage assessWithExistingRules
  simp only [bind_eq_ok]
  refine ⟨scopes, hscopes, (), checkInputs_ok_iff.mpr (checked_reordered hchecked hreordered),
    items, ?_, policy, ?_, ?_⟩
  · rw [mapM_assessSlateScope (referenced_reordered hreferenced hreordered) hwindow, hsame]
    exact hitems
  · rw [← singleFreshnessPolicyId_perm hreordered.freshness]
    exact hpolicy
  · rw [sorted_reordered hreordered hkeys]
    exact hconstruct

/-- Every order of the arguments of an accepted call is accepted, with an equal assessment
and the same digest, by the weekly and by the slate assessor. -/
theorem assessment_inputOrder :
    (∀ {scopes otherScopes : List FixtureScope} {records others : Retained}
      {assessment : WeeklyAssessment}, assessWeekly scopes records = .ok assessment →
      scopes.Perm otherScopes → Reordered records others →
      ∃ other, assessWeekly otherScopes others = .ok other ∧ other = assessment ∧
        other.digest = assessment.digest) ∧
    ∀ {window : SlateWindow} {activeScope : ActiveScope} {records others : Retained}
      {assessment : SlateFixtureCoverageAssessment},
      assessSlateFixtureCoverage records window activeScope = .ok assessment →
      Reordered records others →
      ∃ other, assessSlateFixtureCoverage others window activeScope = .ok other ∧
        other = assessment ∧ slateDigest other = slateDigest assessment := by
  refine ⟨?_, ?_⟩
  · intro scopes otherScopes records others assessment haccepted hscopes hreordered
    exact ⟨assessment, assessWeekly_reordered hscopes hreordered haccepted, rfl, rfl⟩
  · intro window activeScope records others assessment haccepted hreordered
    exact ⟨assessment, assessSlateFixtureCoverage_reordered hreordered haccepted, rfl, rfl⟩

end Whole

namespace TwoClaims

local instance : Hashing := shapeHashing

/-- Two pieces of evidence about one league, and their freshness. -/
def records : Retained := { PremierLeague.records with
  coverageEvidence := [PremierLeague.evidence "evidence-1" PremierLeague.first_text,
    PremierLeague.evidence "evidence-2" PremierLeague.second_text]
  freshnessResults := [PremierLeague.result "evidence-1" "freshness" EmptyLeague.evidence_named,
    PremierLeague.result "evidence-2" "freshness" (by decide +kernel)] }

/-- The same records, the last captured first. -/
def others : Retained := { records with
  coverageEvidence := records.coverageEvidence.reverse
  freshnessResults := records.freshnessResults.reverse }

theorem reordered : Reordered records others where
  attempts := List.Perm.refl _
  evidence := (List.reverse_perm _).symm
  revisions := List.Perm.refl _
  identities := List.Perm.refl _
  freshness := (List.reverse_perm _).symm

theorem weekly_accepted :
    (assessWeekly EmptyLeague.premierLeague.allLeagues EmptyLeague.records).toOption.isSome =
      true := by
  decide +kernel

theorem slate_accepted :
    (assessSlateFixtureCoverage records PremierLeague.window .successorFive).toOption.isSome =
      true := by
  decide +kernel

/-- Seven scopes and two pieces of evidence, given forwards and backwards. -/
theorem twoClaims_reordered :
    (∃ assessment other,
      assessWeekly EmptyLeague.premierLeague.allLeagues EmptyLeague.records = .ok assessment ∧
      assessWeekly EmptyLeague.premierLeague.allLeagues.reverse EmptyLeague.records = .ok other ∧
      other = assessment ∧ other.digest = assessment.digest) ∧
    ∃ assessment other,
      assessSlateFixtureCoverage records PremierLeague.window .successorFive = .ok assessment ∧
      assessSlateFixtureCoverage others PremierLeague.window .successorFive = .ok other ∧
      other = assessment ∧ slateDigest other = slateDigest assessment := by
  constructor
  · obtain ⟨assessment, hassess⟩ := exists_ok_of_isSome weekly_accepted
    obtain ⟨other, hother, hsame⟩ := assessment_inputOrder.1 hassess
      (List.reverse_perm _).symm ⟨.refl _, .refl _, .refl _, .refl _, .refl _⟩
    exact ⟨assessment, other, hassess, hother, hsame⟩
  · obtain ⟨assessment, hassess⟩ := exists_ok_of_isSome slate_accepted
    obtain ⟨other, hother, hsame⟩ := assessment_inputOrder.2 hassess reordered
    exact ⟨assessment, other, hassess, hother, hsame⟩

end TwoClaims

end MatchVet.F01.InputOrder
