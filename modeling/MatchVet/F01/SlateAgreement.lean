import MatchVet.F01.CoverageStates
import MatchVet.F01.Slate

/-!
# Agreement of the slate assessor

The three derivations of a league's coverage agree: the weekly loop, the loop of
the slate assessor, and the loop of the slate constructor over the sorted records.
-/

namespace MatchVet.F01.SlateAgreement

open MatchVet.F01.CoverageStates
open MatchVet.F01.Records
open MatchVet.F01.Slate
open MatchVet.F01.Weekly
open MatchVet.Foundation.CanonicalJson
open MatchVet.Foundation.IntervalCover
open MatchVet.Foundation.KeySort
open MatchVet.Foundation.Runtime
open MatchVet.Foundation.Timestamp

/-! ## One loop for all three -/

/-- The slate loop reads the same claim off a piece of evidence as the weekly loop. -/
theorem collect_eq [Hashing] {records : Retained} {scope : SlateFixtureScope}
    {attempt? : String → Option ProviderAttempt} {tally : Tally}
    {evidence : ProviderCoverageEvidence}
    (hattempt : attempt? evidence.attemptId = records.attempt? evidence.attemptId)
    (hsome : (records.attempt? evidence.attemptId).isSome = true) :
    collect scope.slateWindow scope.leagueKey scope.season attempt? records.freshness? tally
        evidence = .ok (addClaim records scope.view tally evidence) := by
  obtain ⟨attempt, hfound⟩ := Option.isSome_iff_exists.mp hsome
  rw [← tallyEvidence_eq hsome]
  unfold collect tallyEvidence
  rw [hattempt, hfound]
  dsimp only
  have hclaim : claimBounds scope.view attempt evidence =
      if passedOver scope.leagueKey scope.season attempt evidence then none
      else evidence.bounds := by
    unfold claimBounds passedOver
    cases hbounds : evidence.bounds with
    | none => simp
    | some bounds =>
        simp only [Option.isNone_some, Bool.or_false]
        rfl
  rw [hclaim]
  cases hpassed : passedOver scope.leagueKey scope.season attempt evidence with
  | true => rfl
  | false =>
      cases hbounds : evidence.bounds with
      | none =>
          unfold passedOver at hpassed
          rw [hbounds] at hpassed
          simp at hpassed
      | some bounds => rfl

theorem collect_foldlM [Hashing] {records : Retained} {scope : SlateFixtureScope}
    {attempt? : String → Option ProviderAttempt} {items : List ProviderCoverageEvidence}
    (hattempts : ∀ item ∈ items, attempt? item.attemptId = records.attempt? item.attemptId)
    (hsome : ∀ item ∈ items, (records.attempt? item.attemptId).isSome = true) (tally : Tally) :
    items.foldlM (collect scope.slateWindow scope.leagueKey scope.season attempt?
      records.freshness?) tally = .ok (items.foldl (addClaim records scope.view) tally) := by
  induction items generalizing tally with
  | nil => rfl
  | cons item rest ih =>
      rw [List.foldlM_cons, collect_eq (hattempts item List.mem_cons_self)
        (hsome item List.mem_cons_self)]
      exact ih (fun other hother => hattempts other (List.mem_cons_of_mem _ hother))
        (fun other hother => hsome other (List.mem_cons_of_mem _ hother)) _

theorem slateState_eq [Hashing] {scope : SlateFixtureScope} {tally : Tally}
    {unresolved : List String} {fixtureIds : List (Option String)} :
    slateState scope.slateWindow tally unresolved fixtureIds =
      coverageState scope.view tally unresolved fixtureIds := by
  have hcovers : ∀ ranges, covers scope.slateWindow ranges = coversWindow scope.view ranges :=
    fun _ => rfl
  unfold slateState coverageState
  simp only [hcovers, Bool.and_eq_true, isEmpty_not_iff, List.isEmpty_iff, and_assoc]

/-! ## Accumulators of two orders -/

/-- Accumulators with the same entries in some order. -/
structure Rearranged (first second : Tally) : Prop where
  current : first.current.Perm second.current
  stale : first.stale.Perm second.stale
  currentRanges : first.currentRanges.Perm second.currentRanges
  emptyRanges : first.emptyRanges.Perm second.emptyRanges

theorem foldl_rearranged {records : Retained} {scope : Scope}
    {first second : List ProviderCoverageEvidence} (hperm : first.Perm second) (tally : Tally) :
    Rearranged (first.foldl (addClaim records scope) tally)
      (second.foldl (addClaim records scope) tally) where
  current := read_foldl_perm (addClaim_current records scope) hperm tally
  stale := read_foldl_perm (addClaim_stale records scope) hperm tally
  currentRanges := read_foldl_perm (addClaim_currentRanges records scope) hperm tally
  emptyRanges := read_foldl_perm (addClaim_emptyRanges records scope) hperm tally

theorem inOrder_eq_of_perm {first second : List (Instant × Instant)} (hperm : first.Perm second) :
    inOrder first = inOrder second :=
  sortedOn_eq_of_perm (fun range : Instant × Instant => toLex range) hperm
    fun _ _ _ _ heq => toLex.injective heq

/-- The state of a scope does not depend on the order of the accumulators. -/
theorem coverageState_rearranged {scope : Scope} {first second : Tally}
    (hrearranged : Rearranged first second) (unresolved : List String)
    {fixtureIds others : List (Option String)} (hfixtures : fixtureIds.Perm others) :
    coverageState scope first unresolved fixtureIds =
      coverageState scope second unresolved others := by
  unfold coverageState coversWindow
  rw [inOrder_eq_of_perm hrearranged.currentRanges, inOrder_eq_of_perm hrearranged.emptyRanges,
    hrearranged.current.isEmpty_eq, hrearranged.stale.isEmpty_eq, hfixtures.isEmpty_eq]

theorem unresolvedIds_eq_of_perm {first second : List FixtureIdentityResolution}
    (hperm : first.Perm second) : unresolvedIds first = unresolvedIds second :=
  insertionSort_eq_of_perm ((hperm.filter _).map _)

theorem resolvedFixtureIds_perm {first second : List FixtureIdentityResolution}
    (hperm : first.Perm second) : (resolvedFixtureIds first).Perm (resolvedFixtureIds second) :=
  ((hperm.filter _).map _).dedup

/-! ## Accepted arguments -/

theorem require_ok_iff {condition : Prop} [Decidable condition] {message : String} {done : Unit} :
    require condition message = .ok done ↔ condition := by
  unfold require
  split
  next hcondition => exact ⟨fun _ => hcondition, fun _ => rfl⟩
  next hcondition =>
    constructor
    · intro hfalse
      cases hfalse
    · intro htrue
      exact absurd htrue hcondition

theorem forM_ok_iff {α : Type} {check : α → Except CoverageError Unit} {items : List α} :
    items.forM check = .ok () ↔ ∀ item ∈ items, check item = .ok () := by
  induction items with
  | nil => exact ⟨fun _ item hitem => absurd hitem List.not_mem_nil, fun _ => rfl⟩
  | cons item rest ih =>
      change (check item >>= fun _ => rest.forM check) = _ ↔ _
      rw [bind_eq_ok, List.forall_mem_cons]
      constructor
      · rintro ⟨_, hitem, hrest⟩
        exact ⟨hitem, ih.mp hrest⟩
      · rintro ⟨hitem, hrest⟩
        exact ⟨(), hitem, ih.mpr hrest⟩

/-- What the checks on the arguments establish. -/
structure Checked (scopeIds : List String) (records : Retained) : Prop where
  attempts : (records.providerAttempts.map ProviderAttempt.attemptId).Nodup
  attemptScopes : ∀ attempt ∈ records.providerAttempts, attempt.scopeId ∈ scopeIds
  evidence : (records.coverageEvidence.map ProviderCoverageEvidence.evidenceId).Nodup
  evidenceScopes : ∀ evidence ∈ records.coverageEvidence, evidence.scopeId ∈ scopeIds
  evidenceAttempts : ∀ evidence ∈ records.coverageEvidence, AttemptMatches records evidence
  revisionScopes : ∀ revision ∈ records.fixtureRevisions, revision.scopeId ∈ scopeIds
  identityScopes : ∀ identity ∈ records.identityResolutions, identity.scopeId ∈ scopeIds
  freshness : (records.freshnessResults.map CoverageFreshnessResult.evidenceId).Nodup
  freshnessKnown : ∀ result ∈ records.freshnessResults,
    (records.evidence? result.evidenceId).isSome = true

theorem checkInputs_ok_iff {scopeIds : List String} {records : Retained} :
    checkInputs scopeIds records = .ok () ↔ Checked scopeIds records := by
  unfold checkInputs
  simp only [bind_eq_ok, require_ok_iff]
  constructor
  · rintro ⟨_, ⟨hattempts, hattemptScopes⟩, _, ⟨hevidence, hmatches⟩, _, hrevisions, _,
      hidentities, hfreshness, hknown⟩
    exact {
      attempts := hattempts
      attemptScopes := hattemptScopes
      evidence := hevidence
      evidenceScopes := fun item hitem => (hmatches item hitem).1
      evidenceAttempts := fun item hitem => (hmatches item hitem).2
      revisionScopes := hrevisions
      identityScopes := hidentities
      freshness := hfreshness
      freshnessKnown := hknown }
  · intro hchecked
    exact ⟨(), ⟨hchecked.attempts, hchecked.attemptScopes⟩, (), ⟨hchecked.evidence,
      fun item hitem => ⟨hchecked.evidenceScopes item hitem, hchecked.evidenceAttempts item hitem⟩⟩,
      (), hchecked.revisionScopes, (), hchecked.identityScopes, hchecked.freshness,
      hchecked.freshnessKnown⟩

/-- Unique revisions, each linked by an identity of its scope that agrees with it. -/
structure Linked (records : Retained) : Prop where
  unique : (records.fixtureRevisions.map FixtureRevisionReference.revisionId).Nodup
  linked : ∀ revision ∈ records.fixtureRevisions, ∃ identity ∈ records.identityResolutions,
    identity.scopeId = revision.scopeId ∧ revision.revisionId ∈ identity.revisionIds
  agree : ∀ identity ∈ records.identityResolutions, identity.state = .resolved →
    ∀ revision ∈ records.fixtureRevisions, revision.revisionId ∈ identity.revisionIds →
      some revision.fixtureId = identity.canonicalFixtureId

/-- Unique candidates that link retained revisions of their own scope only, and
freshness results of one policy. -/
structure Closed (records : Retained) : Prop where
  candidates : (records.identityResolutions.map FixtureIdentityResolution.candidateId).Nodup
  retained : ∀ identity ∈ records.identityResolutions, ∀ revisionId ∈ identity.revisionIds,
    ∃ revision ∈ records.fixtureRevisions, revision.revisionId = revisionId ∧
      revision.scopeId = identity.scopeId
  onePolicy : ∀ first ∈ records.freshnessResults, ∀ second ∈ records.freshnessResults,
    first.policyId = second.policyId

theorem checkLink_ok {records : Retained} {identity : FixtureIdentityResolution}
    {revisionId : String} {revision : FixtureRevisionReference}
    (hfound : records.revision? revisionId = some revision)
    (hscope : revision.scopeId = identity.scopeId)
    (hagree : identity.state = .resolved → some revision.fixtureId = identity.canonicalFixtureId) :
    checkLink records identity revisionId = .ok () := by
  unfold checkLink
  rw [hfound]
  exact bind_eq_ok.mpr ⟨(), require_ok_iff.mpr hscope, require_ok_iff.mpr hagree⟩

/-- The constructor accepts the records that its assessor accepts, when they are linked. -/
theorem checkRecords_ok {scopeIds : List String} {records : Retained}
    (hchecked : Checked scopeIds records) (hlinked : Linked records) (hclosed : Closed records) :
    checkRecords scopeIds records = .ok () := by
  unfold checkRecords
  simp only [bind_eq_ok, require_ok_iff]
  refine ⟨(), ⟨hchecked.attempts, hchecked.attemptScopes⟩, (), hchecked.evidence, (),
    fun item hitem => ⟨hchecked.evidenceScopes item hitem, hchecked.evidenceAttempts item hitem⟩,
    (), ⟨hchecked.freshness, hchecked.freshnessKnown⟩, (), ⟨hlinked.unique,
    hchecked.revisionScopes⟩, (), hclosed.candidates, (), ?_, ?_⟩
  · rw [forM_ok_iff]
    intro identity hidentity
    unfold checkSlateIdentity
    refine bind_eq_ok.mpr ⟨(), require_ok_iff.mpr (hchecked.identityScopes identity hidentity), ?_⟩
    rw [forM_ok_iff]
    intro revisionId hrevisionId
    obtain ⟨revision, hrevision, rfl, hscope⟩ := hclosed.retained identity hidentity _ hrevisionId
    exact checkLink_ok ((find?_key_iff hlinked.unique).mpr ⟨hrevision, rfl⟩) hscope
      fun hresolved => hlinked.agree identity hidentity hresolved revision hrevision hrevisionId
  · intro revision hrevision
    obtain ⟨identity, hidentity, -, hmem⟩ := hlinked.linked revision hrevision
    exact List.mem_flatMap.mpr ⟨identity, hidentity, hmem⟩

/-! ## The retained order -/

section Sorted

variable (records : Retained)

theorem sorted_attempts : records.sorted.providerAttempts.Perm records.providerAttempts :=
  List.perm_insertionSort _ _

theorem sorted_evidence : records.sorted.coverageEvidence.Perm records.coverageEvidence :=
  List.perm_insertionSort _ _

theorem sorted_revisions : records.sorted.fixtureRevisions.Perm records.fixtureRevisions :=
  List.perm_insertionSort _ _

theorem sorted_identities :
    records.sorted.identityResolutions.Perm records.identityResolutions :=
  List.perm_insertionSort _ _

theorem sorted_freshness : records.sorted.freshnessResults.Perm records.freshnessResults :=
  List.perm_insertionSort _ _

variable {records}

theorem attempt?_sorted
    (hnodup : (records.providerAttempts.map ProviderAttempt.attemptId).Nodup) :
    records.sorted.attempt? = records.attempt? :=
  funext fun name => (find?_key_eq_of_perm (sorted_attempts records).symm hnodup name).symm

theorem evidence?_sorted
    (hnodup : (records.coverageEvidence.map ProviderCoverageEvidence.evidenceId).Nodup) :
    records.sorted.evidence? = records.evidence? :=
  funext fun name => (find?_key_eq_of_perm (sorted_evidence records).symm hnodup name).symm

theorem freshness?_sorted
    (hnodup : (records.freshnessResults.map CoverageFreshnessResult.evidenceId).Nodup) :
    records.sorted.freshness? = records.freshness? :=
  funext fun name => (find?_key_eq_of_perm (sorted_freshness records).symm hnodup name).symm

theorem Checked.sorted {scopeIds : List String} (hchecked : Checked scopeIds records) :
    Checked scopeIds records.sorted where
  attempts := (((sorted_attempts records).map _).nodup_iff).mpr hchecked.attempts
  attemptScopes item hitem :=
    hchecked.attemptScopes item ((sorted_attempts records).mem_iff.mp hitem)
  evidence := (((sorted_evidence records).map _).nodup_iff).mpr hchecked.evidence
  evidenceScopes item hitem :=
    hchecked.evidenceScopes item ((sorted_evidence records).mem_iff.mp hitem)
  evidenceAttempts item hitem := by
    unfold AttemptMatches
    rw [attempt?_sorted hchecked.attempts]
    exact hchecked.evidenceAttempts item ((sorted_evidence records).mem_iff.mp hitem)
  revisionScopes item hitem :=
    hchecked.revisionScopes item ((sorted_revisions records).mem_iff.mp hitem)
  identityScopes item hitem :=
    hchecked.identityScopes item ((sorted_identities records).mem_iff.mp hitem)
  freshness := (((sorted_freshness records).map _).nodup_iff).mpr hchecked.freshness
  freshnessKnown item hitem := by
    rw [evidence?_sorted hchecked.evidence]
    exact hchecked.freshnessKnown item ((sorted_freshness records).mem_iff.mp hitem)

theorem Linked.sorted (hlinked : Linked records) : Linked records.sorted where
  unique := (((sorted_revisions records).map _).nodup_iff).mpr hlinked.unique
  linked revision hrevision := by
    obtain ⟨identity, hidentity, hfacts⟩ :=
      hlinked.linked revision ((sorted_revisions records).mem_iff.mp hrevision)
    exact ⟨identity, (sorted_identities records).mem_iff.mpr hidentity, hfacts⟩
  agree identity hidentity hresolved revision hrevision :=
    hlinked.agree identity ((sorted_identities records).mem_iff.mp hidentity) hresolved revision
      ((sorted_revisions records).mem_iff.mp hrevision)

theorem Closed.sorted (hclosed : Closed records) : Closed records.sorted where
  candidates := (((sorted_identities records).map _).nodup_iff).mpr hclosed.candidates
  retained identity hidentity revisionId hrevisionId := by
    obtain ⟨revision, hrevision, hfacts⟩ := hclosed.retained identity
      ((sorted_identities records).mem_iff.mp hidentity) revisionId hrevisionId
    exact ⟨revision, (sorted_revisions records).mem_iff.mpr hrevision, hfacts⟩
  onePolicy first hfirst second hsecond :=
    hclosed.onePolicy first ((sorted_freshness records).mem_iff.mp hfirst) second
      ((sorted_freshness records).mem_iff.mp hsecond)

end Sorted

/-! ## One scope, assessed and checked again -/

theorem Checked.referenced {scopeIds : List String} {records : Retained}
    (hchecked : Checked scopeIds records) : Referenced records where
  attempts := hchecked.attempts
  evidence := hchecked.evidence
  freshness := hchecked.freshness
  attempted evidence hevidence := by
    obtain ⟨attempt, hattempt, hsame⟩ :=
      Option.map_eq_some_iff.mp (hchecked.evidenceAttempts evidence hevidence)
    obtain ⟨hmem, hname⟩ := (find?_key_iff hchecked.attempts).mp hattempt
    exact ⟨attempt, hmem, hname, hsame⟩

section Lookups

variable {records : Retained}

/-- An attempt of a scope's evidence is found among the attempts of the scope. -/
theorem find?_attemptsIn (hreferenced : Referenced records) {scopeId : String}
    {attempts : List ProviderAttempt} (hperm : attempts.Perm (records.attemptsIn scopeId)) :
    ∀ evidence ∈ records.evidenceIn scopeId,
      attempts.find? (fun attempt => attempt.attemptId = evidence.attemptId) =
        records.attempt? evidence.attemptId := by
  intro evidence hevidence
  obtain ⟨hmem, rfl⟩ := mem_evidenceIn.mp hevidence
  obtain ⟨attempt, hattempt, hname, hscope⟩ := hreferenced.attempted evidence hmem
  have hlisted : attempt ∈ attempts := by
    rw [hperm.mem_iff]
    unfold Retained.attemptsIn
    exact List.mem_filter.mpr ⟨hattempt, decide_eq_true hscope⟩
  have hnodup : (attempts.map ProviderAttempt.attemptId).Nodup := by
    rw [(hperm.map ProviderAttempt.attemptId).nodup_iff]
    exact hreferenced.attempts.sublist (List.filter_sublist.map _)
  have hleft := (find?_key_iff hnodup).mpr ⟨hlisted, hname⟩
  have hright := (find?_key_iff hreferenced.attempts).mpr ⟨hattempt, hname⟩
  exact hleft.trans hright.symm

theorem freshness_nodup (hreferenced : Referenced records) (scopeId : String) :
    (((records.evidenceIn scopeId).filterMap
      fun item => records.freshness? item.evidenceId).map
        CoverageFreshnessResult.evidenceId).Nodup := by
  have hsublist : (((records.evidenceIn scopeId).filterMap
      fun item => records.freshness? item.evidenceId).map
        CoverageFreshnessResult.evidenceId).Sublist
      ((records.evidenceIn scopeId).map ProviderCoverageEvidence.evidenceId) := by
    induction records.evidenceIn scopeId with
    | nil => exact List.Sublist.refl _
    | cons item rest ih =>
        cases hfound : records.freshness? item.evidenceId with
        | none =>
            simp only [List.filterMap_cons, hfound]
            exact ih.trans (List.sublist_cons_self _ _)
        | some result =>
            have hname := ((find?_key_iff hreferenced.freshness).mp hfound).2
            simp only [List.filterMap_cons, hfound, List.map_cons, hname]
            exact ih.cons_cons _
  exact (hreferenced.evidence.sublist (List.filter_sublist.map _)).sublist hsublist

theorem evidenceIn_sorted (records : Retained) (scopeId : String) :
    (records.sorted.evidenceIn scopeId).Perm (records.evidenceIn scopeId) :=
  (sorted_evidence records).filter _

end Lookups

section Scope

variable [Hashing]

/-- The assessment without the part that a slate adds to its scope. -/
def toScopeAssessment (item : SlateFixtureScopeAssessment) : ScopeAssessment where
  scope := item.scope.view
  coverageState := item.coverageState
  providerAttemptIds := item.providerAttemptIds
  coverageEvidenceIds := item.coverageEvidenceIds
  fixtureRevisions := item.fixtureRevisions
  identityBlockerCandidateIds := item.identityBlockerCandidateIds
  freshnessResults := item.freshnessResults
  currentCoverageEvidenceIds := item.currentCoverageEvidenceIds
  staleCoverageEvidenceIds := item.staleCoverageEvidenceIds

/-- The assessment of a slate scope by the weekly accumulators. -/
def slateItem (records : Retained) (scope : SlateFixtureScope) : SlateFixtureScopeAssessment where
  scope := scope
  coverageState := coverageState scope.view (finalTally records scope.view)
    (unresolvedIds (records.identitiesIn scope.scopeId))
    (resolvedFixtureIds (records.identitiesIn scope.scopeId))
  providerAttemptIds :=
    ((records.attemptsIn scope.scopeId).map ProviderAttempt.attemptId).insertionSort (· ≤ ·)
  coverageEvidenceIds :=
    ((records.evidenceIn scope.scopeId).map
      ProviderCoverageEvidence.evidenceId).insertionSort (· ≤ ·)
  fixtureRevisions :=
    sortedBy FixtureRevisionReference.revisionId (records.revisionsIn scope.scopeId)
  identityBlockerCandidateIds := unresolvedIds (records.identitiesIn scope.scopeId)
  freshnessResults := sortedBy CoverageFreshnessResult.evidenceId
    ((records.evidenceIn scope.scopeId).filterMap fun item => records.freshness? item.evidenceId)
  currentCoverageEvidenceIds := (finalTally records scope.view).current.insertionSort (· ≤ ·)
  staleCoverageEvidenceIds := (finalTally records scope.view).stale.insertionSort (· ≤ ·)

variable {records : Retained}

theorem assessSlateScope_ok (hreferenced : Referenced records) (scope : SlateFixtureScope) :
    assessSlateScope scope.slateWindow records scope = .ok (slateItem records scope) := by
  unfold assessSlateScope
  simp only []
  rw [collect_foldlM (fun _ _ => rfl) (attempts_retained hreferenced scope.scopeId)]
  change Except.ok _ = Except.ok _
  rw [slateState_eq]
  rfl

theorem assessScope_view (hreferenced : Referenced records) (scope : SlateFixtureScope) :
    assessScope records scope.view = .ok (toScopeAssessment (slateItem records scope)) := by
  unfold assessScope
  simp only []
  rw [tally_ok (attempts_retained hreferenced scope.view.scopeId)]
  rfl

/-- The constructor's loop over its sorted evidence ends with the same entries. -/
theorem recheck_rearranged (hreferenced : Referenced records) (scope : SlateFixtureScope) :
    ∃ tally, (sortedBy ProviderCoverageEvidence.evidenceId
        (records.sorted.evidenceIn scope.scopeId)).foldlM
      (collect scope.slateWindow scope.leagueKey scope.season
        (fun attemptId => (sortedBy ProviderAttempt.attemptId
          (records.sorted.attemptsIn scope.scopeId)).find?
            fun attempt => attempt.attemptId = attemptId)
        records.sorted.freshness?) .empty = .ok tally ∧
      Rearranged (finalTally records scope.view) tally := by
  have hevidence : (sortedBy ProviderCoverageEvidence.evidenceId
      (records.sorted.evidenceIn scope.scopeId)).Perm (records.evidenceIn scope.scopeId) :=
    (List.perm_insertionSort _ _).trans (evidenceIn_sorted records scope.scopeId)
  have hattempts : (sortedBy ProviderAttempt.attemptId
      (records.sorted.attemptsIn scope.scopeId)).Perm (records.attemptsIn scope.scopeId) :=
    (List.perm_insertionSort _ _).trans ((sorted_attempts records).filter _)
  rw [freshness?_sorted hreferenced.freshness]
  refine ⟨_, collect_foldlM ?_ ?_ .empty, ?_⟩
  · intro item hitem
    exact find?_attemptsIn hreferenced hattempts item (hevidence.mem_iff.mp hitem)
  · intro item hitem
    exact attempts_retained hreferenced scope.scopeId item (hevidence.mem_iff.mp hitem)
  · exact foldl_rearranged hevidence.symm .empty

/-- The constructor's derivation never differs from the assessor's. -/
theorem recheckScope_ok (hreferenced : Referenced records) (hunique :
    (records.fixtureRevisions.map FixtureRevisionReference.revisionId).Nodup)
    (scope : SlateFixtureScope) :
    recheckScope scope.slateWindow records.sorted (slateItem records scope) = .ok () := by
  obtain ⟨tally, htally, hrearranged⟩ := recheck_rearranged hreferenced scope
  have hattempts : (records.sorted.attemptsIn scope.scopeId).Perm
      (records.attemptsIn scope.scopeId) := (sorted_attempts records).filter _
  have hrevisions : (records.sorted.revisionsIn scope.scopeId).Perm
      (records.revisionsIn scope.scopeId) := (sorted_revisions records).filter _
  have hidentities : (records.sorted.identitiesIn scope.scopeId).Perm
      (records.identitiesIn scope.scopeId) := (sorted_identities records).filter _
  have hevidence := evidenceIn_sorted records scope.scopeId
  have hordered : (sortedBy ProviderCoverageEvidence.evidenceId
      (records.sorted.evidenceIn scope.scopeId)).Perm (records.evidenceIn scope.scopeId) :=
    (List.perm_insertionSort _ _).trans hevidence
  unfold recheckScope
  simp only [bind_eq_ok, require_ok_iff]
  refine ⟨(), ?_, (), ?_, (), ?_, (), ?_, tally, htally, (), ?_, (), ?_, (), ?_, ?_⟩
  · exact (insertionSort_eq_of_perm (hattempts.map _)).symm.trans (map_sortedOn _ _).symm
  · exact (insertionSort_eq_of_perm (hevidence.map _)).symm.trans (map_sortedOn _ _).symm
  · refine sortedOn_eq_of_perm FixtureRevisionReference.revisionId hrevisions.symm ?_
    intro left hleft right hright heq
    exact List.inj_on_of_nodup_map (hunique.sublist (List.filter_sublist.map _)) hleft hright heq
  · rw [freshness?_sorted hreferenced.freshness]
    refine sortedOn_eq_of_perm CoverageFreshnessResult.evidenceId
      (hordered.symm.filterMap fun found => records.freshness? found.evidenceId) ?_
    intro left hleft right hright heq
    exact List.inj_on_of_nodup_map (freshness_nodup hreferenced scope.scopeId) hleft hright heq
  · exact insertionSort_eq_of_perm hrearranged.current
  · exact insertionSort_eq_of_perm hrearranged.stale
  · exact unresolvedIds_eq_of_perm hidentities.symm
  · have hscope : (slateItem records scope).scope = scope := rfl
    rw [hscope, unresolvedIds_eq_of_perm hidentities, slateState_eq]
    exact coverageState_rearranged hrearranged _ (resolvedFixtureIds_perm hidentities.symm)

end Scope

/-! ## The whole assessment -/

/-- Freshness results of one policy name it, in any order. -/
theorem singleFreshnessPolicyId_ok {results : List CoverageFreshnessResult}
    (hone : ∀ first ∈ results, ∀ second ∈ results, first.policyId = second.policyId) :
    ∃ policy, ∀ others, others.Perm results → singleFreshnessPolicyId others = .ok policy := by
  cases results with
  | nil =>
      refine ⟨none, fun others hperm => ?_⟩
      rw [List.perm_nil.mp hperm]
      rfl
  | cons first rest =>
      refine ⟨some first.policyId, fun others hperm => ?_⟩
      have hpolicies : (others.map CoverageFreshnessResult.policyId).dedup = [first.policyId] := by
        refine List.perm_singleton.mp (List.perm_of_nodup_nodup_toFinset_eq (List.nodup_dedup _)
          (List.nodup_singleton _) (Finset.ext fun policy => ?_))
        rw [List.mem_toFinset, List.mem_dedup, List.mem_map, List.mem_toFinset,
          List.mem_singleton]
        constructor
        · rintro ⟨result, hresult, rfl⟩
          exact hone result (hperm.mem_iff.mp hresult) first List.mem_cons_self
        · rintro rfl
          exact ⟨first, hperm.mem_iff.mpr List.mem_cons_self, rfl⟩
      unfold singleFreshnessPolicyId
      simp only [hpolicies]
      rfl

theorem mem_slateFixtureScopes {window : SlateWindow} {activeScope : ActiveScope}
    {scopes : List SlateFixtureScope}
    (hscopes : slateFixtureScopes window activeScope = .ok scopes) :
    activeScope = .successorFive ∧ ∀ scope ∈ scopes, scope.slateWindow = window := by
  unfold slateFixtureScopes at hscopes
  split at hscopes
  next hinstalled =>
    cases hscopes
    refine ⟨hinstalled, fun scope hscope => ?_⟩
    obtain ⟨key, -, rfl⟩ := List.mem_map.mp hscope
    rfl
  · cases hscopes

section Whole

variable [Hashing]

theorem mapM_assessSlateScope {records : Retained} (hreferenced : Referenced records)
    {window : SlateWindow} {scopes : List SlateFixtureScope}
    (hwindow : ∀ scope ∈ scopes, scope.slateWindow = window) :
    scopes.mapM (assessSlateScope window records) = .ok (scopes.map (slateItem records)) := by
  induction scopes with
  | nil => rfl
  | cons scope rest ih =>
      obtain ⟨rfl, hrest⟩ := List.forall_mem_cons.mp hwindow
      rw [List.mapM_cons, assessSlateScope_ok hreferenced scope, ih hrest]
      rfl

theorem mapM_assessScope_view {records : Retained} (hreferenced : Referenced records)
    (scopes : List SlateFixtureScope) :
    (scopes.map SlateFixtureScope.view).mapM (assessScope records) =
      .ok ((scopes.map (slateItem records)).map toScopeAssessment) := by
  induction scopes with
  | nil => rfl
  | cons scope rest ih =>
      rw [List.map_cons, List.mapM_cons, assessScope_view hreferenced scope, ih]
      rfl

/-- The arguments pass the checks of the slate assessor. -/
def PassesChecks (window : SlateWindow) (activeScope : ActiveScope) (records : Retained) : Prop :=
  ∃ scopes, slateFixtureScopes window activeScope = .ok scopes ∧
    checkInputs (scopes.map SlateFixtureScope.scopeId) records = .ok ()

/-- The assessments of the scopes are those of the weekly rules over the slate window. -/
def AgreesWithWeekly (records : Retained) (assessment : SlateFixtureCoverageAssessment) : Prop :=
  (assessment.scopeAssessments.map fun item => item.scope.view).mapM (assessScope records) =
    .ok (assessment.scopeAssessments.map toScopeAssessment)

/-- Linked and closed records that pass the checks are assessed: the constructor never
rejects them, and every league gets what the weekly rules say. -/
theorem assessSlateFixtureCoverage_agrees {window : SlateWindow} {activeScope : ActiveScope}
    {records : Retained} (hpasses : PassesChecks window activeScope records)
    (hlinked : Linked records) (hclosed : Closed records) :
    ∃ assessment, assessSlateFixtureCoverage records window activeScope = .ok assessment ∧
      slateFixtureScopes window activeScope =
        .ok (assessment.scopeAssessments.map SlateFixtureScopeAssessment.scope) ∧
      AgreesWithWeekly records assessment := by
  obtain ⟨scopes, hscopes, hinputs⟩ := hpasses
  obtain ⟨rfl, hwindow⟩ := mem_slateFixtureScopes hscopes
  have hchecked := checkInputs_ok_iff.mp hinputs
  have hreferenced := hchecked.referenced
  obtain ⟨policy, hpolicy⟩ := singleFreshnessPolicyId_ok hclosed.onePolicy
  have hmap : (scopes.map (slateItem records)).map SlateFixtureScopeAssessment.scope = scopes := by
    rw [List.map_map]
    exact List.map_id scopes
  let assessment : SlateFixtureCoverageAssessment := {
    activeScope := .successorFive
    slateWindow := window
    freshnessPolicyId := policy
    scopeAssessments := scopes.map (slateItem records)
    records := records.sorted
    scheduleState := slateSchedule (scopes.map (slateItem records))
    contractVersion := slateContractVersion
    schemaVersion := slateSchemaVersion }
  have hrecheck : (scopes.map (slateItem records)).forM (recheckScope window records.sorted) =
      .ok () := by
    rw [forM_ok_iff]
    intro item hitem
    obtain ⟨scope, hscope, rfl⟩ := List.mem_map.mp hitem
    rw [← hwindow scope hscope]
    exact recheckScope_ok hreferenced hlinked.unique scope
  have hconstruct : construct assessment = .ok assessment := by
    unfold construct
    simp only [bind_eq_ok, require_ok_iff]
    exact ⟨(), rfl, (), rfl, policy, hpolicy _ (sorted_freshness records), (), rfl, scopes, hscopes,
      (), hmap, (), checkRecords_ok hchecked.sorted hlinked.sorted hclosed.sorted, (), hrecheck,
      (), rfl, trivial⟩
  refine ⟨assessment, ?_, ?_, ?_⟩
  · unfold assessSlateFixtureCoverage assessWithExistingRules
    simp only [bind_eq_ok]
    exact ⟨scopes, hscopes, (), hinputs, _, mapM_assessSlateScope hreferenced hwindow, policy,
      hpolicy _ (List.Perm.refl _), hconstruct⟩
  · rw [hscopes]
    exact congrArg Except.ok hmap.symm
  · have hviews : (assessment.scopeAssessments.map fun item => item.scope.view) =
        scopes.map SlateFixtureScope.view := by
      rw [List.map_map]
      rfl
    unfold AgreesWithWeekly
    rw [hviews]
    exact mapM_assessScope_view hreferenced scopes

end Whole

namespace PremierLeague

local instance : Hashing := shapeHashing

theorem one_version : (Foundation.JsonTree.PyInteger.int 1).value = 1 := rfl

/-- Friday 2 October 2026 in UTC. -/
def window : SlateWindow where
  startUtc := 1790899200000000
  endUtc := 1790985600000000
  activeScope := .successorFive
  version := .int 1
  start_range := by decide
  end_range := by decide
  proper := by decide
  installed := rfl
  supported := one_version

def scope : SlateFixtureScope where
  leagueKey := "premier_league"
  season := "2026-27"
  activeScope := .successorFive
  slateWindow := window
  league_known := List.mem_cons_self
  season_matches := rfl
  installed := rfl

def attempt : ProviderAttempt := { EmptyLeague.attempt with
  scopeId := scope.scopeId
  named := by decide }

/-- Evidence for the whole window. -/
def evidence (evidenceId : String) (named : blank evidenceId = false) :
    ProviderCoverageEvidence := { EmptyLeague.evidence with
  evidenceId := evidenceId
  scopeId := scope.scopeId
  bounds := some {
    startUtc := window.startUtc
    endUtc := window.endUtc
    start_range := window.start_range
    end_range := window.end_range
    ordered := window.proper }
  affirmativelyEmpty := false
  named := by
    have hrest : ∀ text ∈ ["attempt-1", scope.scopeId, "premier_league", "2026-27", "capture-1",
        "digest-1"], blank text = false := by decide
    exact List.forall_mem_cons.mpr ⟨named, hrest⟩ }

def result (evidenceId policyId : String)
    (named : blank evidenceId = false ∧ blank policyId = false) : CoverageFreshnessResult where
  evidenceId := evidenceId
  policyId := policyId
  evaluatedAtUtc := 0
  isCurrent := true
  named := named
  evaluated_range := Foundation.Timestamp.inRange_zero

def revision : FixtureRevisionReference where
  scopeId := scope.scopeId
  fixtureId := "fixture-1"
  revisionId := "revision-1"
  revisionDigest := "digest-1"
  sourceCaptureIds := ["capture-1"]
  sourceAssertionIds := ["assertion-1"]
  named := by decide
  captures_unique := by decide
  assertions_unique := by decide
  provenance := by decide

/-- A candidate resolved to the fixture through one revision. -/
def identity (candidateId revisionId : String) (candidate_text : blank candidateId = false)
    (revision_text : blank revisionId = false) : FixtureIdentityResolution where
  candidateId := candidateId
  scopeId := scope.scopeId
  state := .resolved
  canonicalFixtureId := some "fixture-1"
  revisionIds := [revisionId]
  reasonCode := none
  sourceCaptureIds := []
  sourceAssertionIds := []
  named := ⟨candidate_text, by decide⟩
  revisions_unique := ⟨List.pairwise_singleton _ _, List.forall_mem_singleton.mpr revision_text⟩
  captures_unique := sortedUnique_nil
  assertions_unique := sortedUnique_nil
  resolved _ := ⟨⟨"fixture-1", rfl, by decide⟩, List.cons_ne_nil _ _, rfl⟩
  unresolved hunresolved := by cases hunresolved

def known : FixtureIdentityResolution :=
  identity "candidate-1" "revision-1" (by decide) (by decide +kernel)

theorem first_text : blank "evidence-1" = false := by decide

theorem second_text : blank "evidence-2" = false := by decide

/-- A league with one resolved fixture, covered by current evidence. -/
def records : Retained where
  providerAttempts := [attempt]
  coverageEvidence := [evidence "evidence-1" first_text]
  fixtureRevisions := [revision]
  identityResolutions := [known]
  freshnessResults := [result "evidence-1" "freshness" EmptyLeague.evidence_named]

theorem records_pass : PassesChecks window .successorFive records := by
  refine ⟨_, rfl, checkInputs_ok_iff.mpr ?_⟩
  constructor <;> decide

theorem records_agree :
    ∃ assessment, assessSlateFixtureCoverage records window .successorFive = .ok assessment ∧
      slateFixtureScopes window .successorFive =
        .ok (assessment.scopeAssessments.map SlateFixtureScopeAssessment.scope) ∧
      AgreesWithWeekly records assessment := by
  refine assessSlateFixtureCoverage_agrees records_pass ?_ ?_
  · constructor <;> decide
  · constructor <;> decide

/-- The same identity given twice. -/
def repeatedCandidate : Retained := { records with
  identityResolutions := [known, known] }

/-- An identity that links a revision that is not retained. -/
def unrelatedRevision : Retained := { records with
  identityResolutions := [known,
    identity "candidate-2" "revision-2" (by decide) (by decide +kernel)] }

/-- Freshness results of two policies. -/
def twoPolicies : Retained := { records with
  coverageEvidence := [evidence "evidence-1" first_text, evidence "evidence-2" second_text]
  freshnessResults := [result "evidence-1" "freshness" EmptyLeague.evidence_named,
    result "evidence-2" "other" (by decide)] }

/-- Linked records that pass the checks on the arguments and get no assessment. -/
def Refused (other : Retained) : Prop :=
  PassesChecks window .successorFive other ∧ Linked other ∧
    ¬∃ assessment, assessSlateFixtureCoverage other window .successorFive = .ok assessment

/-- Linked records that pass the checks on the arguments can still be refused. -/
theorem unclosed_refused :
    Refused repeatedCandidate ∧ Refused unrelatedRevision ∧ Refused twoPolicies := by
  have hrefused : ∀ other ∈ [repeatedCandidate, unrelatedRevision, twoPolicies],
      (assessSlateFixtureCoverage other window .successorFive).toOption.isNone = true := by
    decide
  have hlinked : ∀ other ∈ [repeatedCandidate, unrelatedRevision, twoPolicies], Linked other := by
    intro other hother
    simp only [List.mem_cons, List.not_mem_nil, or_false] at hother
    rcases hother with rfl | rfl | rfl <;> constructor <;> decide
  have hpasses : ∀ other ∈ [repeatedCandidate, unrelatedRevision, twoPolicies],
      PassesChecks window .successorFive other := by
    intro other hother
    refine ⟨_, rfl, checkInputs_ok_iff.mpr ?_⟩
    simp only [List.mem_cons, List.not_mem_nil, or_false] at hother
    rcases hother with rfl | rfl | rfl <;> constructor <;> decide
  have hall : ∀ other ∈ [repeatedCandidate, unrelatedRevision, twoPolicies], Refused other := by
    intro other hother
    refine ⟨hpasses other hother, hlinked other hother, ?_⟩
    rintro ⟨assessment, hassess⟩
    have hnone := hrefused other hother
    rw [hassess] at hnone
    cases hnone
  rw [List.forall_mem_cons, List.forall_mem_cons, List.forall_mem_singleton] at hall
  exact hall

end PremierLeague

end MatchVet.F01.SlateAgreement
