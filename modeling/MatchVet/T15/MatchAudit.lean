import MatchVet.T15.Decision
import MatchVet.T15.MissingEvidence

/-!
# What the audit of a match contains

A row is either unranked, as its gates left it, or a survivor with a Selection
Strength that carries its rank and the label of its mode.  All the facts about the
record, and all the checks of its constructor, follow from that.
-/

namespace MatchVet.T15.MatchAudit

open MatchVet.Foundation.CanonicalJson
open MatchVet.Foundation.ComparatorSort
open MatchVet.Foundation.Dictionary
open MatchVet.Foundation.Runtime
open MatchVet.T10.Catalog
open MatchVet.T15.Candidate
open MatchVet.T15.Decision
open MatchVet.T15.Gates
open MatchVet.T15.Policy
open MatchVet.T15.Ranking
open MatchVet.T15.Values
open MatchVet.T15.Vetting

/-! ## Rows put back under their identifiers -/

section Replacing

variable [PyRuntime] {results ranked : List PreferenceVettingResult}

theorem lookup_rowId (hranked : (ranked.map rowId).Nodup) {key : String}
    {item : PreferenceVettingResult} :
    (ranked.map fun row => (rowId row, row)).lookup key = some item ↔
      item ∈ ranked ∧ rowId item = key := by
  constructor
  · intro hlookup
    induction ranked with
    | nil => cases hlookup
    | cons row rest ih =>
        rw [List.map_cons, List.nodup_cons] at hranked
        rw [List.map_cons, List.lookup_cons] at hlookup
        split at hlookup
        next hkey =>
          cases hlookup
          exact ⟨List.mem_cons_self, (eq_of_beq hkey).symm⟩
        next =>
          obtain ⟨hmem, hid⟩ := ih hranked.2 hlookup
          exact ⟨List.mem_cons_of_mem row hmem, hid⟩
  · rintro ⟨hmem, rfl⟩
    refine lookup_of_mem ?_ (List.mem_map_of_mem hmem)
    rwa [List.map_map]

/-- What a row is replaced by. -/
theorem replaced_cases (hranked : (ranked.map rowId).Nodup) (row : PreferenceVettingResult) :
    (∃ item ∈ ranked, rowId item = rowId row ∧
      ((PyDict.ofPairs (ranked.map fun row => (rowId row, row))).get? (rowId row)).getD row =
        item) ∨
    ((∀ item ∈ ranked, rowId item ≠ rowId row) ∧
      ((PyDict.ofPairs (ranked.map fun row => (rowId row, row))).get? (rowId row)).getD row =
        row) := by
  have hkeys : ((ranked.map fun row => (rowId row, row)).map Prod.fst).Nodup := by
    rwa [List.map_map]
  rw [PyDict.get?, PyDict.entries_ofPairs hkeys]
  cases hlookup : (ranked.map fun row => (rowId row, row)).lookup (rowId row) with
  | some item =>
      obtain ⟨hmem, hid⟩ := (lookup_rowId hranked).mp hlookup
      exact Or.inl ⟨item, hmem, hid, rfl⟩
  | none =>
      refine Or.inr ⟨fun item hmem hid => ?_, rfl⟩
      rw [(lookup_rowId hranked).mpr ⟨hmem, hid⟩] at hlookup
      cases hlookup

theorem mem_replaceRankedResults (hranked : (ranked.map rowId).Nodup)
    (hdrawn : ∀ item ∈ ranked, ∃ row ∈ results, rowId item = rowId row)
    {found : PreferenceVettingResult} :
    found ∈ replaceRankedResults results ranked ↔
      found ∈ ranked ∨ (found ∈ results ∧ ∀ item ∈ ranked, rowId item ≠ rowId found) := by
  constructor
  · intro hfound
    obtain ⟨row, hrow, rfl⟩ := List.mem_map.mp hfound
    rcases replaced_cases hranked row with ⟨item, hitem, -, hreplaced⟩ | ⟨hother, hreplaced⟩
    · left
      rw [hreplaced]
      exact hitem
    · right
      rw [hreplaced]
      exact ⟨hrow, hother⟩
  · rintro (hitem | ⟨hrow, hother⟩)
    · obtain ⟨row, hrow, hid⟩ := hdrawn found hitem
      refine List.mem_map.mpr ⟨row, hrow, ?_⟩
      rcases replaced_cases hranked row with ⟨item, hmem, hsame, hreplaced⟩ | ⟨hnone, -⟩
      · rw [hreplaced]
        exact List.inj_on_of_nodup_map hranked hmem hitem (hsame.trans hid.symm)
      · exact absurd hid (hnone found hitem)
    · refine List.mem_map.mpr ⟨found, hrow, ?_⟩
      rcases replaced_cases hranked found with ⟨item, hmem, hsame, -⟩ | ⟨-, hreplaced⟩
      · exact absurd hsame (hother item hmem)
      · exact hreplaced

/-- The preferences of the rows stay in place. -/
theorem replaceRankedResults_preferences (hranked : (ranked.map rowId).Nodup)
    (hresults : (results.map rowId).Nodup)
    (hdrawn : ∀ item ∈ ranked, ∃ row ∈ results, item.preference = row.preference) :
    (replaceRankedResults results ranked).map PreferenceVettingResult.preference =
      results.map PreferenceVettingResult.preference := by
  rw [replaceRankedResults, List.map_map]
  refine List.map_congr_left fun row hrow => ?_
  change (((PyDict.ofPairs _).get? (rowId row)).getD row).preference = row.preference
  rcases replaced_cases hranked row with ⟨item, hitem, hid, hreplaced⟩ | ⟨-, hreplaced⟩
  · rw [hreplaced]
    obtain ⟨origin, horigin, hsame⟩ := hdrawn item hitem
    have hrowId : rowId origin = rowId row := by
      rw [← hid, rowId, rowId, hsame]
    rw [hsame, List.inj_on_of_nodup_map hresults horigin hrow hrowId]
  · rw [hreplaced]

end Replacing

section Audit

variable [PyRuntime] [Hashing]

/-! ## Rows before the ranking -/

/-- The status of a row that is not ranked. -/
def vettedStatus (policy : PolicyVersion) (row : PreferenceVettingResult) : CandidateStatus :=
  if !row.isGateSurvivor then .reject
  else if policy.status = .researchOnly then .researchCandidate
  else .qualified

/-- A row as the gates leave it. -/
structure Unranked (policy : PolicyVersion) (row : PreferenceVettingResult) : Prop where
  status : row.status = vettedStatus policy row
  role : row.role = .none
  rank : row.rank = none
  strength : row.selectionStrength.isSome = true →
    row.isGateSurvivor = true ∧ policy.selectionStrength.isSome = true

/-- A survivor that has a Selection Strength. -/
def rankable (row : PreferenceVettingResult) : Bool :=
  row.isGateSurvivor && row.selectionStrength.isSome

theorem Unranked.rankable_eq {policy : PolicyVersion} {row : PreferenceVettingResult}
    (hrow : Unranked policy row) : rankable row = row.selectionStrength.isSome := by
  cases hstrength : row.selectionStrength.isSome with
  | false => rw [rankable, hstrength, Bool.and_false]
  | true => rw [rankable, hstrength, (hrow.strength hstrength).1, Bool.and_true]

theorem vettedStatus_eq_reject {policy : PolicyVersion} {row : PreferenceVettingResult} :
    vettedStatus policy row = .reject ↔ row.isGateSurvivor = false := by
  unfold vettedStatus
  cases row.isGateSurvivor with
  | false => simp
  | true =>
      rw [Bool.not_true, if_neg Bool.false_ne_true]
      split <;> simp

omit [Hashing] in
theorem selectionStrength_none (candidate : NormalizedCandidate) (metrics : PredictionMetrics) :
    (selectionStrength candidate metrics none).1 = none := rfl

theorem unranked_resultForPreference {state predictions : PyValue} {preference : BettingPreference}
    {policy : PolicyVersion} {candidate : CandidateInput} {catalog : PreferenceCatalog}
    {row : PreferenceVettingResult}
    (hrow : resultForPreference state preference policy candidate predictions catalog = .ok row) :
    preference = row.preference ∧ Unranked policy row := by
  simp only [resultForPreference, resultForView, bind_eq_ok] at hrow
  obtain ⟨normalized, -, gates, -, hdone⟩ := hrow
  cases hdone
  refine ⟨rfl, rfl, rfl, rfl, fun hstrength => ?_⟩
  change (if (gates.all fun item => item.status = .pass) = true then _ else none).isSome = true
    at hstrength
  split at hstrength
  next hsurvivor =>
    refine ⟨hsurvivor, ?_⟩
    cases hconfig : policy.selectionStrength with
    | some config => rfl
    | none =>
        rw [hconfig, selectionStrength_none] at hstrength
        cases hstrength
  next => cases hstrength

/-! ## Ranked rows -/

omit [Hashing] in
theorem withRanks_rank (ordered : List PreferenceVettingResult) :
    (withRanks ordered).map PreferenceVettingResult.rank =
      (List.range' 1 ordered.length).map some := by
  rw [withRanks, List.map_map, ← List.zipIdx_map_snd 1 ordered, List.map_map]
  rfl

omit [Hashing] in
theorem withRanks_ids (ordered : List PreferenceVettingResult) :
    (withRanks ordered).map rowId = ordered.map rowId := by
  rw [withRanks, List.map_map]
  conv_rhs => rw [← List.zipIdx_map_fst 1 ordered, List.map_map]
  rfl

omit [Hashing] in
theorem mem_withRanks {ordered : List PreferenceVettingResult} {item : PreferenceVettingResult}
    (hitem : item ∈ withRanks ordered) :
    ∃ row ∈ ordered, ∃ rank, item = { row with rank := some rank } := by
  obtain ⟨entry, hentry, rfl⟩ := List.mem_map.mp hitem
  exact ⟨entry.1, List.fst_mem_of_mem_zipIdx hentry, entry.2, rfl⟩

/-- The rows of a catalog, with those of them that are ranked. -/
structure Assembled (policy : PolicyVersion) (catalog : PreferenceCatalog)
    (results ranked : List PreferenceVettingResult) : Prop where
  preferences : results.map PreferenceVettingResult.preference = catalog.preferences
  unranked : ∀ row ∈ results, Unranked policy row
  drawn : ∀ item ∈ ranked, ∃ row ∈ results, row.selectionStrength.isSome = true ∧
    ∃ rank, item = { row with rank := some rank }
  covers : ∀ row ∈ results, row.selectionStrength.isSome = true →
    ∃ item ∈ ranked, rowId item = rowId row
  ranks : ranked.map PreferenceVettingResult.rank = (List.range' 1 ranked.length).map some
  distinct : (ranked.map rowId).Nodup

omit [Hashing] in
theorem distinct_of_preferences {catalog : PreferenceCatalog}
    {rows : List PreferenceVettingResult}
    (hrows : rows.map PreferenceVettingResult.preference = catalog.preferences) :
    (rows.map rowId).Nodup := by
  have hunique := catalog.unique
  rw [← hrows, List.map_map] at hunique
  exact hunique

theorem assembled_of_vet {sorter : Sorter PreferenceVettingResult} {state predictions : PyValue}
    {policy : PolicyVersion} {inputs : String → Except T15Error CandidateInput}
    {catalog : PreferenceCatalog} {results : List PreferenceVettingResult}
    (hresults : vetPreferences state predictions policy inputs catalog = .ok results) :
    Assembled policy catalog results (rankResults sorter policy results) := by
  have hcalls : List.Forall₂ (fun preference row =>
      preference = row.preference ∧ Unranked policy row) catalog.preferences results := by
    refine (forall₂_of_mapM hresults).imp fun preference row hrow => ?_
    rw [bind_eq_ok] at hrow
    obtain ⟨candidate, -, hvetted⟩ := hrow
    exact unranked_resultForPreference hvetted
  have hpreferences : results.map PreferenceVettingResult.preference = catalog.preferences := by
    have hequal : List.Forall₂ Eq catalog.preferences
        (results.map PreferenceVettingResult.preference) :=
      List.forall₂_map_right_iff.mpr (hcalls.imp fun _ _ hrow => hrow.1)
    rw [List.forall₂_eq_eq_eq] at hequal
    exact hequal.symm
  have hunranked : ∀ row ∈ results, Unranked policy row := fun row hrow => by
    obtain ⟨preference, -, -, hunranked⟩ := exists_of_mem_right hcalls hrow
    exact hunranked
  have hids := distinct_of_preferences hpreferences
  by_cases hconfig : policy.selectionStrength.isSome = true
  · rw [rankResults, if_pos hconfig, rankSurvivors]
    generalize hordered : sorter.sort (compareResults policy) _ = ordered
    have hperm : ordered.Perm ((results.filter PreferenceVettingResult.isGateSurvivor).filter
        fun row => row.selectionStrength.isSome) := hordered ▸ sorter.perm _ _
    have hmem (row : PreferenceVettingResult) : row ∈ ordered ↔
        (row ∈ results ∧ row.isGateSurvivor = true) ∧ row.selectionStrength.isSome = true := by
      rw [hperm.mem_iff, List.mem_filter, List.mem_filter]
    have hkept : ((results.filter PreferenceVettingResult.isGateSurvivor).filter
        fun row => row.selectionStrength.isSome).Sublist results :=
      List.filter_sublist.trans List.filter_sublist
    have hnodup : (ordered.map rowId).Nodup :=
      (hperm.map rowId).nodup_iff.mpr (hids.sublist (hkept.map rowId))
    refine ⟨hpreferences, hunranked, fun item hitem => ?_, fun row hrow hstrength => ?_, ?_, ?_⟩
    · obtain ⟨row, hrow, rank, rfl⟩ := mem_withRanks hitem
      obtain ⟨⟨hresult, -⟩, hstrength⟩ := (hmem row).mp hrow
      exact ⟨row, hresult, hstrength, rank, rfl⟩
    · have hrowId : rowId row ∈ (withRanks ordered).map rowId := by
        rw [withRanks_ids]
        refine List.mem_map_of_mem ((hmem row).mpr ⟨⟨hrow, ?_⟩, hstrength⟩)
        exact ((hunranked row hrow).strength hstrength).1
      obtain ⟨item, hitem, hid⟩ := List.mem_map.mp hrowId
      exact ⟨item, hitem, hid⟩
    · rw [withRanks_rank]
      congr 2
      rw [withRanks, List.length_map, List.length_zipIdx]
    · rw [withRanks_ids]
      exact hnodup
  · rw [rankResults, if_neg hconfig]
    exact ⟨hpreferences, hunranked, fun item hitem => absurd hitem List.not_mem_nil,
      fun row hrow hstrength => absurd ((hunranked row hrow).strength hstrength).2 hconfig, rfl,
      List.nodup_nil⟩

/-! ## Labelled rows -/

/-- A label changes the status and the role of a row only, and rejects nothing. -/
def Labels (label : PreferenceVettingResult → PreferenceVettingResult) : Prop :=
  ∀ row, ∃ status role, label row = { row with status := status, role := role } ∧
    (row.status ≠ .reject → status ≠ .reject)

omit [Hashing] in
theorem labels_researchRole (primary : PreferenceVettingResult) :
    Labels (researchRole primary) := by
  intro row
  unfold researchRole
  split
  · exact ⟨row.status, _, rfl, id⟩
  · split
    · exact ⟨row.status, _, rfl, id⟩
    · exact ⟨row.status, row.role, rfl, id⟩

/-- The label of a row of production output. -/
def productionRole (primary row : PreferenceVettingResult) : PreferenceVettingResult :=
  if rowId row = rowId primary then asPrimary row
  else if sharesGroup primary row then asSecondaryFit row
  else row

omit [Hashing] in
theorem labels_productionRole (primary : PreferenceVettingResult) :
    Labels (productionRole primary) := by
  intro row
  unfold productionRole
  split
  · exact ⟨_, _, rfl, fun _ => by decide⟩
  · split
    · exact ⟨_, _, rfl, fun _ => by decide⟩
    · exact ⟨row.status, row.role, rfl, id⟩

omit [Hashing] in
/-- Among distinct rows, the first one is the primary recommendation. -/
theorem productionRoles_rows {first : PreferenceVettingResult}
    {rest : List PreferenceVettingResult} (hdistinct : ((first :: rest).map rowId).Nodup) :
    (productionRoles (first :: rest)).rows = (first :: rest).map (productionRole first) := by
  rw [List.map_cons, List.nodup_cons] at hdistinct
  rw [List.map_cons, productionRole, if_pos rfl]
  refine congrArg (asPrimary first :: ·) (List.map_congr_left fun row hrow => ?_)
  have hother : rowId row ≠ rowId first := fun hid =>
    hdistinct.1 (hid ▸ List.mem_map_of_mem hrow)
  rw [productionRole, if_neg hother]

section Rows

variable {policy : PolicyVersion} {catalog : PreferenceCatalog}
  {results ranked : List PreferenceVettingResult}
  {label : PreferenceVettingResult → PreferenceVettingResult}

omit [Hashing] in
theorem Labels.rowId_eq (hlabel : Labels label) (row : PreferenceVettingResult) :
    rowId (label row) = rowId row := by
  obtain ⟨status, role, hrow, -⟩ := hlabel row
  rw [hrow]
  rfl

omit [Hashing] in
theorem Labels.rank_eq (hlabel : Labels label) (row : PreferenceVettingResult) :
    (label row).rank = row.rank := by
  obtain ⟨status, role, hrow, -⟩ := hlabel row
  rw [hrow]

omit [Hashing] in
theorem Labels.ids (hlabel : Labels label) : (ranked.map label).map rowId = ranked.map rowId := by
  rw [List.map_map]
  exact List.map_congr_left fun row _ => hlabel.rowId_eq row

/-- The rows of the record, once the ranked ones are labelled. -/
def labelledRows (label : PreferenceVettingResult → PreferenceVettingResult)
    (results ranked : List PreferenceVettingResult) : List PreferenceVettingResult :=
  replaceRankedResults results (ranked.map label)

theorem Assembled.preferences_labelledRows (hassembled : Assembled policy catalog results ranked)
    (hlabel : Labels label) :
    (labelledRows label results ranked).map PreferenceVettingResult.preference =
      catalog.preferences := by
  rw [← hassembled.preferences]
  have hranked : ((ranked.map label).map rowId).Nodup := by
    rw [hlabel.ids]
    exact hassembled.distinct
  refine replaceRankedResults_preferences hranked
    (distinct_of_preferences hassembled.preferences) fun item hitem => ?_
  obtain ⟨before, hbefore, rfl⟩ := List.mem_map.mp hitem
  obtain ⟨row, hrow, -, rank, rfl⟩ := hassembled.drawn before hbefore
  obtain ⟨status, role, hlabelled, -⟩ := hlabel { row with rank := some rank }
  rw [hlabelled]
  exact ⟨row, hrow, rfl⟩

/-- A row of the record is ranked and labelled, or has no strength and is as it was. -/
theorem Assembled.mem_labelledRows (hassembled : Assembled policy catalog results ranked)
    (hlabel : Labels label) {found : PreferenceVettingResult} :
    found ∈ labelledRows label results ranked ↔
      found ∈ ranked.map label ∨ (found ∈ results ∧ found.selectionStrength = none) := by
  have hids : ((ranked.map label).map rowId).Nodup := by
    rw [hlabel.ids]
    exact hassembled.distinct
  have hdrawn : ∀ item ∈ ranked.map label, ∃ row ∈ results, rowId item = rowId row := by
    intro item hitem
    obtain ⟨before, hbefore, rfl⟩ := List.mem_map.mp hitem
    obtain ⟨row, hrow, -, rank, rfl⟩ := hassembled.drawn before hbefore
    exact ⟨row, hrow, hlabel.rowId_eq _⟩
  rw [labelledRows, mem_replaceRankedResults hids hdrawn]
  refine or_congr Iff.rfl (and_congr_right fun hfound => ?_)
  constructor
  · intro hother
    by_contra hstrength
    obtain ⟨item, hitem, hid⟩ := hassembled.covers found hfound
      (Option.isSome_iff_ne_none.mpr hstrength)
    exact hother (label item) (List.mem_map_of_mem hitem) ((hlabel.rowId_eq item).trans hid)
  · intro hstrength item hitem hid
    obtain ⟨before, hbefore, rfl⟩ := List.mem_map.mp hitem
    obtain ⟨row, hrow, hsome, rank, rfl⟩ := hassembled.drawn before hbefore
    have hsame : row = found := by
      refine List.inj_on_of_nodup_map (distinct_of_preferences hassembled.preferences) hrow hfound ?_
      rw [hlabel.rowId_eq] at hid
      exact hid
    rw [hsame, hstrength] at hsome
    cases hsome

/-- What a ranked row was before it was ranked and labelled. -/
theorem Assembled.exists_unranked (hassembled : Assembled policy catalog results ranked)
    (hlabel : Labels label) {found : PreferenceVettingResult} (hfound : found ∈ ranked.map label) :
    ∃ row ∈ results, rankable row = true ∧ ∃ rank status role,
      found = { row with rank := some rank, status := status, role := role } ∧
        status ≠ .reject := by
  obtain ⟨before, hbefore, rfl⟩ := List.mem_map.mp hfound
  obtain ⟨row, hrow, hstrength, rank, rfl⟩ := hassembled.drawn before hbefore
  have hunranked := hassembled.unranked row hrow
  obtain ⟨status, role, hlabelled, hstatus⟩ := hlabel { row with rank := some rank }
  refine ⟨row, hrow, hunranked.rankable_eq.trans hstrength, rank, status, role, hlabelled,
    hstatus fun hreject => ?_⟩
  have hfails := vettedStatus_eq_reject.mp (hunranked.status.symm.trans hreject)
  rw [(hunranked.strength hstrength).1] at hfails
  cases hfails

/-- The ranked rows are the survivors with a strength. -/
theorem Assembled.rank_isSome (hassembled : Assembled policy catalog results ranked)
    (hlabel : Labels label) {found : PreferenceVettingResult}
    (hfound : found ∈ labelledRows label results ranked) :
    found.rank.isSome = rankable found := by
  rcases (hassembled.mem_labelledRows hlabel).mp hfound with hranked | ⟨hrow, hstrength⟩
  · obtain ⟨row, -, hrankable, rank, status, role, rfl, -⟩ :=
      hassembled.exists_unranked hlabel hranked
    exact hrankable.symm
  · have hunranked := hassembled.unranked found hrow
    rw [hunranked.rank, hunranked.rankable_eq, hstrength]
    rfl

theorem Assembled.mem_ranked_iff (hassembled : Assembled policy catalog results ranked)
    (hlabel : Labels label) {found : PreferenceVettingResult} :
    found ∈ ranked.map label ↔
      found ∈ labelledRows label results ranked ∧ found.rank.isSome = true := by
  constructor
  · intro hranked
    obtain ⟨row, -, -, rank, status, role, rfl, -⟩ := hassembled.exists_unranked hlabel hranked
    exact ⟨(hassembled.mem_labelledRows hlabel).mpr (Or.inl hranked), rfl⟩
  · rintro ⟨hfound, hrank⟩
    rcases (hassembled.mem_labelledRows hlabel).mp hfound with hranked | ⟨hrow, -⟩
    · exact hranked
    · rw [(hassembled.unranked found hrow).rank] at hrank
      cases hrank

/-- The rejected rows are those with a gate that does not pass, and they are left alone. -/
theorem Assembled.reject_iff (hassembled : Assembled policy catalog results ranked)
    (hlabel : Labels label) {found : PreferenceVettingResult}
    (hfound : found ∈ labelledRows label results ranked) :
    (found.status = .reject ↔ found.isGateSurvivor = false) ∧
      (found.isGateSurvivor = false →
        found.rank = none ∧ found.role = .none ∧ found.selectionStrength = none) := by
  rcases (hassembled.mem_labelledRows hlabel).mp hfound with hranked | ⟨hrow, hstrength⟩
  · obtain ⟨row, -, hrankable, rank, status, role, rfl, hstatus⟩ :=
      hassembled.exists_unranked hlabel hranked
    rw [rankable, Bool.and_eq_true] at hrankable
    have hsurvives : PreferenceVettingResult.isGateSurvivor
        { row with rank := some rank, status := status, role := role } = true := hrankable.1
    rw [hsurvives]
    exact ⟨⟨fun hreject => absurd hreject hstatus, nofun⟩, nofun⟩
  · have hunranked := hassembled.unranked found hrow
    rw [hunranked.status]
    exact ⟨vettedStatus_eq_reject, fun _ => ⟨hunranked.rank, hunranked.role, hstrength⟩⟩

theorem Assembled.nodup_labelledRows (hassembled : Assembled policy catalog results ranked)
    (hlabel : Labels label) : ((labelledRows label results ranked).map rowId).Nodup :=
  distinct_of_preferences (hassembled.preferences_labelledRows hlabel)

theorem Assembled.filter_ranked (hassembled : Assembled policy catalog results ranked)
    (hlabel : Labels label) :
    ((labelledRows label results ranked).filter fun row => row.rank.isSome).Perm
      (ranked.map label) := by
  have hrows := List.Nodup.of_map rowId (hassembled.nodup_labelledRows hlabel)
  have hranked : (ranked.map label).Nodup := by
    refine List.Nodup.of_map rowId ?_
    rw [hlabel.ids]
    exact hassembled.distinct
  rw [List.perm_ext_iff_of_nodup (hrows.filter _) hranked]
  intro found
  rw [List.mem_filter, hassembled.mem_ranked_iff hlabel]

theorem Assembled.countP_rankable (hassembled : Assembled policy catalog results ranked)
    (hlabel : Labels label) :
    (labelledRows label results ranked).countP rankable = ranked.length := by
  have hlength := (hassembled.filter_ranked hlabel).length_eq
  rw [List.length_map, ← List.countP_eq_length_filter] at hlength
  rw [← hlength]
  refine List.countP_congr fun row hrow => ?_
  rw [hassembled.rank_isSome hlabel hrow]

/-- The ranks count the ranked rows. -/
theorem Assembled.ranks_perm (hassembled : Assembled policy catalog results ranked)
    (hlabel : Labels label) :
    ((labelledRows label results ranked).filterMap PreferenceVettingResult.rank).Perm
      (List.range' 1 ranked.length) := by
  have hfiltered := (hassembled.filter_ranked hlabel).filterMap PreferenceVettingResult.rank
  have hleft : ((labelledRows label results ranked).filter fun row => row.rank.isSome).filterMap
      PreferenceVettingResult.rank =
        (labelledRows label results ranked).filterMap PreferenceVettingResult.rank := by
    rw [List.filterMap_filter]
    refine List.filterMap_congr fun row _ => ?_
    cases row.rank <;> rfl
  have hright : (ranked.map label).filterMap PreferenceVettingResult.rank =
      List.range' 1 ranked.length := by
    have hranks : (ranked.map label).map PreferenceVettingResult.rank =
        (List.range' 1 ranked.length).map some := by
      rw [← hassembled.ranks, List.map_map]
      exact List.map_congr_left fun row _ => hlabel.rank_eq row
    calc (ranked.map label).filterMap PreferenceVettingResult.rank
        = ((ranked.map label).map PreferenceVettingResult.rank).filterMap id :=
          (List.filterMap_map (f := PreferenceVettingResult.rank) (g := id)).symm
      _ = ((List.range' 1 ranked.length).map some).filterMap id := by rw [hranks]
      _ = List.range' 1 ranked.length := by
          rw [List.filterMap_map]
          exact List.filterMap_some
  rw [hleft, hright] at hfiltered
  exact hfiltered

end Rows

/-! ## The record -/

/-- The ranked and explanatory rows of the correlation group of the primary one. -/
def Accompanies (primary row : PreferenceVettingResult) : Prop :=
  row.rank.isSome = true ∧ row ≠ primary ∧ row.explanatory = true ∧
    ∃ group, group ≠ "" ∧ primary.correlationGroup = some group ∧
      row.correlationGroup = some group

/-- The only row with a production label of the first rank, and those that accompany it. -/
structure Recommends (fields : AuditFields) (primary : PreferenceVettingResult) : Prop where
  recommended : fields.primaryRecommendation = some primary
  mem : primary ∈ fields.preferenceResults
  rank : primary.rank = some 1
  status : ∀ row ∈ fields.preferenceResults, row.status = .primaryRecommendation ↔ row = primary
  role : ∀ row ∈ fields.preferenceResults, row.role = .primaryRecommendation ↔ row = primary
  secondary : ∀ row, row ∈ fields.secondaryFits ↔
    row ∈ fields.preferenceResults ∧ Accompanies primary row
  nodup : fields.secondaryFits.Nodup

/-- One row for each preference in catalog order; exactly the survivors with a strength are
ranked, from one on, and exactly the other rows with a gate that does not pass are rejected. -/
structure SoundRows (catalog : PreferenceCatalog) (rows : List PreferenceVettingResult) :
    Prop where
  preferences : rows.map PreferenceVettingResult.preference = catalog.preferences
  rejected : ∀ row ∈ rows, (row.status = .reject ↔ ∃ gate ∈ row.gates, gate.status ≠ .pass) ∧
    (row.status = .reject → row.rank = none ∧ row.role = .none ∧ row.selectionStrength = none)
  ranked : ∀ row ∈ rows, row.rank.isSome = rankable row
  roles : ∀ row ∈ rows, row.rank = none → row.role = .none
  ranks : (rows.filterMap PreferenceVettingResult.rank).Perm
    (List.range' 1 (rows.countP rankable))

/-- What the audit of a match promises. -/
structure Sound (policy : PolicyVersion) (catalog : PreferenceCatalog) (fields : AuditFields) :
    Prop where
  rows : SoundRows catalog fields.preferenceResults
  policyStatus : fields.policyStatus = policy.status
  play : fields.decision = .play ↔
    policy.status = .productionPromoted ∧ 1 ≤ fields.preferenceResults.countP rankable
  recommends : fields.decision = .play → ∃ primary, Recommends fields primary
  avoids : fields.decision ≠ .play →
    fields.primaryRecommendation = none ∧ fields.secondaryFits = []
  research : policy.status = .researchOnly →
    (fields.decision = .researchOnly ∨ fields.decision = .researchAvoid) ∧
      ∀ row ∈ fields.preferenceResults,
        (row.status ≠ .primaryRecommendation ∧ row.status ≠ .correlatedSecondaryFit) ∧
          row.role ≠ .primaryRecommendation ∧ row.role ≠ .correlatedSecondaryFit

omit [Hashing] in
theorem isGateSurvivor_eq_false {row : PreferenceVettingResult} :
    row.isGateSurvivor = false ↔ ∃ gate ∈ row.gates, gate.status ≠ .pass := by
  rw [PreferenceVettingResult.isGateSurvivor, List.all_eq_false]
  simp

omit [Hashing] in
theorem sharesGroup_eq_true {primary row : PreferenceVettingResult} :
    sharesGroup primary row = true ↔ row.explanatory = true ∧
      ∃ group, group ≠ "" ∧ primary.correlationGroup = some group ∧
        row.correlationGroup = some group := by
  unfold sharesGroup
  cases primary.correlationGroup with
  | none => simp
  | some group =>
      simp only [Bool.and_eq_true, decide_eq_true_eq, Option.some.injEq]
      constructor
      · rintro ⟨⟨hgroup, hrow⟩, hexplains⟩
        exact ⟨hexplains, group, hgroup, rfl, hrow⟩
      · rintro ⟨hexplains, found, hgroup, rfl, hrow⟩
        exact ⟨⟨hgroup, hrow⟩, hexplains⟩

section Roles

variable {policy : PolicyVersion} {catalog : PreferenceCatalog}
  {results rest : List PreferenceVettingResult} {first : PreferenceVettingResult}

/-- The status and the role of a row before its label. -/
theorem Assembled.status_role {ranked : List PreferenceVettingResult}
    (hassembled : Assembled policy catalog results ranked) {row : PreferenceVettingResult}
    (hrow : row ∈ results ∨ row ∈ ranked) :
    row.status = vettedStatus policy row ∧ row.role = .none := by
  rcases hrow with hrow | hrow
  · exact ⟨(hassembled.unranked row hrow).status, (hassembled.unranked row hrow).role⟩
  · obtain ⟨before, hbefore, -, rank, rfl⟩ := hassembled.drawn row hrow
    exact ⟨(hassembled.unranked before hbefore).status, (hassembled.unranked before hbefore).role⟩

theorem vettedStatus_ne {row : PreferenceVettingResult} :
    vettedStatus policy row ≠ .primaryRecommendation ∧
      vettedStatus policy row ≠ .correlatedSecondaryFit := by
  unfold vettedStatus
  split
  · exact ⟨by decide, by decide⟩
  · split
    · exact ⟨by decide, by decide⟩
    · exact ⟨by decide, by decide⟩

/-- A row that is not the primary one keeps its label off the primary one. -/
theorem productionRole_ne {row : PreferenceVettingResult} (hid : rowId row ≠ rowId first)
    (hstatus : row.status = vettedStatus policy row) (hrole : row.role = .none) :
    (productionRole first row).status ≠ .primaryRecommendation ∧
      (productionRole first row).role ≠ .primaryRecommendation := by
  rw [productionRole, if_neg hid]
  split
  · exact ⟨nofun, nofun⟩
  · rw [hstatus, hrole]
    exact ⟨vettedStatus_ne.1, nofun⟩

theorem Assembled.primary_iff (hassembled : Assembled policy catalog results (first :: rest))
    {found : PreferenceVettingResult}
    (hfound : found ∈ labelledRows (productionRole first) results (first :: rest)) :
    (found.status = .primaryRecommendation ↔ found = asPrimary first) ∧
      (found.role = .primaryRecommendation ↔ found = asPrimary first) := by
  by_cases hsame : found = asPrimary first
  · rw [hsame]
    exact ⟨⟨fun _ => rfl, fun _ => rfl⟩, ⟨fun _ => rfl, fun _ => rfl⟩⟩
  · have hlabels : found.status ≠ .primaryRecommendation ∧
        found.role ≠ .primaryRecommendation := by
      rcases (hassembled.mem_labelledRows (labels_productionRole first)).mp hfound with
        hranked | ⟨hrow, -⟩
      · obtain ⟨before, hbefore, rfl⟩ := List.mem_map.mp hranked
        obtain ⟨hstatus, hrole⟩ := hassembled.status_role (Or.inr hbefore)
        refine productionRole_ne (fun hid => hsame ?_) hstatus hrole
        rw [productionRole, if_pos hid,
          List.inj_on_of_nodup_map hassembled.distinct hbefore List.mem_cons_self hid]
      · obtain ⟨hstatus, hrole⟩ := hassembled.status_role (Or.inl hrow)
        rw [hstatus, hrole]
        exact ⟨vettedStatus_ne.1, by decide⟩
    exact ⟨⟨fun hprimary => absurd hprimary hlabels.1, fun hequal => absurd hequal hsame⟩,
      ⟨fun hprimary => absurd hprimary hlabels.2, fun hequal => absurd hequal hsame⟩⟩

/-- The rows behind the first one are those of another identifier. -/
theorem Assembled.mem_rest (hassembled : Assembled policy catalog results (first :: rest))
    {row : PreferenceVettingResult} :
    row ∈ rest ↔ row ∈ first :: rest ∧ rowId row ≠ rowId first := by
  have hdistinct := hassembled.distinct
  rw [List.map_cons, List.nodup_cons] at hdistinct
  constructor
  · intro hrow
    exact ⟨List.mem_cons_of_mem first hrow, fun hid =>
      hdistinct.1 (hid ▸ List.mem_map_of_mem hrow)⟩
  · rintro ⟨hrow, hid⟩
    rcases List.mem_cons.mp hrow with rfl | hrest
    · exact absurd rfl hid
    · exact hrest

theorem Assembled.secondary_iff (hassembled : Assembled policy catalog results (first :: rest))
    {found : PreferenceVettingResult} :
    found ∈ (rest.filter (sharesGroup first)).map asSecondaryFit ↔
      found ∈ labelledRows (productionRole first) results (first :: rest) ∧
        Accompanies (asPrimary first) found := by
  have hlabel := labels_productionRole first
  constructor
  · intro hfound
    obtain ⟨row, hrow, rfl⟩ := List.mem_map.mp hfound
    obtain ⟨hrest, hshares⟩ := List.mem_filter.mp hrow
    obtain ⟨hranked, hid⟩ := hassembled.mem_rest.mp hrest
    have hlabelled : asSecondaryFit row = productionRole first row := by
      rw [productionRole, if_neg hid, if_pos hshares]
    have hmem : asSecondaryFit row ∈ (first :: rest).map (productionRole first) :=
      hlabelled ▸ List.mem_map_of_mem hranked
    obtain ⟨hrows, hrank⟩ := (hassembled.mem_ranked_iff hlabel).mp hmem
    have hother : asSecondaryFit row ≠ asPrimary first := by
      intro hsame
      have hids : rowId (asSecondaryFit row) = rowId (asPrimary first) := congrArg rowId hsame
      exact hid hids
    exact ⟨hrows, hrank, hother, sharesGroup_eq_true.mp hshares⟩
  · rintro ⟨hfound, hrank, hother, hshares⟩
    obtain ⟨row, hrow, rfl⟩ :=
      List.mem_map.mp ((hassembled.mem_ranked_iff hlabel).mpr ⟨hfound, hrank⟩)
    have hid : rowId row ≠ rowId first := by
      intro hid
      refine hother ?_
      rw [productionRole, if_pos hid,
        List.inj_on_of_nodup_map hassembled.distinct hrow List.mem_cons_self hid]
    have hgroup : sharesGroup first row = true := by
      obtain ⟨status, role, hlabelled, -⟩ := hlabel row
      rw [hlabelled] at hshares
      exact sharesGroup_eq_true.mpr hshares
    refine List.mem_map.mpr ⟨row, List.mem_filter.mpr
      ⟨hassembled.mem_rest.mpr ⟨hrow, hid⟩, hgroup⟩, ?_⟩
    rw [productionRole, if_neg hid, if_pos hgroup]

/-- Research labels are no production labels. -/
theorem Assembled.research_labels {ranked : List PreferenceVettingResult}
    (hassembled : Assembled policy catalog results ranked) (primary : PreferenceVettingResult)
    {found : PreferenceVettingResult}
    (hfound : found ∈ labelledRows (researchRole primary) results ranked) :
    (found.status ≠ .primaryRecommendation ∧ found.status ≠ .correlatedSecondaryFit) ∧
      found.role ≠ .primaryRecommendation ∧ found.role ≠ .correlatedSecondaryFit := by
  rcases (hassembled.mem_labelledRows (labels_researchRole primary)).mp hfound with
    hranked | ⟨hrow, -⟩
  · obtain ⟨before, hbefore, rfl⟩ := List.mem_map.mp hranked
    obtain ⟨hstatus, hrole⟩ := hassembled.status_role (Or.inr hbefore)
    unfold researchRole
    split
    · rw [hstatus]
      exact ⟨vettedStatus_ne, nofun, nofun⟩
    · split
      · rw [hstatus]
        exact ⟨vettedStatus_ne, nofun, nofun⟩
      · rw [hstatus, hrole]
        exact ⟨vettedStatus_ne, nofun, nofun⟩
  · obtain ⟨hstatus, hrole⟩ := hassembled.status_role (Or.inl hrow)
    rw [hstatus, hrole]
    exact ⟨vettedStatus_ne, nofun, nofun⟩

end Roles

/-! ## Every record is sound -/

section Records

variable {policy : PolicyVersion} {catalog : PreferenceCatalog}
  {results ranked : List PreferenceVettingResult}
  {label : PreferenceVettingResult → PreferenceVettingResult}

theorem Assembled.soundRows (hassembled : Assembled policy catalog results ranked)
    (hlabel : Labels label) : SoundRows catalog (labelledRows label results ranked) where
  preferences := hassembled.preferences_labelledRows hlabel
  rejected row hrow := by
    obtain ⟨hreject, hplain⟩ := hassembled.reject_iff hlabel hrow
    exact ⟨hreject.trans isGateSurvivor_eq_false, fun hstatus => hplain (hreject.mp hstatus)⟩
  ranked row hrow := hassembled.rank_isSome hlabel hrow
  roles row hrow hrank := by
    rcases (hassembled.mem_labelledRows hlabel).mp hrow with hranked | ⟨hresult, -⟩
    · obtain ⟨origin, -, -, rank, status, role, hfound, -⟩ :=
        hassembled.exists_unranked hlabel hranked
      rw [hfound] at hrank
      cases hrank
    · exact (hassembled.unranked row hresult).role
  ranks := by
    rw [hassembled.countP_rankable hlabel]
    exact hassembled.ranks_perm hlabel

omit [Hashing] in
theorem labelledRows_nil (results : List PreferenceVettingResult) :
    labelledRows id results [] = results := by
  rw [labelledRows, replaceRankedResults]
  exact List.map_id results

theorem Assembled.soundRows_nil (hassembled : Assembled policy catalog results []) :
    SoundRows catalog results ∧ results.countP rankable = 0 := by
  have hlabel : Labels id := fun row => ⟨row.status, row.role, rfl, id⟩
  have hrows := hassembled.soundRows hlabel
  have hcount := hassembled.countP_rankable hlabel
  rw [labelledRows_nil] at hrows hcount
  exact ⟨hrows, hcount⟩

theorem Assembled.recommends {first : PreferenceVettingResult}
    {rest : List PreferenceVettingResult}
    (hassembled : Assembled policy catalog results (first :: rest)) {fields : AuditFields}
    (hrows : fields.preferenceResults =
      labelledRows (productionRole first) results (first :: rest))
    (hprimary : fields.primaryRecommendation = some (asPrimary first))
    (hsecondary : fields.secondaryFits =
      (rest.filter (sharesGroup first)).map asSecondaryFit) :
    Recommends fields (asPrimary first) := by
  have hlabel := labels_productionRole first
  have hlabelled : productionRole first first = asPrimary first := by
    rw [productionRole, if_pos rfl]
  refine ⟨hprimary, ?_, ?_, fun row hrow => ?_, fun row hrow => ?_, fun row => ?_, ?_⟩
  · rw [hrows, hassembled.mem_labelledRows hlabel, ← hlabelled]
    exact Or.inl (List.mem_map_of_mem List.mem_cons_self)
  · exact (List.cons.inj hassembled.ranks).1
  · rw [hrows] at hrow
    exact (hassembled.primary_iff hrow).1
  · rw [hrows] at hrow
    exact (hassembled.primary_iff hrow).2
  · rw [hrows, hsecondary, hassembled.secondary_iff]
  · have hdistinct := hassembled.distinct
    rw [List.map_cons, List.nodup_cons] at hdistinct
    rw [hsecondary]
    refine List.Nodup.of_map rowId ?_
    rw [List.map_map]
    exact hdistinct.2.sublist (List.filter_sublist.map rowId)

/-- A record without ranked rows is sound when it does not play. -/
theorem sound_recordOf (hassembled : Assembled policy catalog results []) (state : PyValue)
    (policyDigest : String) {decision : MatchDecision} (hdecision : decision ≠ .play)
    (hmode : policy.status = .researchOnly → decision = .researchOnly ∨ decision = .researchAvoid)
    (avoidReason : Option String) :
    Sound policy catalog (recordOf state policy policyDigest decision results avoidReason) := by
  obtain ⟨hrows, hcount⟩ := hassembled.soundRows_nil
  refine ⟨hrows, rfl, ⟨fun hplay => absurd hplay hdecision, ?_⟩,
    fun hplay => absurd hplay hdecision, fun _ => ⟨rfl, rfl⟩,
    fun hresearch => ⟨hmode hresearch, fun row hrow => ?_⟩⟩
  · rintro ⟨-, hpositive⟩
    change 1 ≤ results.countP rankable at hpositive
    omega
  · obtain ⟨hstatus, hrole⟩ := hassembled.status_role (Or.inl hrow)
    rw [hstatus, hrole]
    exact ⟨vettedStatus_ne, nofun, nofun⟩

/-- The record of rows that are assembled is sound. -/
theorem sound_decideMatch (hassembled : Assembled policy catalog results ranked) (state : PyValue)
    (policyDigest : String) :
    Sound policy catalog (decideMatch state policy policyDigest results ranked) := by
  unfold decideMatch
  cases hstatus : policy.status with
  | researchOnly =>
      cases ranked with
      | nil =>
          dsimp only
          split
          · exact sound_recordOf hassembled state policyDigest (by decide)
              (fun _ => Or.inl rfl) _
          · exact sound_recordOf hassembled state policyDigest (by decide)
              (fun _ => Or.inr rfl) _
      | cons first rest =>
          refine ⟨hassembled.soundRows (labels_researchRole first), rfl, ⟨nofun, ?_⟩, nofun,
            fun _ => ⟨rfl, rfl⟩,
            fun _ => ⟨Or.inl rfl, fun row hrow => hassembled.research_labels first hrow⟩⟩
          rintro ⟨hproduction, -⟩
          rw [hstatus] at hproduction
          cases hproduction
  | productionPromoted =>
      cases ranked with
      | nil =>
          refine sound_recordOf hassembled state policyDigest (by decide) (fun hresearch => ?_) _
          rw [hstatus] at hresearch
          cases hresearch
      | cons first rest =>
          have hlabelled := productionRoles_rows hassembled.distinct
          have hrows : SoundRows catalog
              (labelledRows (productionRole first) results (first :: rest)) :=
            hassembled.soundRows (labels_productionRole first)
          have hcount : 1 ≤ (labelledRows (productionRole first) results (first :: rest)).countP
              rankable := by
            rw [hassembled.countP_rankable (labels_productionRole first), List.length_cons]
            omega
          rw [labelledRows, ← hlabelled] at hrows hcount
          refine ⟨hrows, rfl, ⟨fun _ => ⟨hstatus, hcount⟩, fun _ => rfl⟩, fun _ =>
            ⟨asPrimary first, hassembled.recommends ?_ rfl rfl⟩,
            fun havoids => absurd rfl havoids, fun hresearch => ?_⟩
          · rw [labelledRows, ← hlabelled]
            rfl
          · rw [hstatus] at hresearch
            cases hresearch

/-! ## The checks of the constructor -/

omit [Hashing] in
/-- One row has the role of the primary recommendation. -/
theorem countP_primary {fields : AuditFields} {primary : PreferenceVettingResult}
    (hrows : SoundRows catalog fields.preferenceResults) (hprimary : Recommends fields primary) :
    (fields.preferenceResults.countP fun row => row.role = .primaryRecommendation) = 1 := by
  have hids := distinct_of_preferences hrows.preferences
  rw [← List.count_eq_one_of_mem hids (List.mem_map_of_mem hprimary.mem), List.count,
    List.countP_map]
  refine List.countP_congr fun row hrow => ?_
  rw [decide_eq_true_eq, hprimary.role row hrow, Function.comp_apply, beq_iff_eq]
  constructor
  · rintro rfl
    rfl
  · exact fun hid => List.inj_on_of_nodup_map hids hrow hprimary.mem hid

omit [Hashing] in
/-- Without a ranked row, no row has a role. -/
theorem countP_primary_eq_zero {rows : List PreferenceVettingResult}
    (hrows : SoundRows catalog rows) (hcount : rows.countP rankable = 0) :
    (rows.countP fun row => row.role = .primaryRecommendation) = 0 := by
  rw [List.countP_eq_zero] at hcount ⊢
  intro row hrow
  have hrank : row.rank = none := by
    have hunranked := hrows.ranked row hrow
    rw [Bool.eq_false_iff.mpr (hcount row hrow)] at hunranked
    exact Option.isNone_iff_eq_none.mp (Option.isSome_eq_false_iff.mp hunranked)
  rw [hrows.roles row hrow hrank]
  decide

/-- No check of the constructor fails on a sound record. -/
theorem Sound.intact {fields : AuditFields} (hsound : Sound policy catalog fields) :
    fields.integrityFault = none := by
  have hids := distinct_of_preferences hsound.rows.preferences
  unfold AuditFields.integrityFault
  dsimp only
  rw [if_neg (not_not.mpr hids), hsound.policyStatus]
  cases hstatus : policy.status with
  | researchOnly =>
      obtain ⟨hmode, hlabels⟩ := hsound.research hstatus
      have hdecision : fields.decision ≠ .play := by
        rcases hmode with hmode | hmode <;> rw [hmode] <;> decide
      obtain ⟨hprimary, hsecondary⟩ := hsound.avoids hdecision
      have houtput : ¬ fields.preferenceResults.any isProductionOutput = true := by
        rw [Bool.not_eq_true, List.any_eq_false]
        intro row hrow
        obtain ⟨⟨hrecommended, hfit⟩, -⟩ := hlabels row hrow
        rw [isProductionOutput, decide_eq_false hrecommended, decide_eq_false hfit]
        decide
      have hknown : ¬(fields.decision ≠ .researchOnly ∧ fields.decision ≠ .researchAvoid) := by
        rintro ⟨honly, havoid⟩
        exact hmode.elim honly havoid
      rw [if_pos rfl, hprimary, hsecondary, if_neg (by simp), if_neg houtput, if_neg hknown]
  | productionPromoted =>
      rw [if_neg (by decide)]
      by_cases hdecision : fields.decision = .play
      · obtain ⟨primary, hprimary⟩ := hsound.recommends hdecision
        rw [hprimary.recommended, countP_primary hsound.rows hprimary, if_neg (by simp),
          if_neg (by simp), if_neg (fun hother => hother.1 hdecision)]
      · obtain ⟨hprimary, hsecondary⟩ := hsound.avoids hdecision
        have hcount : fields.preferenceResults.countP rankable = 0 := by
          by_contra hpositive
          exact hdecision (hsound.play.mpr ⟨hstatus, Nat.pos_of_ne_zero hpositive⟩)
        rw [if_neg (fun hplay => hdecision hplay.1), if_neg (fun hplay => hdecision hplay.1),
          hprimary, hsecondary, countP_primary_eq_zero hsound.rows hcount, if_neg (by simp)]

end Records

/-! ## Vetting a match -/

variable {sorter : Sorter PreferenceVettingResult} {state predictions : PyValue}
  {policy : PolicyVersion} {inputs : String → Except T15Error CandidateInput}
  {catalog : PreferenceCatalog}

theorem sound_of_vetFields {fields : AuditFields}
    (hfields : vetFields sorter state predictions policy inputs catalog = .ok fields) :
    Sound policy catalog fields := by
  unfold vetFields at hfields
  split at hfields
  · cases hfields
  · simp only [bind_eq_ok] at hfields
    obtain ⟨-, -, results, hresults, hrest⟩ := hfields
    split at hrest
    · cases hrest
    · cases hrest
      exact sound_decideMatch (assembled_of_vet hresults) state _

theorem create_cases {fields : AuditFields} (hintact : fields.integrityFault = none) :
    (∃ result, MatchVettingResult.create fields "" = .ok result ∧ result.toAuditFields = fields) ∨
      MatchVettingResult.create fields "" = .error (.validation "T15 values must be finite.") := by
  unfold MatchVettingResult.create
  split
  next message hfault =>
    rw [hintact] at hfault
    cases hfault
  next =>
    cases canonicalText fields.payload with
    | none => exact Or.inr rfl
    | some expected => exact Or.inl ⟨_, rfl, rfl⟩

/-- The audit of a match is sound, and no check of its constructor fails. -/
theorem vetTargetMatch_sound (sorter : Sorter PreferenceVettingResult) (state predictions : PyValue)
    (policy : PolicyVersion) (inputs : String → Except T15Error CandidateInput)
    (catalog : PreferenceCatalog) :
    (∀ result, vetTargetMatch sorter state predictions policy inputs catalog = .ok result →
      Sound policy catalog result.toAuditFields) ∧
    ∀ fields, vetFields sorter state predictions policy inputs catalog = .ok fields →
      ∀ message, MatchVettingResult.create fields "" ≠ .error (.integrity message) := by
  constructor
  · intro result hresult
    rw [vetTargetMatch, bind_eq_ok] at hresult
    obtain ⟨fields, hfields, hcreate⟩ := hresult
    have hsound := sound_of_vetFields hfields
    rcases create_cases hsound.intact with ⟨built, hbuilt, hsame⟩ | hrefused
    · rw [hbuilt] at hcreate
      cases hcreate
      rw [hsame]
      exact hsound
    · rw [hrefused] at hcreate
      cases hcreate
  · intro fields hfields message hfault
    rcases create_cases (sound_of_vetFields hfields).intact with ⟨built, hbuilt, -⟩ | hrefused
    · rw [hbuilt] at hfault
      cases hfault
    · rw [hrefused] at hfault
      cases hfault

end Audit

/-! ## A match with one survivor -/

section HomeWin

open MatchVet.T15.MissingEvidence

local instance : PyRuntime := plainRuntime

local instance : Hashing := textHashing

def homeCatalog : PreferenceCatalog where
  preferences := [homeWin]
  version := "1"
  name := "home"
  unique := List.nodup_singleton _

def homeAudit : Except T15Error MatchVettingResult :=
  vetTargetMatch (insertionSorter PreferenceVettingResult) fixtureState homePrediction
    vettingPolicy (fun _ => .ok (homeCandidate lowLift.eraseLift)) homeCatalog

/-- The survivor has no strength, and the record of the match is sound. -/
theorem homeAudit_sound :
    ∃ result, homeAudit = .ok result ∧ result.decision = .researchOnly ∧
      result.avoidReason = some "RESEARCH_SELECTION_STRENGTH_UNAVAILABLE" ∧
      Sound vettingPolicy homeCatalog result.toAuditFields := by
  have hchecked : (homeAudit.toOption.any fun result => result.decision = .researchOnly &&
      result.avoidReason = some "RESEARCH_SELECTION_STRENGTH_UNAVAILABLE") = true := by
    decide +kernel
  cases haudit : homeAudit with
  | error error =>
      rw [haudit] at hchecked
      cases hchecked
  | ok result =>
      rw [haudit] at hchecked
      change (decide _ && decide _) = true at hchecked
      rw [Bool.and_eq_true, decide_eq_true_eq, decide_eq_true_eq] at hchecked
      obtain ⟨hdecision, hreason⟩ := hchecked
      exact ⟨result, rfl, hdecision, hreason, (vetTargetMatch_sound _ _ _ _ _ _).1 result haudit⟩

end HomeWin

end MatchVet.T15.MatchAudit
