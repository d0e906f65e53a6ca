import MatchVet.Foundation.Gregorian
import MatchVet.T18.Evaluation

/-!
# The winner and the Final Evaluation

Two corpora that agree outside of the Final Evaluation Period have the same winner,
the same ranking of the candidates and the same nested fold records, whatever their
rows in the Final Evaluation Period say.
-/

namespace MatchVet.T18.Evaluation

open MatchVet.Foundation.CanonicalJson
open MatchVet.Foundation.Dictionary
open MatchVet.Foundation.FrozenValue
open MatchVet.Foundation.Gregorian
open MatchVet.Foundation.KeySort
open MatchVet.Foundation.Runtime
open MatchVet.Foundation.Timestamp
open MatchVet.T18.Calibration (Settlement)
open MatchVet.T18.Folds (ChronologicalPeriod.contains_eq_true Consistent ChronologicalFold
  ChronologicalPeriod EvaluationError Matchweek PeriodsOrdered developmentMatchweeks foldsFrom
  generateRollingOriginFolds matchweekKey timeline_developmentMatchweeks
  validateMatchweekBoundaries_eq_ok validatePeriodOrder_eq_ok)

/-- A row whose Matchweek starts outside of the Final Evaluation Period. -/
def Outside (config : EvaluationConfig) (observation : HistoricalEvaluation) : Bool :=
  !config.evaluation.contains observation.matchweekStart

/-- Rows that a finer test keeps can be taken from those that a coarser test keeps. -/
theorem filter_of_implies {α : Type*} {fine coarse : α → Bool} {items : List α}
    (himplies : ∀ item ∈ items, fine item = true → coarse item = true) :
    (items.filter coarse).filter fine = items.filter fine := by
  rw [List.filter_filter]
  refine List.filter_congr fun item hitem => ?_
  cases hfine : fine item with
  | false => rfl
  | true => rw [himplies item hitem hfine]; rfl

theorem filter_eq_of_implies {α : Type*} {fine coarse : α → Bool} {first second : List α}
    (hsame : first.filter coarse = second.filter coarse)
    (hfirst : ∀ item ∈ first, fine item = true → coarse item = true)
    (hsecond : ∀ item ∈ second, fine item = true → coarse item = true) :
    first.filter fine = second.filter fine := by
  rw [← filter_of_implies hfirst, hsame, filter_of_implies hsecond]

section Periods

variable {config : EvaluationConfig} {first second : List HistoricalEvaluation}

theorem outside_of_contains {period : ChronologicalPeriod}
    (hbefore : period.finish ≤ config.evaluation.start) {observation : HistoricalEvaluation}
    (hcontains : period.contains observation.matchweekStart = true) :
    Outside config observation = true := by
  have hstart := (ChronologicalPeriod.contains_eq_true.mp hcontains).2
  rw [Outside, Bool.not_eq_true', ← Bool.not_eq_true]
  intro hevaluation
  have hfinal := (ChronologicalPeriod.contains_eq_true.mp hevaluation).1
  exact absurd (lt_of_lt_of_le hstart (le_trans hbefore hfinal)) (lt_irrefl _)

theorem policyRows_eq (hordered : PeriodsOrdered config.toEvaluationConfig)
    (hsame : first.filter (Outside config) = second.filter (Outside config)) (digest : String) :
    policyRows first digest config.validation = policyRows second digest config.validation := by
  have hrow (item : HistoricalEvaluation)
      (hitem : (item.policyDigest = digest && config.validation.contains item.matchweekStart) =
        true) : Outside config item = true :=
    outside_of_contains hordered.2 (Bool.and_eq_true_iff.mp hitem).2
  exact filter_eq_of_implies hsame (fun item _ => hrow item) fun item _ => hrow item

end Periods

/-! ## Exclusions -/

section Contract

variable [Hashing] [Calendar] {config : EvaluationConfig}
  {first second : List HistoricalEvaluation}
  {candidates others : List CandidatePolicy} {contract other : EvaluationContract}

/-- The exclusion of a row, if its Matchweek starts outside of all periods. -/
def exclusion? (config : EvaluationConfig) (observation : HistoricalEvaluation) :
    Option Exclusion :=
  if (periodsOf config observation).isEmpty then
    some ⟨observation.matchId, observation.matchweekId⟩
  else none

omit [Hashing] [Calendar] in
theorem validateObservation_exclusion {observation : HistoricalEvaluation}
    {found : Option Exclusion}
    (hvalid : validateObservation config candidates observation = .ok found) :
    found = exclusion? config observation := by
  unfold validateObservation at hvalid
  unfold exclusion?
  cases hperiods : periodsOf config observation with
  | nil =>
      rw [hperiods] at hvalid
      cases hvalid
      rfl
  | cons period rest =>
      rw [hperiods] at hvalid
      cases rest with
      | cons another more => cases hvalid
      | nil =>
          dsimp only at hvalid
          cases hfind : candidates.find? fun candidate =>
              decide (candidate.digest = observation.policyDigest) with
          | none =>
              rw [hfind] at hvalid
              cases hvalid
          | some candidate =>
              rw [hfind] at hvalid
              dsimp only at hvalid
              split at hvalid
              · cases hvalid
              · split at hvalid
                · cases hvalid
                · split at hvalid
                  · cases hvalid
                  · split at hvalid
                    · cases hvalid
                    · cases hvalid
                      rfl

omit [Hashing] [Calendar] in
theorem filterMap_of_validated {rows : List HistoricalEvaluation} {found : List (Option Exclusion)}
    (hvalid : rows.mapM (validateObservation config candidates) = .ok found) :
    found.filterMap id = rows.filterMap (exclusion? config) := by
  have hrelated := forall₂_of_mapM hvalid
  clear hvalid
  induction hrelated with
  | nil => rfl
  | cons hhead hrest ih =>
      rw [List.filterMap_cons, List.filterMap_cons, ih, validateObservation_exclusion hhead]
      rfl

/-- What an accepted contract has checked. -/
structure Accepted (observations : List HistoricalEvaluation) (candidates : List CandidatePolicy)
    (config : EvaluationConfig) (contract : EvaluationContract) : Prop where
  ordered : PeriodsOrdered config.toEvaluationConfig
  consistent : Consistent (foldRows observations)
  nonempty : candidates ≠ []
  distinct : (candidates.map CandidatePolicy.digest).Nodup
  lifecycle : ∀ candidate ∈ candidates, validateCandidate config candidate = .ok ()
  window : evaluationWindowDigest config = .ok contract.evaluationWindowDigest
  unseen : ∀ candidate ∈ candidates,
    contract.evaluationWindowDigest ∉ candidate.inspectedEvaluationDigests
  rows : ∀ observation ∈ observations,
    validateObservation config candidates observation = .ok (exclusion? config observation)
  exclusions : contract.exclusions =
    sortedOn Exclusion.key (observations.filterMap (exclusion? config)).eraseDups

omit [Hashing] [Calendar] in
theorem forM_eq_ok {α : Type} {check : α → Except EvaluationError Unit} {items : List α} :
    forM items check = .ok () ↔ ∀ item ∈ items, check item = .ok () := by
  induction items with
  | nil => exact ⟨fun _ _ hmem => absurd hmem List.not_mem_nil, fun _ => rfl⟩
  | cons item rest ih =>
      rw [List.forM_cons, bind_eq_ok, List.forall_mem_cons, ← ih]
      exact ⟨fun ⟨_, hitem, hrest⟩ => ⟨hitem, hrest⟩, fun ⟨hitem, hrest⟩ => ⟨(), hitem, hrest⟩⟩

theorem validateEvaluationContract_eq_ok {rows : List HistoricalEvaluation} :
    validateEvaluationContract rows candidates config = .ok contract ↔
      Accepted rows candidates config contract := by
  rw [validateEvaluationContract]
  simp only [bind_eq_ok]
  constructor
  · rintro ⟨⟨⟩, hordered, ⟨⟩, hconsistent, ⟨⟩, hnonempty, ⟨⟩, hdistinct, ⟨⟩, hlifecycle, digest,
      hdigest, ⟨⟩, hunseen, found, hfound, hcontract⟩
    cases hcontract
    rw [require_eq_ok] at hnonempty hdistinct hunseen
    refine ⟨validatePeriodOrder_eq_ok.mp hordered,
      validateMatchweekBoundaries_eq_ok.mp hconsistent,
      fun hnil => hnonempty (List.isEmpty_iff.mpr hnil), hdistinct, forM_eq_ok.mp hlifecycle,
      hdigest, hunseen, fun observation hmem => ?_, ?_⟩
    · obtain ⟨answer, -, hanswer⟩ := exists_of_mem_left (forall₂_of_mapM hfound) hmem
      rw [hanswer, validateObservation_exclusion hanswer]
    · rw [← filterMap_of_validated hfound]
  · intro haccepted
    have hrows := mapM_of_forall haccepted.rows
    refine ⟨(), validatePeriodOrder_eq_ok.mpr haccepted.ordered, (),
      validateMatchweekBoundaries_eq_ok.mpr haccepted.consistent, (),
      require_eq_ok.mpr fun hnil => haccepted.nonempty (List.isEmpty_iff.mp hnil), (),
      require_eq_ok.mpr haccepted.distinct, (), forM_eq_ok.mpr haccepted.lifecycle, _,
      haccepted.window, (), require_eq_ok.mpr haccepted.unseen, _, hrows, ?_⟩
    rw [filterMap_of_validated hrows, ← haccepted.exclusions]

omit [Hashing] [Calendar] in
theorem outside_of_exclusion (observation : HistoricalEvaluation)
    (hexcluded : (exclusion? config observation).isSome = true) :
    Outside config observation = true := by
  unfold exclusion? at hexcluded
  split at hexcluded
  next hempty =>
    rw [Outside, Bool.not_eq_true', ← Bool.not_eq_true]
    intro hcontains
    rw [periodsOf, List.isEmpty_iff, List.filter_eq_nil_iff] at hempty
    exact hempty (config.evaluationName, config.evaluation) (by simp) hcontains
  next => cases hexcluded

omit [Hashing] [Calendar] in
theorem filterMap_exclusion_eq
    (hsame : first.filter (Outside config) = second.filter (Outside config)) :
    first.filterMap (exclusion? config) = second.filterMap (exclusion? config) := by
  have hfilter (rows : List HistoricalEvaluation) :
      (rows.filter (Outside config)).filterMap (exclusion? config) =
        rows.filterMap (exclusion? config) := by
    induction rows with
    | nil => rfl
    | cons row rest ih =>
        rw [List.filter_cons, List.filterMap_cons]
        cases hexcluded : exclusion? config row with
        | none =>
            split
            · rw [List.filterMap_cons, hexcluded]
              exact ih
            · exact ih
        | some exclusion =>
            rw [if_pos (outside_of_exclusion row (by rw [hexcluded]; rfl)), List.filterMap_cons,
              hexcluded]
            exact congrArg _ ih
  rw [← hfilter first, hsame, hfilter]

end Contract

/-! ## The Matchweeks of the folds -/

section Folds

variable {config : EvaluationConfig} {first second : List HistoricalEvaluation}

/-- A row of a development Matchweek starts in the Development Period. -/
theorem outside_of_development (hordered : PeriodsOrdered config.toEvaluationConfig)
    {rows : List HistoricalEvaluation} (hconsistent : Consistent (foldRows rows))
    {matchweek : Matchweek}
    (hmatchweek : matchweek ∈ developmentMatchweeks (foldRows rows) config.toEvaluationConfig)
    {observation : HistoricalEvaluation} (hmem : observation ∈ rows)
    (hid : observation.matchweekId = matchweek.2) : Outside config observation = true := by
  have htimeline := timeline_developmentMatchweeks hconsistent config.toEvaluationConfig
  have hstart := htimeline.start_eq matchweek hmatchweek observation.toHistoricalEvaluation
    (List.mem_map_of_mem hmem) hid
  have hcontains := (htimeline.exists_row matchweek hmatchweek).1
  rw [← hstart] at hcontains
  refine outside_of_contains (le_trans hordered.1 ?_) hcontains
  exact le_trans (le_of_lt config.validation.ordered) hordered.2

theorem mem_developmentMatchweeks {rows : List HistoricalEvaluation}
    (hconsistent : Consistent (foldRows rows)) (matchweek : Matchweek) :
    matchweek ∈ developmentMatchweeks (foldRows rows) config.toEvaluationConfig ↔
      config.development.contains matchweek.1 = true ∧
        ∃ observation ∈ rows, observation.matchweekId = matchweek.2 ∧
          observation.matchweekStart = matchweek.1 := by
  have htimeline := timeline_developmentMatchweeks hconsistent config.toEvaluationConfig
  constructor
  · intro hmem
    obtain ⟨hcontains, row, hrow, hid⟩ := htimeline.exists_row matchweek hmem
    obtain ⟨observation, hobservation, rfl⟩ := List.mem_map.mp hrow
    exact ⟨hcontains, observation, hobservation, hid, htimeline.start_eq matchweek hmem _ hrow hid⟩
  · rintro ⟨hcontains, observation, hobservation, hid, hstart⟩
    have hmem := htimeline.mem observation.toHistoricalEvaluation (List.mem_map_of_mem hobservation)
      (by rwa [hstart])
    rwa [hid, hstart] at hmem

/-- The development Matchweeks come from the rows outside of the Final Evaluation. -/
theorem developmentMatchweeks_eq (hordered : PeriodsOrdered config.toEvaluationConfig)
    (hfirst : Consistent (foldRows first)) (hsecond : Consistent (foldRows second))
    (hsame : first.filter (Outside config) = second.filter (Outside config)) :
    developmentMatchweeks (foldRows first) config.toEvaluationConfig =
      developmentMatchweeks (foldRows second) config.toEvaluationConfig := by
  have htransfer {left right : List HistoricalEvaluation} (hleft : Consistent (foldRows left))
      (hright : Consistent (foldRows right))
      (hkept : left.filter (Outside config) = right.filter (Outside config)) (matchweek : Matchweek)
      (hmem : matchweek ∈ developmentMatchweeks (foldRows left) config.toEvaluationConfig) :
      matchweek ∈ developmentMatchweeks (foldRows right) config.toEvaluationConfig := by
    obtain ⟨hcontains, observation, hobservation, hid, hstart⟩ :=
      (mem_developmentMatchweeks hleft matchweek).mp hmem
    have houtside := outside_of_development hordered hleft hmem hobservation hid
    have hkeeps : observation ∈ right.filter (Outside config) := by
      rw [← hkept]
      exact List.mem_filter.mpr ⟨hobservation, houtside⟩
    exact (mem_developmentMatchweeks hright matchweek).mpr
      ⟨hcontains, observation, List.mem_of_mem_filter hkeeps, hid, hstart⟩
  have hnodup {rows : List HistoricalEvaluation} (hrows : Consistent (foldRows rows)) :
      (developmentMatchweeks (foldRows rows) config.toEvaluationConfig).Nodup :=
    (timeline_developmentMatchweeks hrows config.toEvaluationConfig).distinct.of_map _
  have hsorted (rows : List HistoricalEvaluation) :
      sortedOn matchweekKey (developmentMatchweeks (foldRows rows) config.toEvaluationConfig) =
        developmentMatchweeks (foldRows rows) config.toEvaluationConfig :=
    sortedOn_of_pairwise _ (sortedOn_pairwise matchweekKey _)
  rw [← hsorted first, ← hsorted second]
  refine sortedOn_eq_of_perm matchweekKey ?_ fun _ _ _ _ heq => toLex.injective heq
  exact (List.perm_ext_iff_of_nodup (hnodup hfirst) (hnodup hsecond)).mpr fun matchweek =>
    ⟨htransfer hfirst hsecond hsame matchweek, htransfer hsecond hfirst hsame.symm matchweek⟩

variable [Hashing]

/-- The identifiers of a fold are those of development Matchweeks. -/
theorem ids_of_mem_folds {matchweeks : List Matchweek} {number developed : ℕ}
    {fold : ChronologicalFold}
    (hfold : fold ∈ foldsFrom config.toEvaluationConfig matchweeks number developed) {id : String}
    (hid : id ∈ fold.developmentMatchweekIds ∨ id ∈ fold.validationMatchweekIds) :
    ∃ matchweek ∈ matchweeks, matchweek.2 = id := by
  obtain ⟨round, hfits, rfl⟩ := Folds.mem_foldsFrom.mp hfold
  rcases hid with hid | hid
  · obtain ⟨matchweek, hmem, hsame⟩ := List.mem_map.mp hid
    exact ⟨matchweek, List.mem_of_mem_take hmem, hsame⟩
  · obtain ⟨matchweek, hmem, hsame⟩ := List.mem_map.mp hid
    exact ⟨matchweek, List.mem_of_mem_drop (List.mem_of_mem_take hmem), hsame⟩

/-- The folds of accepted rows. -/
theorem generateRollingOriginFolds_eq (hordered : PeriodsOrdered config.toEvaluationConfig)
    {rows : List HistoricalEvaluation} (hconsistent : Consistent (foldRows rows)) :
    generateRollingOriginFolds (foldRows rows) config.toEvaluationConfig =
      .ok (foldsFrom config.toEvaluationConfig
        (developmentMatchweeks (foldRows rows) config.toEvaluationConfig) 1
        config.minimumDevelopmentMatchweeks) := by
  rw [generateRollingOriginFolds, validatePeriodOrder_eq_ok.mpr hordered, ok_bind,
    validateMatchweekBoundaries_eq_ok.mpr hconsistent, ok_bind]

end Folds

section Blind

variable [Hashing] [Calendar] [PyRuntime] [EvaluationServices] {config : EvaluationConfig}
  {first second : List HistoricalEvaluation} {candidates : List CandidatePolicy}

theorem nestedFoldRecord_eq (exclusions : List Exclusion) {fold : ChronologicalFold}
    (hsame : first.filter (Outside config) = second.filter (Outside config))
    (hfirst : ∀ row ∈ first, row.matchweekId ∈ fold.developmentMatchweekIds ∨
      row.matchweekId ∈ fold.validationMatchweekIds → Outside config row = true)
    (hsecond : ∀ row ∈ second, row.matchweekId ∈ fold.developmentMatchweekIds ∨
      row.matchweekId ∈ fold.validationMatchweekIds → Outside config row = true) :
    nestedFoldRecord first candidates config exclusions fold =
      nestedFoldRecord second candidates config exclusions fold := by
  have hdevelopment : first.filter (fun item =>
      fold.developmentMatchweekIds.contains item.matchweekId) =
        second.filter fun item => fold.developmentMatchweekIds.contains item.matchweekId :=
    filter_eq_of_implies hsame
      (fun row hrow hid => hfirst row hrow (Or.inl (List.contains_iff_mem.mp hid)))
      fun row hrow hid => hsecond row hrow (Or.inl (List.contains_iff_mem.mp hid))
  have hvalidation : first.filter (fun item =>
      fold.validationMatchweekIds.contains item.matchweekId) =
        second.filter fun item => fold.validationMatchweekIds.contains item.matchweekId :=
    filter_eq_of_implies hsame
      (fun row hrow hid => hfirst row hrow (Or.inr (List.contains_iff_mem.mp hid)))
      fun row hrow hid => hsecond row hrow (Or.inr (List.contains_iff_mem.mp hid))
  unfold nestedFoldRecord
  rw [hdevelopment, hvalidation]

/-- The nested records do not see the Final Evaluation. -/
theorem nestedFoldRecords_eq (hordered : PeriodsOrdered config.toEvaluationConfig)
    (hfirst : Consistent (foldRows first)) (hsecond : Consistent (foldRows second))
    (hsame : first.filter (Outside config) = second.filter (Outside config))
    (exclusions : List Exclusion) {records others : List PyValue}
    (hrecords : nestedFoldRecords first candidates config exclusions none = .ok records)
    (hothers : nestedFoldRecords second candidates config exclusions none = .ok others) :
    records = others := by
  rw [nestedFoldRecords, generateRollingOriginFolds_eq hordered hfirst, ok_bind] at hrecords
  rw [nestedFoldRecords, generateRollingOriginFolds_eq hordered hsecond, ok_bind] at hothers
  have hmatchweeks := developmentMatchweeks_eq hordered hfirst hsecond hsame
  have hleft := forall₂_of_mapM hrecords
  have hright := forall₂_of_mapM hothers
  rw [← hmatchweeks] at hright
  have hpaired : ∀ fold ∈ foldsFrom config.toEvaluationConfig
      (developmentMatchweeks (foldRows first) config.toEvaluationConfig) 1
        config.minimumDevelopmentMatchweeks,
      nestedFoldRecord first candidates config exclusions fold =
        nestedFoldRecord second candidates config exclusions fold := by
    intro fold hfold
    refine nestedFoldRecord_eq exclusions hsame (fun row hrow hid => ?_) fun row hrow hid => ?_
    · obtain ⟨matchweek, hmem, hsame⟩ := ids_of_mem_folds hfold hid
      exact outside_of_development hordered hfirst hmem hrow hsame.symm
    · obtain ⟨matchweek, hmem, hsame⟩ := ids_of_mem_folds hfold hid
      rw [hmatchweeks] at hmem
      exact outside_of_development hordered hsecond hmem hrow hsame.symm
  clear hrecords hothers
  generalize foldsFrom config.toEvaluationConfig
    (developmentMatchweeks (foldRows first) config.toEvaluationConfig) 1
      config.minimumDevelopmentMatchweeks = folds at hleft hright hpaired
  induction hleft generalizing others with
  | nil =>
      cases hright
      rfl
  | cons hhead hrest ih =>
      obtain ⟨hfold, hfolds⟩ := List.forall_mem_cons.mp hpaired
      cases hright with
      | cons hother hmore =>
          rw [hfold, hother] at hhead
          cases hhead
          rw [ih hmore hfolds]

omit [Hashing] [Calendar] in
theorem rankedCandidates_eq (hordered : PeriodsOrdered config.toEvaluationConfig)
    (hsame : first.filter (Outside config) = second.filter (Outside config)) :
    rankedCandidates first candidates config = rankedCandidates second candidates config := by
  have hcandidate : validationCandidate first config = validationCandidate second config := by
    funext candidate
    unfold validationCandidate
    rw [policyRows_eq hordered hsame]
  unfold rankedCandidates
  rw [hcandidate]

/-! ## The artifact -/

/-- How an evaluation came to its artifact. -/
structure Evaluated (rows : List HistoricalEvaluation) (candidates : List CandidatePolicy)
    (config : EvaluationConfig) (nestedRecords : Option (List PyValue))
    (artifact : EvaluationArtifact) where
  contract : EvaluationContract
  winner : ValidationCandidate
  losers : List ValidationCandidate
  evaluationRows : List HistoricalEvaluation
  metrics : EvaluationMetrics
  records : List PyValue
  outer : PyValue
  stability : PyValue
  digests : CoreDigests
  digest : String
  accepted : Accepted rows candidates config contract
  ranked : rankedCandidates rows candidates config = .ok (winner :: losers)
  finalRows_eq : finalRows rows config winner.candidate.digest = .ok evaluationRows
  metrics_eq : evaluateRows config evaluationRows = .ok metrics
  records_eq : nestedFoldRecords rows candidates config contract.exclusions nestedRecords =
    .ok records
  outer_eq : outerFoldRecord rows candidates config winner.candidate.digest contract.exclusions =
    .ok outer
  stability_eq : policyStability (winner :: losers) candidates = .ok stability
  config_eq : config.digest = .ok digests.config
  corpus_eq : sha256Of (.array (rows.map historicalPayload)) = .ok digests.corpus
  folds_eq : sha256Of (.array (records ++ [outer])) = .ok digests.folds
  digest_eq : sha256Of (.mapping (coreEntries rows candidates config contract (winner :: losers)
    winner.candidate metrics (records ++ [outer]) stability digests)) = .ok digest
  payload_eq : artifact.payload = freeze (.mapping (coreEntries rows candidates config contract
    (winner :: losers) winner.candidate metrics (records ++ [outer]) stability digests ++
      [("artifact_digest", .str digest)]))

omit [Calendar] [PyRuntime] [EvaluationServices] in
theorem exists_sha256Of {value : PyValue} (hplain : plain value = true) :
    ∃ digest, sha256Of value = .ok digest := by
  obtain ⟨tree, htree⟩ := exists_canonical hplain
  rw [sha256Of, canonicalJson, if_pos hplain, htree]
  exact ⟨_, rfl⟩

/-- The keys of the core. -/
def coreKeys : List String :=
  ["cutoff_fidelity", "evaluation_metrics", "findings", "folds", "frozen_policy_identity",
    "lifecycle_effect", "observation_audit", "policy_stability", "reproducibility",
    "schema_version", "status", "validation_candidates"]

omit [Calendar] [PyRuntime] [EvaluationServices] in
/-- A core that tells its schema version is sealed with its digest. -/
theorem sealCore_eq {core : List (String × PyValue)} {digest : String}
    (hkeys : core.map Prod.fst = coreKeys)
    (hversion : core.lookup "schema_version" = some (PyValue.str schemaVersion))
    (hdigest : sha256Of (.mapping core) = .ok digest) :
    sealCore core = .ok ⟨freeze (.mapping (core ++ [("artifact_digest", PyValue.str digest)]))⟩ := by
  have hfresh : "artifact_digest" ∉ core.map Prod.fst := by
    rw [hkeys]
    decide
  have hfilter : (core ++ [("artifact_digest", PyValue.str digest)]).filter
      (fun entry => entry.1 ≠ "artifact_digest") = core := filter_concat hfresh
  have hnone : core.lookup "artifact_digest" = none := by
    refine List.lookup_eq_none_iff.mpr fun entry hentry => ?_
    rw [bne_iff_ne]
    exact fun hkey => hfresh (hkey ▸ List.mem_map_of_mem hentry)
  have hsupplied : text? ((core ++ [("artifact_digest", PyValue.str digest)]).lookup "artifact_digest") =
      some digest := by
    rw [List.lookup_append, hnone, Option.none_or]
    rfl
  have hschema : text? ((core ++ [("artifact_digest", PyValue.str digest)]).lookup "schema_version") =
      some schemaVersion := by
    rw [List.lookup_append, hversion, Option.some_or]
    rfl
  rw [sealCore, hdigest, ok_bind, EvaluationArtifact.make, require_eq_ok.mpr hschema, ok_bind,
    hsupplied]
  dsimp only
  rw [hfilter, hdigest, ok_bind, require_eq_ok.mpr rfl, ok_bind]
  rfl

theorem evaluated_of_ok {rows : List HistoricalEvaluation} {nestedRecords : Option (List PyValue)}
    {artifact : EvaluationArtifact}
    (hartifact : artifactCore rows candidates config nestedRecords >>= sealCore = .ok artifact) :
    Nonempty (Evaluated rows candidates config nestedRecords artifact) := by
  rw [bind_eq_ok] at hartifact
  obtain ⟨core, hcore, hseal⟩ := hartifact
  rw [artifactCore, bind_eq_ok] at hcore
  obtain ⟨contract, hcontract, hrest⟩ := hcore
  rw [bind_eq_ok] at hrest
  obtain ⟨ranked, hranked, hrest⟩ := hrest
  cases ranked with
  | nil => cases hrest
  | cons winner losers =>
      simp only [bind_eq_ok, foldRecords, evaluationCore] at hrest
      obtain ⟨evaluationRows, hrows, metrics, hmetrics, folds, ⟨records, hrecords, outer, houter,
        hfolds⟩, stability, hstability, configDigest, hconfig, corpusDigest, hcorpus,
        foldDigest, hfold, hcore⟩ := hrest
      cases hfolds
      cases hcore
      rw [sealCore, bind_eq_ok] at hseal
      obtain ⟨digest, hdigest, hmake⟩ := hseal
      have hsealed := sealCore_eq rfl rfl hdigest
      rw [sealCore, hdigest, ok_bind, hmake] at hsealed
      exact ⟨{
        contract := contract
        winner := winner
        losers := losers
        evaluationRows := evaluationRows
        metrics := metrics
        records := records
        outer := outer
        stability := stability
        digests := ⟨configDigest, corpusDigest, foldDigest⟩
        digest := digest
        accepted := validateEvaluationContract_eq_ok.mp hcontract
        ranked := hranked
        finalRows_eq := hrows
        metrics_eq := hmetrics
        records_eq := hrecords
        outer_eq := houter
        stability_eq := hstability
        config_eq := hconfig
        corpus_eq := hcorpus
        folds_eq := hfold
        digest_eq := hdigest
        payload_eq := congrArg EvaluationArtifact.payload (Except.ok.inj hsealed) }⟩

/-- A core of JSON data becomes an artifact. -/
theorem exists_artifact {rows : List HistoricalEvaluation} {nestedRecords : Option (List PyValue)}
    (hplain : (artifactCore rows candidates config nestedRecords).toOption.any
      (fun core => plain (.mapping core)) = true) :
    ∃ artifact, artifactCore rows candidates config nestedRecords >>= sealCore = .ok artifact := by
  cases hcore : artifactCore rows candidates config nestedRecords with
  | error error =>
      rw [hcore] at hplain
      cases hplain
  | ok core =>
      rw [hcore] at hplain
      have hcorePlain : plain (.mapping core) = true := hplain
      obtain ⟨digest, hdigest⟩ := exists_sha256Of hcorePlain
      rw [ok_bind]
      rw [artifactCore, bind_eq_ok] at hcore
      obtain ⟨contract, -, hrest⟩ := hcore
      rw [bind_eq_ok] at hrest
      obtain ⟨ranked, -, hrest⟩ := hrest
      cases ranked with
      | nil => cases hrest
      | cons winner losers =>
          simp only [bind_eq_ok, evaluationCore] at hrest
          obtain ⟨evaluationRows, -, metrics, -, folds, -, stability, -, configDigest, -,
            corpusDigest, -, foldDigest, -, hcore⟩ := hrest
          cases hcore
          exact ⟨_, sealCore_eq rfl rfl hdigest⟩

namespace Evaluated

variable {rows : List HistoricalEvaluation} {nestedRecords : Option (List PyValue)}
  {artifact : EvaluationArtifact}

/-- The entries of the payload. -/
def entries (run : Evaluated rows candidates config nestedRecords artifact) :
    List (String × PyValue) :=
  coreEntries rows candidates config run.contract (run.winner :: run.losers) run.winner.candidate
    run.metrics (run.records ++ [run.outer]) run.stability run.digests ++
      [("artifact_digest", .str run.digest)]

theorem entries_keys (run : Evaluated rows candidates config nestedRecords artifact) :
    run.entries.map Prod.fst = coreKeys ++ ["artifact_digest"] :=
  rfl

theorem get?_payload (run : Evaluated rows candidates config nestedRecords artifact)
    (key : String) : get? artifact.payload key = (run.entries.lookup key).map freeze := by
  rw [run.payload_eq]
  refine get?_freeze ?_ key
  change (run.entries.map Prod.fst).Nodup
  rw [run.entries_keys]
  decide

theorem frozenPolicyIdentity_eq (run : Evaluated rows candidates config nestedRecords artifact) :
    artifact.frozenPolicyIdentity = some (freeze (policyIdentity run.winner.candidate)) :=
  run.get?_payload "frozen_policy_identity"

theorem validationCandidates_eq (run : Evaluated rows candidates config nestedRecords artifact) :
    artifact.validationCandidates = some (freeze (.array
      ((run.winner :: run.losers).map (ValidationCandidate.toDict config)))) :=
  run.get?_payload "validation_candidates"

theorem policyStability_eq (run : Evaluated rows candidates config nestedRecords artifact) :
    artifact.policyStability = some (freeze run.stability) :=
  run.get?_payload "policy_stability"

theorem folds_payload (run : Evaluated rows candidates config nestedRecords artifact) :
    artifact.folds = run.records.map freeze ++ [freeze run.outer] := by
  have hfolds : get? artifact.payload "folds" = some (freeze (.array (run.records ++ [run.outer]))) :=
    run.get?_payload "folds"
  rw [EvaluationArtifact.folds, hfolds, freeze, freezeItems_eq_map, List.map_append]
  rfl

theorem digest_payload (run : Evaluated rows candidates config nestedRecords artifact) :
    artifact.digest = run.digest := by
  have hdigest : get? artifact.payload "artifact_digest" = some (.str run.digest) :=
    run.get?_payload "artifact_digest"
  rw [EvaluationArtifact.digest, hdigest]
  rfl

end Evaluated

omit [Hashing] [Calendar] in
/-- A ranked candidate is one of the candidates. -/
theorem mem_of_ranked {rows : List HistoricalEvaluation} {ranked : List ValidationCandidate}
    (hranked : rankedCandidates rows candidates config = .ok ranked) {item : ValidationCandidate}
    (hitem : item ∈ ranked) : item.candidate ∈ candidates := by
  rw [rankedCandidates, bind_eq_ok] at hranked
  obtain ⟨validated, hvalidated, hsorted⟩ := hranked
  cases hsorted
  obtain ⟨candidate, hcandidate, hitem⟩ := exists_of_mem_right (forall₂_of_mapM hvalidated)
    ((sortedOn_perm _ _).mem_iff.mp hitem)
  rw [validationCandidate] at hitem
  simp only [bind_eq_ok] at hitem
  obtain ⟨⟨⟩, -, metrics, -, hvalue⟩ := hitem
  split at hvalue
  · cases hvalue
  · cases hvalue
    exact hcandidate

/-- The Final Evaluation decides neither the winner, nor the ranking and the stability of
the candidates, nor what the nested folds record. -/
theorem evaluatePolicies_winner_blind {artifact other : EvaluationArtifact}
    (hsame : first.filter (Outside config) = second.filter (Outside config))
    (hfirst : evaluatePolicies first candidates config none = .ok artifact)
    (hsecond : evaluatePolicies second candidates config none = .ok other) :
    (∃ winner ∈ candidates,
      artifact.frozenPolicyIdentity = some (freeze (policyIdentity winner)) ∧
        other.frozenPolicyIdentity = some (freeze (policyIdentity winner))) ∧
      artifact.validationCandidates = other.validationCandidates ∧
      artifact.policyStability = other.policyStability ∧
      artifact.folds.dropLast = other.folds.dropLast := by
  rw [evaluatePolicies] at hfirst hsecond
  obtain ⟨run⟩ := evaluated_of_ok hfirst
  obtain ⟨twin⟩ := evaluated_of_ok hsecond
  have hsorted : (sortedOn observationSortKey first).filter (Outside config) =
      (sortedOn observationSortKey second).filter (Outside config) := by
    rw [filter_sortedOn, filter_sortedOn, hsame]
  have hordered := run.accepted.ordered
  have hranked := run.ranked
  rw [rankedCandidates_eq hordered hsorted, twin.ranked] at hranked
  obtain ⟨hwinner, hlosers⟩ := List.cons.inj (Except.ok.inj hranked)
  have hexclusions : run.contract.exclusions = twin.contract.exclusions := by
    rw [run.accepted.exclusions, twin.accepted.exclusions, filterMap_exclusion_eq hsorted]
  have hrecords : run.records = twin.records := by
    refine nestedFoldRecords_eq hordered run.accepted.consistent twin.accepted.consistent hsorted
      run.contract.exclusions run.records_eq ?_
    rw [hexclusions]
    exact twin.records_eq
  have hstability := run.stability_eq
  rw [← hwinner, ← hlosers, twin.stability_eq] at hstability
  refine ⟨⟨run.winner.candidate, ?_, run.frozenPolicyIdentity_eq, ?_⟩, ?_, ?_, ?_⟩
  · exact (sortedOn_perm _ _).mem_iff.mp (mem_of_ranked run.ranked List.mem_cons_self)
  · rw [twin.frozenPolicyIdentity_eq, hwinner]
  · rw [run.validationCandidates_eq, twin.validationCandidates_eq, hwinner, hlosers]
  · rw [run.policyStability_eq, twin.policyStability_eq, Except.ok.inj hstability]
  · rw [run.folds_payload, twin.folds_payload, hrecords, List.dropLast_concat, List.dropLast_concat]

end Blind

/-! ## Two policies -/

namespace TwoPolicies

local instance : Hashing := shapeHashing

local instance : Calendar := gregorianCalendar

local instance : PyRuntime := plainRuntime

/-- Rows are judged by their share of losses. -/
@[reducible]
def lossServices : EvaluationServices where
  evaluateObservations rows _ _ _ := .ok {
    scoredRecommendationMatchClusters := rows.length
    scoredMatchClusters := rows.length
    binaryRecommendationMatchClusters := rows.length
    eligibleMatchCount := rows.length
    toDict := .mapping [("losses",
      float ((rows.filter fun row => row.settlement = .loss).length / rows.length))] }
  machine := "x86_64"
  python := "3.13"
  system := "Linux"

local instance : EvaluationServices := lossServices

def config : EvaluationConfig where
  toEvaluationConfig := Folds.TwoMatchweeks.config
  developmentName := "DEVELOPMENT"
  validationName := "VALIDATION"
  evaluationName := "EVALUATION"
  calibrationBinEdges := [0, 1]
  subgroupMinimumEffectiveSamples := []
  selectionMetric := "losses"
  selectionDirection := .minimize
  evaluationMinimumRecommendations := some 1
  uncertaintyNominalCoverage := none
  criteria := [⟨"losses", .atMost, 0, none⟩]

def policy (version : String) : CandidatePolicy where
  version := version
  digest := version
  developmentDataEnd := 10
  frozenAt := 20
  parameters := .mapping []
  foldParameters := []
  inspectedEvaluationDigests := []

def row (week : String) (start : Instant) (version : String) (settlement : Settlement) :
    HistoricalEvaluation where
  matchweekId := week
  matchweekStart := start
  researchCutoff := start
  membershipManifestDigest := week
  matchId := week
  kickoff := start + 1
  predictionCreated := start
  outcomeKnown := start + 2
  league := "EPL"
  preferenceId := "home"
  preferenceFamily := "result"
  exactLine := "none"
  policyVersion := version
  policyDigest := version
  modelVersion := "m"
  modelDigest := "m"
  evidenceDigest := "e"
  inputDigest := "i"
  estimatedProbability := 1 / 2
  conservativeProbability := 1 / 2
  uncertaintyLower := 0
  uncertaintyUpper := 1
  settlement := settlement
  recommendation := .play
  correlationGroup := "g"
  inputObserved := [("membership_manifest", start), ("fixture_revision", start)]
  membershipManifest := .mapping []
  fixtureRevision := .mapping []
  fixtureRevisionDigest := "r"
  trainingDataEnd := start
  modelFitted := start
  calibrationDigest := "c"
  baselineDigest := "b"
  outcomeUse := .unseen
  selectionStrength := none
  baselineProbability := none
  baselineStructuralTrivial := none
  gates := []
  selectionComponents := []
  structuralConditions := []
  modelAgreement := none
  uncertaintyWidth := none
  settlementDistribution := none

/-- Two development Matchweeks, one for validation, and the final one. -/
def corpus (final : Settlement) : List HistoricalEvaluation :=
  [row "w1" 0 "a" .win, row "w2" 3 "b" .loss, row "w3" 12 "a" .win, row "w3" 12 "b" .loss,
    row "w4" 22 "a" final]

def candidates : List CandidatePolicy := [policy "b", policy "a"]

def coreOf (final : Settlement) : Except EvaluationError (List (String × PyValue)) :=
  artifactCore (sortedOn observationSortKey (corpus final)) (sortedOn candidateSortKey candidates)
    config none

/-- A lost Final Evaluation leaves the winner and the ranking as a won one does. -/
theorem evaluatePolicies_winner_blind_policies :
    ∃ artifact other, evaluatePolicies (corpus .win) candidates config none = .ok artifact ∧
      evaluatePolicies (corpus .loss) candidates config none = .ok other ∧
      artifact.validationCandidates = other.validationCandidates := by
  have hwon : (coreOf .win).toOption.any (fun core => plain (.mapping core)) = true := by
    decide +kernel
  have hlost : (coreOf .loss).toOption.any (fun core => plain (.mapping core)) = true := by
    decide +kernel
  obtain ⟨artifact, hartifact⟩ := exists_artifact hwon
  obtain ⟨other, hother⟩ := exists_artifact hlost
  have hsame : (corpus .win).filter (Outside config) = (corpus .loss).filter (Outside config) := rfl
  exact ⟨artifact, other, hartifact, hother,
    (evaluatePolicies_winner_blind hsame hartifact hother).2.1⟩

end TwoPolicies

end MatchVet.T18.Evaluation
