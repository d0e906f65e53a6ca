import MatchVet.T18.Checkpoint
import MatchVet.T18.Winner

/-!
# Resuming an evaluation

Whatever attempts are stopped, and wherever, the artifact of an attempt that returns is
the one that the evaluation without checkpoints gives, and its checkpoint records every
fold once.
-/

namespace MatchVet.T18.Checkpoint

open MatchVet.Foundation.CanonicalJson
open MatchVet.Foundation.CrashLogic
open MatchVet.Foundation.FrozenValue
open MatchVet.Foundation.KeySort
open MatchVet.Foundation.Runtime
open MatchVet.Foundation.Timestamp
open MatchVet.T18.Evaluation
open MatchVet.T18.Folds (ChronologicalFold EvaluationError Matchweek foldId foldsFrom
  generateRollingOriginFolds threeDigits)

/-! ## Fold identifiers -/

section Identifiers

theorem threeDigits_toList (number : ℕ) :
    (threeDigits number).toList =
      List.replicate (3 - (toString number).length) '0' ++ Nat.toDigits 10 number := by
  rw [threeDigits, String.toList_append, String.toList_ofList, Nat.toString_eq_ofList_toDigits,
    String.toList_ofList]

theorem threeDigits_isDigit (number : ℕ) :
    ∀ char ∈ (threeDigits number).toList, char.isDigit = true := by
  rw [threeDigits_toList]
  intro char hchar
  rcases List.mem_append.mp hchar with hzero | hdigit
  · rw [List.eq_of_mem_replicate hzero]
    rfl
  · exact Nat.isDigit_of_mem_toDigits (by decide) (by decide) hdigit

theorem threeDigits_value (number : ℕ) :
    Nat.ofDigitChars 10 (threeDigits number).toList 0 = number := by
  rw [threeDigits_toList, Nat.ofDigitChars_append, Nat.ofDigitChars_replicate_zero, Nat.mul_zero,
    Nat.ofDigitChars_ten_toDigits]

variable [Hashing]

/-- The number of a fold stands in its identifier. -/
theorem foldId_injective {config : Folds.EvaluationConfig} {number other : ℕ}
    {development validation developed validated : List String}
    (heq : foldId config number development validation =
      foldId config other developed validated) : number = other := by
  have htake (count : ℕ) (rest : List Char) :
      ((threeDigits count).toList ++ '-' :: rest).takeWhile Char.isDigit =
        (threeDigits count).toList := by
    rw [List.takeWhile_append_of_pos (threeDigits_isDigit count)]
    simp
  have hchars := congrArg String.toList heq
  simp only [foldId, String.toList_append] at hchars
  rw [List.append_assoc, List.append_assoc, List.append_assoc, List.append_assoc,
    List.append_cancel_left_eq] at hchars
  have hdigits := congrArg (List.takeWhile Char.isDigit) hchars
  have hsame : (threeDigits number).toList = (threeDigits other).toList := by
    refine Eq.trans (htake number _).symm (Eq.trans hdigits (htake other _))
  rw [← threeDigits_value number, hsame, threeDigits_value]

theorem nodup_foldIds {config : Folds.EvaluationConfig} {matchweeks : List Matchweek}
    (number count : ℕ) :
    ((foldsFrom config matchweeks number count).map ChronologicalFold.foldId).Nodup := by
  induction hsize : matchweeks.length + 1 - count using Nat.strong_induction_on
    generalizing number count with
  | h size ih =>
      by_cases hfits : count + config.rollingValidationMatchweeks ≤ matchweeks.length
      · have hstep := config.step_pos
        rw [foldsFrom, dif_pos hfits, List.map_cons, List.nodup_cons]
        refine ⟨fun hmem => ?_, ih _ (by omega) (number + 1) _ rfl⟩
        obtain ⟨fold, hfold, hid⟩ := List.mem_map.mp hmem
        obtain ⟨round, hround, rfl⟩ := Folds.mem_foldsFrom.mp hfold
        have hnumber := foldId_injective hid
        omega
      · rw [foldsFrom, dif_neg hfits]
        exact List.nodup_nil

/-- A nested fold and the outer one have different identifiers. -/
theorem foldId_ne_final {config : Folds.EvaluationConfig} {number : ℕ}
    {development validation : List String} (suffix : String) :
    foldId config number development validation ≠ "final-" ++ suffix := by
  intro heq
  have hchars := congrArg (fun content => (String.toList content)[1]?) heq
  simp only [foldId, String.toList_append] at hchars
  cases hchars

end Identifiers

/-! ## Checkpoints that were built -/

section Codec

theorem text?_str (content : String) : text? (some (.str content)) = some content := rfl

theorem isMapping_freeze (value : PyValue) : (freeze value).isMapping = value.isMapping := by
  cases value <;> rfl

theorem textItems?_texts (contents : List String) :
    textItems? (some (texts contents)) = some contents := by
  rw [texts, textItems?]
  induction contents with
  | nil => rfl
  | cons content rest ih =>
      rw [List.map_cons, List.mapM_cons, ih]
      rfl

theorem freeze_texts (contents : List String) : freeze (texts contents) = texts contents := by
  rw [texts, freeze, freezeItems_eq_map, List.map_map]
  rfl

variable [Hashing] [PyRuntime] {state runDigest : String} {ids : List String}
  {records : List PyValue} {artifactDigest : Option String} {checkpoint : EvaluationCheckpoint}

/-- The entries of a checkpoint. -/
def sealedEntries (state runDigest : String) (ids : List String) (records : List PyValue)
    (artifactDigest : Option String) (digest : String) : List (String × PyValue) :=
  EvaluationCheckpoint.core state runDigest ids records artifactDigest ++
    [("checkpoint_digest", .str digest)]

omit [Hashing] [PyRuntime] in
theorem sealedEntries_nodup (digest : String) :
    ((sealedEntries state runDigest ids records artifactDigest digest).map Prod.fst).Nodup := by
  have hkeys : (sealedEntries state runDigest ids records artifactDigest digest).map Prod.fst =
      ["artifact_digest", "completed_fold_ids", "fold_records", "run_digest", "schema_version",
        "state", "checkpoint_digest"] := rfl
  rw [hkeys]
  decide

omit [Hashing] [PyRuntime] in
theorem core_fresh :
    "checkpoint_digest" ∉
      (EvaluationCheckpoint.core state runDigest ids records artifactDigest).map Prod.fst := by
  have hkeys : (EvaluationCheckpoint.core state runDigest ids records artifactDigest).map Prod.fst =
      ["artifact_digest", "completed_fold_ids", "fold_records", "run_digest", "schema_version",
        "state"] := rfl
  rw [hkeys]
  decide

/-- What `make` asks of the entries of a checkpoint beside their digest. -/
structure Wellformed (state runDigest : String) (records : List PyValue)
    (artifactDigest : Option String) : Prop where
  state : state = "IN_PROGRESS" ∨ state = "COMPLETE"
  runDigest : checkDigest runDigest "Evaluation checkpoint run digest" = .ok ()
  artifactDigest : checkArtifactDigest (some (optional PyValue.str artifactDigest)) = .ok ()
  records : records.all PyValue.isMapping = true

omit [Hashing] in
theorem Wellformed.frozen (hform : Wellformed state runDigest records artifactDigest) :
    Wellformed state runDigest (records.map freeze) artifactDigest := by
  refine ⟨hform.state, hform.runDigest, hform.artifactDigest, ?_⟩
  rw [List.all_map, ← hform.records]
  exact congrArg (fun test => records.all test) (funext isMapping_freeze)

/-- `make` accepts entries that are frozen copies of those of a checkpoint, or they
themselves. -/
theorem make_eq_ok (read : PyValue → PyValue) {entries : List (String × PyValue)} {digest : String}
    (hitems : ∀ items, read (.array items) = .array (items.map read))
    (htext : ∀ content, read (.str content) = .str content) (hnone : read .none = .none)
    (hmapping : ∀ value, (read value).isMapping = value.isMapping)
    (hlookup : ∀ key, entries.lookup key =
      ((sealedEntries state runDigest ids records artifactDigest digest).lookup key).map read)
    (hdigest : sha256Of (.mapping (entries.filter fun entry => entry.1 ≠ "checkpoint_digest")) =
      .ok digest) :
    EvaluationCheckpoint.make entries = .ok checkpoint ↔
      Wellformed state runDigest records artifactDigest ∧
        checkpoint = ⟨freeze (.mapping entries)⟩ := by
  have hschema : entries.lookup "schema_version" = some (.str checkpointSchemaVersion) := by
    rw [hlookup]
    exact congrArg some (htext _)
  have hsupplied : entries.lookup "checkpoint_digest" = some (.str digest) := by
    rw [hlookup]
    exact congrArg some (htext _)
  have hstate : entries.lookup "state" = some (.str state) := by
    rw [hlookup]
    exact congrArg some (htext _)
  have hrun : entries.lookup "run_digest" = some (.str runDigest) := by
    rw [hlookup]
    exact congrArg some (htext _)
  have hartifact : entries.lookup "artifact_digest" =
      some (optional PyValue.str artifactDigest) := by
    rw [hlookup]
    refine congrArg some ?_
    cases artifactDigest with
    | none => exact hnone
    | some content => exact htext content
  have hids : entries.lookup "completed_fold_ids" = some (texts ids) := by
    rw [hlookup]
    refine congrArg some ?_
    rw [texts, hitems, List.map_map]
    exact congrArg PyValue.array (List.map_congr_left fun content _ => htext content)
  have hrecords : entries.lookup "fold_records" = some (.array (records.map read)) := by
    rw [hlookup]
    exact congrArg some (hitems records)
  have hall : (records.map read).all PyValue.isMapping = records.all PyValue.isMapping := by
    rw [List.all_map]
    exact congrArg (fun test => records.all test) (funext hmapping)
  rw [EvaluationCheckpoint.make, hschema, text?_str, require_eq_ok.mpr rfl, ok_bind, hsupplied,
    text?_str]
  dsimp only
  rw [hdigest, ok_bind, require_eq_ok.mpr rfl, ok_bind, hstate, text?_str, hrun, hartifact, hids,
    hrecords, Option.getD_some, PyRuntime.display_str, textItems?_texts, mappingItems?, hall]
  simp only [bind_eq_ok, Option.some.injEq]
  constructor
  · rintro ⟨⟨⟩, hgood, ⟨⟩, hgoodRun, ⟨⟩, hgoodArtifact, ⟨⟩, -, ⟨⟩, hmappings, hmade⟩
    refine ⟨⟨require_eq_ok.mp hgood, hgoodRun, hgoodArtifact, ?_⟩, (Except.ok.inj hmade).symm⟩
    by_contra hbad
    have hsome := require_eq_ok.mp hmappings
    rw [if_neg hbad] at hsome
    cases hsome
  · rintro ⟨hform, rfl⟩
    refine ⟨(), require_eq_ok.mpr hform.state, (), hform.runDigest, (), hform.artifactDigest, (),
      require_eq_ok.mpr rfl, (), require_eq_ok.mpr ?_, rfl⟩
    rw [if_pos hform.records]
    rfl

omit [Hashing] [PyRuntime] in
theorem filter_sealedEntries (digest : String) :
    (sealedEntries state runDigest ids records artifactDigest digest).filter
      (fun entry => entry.1 ≠ "checkpoint_digest") =
        EvaluationCheckpoint.core state runDigest ids records artifactDigest :=
  filter_concat core_fresh

theorem build_eq_ok :
    EvaluationCheckpoint.build state runDigest ids records artifactDigest = .ok checkpoint ↔
      Wellformed state runDigest records artifactDigest ∧ ∃ digest,
        sha256Of (.mapping (EvaluationCheckpoint.core state runDigest ids records
          artifactDigest)) = .ok digest ∧
        checkpoint =
          ⟨freeze (.mapping (sealedEntries state runDigest ids records artifactDigest digest))⟩ := by
  rw [EvaluationCheckpoint.build]
  simp only [bind_eq_ok]
  have hmake {digest : String} (hdigest : sha256Of (.mapping
      (EvaluationCheckpoint.core state runDigest ids records artifactDigest)) = .ok digest) :
      EvaluationCheckpoint.make (sealedEntries state runDigest ids records artifactDigest digest) =
        .ok checkpoint ↔ Wellformed state runDigest records artifactDigest ∧ checkpoint =
          ⟨freeze (.mapping (sealedEntries state runDigest ids records artifactDigest digest))⟩ := by
    refine make_eq_ok id (fun _ => ?_) (fun _ => rfl) rfl (fun _ => rfl)
      (fun _ => (Option.map_id_apply).symm) ?_
    · rw [List.map_id]
      rfl
    · rw [filter_sealedEntries]
      exact hdigest
  constructor
  · rintro ⟨digest, hdigest, hmade⟩
    obtain ⟨hform, hcheckpoint⟩ := (hmake hdigest).mp hmade
    exact ⟨hform, digest, hdigest, hcheckpoint⟩
  · rintro ⟨hform, digest, hdigest, hcheckpoint⟩
    exact ⟨digest, hdigest, (hmake hdigest).mpr ⟨hform, hcheckpoint⟩⟩

omit [PyRuntime] in
theorem sha256Of_congr {first second : PyValue} (hfreeze : freeze first = freeze second) :
    sha256Of first = sha256Of second := by
  have hcanonical := canonical_eq_of_freeze_eq hfreeze
  have hplain : plain first = plain second := by
    rw [← plain_freeze first, hfreeze, plain_freeze]
  rw [sha256Of, canonicalJson, hplain, hcanonical, sha256Of, canonicalJson]

omit [PyRuntime] in
theorem plain_of_sha256Of {value : PyValue} {digest : String}
    (hdigest : sha256Of value = .ok digest) : plain value = true := by
  rw [sha256Of, map_eq_ok] at hdigest
  obtain ⟨tree, htree, -⟩ := hdigest
  rw [canonicalJson] at htree
  split at htree
  next hplain => exact hplain
  next => cases htree

/-- A checkpoint that was built is read back from its text. -/
theorem parse_of_build {tree : Json}
    (hbuild : EvaluationCheckpoint.build state runDigest ids records artifactDigest =
      .ok checkpoint)
    (htree : canonicalJson checkpoint.payload = .ok tree) :
    parseCheckpoint (.json tree) = .ok checkpoint := by
  obtain ⟨hform, digest, hdigest, rfl⟩ := build_eq_ok.mp hbuild
  rw [canonicalJson] at htree
  split at htree
  next hplain =>
    split at htree
    next found hfound =>
      cases htree
      have hvalue := toValue_canonical _ hplain hfound
      rw [freeze_freeze, freeze_mapping] at hvalue
      rw [parseCheckpoint, hvalue]
      dsimp only
      refine (make_eq_ok freeze (fun items => ?_) (fun _ => rfl) rfl isMapping_freeze
        (fun key => lookup_frozenEntries (sealedEntries_nodup digest) key) ?_).mpr ⟨hform, ?_⟩
      · rw [freeze, freezeItems_eq_map]
      · rw [sealedEntries, filter_frozenEntries core_fresh, ← hdigest]
        refine sha256Of_congr ?_
        rw [freeze_mapping, freeze_mapping, frozenEntries_frozenEntries]
      · rw [freeze_mapping, freeze_mapping, frozenEntries_frozenEntries]
    next => cases htree
  next => cases htree

/-- What the accessors of a checkpoint that was built tell. -/
theorem accessors_of_build
    (hbuild : EvaluationCheckpoint.build state runDigest ids records artifactDigest =
      .ok checkpoint) :
    checkpoint.state = state ∧ checkpoint.runDigest = runDigest ∧
      checkpoint.artifactDigest = artifactDigest ∧ checkpoint.completedFoldIds = ids ∧
      checkpoint.foldRecords = records.map freeze := by
  obtain ⟨hform, digest, -, rfl⟩ := build_eq_ok.mp hbuild
  have hget (key : String) : get? (freeze (.mapping
      (sealedEntries state runDigest ids records artifactDigest digest))) key =
        ((sealedEntries state runDigest ids records artifactDigest digest).lookup key).map freeze :=
    get?_freeze (sealedEntries_nodup digest) key
  refine ⟨?_, ?_, ?_, ?_, ?_⟩
  · rw [EvaluationCheckpoint.state, hget]
    exact PyRuntime.display_str state
  · rw [EvaluationCheckpoint.runDigest, hget]
    exact PyRuntime.display_str runDigest
  · rw [EvaluationCheckpoint.artifactDigest, hget]
    cases artifactDigest with
    | none => rfl
    | some content => exact congrArg some (PyRuntime.display_str content)
  · have hids : (sealedEntries state runDigest ids records artifactDigest digest).lookup
        "completed_fold_ids" = some (texts ids) := rfl
    rw [EvaluationCheckpoint.completedFoldIds, hget, hids, Option.map_some, freeze_texts,
      textItems?_texts]
    rfl
  · have hrecords : (sealedEntries state runDigest ids records artifactDigest digest).lookup
        "fold_records" = some (.array records) := rfl
    rw [EvaluationCheckpoint.foldRecords, hget, hrecords, Option.map_some, freeze,
      freezeItems_eq_map, mappingItems?, if_pos hform.frozen.records]
    rfl

end Codec

/-! ## Candidates in another order -/

section Candidates

variable [Hashing] [Calendar] [PyRuntime] [EvaluationServices] {config : EvaluationConfig}
  {rows observations : List HistoricalEvaluation} {candidates others : List CandidatePolicy}

omit [PyRuntime] [EvaluationServices] in
theorem accepted_of_perm {contract : EvaluationContract}
    (haccepted : Accepted rows candidates config contract) (hperm : candidates.Perm others) :
    Accepted rows others config contract := by
  refine ⟨haccepted.ordered, haccepted.consistent, ?_, ?_, ?_, haccepted.window, ?_, ?_,
    haccepted.exclusions⟩
  · rintro rfl
    exact haccepted.nonempty hperm.eq_nil
  · exact (hperm.map CandidatePolicy.digest).nodup_iff.mp haccepted.distinct
  · exact fun candidate hmem => haccepted.lifecycle candidate (hperm.mem_iff.mpr hmem)
  · exact fun candidate hmem => haccepted.unseen candidate (hperm.mem_iff.mpr hmem)
  · intro observation hmem
    rw [← haccepted.rows observation hmem, validateObservation, validateObservation,
      find?_key_eq_of_perm hperm haccepted.distinct]

omit [Hashing] [Calendar] [PyRuntime] [EvaluationServices] in
theorem sortedCandidates_eq (hdistinct : (candidates.map CandidatePolicy.digest).Nodup)
    (hperm : candidates.Perm others) :
    sortedOn candidateSortKey candidates = sortedOn candidateSortKey others := by
  refine sortedOn_eq_of_perm candidateSortKey hperm fun left hleft right hright hkey => ?_
  exact List.inj_on_of_nodup_map hdistinct hleft hright
    (congrArg Prod.snd (toLex.injective hkey))

theorem nestedFoldRecord_perm (hdistinct : (candidates.map CandidatePolicy.digest).Nodup)
    (hperm : candidates.Perm others) (exclusions : List Exclusion) (fold : ChronologicalFold) :
    nestedFoldRecord rows candidates config exclusions fold =
      nestedFoldRecord rows others config exclusions fold := by
  have hmetadata (covered : List HistoricalEvaluation) :
      foldIdentityMetadata covered candidates config =
        foldIdentityMetadata covered others config := by
    rw [foldIdentityMetadata, foldIdentityMetadata,
      insertionSort_eq_of_perm (hperm.map CandidatePolicy.digest),
      insertionSort_eq_of_perm (hperm.map CandidatePolicy.version)]
  have hresults (developed validated : List HistoricalEvaluation) :
      nestedCandidateResults developed validated candidates config fold =
        nestedCandidateResults developed validated others config fold := by
    rw [nestedCandidateResults, nestedCandidateResults, sortedCandidates_eq hdistinct hperm]
  rw [nestedFoldRecord, nestedFoldRecord, hmetadata, hresults]

/-- Records with the same frozen copies give the same artifact. -/
theorem artifact_of_saved {artifact : EvaluationArtifact} {saved : List PyValue}
    (study : Evaluated rows candidates config none artifact)
    (hsaved : freezeItems saved = freezeItems study.records) :
    artifactCore rows candidates config (some saved) >>= sealCore = .ok artifact := by
  have hfolds : freezeItems (saved ++ [study.outer]) =
      freezeItems (study.records ++ [study.outer]) := by
    rw [freezeItems_append, freezeItems_append, hsaved]
  have hdigest : sha256Of (.array (saved ++ [study.outer])) = .ok study.digests.folds := by
    rw [← study.folds_eq]
    refine sha256Of_congr ?_
    rw [freeze, freeze, hfolds]
  have hcore : artifactCore rows candidates config (some saved) =
      .ok (coreEntries rows candidates config study.contract (study.winner :: study.losers)
        study.winner.candidate study.metrics (saved ++ [study.outer]) study.stability
          study.digests) := by
    rw [artifactCore, validateEvaluationContract_eq_ok.mpr study.accepted, ok_bind, study.ranked,
      ok_bind]
    dsimp only
    rw [study.finalRows_eq, ok_bind, study.metrics_eq, ok_bind, foldRecords, nestedFoldRecords,
      ok_bind, study.outer_eq, ok_bind, pure_bind, evaluationCore, study.stability_eq, ok_bind,
      study.config_eq, ok_bind, study.corpus_eq, ok_bind, hdigest, ok_bind]
    rfl
  have hsame (tail : List (String × PyValue)) :
      freeze (.mapping (coreEntries rows candidates config study.contract
        (study.winner :: study.losers) study.winner.candidate study.metrics
          (saved ++ [study.outer]) study.stability study.digests ++ tail)) =
        freeze (.mapping (coreEntries rows candidates config study.contract
          (study.winner :: study.losers) study.winner.candidate study.metrics
            (study.records ++ [study.outer]) study.stability study.digests ++ tail)) := by
    rw [freeze_mapping, freeze_mapping, frozenEntries, frozenEntries]
    refine congrArg (fun entries => PyValue.mapping (sortedOn Prod.fst entries)) ?_
    simp only [coreEntries, List.cons_append, List.nil_append, freezeEntries, freeze, hfolds]
  have hseal := hsame []
  rw [List.append_nil, List.append_nil] at hseal
  rw [hcore, ok_bind, sealCore_eq rfl rfl ((sha256Of_congr hseal).trans study.digest_eq), hsame,
    ← study.payload_eq]

/-- The evaluation takes saved records of the same rows, whatever the order of the
candidates. -/
theorem evaluatePolicies_saved {artifact : EvaluationArtifact} {saved : List PyValue}
    (study : Evaluated (sortedOn observationSortKey observations)
      (sortedOn candidateSortKey candidates) config none artifact)
    (hperm : candidates.Perm others)
    (hsaved : freezeItems saved = freezeItems study.records) :
    evaluatePolicies (sortedOn observationSortKey observations) others config (some saved) =
      .ok artifact := by
  have hdistinct : (candidates.map CandidatePolicy.digest).Nodup :=
    ((sortedOn_perm candidateSortKey candidates).map _).nodup_iff.mp study.accepted.distinct
  rw [evaluatePolicies, sortedOn_of_pairwise _ (sortedOn_pairwise observationSortKey observations),
    ← sortedCandidates_eq hdistinct hperm]
  exact artifact_of_saved study hsaved

end Candidates

/-! ## Records and their identifiers -/

section Records

variable [Hashing] [Calendar] [PyRuntime] [EvaluationServices] {config : EvaluationConfig}
  {rows : List HistoricalEvaluation} {candidates : List CandidatePolicy}

/-- A record tells its fold, before and after it is frozen. -/
structure Tells (record : PyValue) (id : String) : Prop where
  mapping : record.isMapping = true
  frozen : foldIdText (freeze record) = id

theorem tells_of_nested {exclusions : List Exclusion} {fold : ChronologicalFold} {record : PyValue}
    (hrecord : nestedFoldRecord rows candidates config exclusions fold = .ok record) :
    Tells record fold.foldId := by
  rw [nestedFoldRecord, bind_eq_ok] at hrecord
  obtain ⟨metadata, hmetadata, hrecord⟩ := hrecord
  rw [foldIdentityMetadata, bind_eq_ok] at hmetadata
  obtain ⟨digest, -, hmetadata⟩ := hmetadata
  cases hmetadata
  rw [bind_eq_ok] at hrecord
  obtain ⟨results, -, hrecord⟩ := hrecord
  cases hrecord
  refine ⟨rfl, ?_⟩
  rw [foldIdText, get?_freeze]
  · exact PyRuntime.display_str fold.foldId
  · simp only [List.map_append, List.map_cons, List.map_nil]
    decide

omit [EvaluationServices] in
theorem tells_of_outer {exclusions : List Exclusion} {selected : String} {record : PyValue}
    (hrecord : outerFoldRecord rows candidates config selected exclusions = .ok record) :
    ∃ suffix, Tells record ("final-" ++ suffix) := by
  rw [outerFoldRecord] at hrecord
  simp only [bind_eq_ok] at hrecord
  obtain ⟨configDigest, -, outerDigest, -, metadata, hmetadata, hrecord⟩ := hrecord
  rw [foldIdentityMetadata, bind_eq_ok] at hmetadata
  obtain ⟨digest, -, hmetadata⟩ := hmetadata
  cases hmetadata
  cases hrecord
  refine ⟨String.ofList (outerDigest.toList.take 12), rfl, ?_⟩
  rw [foldIdText, get?_freeze]
  · exact PyRuntime.display_str _
  · simp only [List.map_append, List.map_cons, List.map_nil]
    decide

/-- The folds of a study and what the nested records tell of them. -/
def studyFolds (rows : List HistoricalEvaluation) (config : EvaluationConfig) :
    List ChronologicalFold :=
  foldsFrom config.toEvaluationConfig
    (Folds.developmentMatchweeks (foldRows rows) config.toEvaluationConfig) 1
      config.minimumDevelopmentMatchweeks

def studyIds (rows : List HistoricalEvaluation) (config : EvaluationConfig) : List String :=
  (studyFolds rows config).map ChronologicalFold.foldId

variable {artifact : EvaluationArtifact}

theorem records_of_study (study : Evaluated rows candidates config none artifact) :
    List.Forall₂ (fun fold record =>
      nestedFoldRecord rows candidates config study.contract.exclusions fold = .ok record)
        (studyFolds rows config) study.records := by
  have hrecords := study.records_eq
  rw [nestedFoldRecords, generateRollingOriginFolds_eq study.accepted.ordered
    study.accepted.consistent, ok_bind] at hrecords
  exact forall₂_of_mapM hrecords

theorem ids_of_records {exclusions : List Exclusion}
    {folds : List ChronologicalFold} {records : List PyValue}
    (hrecords : List.Forall₂ (fun fold record =>
      nestedFoldRecord rows candidates config exclusions fold = .ok record) folds records) :
    (records.map freeze).map foldIdText = folds.map ChronologicalFold.foldId := by
  induction hrecords with
  | nil => rfl
  | cons hhead hrest ih =>
      rw [List.map_cons, List.map_cons, List.map_cons, (tells_of_nested hhead).frozen, ih]

/-- The folds of the artifact are mappings of JSON data, told apart by their identifiers. -/
structure Recordable (artifact : EvaluationArtifact) (rows : List HistoricalEvaluation)
    (config : EvaluationConfig) : Prop where
  mappings : artifact.folds.all PyValue.isMapping = true
  plain : ∀ record ∈ artifact.folds, plain record = true
  frozen : artifact.folds.map freeze = artifact.folds
  ids : ∃ suffix, artifact.folds.map foldIdText = studyIds rows config ++ ["final-" ++ suffix]
  distinct : (artifact.folds.map foldIdText).Nodup

theorem recordable_of_study (study : Evaluated rows candidates config none artifact) :
    Recordable artifact rows config := by
  obtain ⟨suffix, houter⟩ := tells_of_outer study.outer_eq
  have hplain := plain_of_sha256Of study.folds_eq
  rw [plain, plainItems_iff] at hplain
  have hmapping : ∀ record ∈ study.records, record.isMapping = true := by
    intro record hrecord
    obtain ⟨fold, -, hfold⟩ := exists_of_mem_right (records_of_study study) hrecord
    exact (tells_of_nested hfold).mapping
  have hids : artifact.folds.map foldIdText = studyIds rows config ++ ["final-" ++ suffix] := by
    rw [study.folds_payload, List.map_append, ids_of_records (records_of_study study),
      List.map_singleton, houter.frozen, studyIds]
  have hfolds : artifact.folds = (study.records ++ [study.outer]).map freeze := by
    rw [study.folds_payload, List.map_append, List.map_singleton]
  refine ⟨?_, ?_, ?_, ⟨suffix, hids⟩, ?_⟩
  · rw [hfolds, List.all_map, List.all_eq_true]
    intro record hrecord
    rw [Function.comp_apply, isMapping_freeze]
    rcases List.mem_append.mp hrecord with hnested | hlast
    · exact hmapping record hnested
    · rw [List.mem_singleton.mp hlast]
      exact houter.mapping
  · rw [hfolds]
    intro record hrecord
    obtain ⟨original, horiginal, rfl⟩ := List.mem_map.mp hrecord
    rw [plain_freeze]
    exact hplain original horiginal
  · rw [hfolds, List.map_map]
    exact List.map_congr_left fun record _ => freeze_freeze record
  · rw [hids, List.nodup_append]
    refine ⟨nodup_foldIds 1 config.minimumDevelopmentMatchweeks, List.nodup_singleton _, ?_⟩
    rintro id hid other hother rfl
    obtain ⟨fold, hfold, hsame⟩ := List.mem_map.mp hid
    obtain ⟨round, hfits, rfl⟩ := Folds.mem_foldsFrom.mp hfold
    rw [List.mem_singleton] at hother
    exact foldId_ne_final suffix (hsame.trans hother)

end Records

/-! ## Any attempt -/

section Attempts

variable [Hashing] [Calendar] [PyRuntime] [EvaluationServices]

omit [Hashing] [Calendar] [PyRuntime] [EvaluationServices] in
theorem evaluating_meets {α : Type} {before stopped : File → Prop}
    {result : Except EvaluationError α} (hstopped : ∀ file, before file → stopped file) :
    Meets before (evaluating result) (fun value file => before file ∧ result = .ok value)
      stopped :=
  (Meets.computed hstopped).weaken (fun _ => id)
    (fun _ _ hboth => ⟨hboth.1, mapError_eq_ok.mp hboth.2⟩) fun _ => id

/-- The file holds a verified checkpoint. -/
def Holds (file : File) (checkpoint : EvaluationCheckpoint) : Prop :=
  ∃ content, file = some content ∧ parseCheckpoint content = .ok checkpoint

/-- A checkpoint of a run after some of its folds. -/
def Saved (runDigest : String) (ids : List String) (frozen : List PyValue) (count : ℕ)
    (file : File) : Prop :=
  ∃ checkpoint, Holds file checkpoint ∧ checkpoint.runDigest = runDigest ∧
    checkpoint.completedFoldIds = ids.take count ∧ checkpoint.foldRecords = frozen.take count

/-- The last checkpoint of a run: every fold once, and the artifact. -/
def Finished (runDigest : String) (artifact : EvaluationArtifact) (file : File) : Prop :=
  ∃ checkpoint, Holds file checkpoint ∧ checkpoint.state = "COMPLETE" ∧
    checkpoint.runDigest = runDigest ∧ checkpoint.artifactDigest = some artifact.digest ∧
    checkpoint.completedFoldIds = artifact.folds.map foldIdText ∧
    checkpoint.foldRecords = artifact.folds

/-- What the checkpoint file can be between two attempts. -/
inductive Progress (runDigest : String) (ids : List String) (frozen : List PyValue)
    (artifact : EvaluationArtifact) : File → Prop where
  | fresh : Progress runDigest ids frozen artifact none
  | saved {file : File} (count : ℕ) (hcount : count ≤ ids.length)
      (hsaved : Saved runDigest ids frozen count file) : Progress runDigest ids frozen artifact file
  | finished {file : File} (hfinished : Finished runDigest artifact file) :
      Progress runDigest ids frozen artifact file

omit [Calendar] [EvaluationServices] in
/-- A written checkpoint replaces the file, or the file stays. -/
theorem saveCheckpoint_meets (target : File → Prop) {before stopped : File → Prop} {state runDigest : String}
    {ids : List String} {records : List PyValue} {artifactDigest : Option String}
    (htarget : ∀ checkpoint content,
      EvaluationCheckpoint.build state runDigest ids records artifactDigest = .ok checkpoint →
      parseCheckpoint content = .ok checkpoint → target (some content))
    (hstopped : ∀ file, before file → stopped file)
    (hreached : ∀ file, target file → stopped file) :
    Meets before (saveCheckpoint state runDigest ids records artifactDigest)
      (fun _ => target) stopped := by
  unfold saveCheckpoint writeEvaluationCheckpoint
  refine Meets.bind (evaluating_meets hstopped) fun checkpoint => ?_
  refine Meets.given fun hbuild => ?_
  refine Meets.bind (Meets.hazard hstopped) fun _ => ?_
  refine Meets.bind (evaluating_meets hstopped) fun tree => ?_
  refine Meets.given fun htree => ?_
  refine Meets.bind (Meets.hazard hstopped) fun _ => ?_
  have hreplace : Meets before (replaceFile tree) (fun _ => target) stopped := by
    refine Meets.risky (fun file next value _ hupdate => ?_) hstopped
    cases hupdate
    exact htarget checkpoint _ hbuild (parse_of_build hbuild htree)
  exact Meets.bind hreplace fun _ => Meets.hazard hreached

omit [Hashing] [Calendar] [PyRuntime] [EvaluationServices] in
theorem readBytes_meets {path : String} {before : File → Prop} :
    Meets before (readBytes path) (fun content file => before file ∧ file = some content)
      before := by
  unfold readBytes
  refine Meets.catching (Meets.consult (fun file content hfile hcontent => ?_) fun _ => id)
    fun error => ?_
  · cases file with
    | none => cases hcontent
    | some found =>
        cases hcontent
        exact ⟨hfile, rfl⟩
  · cases error with
    | host => exact Meets.raise fun _ => id
    | refused reason => exact Meets.raise fun _ => id

/-- What the loop over the remaining folds knows of the folds before. -/
structure Halfway (ids : List String) (frozen : List PyValue) (rest : List ChronologicalFold)
    (restRecords : List PyValue) (completedIds : List String)
    (completedRecords : List PyValue) : Prop where
  ids : completedIds ++ rest.map ChronologicalFold.foldId = ids
  records : completedRecords.map freeze ++ restRecords.map freeze = frozen
  together : completedRecords.length = completedIds.length

variable {config : EvaluationConfig} {rows : List HistoricalEvaluation}
  {candidates : List CandidatePolicy} {artifact : EvaluationArtifact} {runDigest : String}
  {ids : List String} {frozen : List PyValue} {exclusions : List Exclusion}

omit [Calendar] [EvaluationServices] in
/-- A halfway point is a saved one. -/
theorem Halfway.saved {rest : List ChronologicalFold} {restRecords completedRecords : List PyValue}
    {completedIds : List String}
    (hhalf : Halfway ids frozen rest restRecords completedIds completedRecords)
    {checkpoint : EvaluationCheckpoint} {content : Content}
    (hbuild : EvaluationCheckpoint.build "IN_PROGRESS" runDigest completedIds completedRecords
      none = .ok checkpoint)
    (hparse : parseCheckpoint content = .ok checkpoint) :
    Progress runDigest ids frozen artifact (some content) := by
  obtain ⟨-, hrun, -, hids, hrecords⟩ := accessors_of_build hbuild
  refine .saved completedIds.length ?_ ⟨checkpoint, ⟨content, rfl, hparse⟩, hrun, ?_, ?_⟩
  · rw [← hhalf.ids, List.length_append]
    exact Nat.le_add_right _ _
  · rw [hids, ← hhalf.ids, List.take_left]
  · have hlength : (completedRecords.map freeze).length = completedIds.length := by
      rw [List.length_map, hhalf.together]
    rw [hrecords, ← hhalf.records, ← hlength, List.take_left]

omit [Hashing] [Calendar] [PyRuntime] [EvaluationServices] in
theorem Halfway.fresh (hdistinct : ids.Nodup) {fold : ChronologicalFold}
    {rest : List ChronologicalFold} {restRecords completedRecords : List PyValue}
    {completedIds : List String}
    (hhalf : Halfway ids frozen (fold :: rest) restRecords completedIds completedRecords) :
    fold.foldId ∉ completedIds := by
  intro hmem
  rw [← hhalf.ids, List.nodup_append] at hdistinct
  exact hdistinct.2.2 _ hmem _ List.mem_cons_self rfl

omit [Hashing] [Calendar] [PyRuntime] [EvaluationServices] in
theorem Halfway.next {fold : ChronologicalFold} {record : PyValue}
    {rest : List ChronologicalFold} {restRecords completedRecords : List PyValue}
    {completedIds : List String}
    (hhalf : Halfway ids frozen (fold :: rest) (record :: restRecords) completedIds
      completedRecords) :
    Halfway ids frozen rest restRecords (completedIds ++ [fold.foldId])
      (completedRecords ++ [record]) := by
  refine ⟨?_, ?_, ?_⟩
  · rw [List.append_assoc, List.singleton_append, ← List.map_cons, hhalf.ids]
  · rw [List.map_append, List.map_singleton, List.append_assoc, List.singleton_append,
      ← List.map_cons, hhalf.records]
  · rw [List.length_append, List.length_append, hhalf.together]
    rfl

theorem recordFolds_meets (hdistinct : ids.Nodup) {rest : List ChronologicalFold}
    {restRecords : List PyValue}
    (hrest : List.Forall₂ (fun fold record =>
      nestedFoldRecord rows candidates config exclusions fold = .ok record) rest restRecords)
    {completedIds : List String} {completedRecords : List PyValue}
    (hhalf : Halfway ids frozen rest restRecords completedIds completedRecords) :
    Meets (Progress runDigest ids frozen artifact)
      (recordFolds rows candidates config runDigest exclusions rest completedIds completedRecords)
      (fun records file => Progress runDigest ids frozen artifact file ∧
        records.map freeze = frozen)
      (Progress runDigest ids frozen artifact) := by
  induction hrest generalizing completedIds completedRecords with
  | nil =>
      rw [recordFolds]
      refine Meets.ret fun file hfile => ⟨hfile, ?_⟩
      rw [← hhalf.records, List.map_nil, List.append_nil]
  | @cons fold record others otherRecords hhead hothers ih =>
      have hfresh := hhalf.fresh hdistinct
      have hnext := hhalf.next
      rw [recordFolds]
      refine Meets.bind (evaluating_meets fun _ => id) fun found => ?_
      refine Meets.given fun hfound => ?_
      rw [hhead] at hfound
      cases hfound
      rw [if_neg hfresh]
      refine Meets.bind (saveCheckpoint_meets (Progress runDigest ids frozen artifact)
        (fun checkpoint content hbuild hparse => hnext.saved hbuild hparse) (fun _ => id)
          fun _ => id) fun _ => ?_
      exact Meets.bind (Meets.hazard fun _ => id) fun _ => ih hnext

/-- Saved folds that a run can go on from. -/
structure Resumable (ids : List String) (frozen : List PyValue) (savedIds : List String)
    (savedRecords : List PyValue) : Prop where
  names : savedIds.take (min ids.length savedIds.length) =
    ids.take (min ids.length savedIds.length)
  records : savedRecords.take (min ids.length savedIds.length) =
    frozen.take (min ids.length savedIds.length)

omit [Hashing] [Calendar] [PyRuntime] [EvaluationServices] in
theorem Resumable.ofNil : Resumable ids frozen [] [] := by
  refine ⟨?_, ?_⟩
  · rw [List.length_nil, Nat.min_zero, List.take_zero, List.take_zero]
  · rw [List.length_nil, Nat.min_zero, List.take_zero, List.take_zero]

omit [Calendar] [EvaluationServices] in
/-- An existing file of this run is a checkpoint that the run can go on from. -/
theorem Progress.resumable {suffix : String}
    (hids : artifact.folds.map foldIdText = ids ++ ["final-" ++ suffix])
    (hfolds : artifact.folds.take ids.length = frozen)
    (hlength : frozen.length = ids.length) {content : Content}
    (hprogress : Progress runDigest ids frozen artifact (some content)) :
    ∃ checkpoint, parseCheckpoint content = .ok checkpoint ∧ checkpoint.runDigest = runDigest ∧
      Resumable ids frozen checkpoint.completedFoldIds checkpoint.foldRecords := by
  cases hprogress with
  | saved count hcount hsaved =>
      obtain ⟨checkpoint, ⟨other, hfile, hparse⟩, hrun, hsavedIds, hsavedRecords⟩ := hsaved
      cases hfile
      refine ⟨checkpoint, hparse, hrun, ?_, ?_⟩
      · rw [hsavedIds, List.length_take, Nat.min_eq_left hcount, Nat.min_eq_right hcount,
          List.take_take, Nat.min_self]
      · rw [hsavedIds, hsavedRecords, List.length_take, Nat.min_eq_left hcount,
          Nat.min_eq_right hcount, List.take_take, Nat.min_self]
  | finished hfinished =>
      obtain ⟨checkpoint, ⟨other, hfile, hparse⟩, -, hrun, -, hallIds, hallRecords⟩ := hfinished
      cases hfile
      have hmin : min ids.length (ids ++ ["final-" ++ suffix]).length = ids.length := by
        rw [List.length_append]
        exact Nat.min_eq_left (Nat.le_add_right _ _)
      refine ⟨checkpoint, hparse, hrun, ?_, ?_⟩
      · rw [hallIds, hids, hmin, List.take_left, List.take_length]
      · rw [hallIds, hids, hmin, hallRecords, hfolds, ← hlength, List.take_length]

end Attempts

/-! ## One study -/

section Study

variable [Hashing] [Calendar] [PyRuntime] [EvaluationServices] {config : EvaluationConfig}
  {observations : List HistoricalEvaluation} {candidates : List CandidatePolicy}
  {artifact : EvaluationArtifact} {runDigest : String}

/-- Rows and candidates as the runner sorts them. -/
abbrev runnerRows (observations : List HistoricalEvaluation) : List HistoricalEvaluation :=
  sortedOn observationSortKey observations

abbrev runnerCandidates (candidates : List CandidatePolicy) : List CandidatePolicy :=
  sortedOn CandidatePolicy.digest candidates

/-- What the checkpoint file of a study can be. -/
abbrev StudyProgress (runDigest : String) (observations : List HistoricalEvaluation)
    (config : EvaluationConfig) (artifact : EvaluationArtifact) : File → Prop :=
  Progress runDigest (studyIds (runnerRows observations) config) artifact.folds.dropLast artifact

/-- The facts about a study that its runs rely on. -/
structure Studied (observations : List HistoricalEvaluation) (candidates : List CandidatePolicy)
    (config : EvaluationConfig) (artifact : EvaluationArtifact) (contract : EvaluationContract)
    (records : List PyValue) : Prop where
  accepted : Accepted (runnerRows observations) (runnerCandidates candidates) config contract
  recorded : List.Forall₂ (fun fold record => nestedFoldRecord (runnerRows observations)
    (runnerCandidates candidates) config contract.exclusions fold = .ok record)
      (studyFolds (runnerRows observations) config) records
  frozen : records.map freeze = artifact.folds.dropLast
  recordable : Recordable artifact (runnerRows observations) config
  digested : ∃ core, sha256Of core = .ok artifact.digest
  evaluated : ∀ saved : List PyValue, saved.map freeze = records.map freeze →
    evaluatePolicies (runnerRows observations) (runnerCandidates candidates) config (some saved) =
      .ok artifact

theorem studied_of_ok (hartifact : evaluatePolicies observations candidates config none =
    .ok artifact) :
    ∃ contract records, Studied observations candidates config artifact contract records := by
  rw [evaluatePolicies] at hartifact
  obtain ⟨study⟩ := evaluated_of_ok hartifact
  have hperm : candidates.Perm (runnerCandidates candidates) := (sortedOn_perm _ _).symm
  have hsorted : (sortedOn candidateSortKey candidates).Perm (runnerCandidates candidates) :=
    (sortedOn_perm _ _).trans hperm
  refine ⟨study.contract, study.records, accepted_of_perm study.accepted hsorted, ?_, ?_,
    recordable_of_study study, ?_, fun saved hsaved => evaluatePolicies_saved study hperm ?_⟩
  · refine (records_of_study study).imp fun fold record hrecord => ?_
    rw [← nestedFoldRecord_perm study.accepted.distinct hsorted]
    exact hrecord
  · rw [study.folds_payload, List.dropLast_concat]
  · exact ⟨_, study.digest_payload ▸ study.digest_eq⟩
  · rw [freezeItems_eq_map, freezeItems_eq_map, hsaved]

variable {contract : EvaluationContract} {records : List PyValue}

theorem Studied.ids_eq
    (hstudy : Studied observations candidates config artifact contract records) :
    artifact.folds.dropLast.map foldIdText = studyIds (runnerRows observations) config := by
  rw [← hstudy.frozen]
  exact ids_of_records hstudy.recorded

/-- Where the loop over the remaining folds starts from. -/
theorem Studied.halfway
    (hstudy : Studied observations candidates config artifact contract records)
    {savedIds : List String} {savedRecords : List PyValue} {count : ℕ}
    (hnames : savedIds.take count = (studyIds (runnerRows observations) config).take count)
    (hkept : savedRecords.take count = artifact.folds.dropLast.take count) :
    Halfway (studyIds (runnerRows observations) config) artifact.folds.dropLast
      ((studyFolds (runnerRows observations) config).drop count) (records.drop count)
      (savedIds.take count) (savedRecords.take count) := by
  have hids := hstudy.ids_eq
  refine ⟨?_, ?_, ?_⟩
  · rw [hnames, List.map_drop]
    exact List.take_append_drop count _
  · have hfixed : artifact.folds.dropLast.map freeze = artifact.folds.dropLast := by
      rw [List.map_dropLast, hstudy.recordable.frozen]
    rw [hkept, List.map_take, hfixed, List.map_drop, hstudy.frozen]
    exact List.take_append_drop count _
  · rw [hkept, hnames, ← hids, ← List.map_take, List.length_map]

/-- The rest of the records of a study. -/
theorem Studied.remaining
    (hstudy : Studied observations candidates config artifact contract records) (count : ℕ) :
    List.Forall₂ (fun fold record => nestedFoldRecord (runnerRows observations)
      (runnerCandidates candidates) config contract.exclusions fold = .ok record)
        ((studyFolds (runnerRows observations) config).drop count) (records.drop count) :=
  List.forall₂_drop count hstudy.recorded

theorem Studied.distinct
    (hstudy : Studied observations candidates config artifact contract records) :
    (studyIds (runnerRows observations) config).Nodup := by
  obtain ⟨suffix, hids⟩ := hstudy.recordable.ids
  have hdistinct := hstudy.recordable.distinct
  rw [hids] at hdistinct
  exact hdistinct.of_append_left

omit [Calendar] [EvaluationServices] in
/-- The last checkpoint of a run is a finished one. -/
theorem finished_of_build (hrecordable : artifact.folds.map freeze = artifact.folds)
    {checkpoint : EvaluationCheckpoint} {content : Content}
    (hbuild : EvaluationCheckpoint.build "COMPLETE" runDigest (artifact.folds.map foldIdText)
      artifact.folds (some artifact.digest) = .ok checkpoint)
    (hparse : parseCheckpoint content = .ok checkpoint) :
    Finished runDigest artifact (some content) := by
  obtain ⟨hstate, hrun, hartifact, hids, hrecords⟩ := accessors_of_build hbuild
  exact ⟨checkpoint, ⟨content, rfl, hparse⟩, hstate, hrun, hartifact, hids,
    hrecords.trans hrecordable⟩

/-- The run from saved folds on returns the artifact, and its checkpoint is finished. -/
theorem continueRun_meets
    (hstudy : Studied observations candidates config artifact contract records)
    {savedIds : List String} {savedRecords : List PyValue}
    (hsaved : Resumable (studyIds (runnerRows observations) config) artifact.folds.dropLast
      savedIds savedRecords) :
    Meets (StudyProgress runDigest observations config artifact)
      (continueRun (runnerRows observations) (runnerCandidates candidates) config runDigest
        contract savedIds savedRecords)
      (fun result file => result = artifact ∧ Finished runDigest artifact file)
      (StudyProgress runDigest observations config artifact) := by
  have hfolds := generateRollingOriginFolds_eq hstudy.accepted.ordered hstudy.accepted.consistent
  unfold continueRun
  refine Meets.bind (evaluating_meets fun _ => id) fun folds => ?_
  refine Meets.given fun hfound => ?_
  rw [hfolds] at hfound
  cases hfound
  refine Meets.bind ((evaluating_meets fun _ => id).weaken (fun _ => id)
    (fun _ _ hboth => hboth.1) fun _ => id) fun _ => ?_
  refine Meets.bind (recordFolds_meets hstudy.distinct (hstudy.remaining _)
    (hstudy.halfway hsaved.names hsaved.records)) fun recorded => ?_
  refine Meets.given fun hrecorded => ?_
  refine Meets.bind (evaluating_meets fun _ => id) fun result => ?_
  refine Meets.given fun hresult => ?_
  rw [hstudy.evaluated recorded (hrecorded.trans hstudy.frozen.symm)] at hresult
  cases hresult
  refine Meets.bind (saveCheckpoint_meets (Finished runDigest artifact)
    (fun checkpoint content hbuild hparse =>
      finished_of_build hstudy.recordable.frozen hbuild hparse)
    (fun _ => id) fun _ hfinished => .finished hfinished) fun _ => ?_
  exact Meets.ret fun _ hfinished => ⟨rfl, hfinished⟩

omit [EvaluationServices] in
/-- Sorted inputs have the digest of the inputs. -/
theorem evaluationRunDigest_sorted :
    evaluationRunDigest (runnerRows observations) (runnerCandidates candidates) config =
      evaluationRunDigest observations candidates config := by
  rw [evaluationRunDigest, evaluationRunDigest,
    sortedOn_of_pairwise _ (sortedOn_pairwise CandidatePolicy.digest candidates),
    sortedOn_of_pairwise _ (sortedOn_pairwise observationSortKey observations)]

omit [Calendar] [EvaluationServices] in
theorem openCheckpoint_meets (path : String) {ids : List String} {frozen : List PyValue}
    {suffix : String} (hids : artifact.folds.map foldIdText = ids ++ ["final-" ++ suffix])
    (hfolds : artifact.folds.take ids.length = frozen) (hlength : frozen.length = ids.length)
    (resume : Bool) :
    Meets (Progress runDigest ids frozen artifact) (openCheckpoint path runDigest resume)
      (fun saved file => Progress runDigest ids frozen artifact file ∧
        Resumable ids frozen saved.1 saved.2)
      (Progress runDigest ids frozen artifact) := by
  unfold openCheckpoint
  cases resume with
  | false =>
      refine Meets.bind (Meets.consult (fun _ _ hbefore _ => hbefore) fun _ => id) fun present => ?_
      refine Meets.bind ((evaluating_meets fun _ => id).weaken (fun _ => id)
        (fun _ _ hboth => hboth.1) fun _ => id) fun _ => ?_
      exact Meets.ret fun file hfile => ⟨hfile, Resumable.ofNil⟩
  | true =>
      have hverified : Meets (Progress runDigest ids frozen artifact)
          (readEvaluationCheckpoint path)
          (fun checkpoint file => Progress runDigest ids frozen artifact file ∧
            Resumable ids frozen checkpoint.completedFoldIds checkpoint.foldRecords)
          (Progress runDigest ids frozen artifact) := by
        refine Meets.bind readBytes_meets fun content => ?_
        refine (evaluating_meets fun _ hboth => hboth.1).weaken (fun _ => id) ?_ fun _ => id
        rintro checkpoint file ⟨⟨hfile, rfl⟩, hparse⟩
        obtain ⟨found, hfound, -, hresumable⟩ := hfile.resumable hids hfolds hlength
        rw [hparse] at hfound
        cases hfound
        exact ⟨hfile, hresumable⟩
      refine Meets.bind hverified fun checkpoint => ?_
      refine Meets.bind ((evaluating_meets fun _ hboth => hboth.1).weaken (fun _ => id)
        (fun _ _ hboth => hboth.1) fun _ => id) fun _ => ?_
      exact Meets.ret fun _ hboth => hboth

theorem Studied.length_eq
    (hstudy : Studied observations candidates config artifact contract records) :
    artifact.folds.dropLast.length = (studyIds (runnerRows observations) config).length := by
  rw [← hstudy.ids_eq, List.length_map]

theorem Studied.take_eq
    (hstudy : Studied observations candidates config artifact contract records) :
    artifact.folds.take (studyIds (runnerRows observations) config).length =
      artifact.folds.dropLast := by
  rw [← hstudy.length_eq, List.length_dropLast, List.dropLast_eq_take]

omit [Calendar] [EvaluationServices] in
/-- The first checkpoint of a run. -/
theorem initial_meets {before : File → Prop}
    (hstopped : ∀ file, before file → StudyProgress runDigest observations config artifact file) :
    Meets before (saveCheckpoint "IN_PROGRESS" runDigest [] [] none)
      (fun _ => StudyProgress runDigest observations config artifact)
      (StudyProgress runDigest observations config artifact) := by
  refine saveCheckpoint_meets (StudyProgress runDigest observations config artifact)
    (fun checkpoint content hbuild hparse => ?_) hstopped fun _ => id
  obtain ⟨-, hrun, -, hnone, hempty⟩ := accessors_of_build hbuild
  exact .saved 0 (Nat.zero_le _) ⟨checkpoint, ⟨content, rfl, hparse⟩, hrun, hnone, hempty⟩

/-- Every attempt keeps the progress of the study, and returns its artifact only. -/
theorem run_meets (path : String)
    (hstudy : Studied observations candidates config artifact contract records)
    (hdigest : evaluationRunDigest observations candidates config = .ok runDigest)
    (resume : Bool) :
    Meets (StudyProgress runDigest observations config artifact)
      (run path observations candidates config resume)
      (fun result file => result = artifact ∧ Finished runDigest artifact file)
      (StudyProgress runDigest observations config artifact) := by
  obtain ⟨suffix, hids⟩ := hstudy.recordable.ids
  have hlength := hstudy.length_eq
  have hfolds := hstudy.take_eq
  unfold run
  refine Meets.bind (evaluating_meets fun _ => id) fun found => ?_
  refine Meets.given fun hfound => ?_
  rw [evaluationRunDigest_sorted, hdigest] at hfound
  cases hfound
  refine Meets.bind (openCheckpoint_meets path hids hfolds hlength resume) fun saved => ?_
  refine Meets.given fun hsaved => ?_
  refine Meets.bind (evaluating_meets fun _ => id) fun accepted => ?_
  refine Meets.given fun haccepted => ?_
  rw [validateEvaluationContract_eq_ok.mpr hstudy.accepted] at haccepted
  cases haccepted
  cases resume with
  | true => exact continueRun_meets hstudy hsaved
  | false =>
      refine Meets.bind (initial_meets fun _ => id) fun _ => ?_
      exact Meets.bind (Meets.hazard fun _ => id) fun _ => continueRun_meets hstudy hsaved

end Study

/-! ## Attempts without a fault -/

section Completing

theorem isDigest_strip {content : String} (hdigest : IsDigest content) :
    strip content = content := by
  have hspace : ∀ char ∈ content.toList, isSpace char = false := by
    intro char hchar
    have hhex := List.all_eq_true.mp hdigest.2 char hchar
    simp only [isHexDigit, Bool.or_eq_true, Bool.and_eq_true, decide_eq_true_eq] at hhex
    have hout : ¬ char.toNat ∈
        [0x85, 0xA0, 0x1680, 0x2028, 0x2029, 0x202F, 0x205F, 0x3000] := by
      simp only [List.mem_cons, List.not_mem_nil, or_false]
      omega
    rw [isSpace, List.contains_eq_mem, decide_eq_false hout, Bool.or_false]
    simp only [Bool.or_eq_false_iff, Bool.and_eq_false_iff, decide_eq_false_iff_not]
    omega
  have hdrop {chars : List Char} (hchars : ∀ char ∈ chars, isSpace char = false) :
      chars.dropWhile isSpace = chars := by
    cases chars with
    | nil => rfl
    | cons first rest =>
        exact List.dropWhile_cons_of_neg (by simp [hchars first List.mem_cons_self])
  rw [strip, stripChars_eq_self.mpr ⟨hdrop hspace, hdrop fun char hchar =>
    hspace char (List.mem_reverse.mp hchar)⟩, String.ofList_toList]

theorem checkDigest_of_isDigest {content : String} (hdigest : IsDigest content) (label : String) :
    checkDigest content label = .ok () := by
  have hstrip := isDigest_strip hdigest
  have hblank : blank content = false := by
    rw [blank, hstrip, decide_eq_false_iff_not]
    rintro rfl
    exact absurd hdigest.1 (by decide)
  rw [checkDigest, require_eq_ok.mpr hblank, ok_bind, hstrip]
  exact require_eq_ok.mpr hdigest

theorem evaluating_completes {α : Type} {before : File → Prop} {result : Except EvaluationError α}
    {value : α} (hresult : result = .ok value) : Completes before (evaluating result) := by
  rw [hresult]
  exact Completes.ret value

theorem evaluating_answers {α : Type} {before : File → Prop} {result : Except EvaluationError α} :
    Meets before (evaluating result) (fun value file => before file ∧ result = .ok value)
      (fun _ => True) :=
  evaluating_meets fun _ _ => trivial

theorem meets_anything {α : Type} {before : File → Prop} (call : RunnerCall α) :
    Meets before call (fun _ _ => True) (fun _ => True) :=
  fun _ _ _ _ => ⟨fun _ _ _ _ => trivial, fun _ _ _ _ => trivial⟩

variable [Hashing] [PyRuntime] {state runDigest : String} {ids : List String}
  {records : List PyValue} {artifactDigest : Option String}

omit [PyRuntime] in
theorem isDigest_of_sha256Of (hhex : ∀ written, IsDigest (sha256 written)) {value : PyValue}
    {digest : String} (hdigest : sha256Of value = .ok digest) : IsDigest digest := by
  rw [sha256Of, map_eq_ok] at hdigest
  obtain ⟨tree, -, rfl⟩ := hdigest
  exact hhex _

/-- Records that are mappings of JSON data make a checkpoint. -/
theorem exists_build (hstate : state = "IN_PROGRESS" ∨ state = "COMPLETE")
    (hrun : IsDigest runDigest) (hartifact : ∀ digest ∈ artifactDigest, IsDigest digest)
    (hmappings : ∀ record ∈ records, record.isMapping = true)
    (hplain : ∀ record ∈ records, plain record = true) :
    ∃ checkpoint, EvaluationCheckpoint.build state runDigest ids records artifactDigest =
      .ok checkpoint := by
  have hcore : plain (.mapping (EvaluationCheckpoint.core state runDigest ids records
      artifactDigest)) = true := by
    have hrecords : plainItems records = true := (plainItems_iff records).mpr hplain
    have hoptional : plain (optional PyValue.str artifactDigest) = true := by
      cases artifactDigest with
      | none => rfl
      | some content => rfl
    simp [EvaluationCheckpoint.core, plain, plainEntries, texts, plain_str_items, hrecords,
      hoptional]
  obtain ⟨digest, hdigest⟩ := exists_sha256Of hcore
  refine ⟨_, build_eq_ok.mpr ⟨⟨hstate, checkDigest_of_isDigest hrun _, ?_, ?_⟩, digest, hdigest,
    rfl⟩⟩
  · cases artifactDigest with
    | none => rfl
    | some content =>
        change checkDigest (display (.str content)) _ = _
        rw [PyRuntime.display_str]
        exact checkDigest_of_isDigest (hartifact content rfl) _
  · exact List.all_eq_true.mpr hmappings

theorem saveCheckpoint_completes {before : File → Prop} {checkpoint : EvaluationCheckpoint}
    (hbuild : EvaluationCheckpoint.build state runDigest ids records artifactDigest =
      .ok checkpoint) :
    Completes before (saveCheckpoint state runDigest ids records artifactDigest) := by
  obtain ⟨-, digest, hdigest, hcheckpoint⟩ := build_eq_ok.mp hbuild
  have hcore := plain_of_sha256Of hdigest
  have hplain : plain checkpoint.payload = true := by
    rw [hcheckpoint, plain_freeze]
    rw [plain, plainEntries_iff] at hcore ⊢
    intro entry hentry
    rcases List.mem_append.mp hentry with hbefore | hlast
    · exact hcore entry hbefore
    · rw [List.mem_singleton.mp hlast]
      rfl
  obtain ⟨tree, htree⟩ := exists_canonical hplain
  have hcanonical : canonicalJson checkpoint.payload = .ok tree := by
    rw [canonicalJson, if_pos hplain, htree]
  unfold saveCheckpoint writeEvaluationCheckpoint
  refine Completes.bind (evaluating_completes hbuild) evaluating_answers fun found => ?_
  refine Completes.given fun hfound => ?_
  rw [hbuild] at hfound
  cases hfound
  refine Completes.bind Completes.hazard (meets_anything _) fun _ => ?_
  refine Completes.bind (evaluating_completes hcanonical) (meets_anything _) fun _ => ?_
  refine Completes.bind Completes.hazard (meets_anything _) fun _ => ?_
  refine Completes.bind (Completes.risky fun _ _ => ⟨_, rfl⟩) (meets_anything _) fun _ => ?_
  exact Completes.hazard

variable [Calendar] [EvaluationServices] {config : EvaluationConfig}
  {observations : List HistoricalEvaluation} {candidates : List CandidatePolicy}
  {artifact : EvaluationArtifact} {contract : EvaluationContract} {before : File → Prop}

/-- The records of a run are mappings of JSON data. -/
theorem recordable_of_halfway
    (hstudy : Studied observations candidates config artifact contract records)
    {rest : List ChronologicalFold} {restRecords completedRecords : List PyValue}
    {completedIds : List String}
    (hhalf : Halfway (studyIds (runnerRows observations) config) artifact.folds.dropLast rest
      restRecords completedIds completedRecords) :
    (∀ record ∈ completedRecords, record.isMapping = true) ∧
      ∀ record ∈ completedRecords, plain record = true := by
  have hmem : ∀ record ∈ completedRecords, freeze record ∈ artifact.folds := by
    intro record hrecord
    refine List.dropLast_subset _ ?_
    rw [← hhalf.records]
    exact List.mem_append_left _ (List.mem_map_of_mem hrecord)
  refine ⟨fun record hrecord => ?_, fun record hrecord => ?_⟩
  · rw [← isMapping_freeze]
    exact List.all_eq_true.mp hstudy.recordable.mappings _ (hmem record hrecord)
  · rw [← plain_freeze]
    exact hstudy.recordable.plain _ (hmem record hrecord)

theorem recordFolds_completes (hrun : IsDigest runDigest)
    (hstudy : Studied observations candidates config artifact contract records)
    {rest : List ChronologicalFold} {restRecords : List PyValue}
    (hrest : List.Forall₂ (fun fold record => nestedFoldRecord (runnerRows observations)
      (runnerCandidates candidates) config contract.exclusions fold = .ok record) rest restRecords)
    {completedIds : List String} {completedRecords : List PyValue}
    (hhalf : Halfway (studyIds (runnerRows observations) config) artifact.folds.dropLast rest
      restRecords completedIds completedRecords) :
    Completes before (recordFolds (runnerRows observations) (runnerCandidates candidates) config
      runDigest contract.exclusions rest completedIds completedRecords) := by
  induction hrest generalizing completedIds completedRecords before with
  | nil =>
      rw [recordFolds]
      exact Completes.ret completedRecords
  | @cons fold record others otherRecords hhead hothers ih =>
      have hfresh := hhalf.fresh hstudy.distinct
      have hnext := hhalf.next
      obtain ⟨hmappings, hplain⟩ := recordable_of_halfway hstudy hnext
      obtain ⟨checkpoint, hbuild⟩ : ∃ checkpoint, EvaluationCheckpoint.build "IN_PROGRESS"
          runDigest (completedIds ++ [fold.foldId]) (completedRecords ++ [record]) none =
            .ok checkpoint :=
        exists_build (Or.inl rfl) hrun
          (fun digest hdigest => absurd hdigest (Option.not_mem_none digest)) hmappings hplain
      rw [recordFolds]
      refine Completes.bind (evaluating_completes hhead) evaluating_answers fun found => ?_
      refine Completes.given fun hfound => ?_
      rw [hhead] at hfound
      cases hfound
      rw [if_neg hfresh]
      refine Completes.bind (saveCheckpoint_completes hbuild) (meets_anything _) fun _ => ?_
      exact Completes.bind Completes.hazard (meets_anything _) fun _ => ih hnext

theorem continueRun_completes (hrun : IsDigest runDigest) (hartifact : IsDigest artifact.digest)
    (hstudy : Studied observations candidates config artifact contract records)
    {savedIds : List String} {savedRecords : List PyValue}
    (hsaved : Resumable (studyIds (runnerRows observations) config) artifact.folds.dropLast
      savedIds savedRecords) :
    Completes (StudyProgress runDigest observations config artifact)
      (continueRun (runnerRows observations) (runnerCandidates candidates) config runDigest
        contract savedIds savedRecords) := by
  have hfolds := generateRollingOriginFolds_eq hstudy.accepted.ordered hstudy.accepted.consistent
  have hhalf := hstudy.halfway hsaved.names hsaved.records
  have hmatch : require (savedIds.take (min (studyIds (runnerRows observations) config).length
        savedIds.length) = (studyIds (runnerRows observations) config).take
          (min (studyIds (runnerRows observations) config).length savedIds.length) ∧
      (savedRecords.take (min (studyIds (runnerRows observations) config).length
        savedIds.length)).map foldIdText = (studyIds (runnerRows observations) config).take
          (min (studyIds (runnerRows observations) config).length savedIds.length))
      "Evaluation checkpoint folds do not match this chronological run." = .ok () := by
    refine require_eq_ok.mpr ⟨hsaved.names, ?_⟩
    rw [hsaved.records, List.map_take, hstudy.ids_eq]
  obtain ⟨checkpoint, hbuild⟩ : ∃ checkpoint, EvaluationCheckpoint.build "COMPLETE" runDigest
      (artifact.folds.map foldIdText) artifact.folds (some artifact.digest) = .ok checkpoint := by
    refine exists_build (Or.inr rfl) hrun (fun digest hdigest => ?_)
      (List.all_eq_true.mp hstudy.recordable.mappings) hstudy.recordable.plain
    cases hdigest
    exact hartifact
  unfold continueRun
  refine Completes.bind (evaluating_completes hfolds) evaluating_answers fun folds => ?_
  refine Completes.given fun hfound => ?_
  rw [hfolds] at hfound
  cases hfound
  refine Completes.bind (evaluating_completes hmatch)
    ((evaluating_meets fun _ => id).weaken (fun _ => id) (fun _ _ hboth => hboth.1) fun _ => id)
    fun _ => ?_
  refine Completes.bind (recordFolds_completes hrun hstudy (hstudy.remaining _) hhalf)
    (recordFolds_meets hstudy.distinct (hstudy.remaining _) hhalf) fun recorded => ?_
  refine Completes.given fun hrecorded => ?_
  have hresult := hstudy.evaluated recorded (hrecorded.trans hstudy.frozen.symm)
  refine Completes.bind (evaluating_completes hresult) evaluating_answers fun result => ?_
  refine Completes.given fun hsame => ?_
  rw [hresult] at hsame
  cases hsame
  exact Completes.bind (saveCheckpoint_completes hbuild) (meets_anything _) fun _ =>
    Completes.ret artifact

omit [Calendar] [EvaluationServices] in
theorem openCheckpoint_completes (path : String) {suffix : String} {frozen : List PyValue}
    (hids : artifact.folds.map foldIdText = ids ++ ["final-" ++ suffix])
    (hfolds : artifact.folds.take ids.length = frozen) (hlength : frozen.length = ids.length)
    (resume : Bool) :
    Completes (fun file => Progress runDigest ids frozen artifact file ∧ file.isSome = resume)
      (openCheckpoint path runDigest resume) := by
  unfold openCheckpoint
  cases resume with
  | false =>
      have hpresent : Meets (fun file => Progress runDigest ids frozen artifact file ∧
          file.isSome = false) (Call.consult fun file => .ok file.isSome : RunnerCall Bool)
          (fun present _ => True ∧ present = false) (fun _ => True) := by
        refine Meets.consult (fun file present hfile hfound => ⟨trivial, ?_⟩) fun _ _ => trivial
        cases hfound
        exact hfile.2
      refine Completes.bind (Completes.consult fun file _ => ⟨file.isSome, rfl⟩) hpresent
        fun present => ?_
      refine Completes.given fun hnone => ?_
      exact Completes.bind (evaluating_completes (require_eq_ok.mpr hnone)) (meets_anything _)
        fun _ => Completes.ret _
  | true =>
      have hread : Completes (fun file => Progress runDigest ids frozen artifact file ∧
          file.isSome = true) (readBytes path) := by
        refine Completes.catching (Completes.consult fun file hfile => ?_)
        obtain ⟨content, rfl⟩ := Option.isSome_iff_exists.mp hfile.2
        exact ⟨content, rfl⟩
      have hverified (content : Content)
          (hprogress : Progress runDigest ids frozen artifact (some content)) :
          ∃ checkpoint, parseCheckpoint content = .ok checkpoint ∧
            checkpoint.runDigest = runDigest := by
        obtain ⟨checkpoint, hparse, hrun, -⟩ := hprogress.resumable hids hfolds hlength
        exact ⟨checkpoint, hparse, hrun⟩
      have hcheckpoint : Completes (fun file => Progress runDigest ids frozen artifact file ∧
          file.isSome = true) (readEvaluationCheckpoint path) := by
        refine Completes.bind hread readBytes_meets fun content => ?_
        refine Completes.weaken (Completes.given fun hprogress => ?_) fun file hfile =>
          ⟨trivial, hfile.2 ▸ hfile.1.1⟩
        obtain ⟨checkpoint, hparse, -⟩ := hverified content hprogress
        exact evaluating_completes hparse
      have hanswer : Meets (fun file => Progress runDigest ids frozen artifact file ∧
          file.isSome = true) (readEvaluationCheckpoint path)
          (fun checkpoint _ => True ∧ checkpoint.runDigest = runDigest) (fun _ => True) := by
        refine Meets.bind (readBytes_meets.stopsIn fun _ _ => trivial) fun content => ?_
        refine evaluating_answers.weaken (fun _ => id) ?_ fun _ => id
        rintro checkpoint file ⟨⟨⟨hprogress, -⟩, rfl⟩, hparse⟩
        obtain ⟨found, hfound, hrun⟩ := hverified content hprogress
        rw [hparse] at hfound
        cases hfound
        exact ⟨trivial, hrun⟩
      refine Completes.bind hcheckpoint hanswer fun checkpoint => ?_
      refine Completes.given fun hrun => ?_
      exact Completes.bind (evaluating_completes (require_eq_ok.mpr hrun)) (meets_anything _)
        fun _ => Completes.ret _

/-- Without a fault an attempt of the right kind returns. -/
theorem run_completes (hhex : ∀ written, IsDigest (sha256 written)) (path : String)
    (hstudy : Studied observations candidates config artifact contract records)
    (hdigest : evaluationRunDigest observations candidates config = .ok runDigest)
    (resume : Bool) :
    Completes (fun file => StudyProgress runDigest observations config artifact file ∧
      file.isSome = resume) (run path observations candidates config resume) := by
  obtain ⟨suffix, hids⟩ := hstudy.recordable.ids
  have hlength := hstudy.length_eq
  have hfolds := hstudy.take_eq
  have hrun := isDigest_of_sha256Of hhex hdigest
  obtain ⟨core, hcore⟩ := hstudy.digested
  have hartifact := isDigest_of_sha256Of hhex hcore
  have hsorted := evaluationRunDigest_sorted.trans hdigest
  have hcontract := validateEvaluationContract_eq_ok.mpr hstudy.accepted
  unfold run
  refine Completes.bind (evaluating_completes hsorted) evaluating_answers fun found => ?_
  refine Completes.given fun hfound => ?_
  rw [hsorted] at hfound
  cases hfound
  refine Completes.bind (openCheckpoint_completes path hids hfolds hlength resume)
    ((openCheckpoint_meets path hids hfolds hlength resume).weaken (fun _ hboth => hboth.1)
      (fun _ _ => id) fun _ => id) fun saved => ?_
  refine Completes.given fun hsaved => ?_
  refine Completes.bind (evaluating_completes hcontract)
    (evaluating_meets fun _ => id) fun accepted => ?_
  refine Completes.given fun haccepted => ?_
  rw [hcontract] at haccepted
  cases haccepted
  have hcontinue := continueRun_completes hrun hartifact hstudy hsaved
  cases resume with
  | true => exact hcontinue
  | false =>
      obtain ⟨checkpoint, hbuild⟩ : ∃ checkpoint, EvaluationCheckpoint.build "IN_PROGRESS" runDigest
          [] [] none = .ok checkpoint :=
        exists_build (Or.inl rfl) hrun
          (fun digest hdigest => absurd hdigest (Option.not_mem_none digest))
          (fun record hrecord => absurd hrecord List.not_mem_nil)
          fun record hrecord => absurd hrecord List.not_mem_nil
      refine Completes.bind (saveCheckpoint_completes hbuild)
        (initial_meets (fun _ => id)) fun _ => ?_
      exact Completes.bind Completes.hazard (Meets.hazard fun _ => id) fun _ => hcontinue

/-! ## Any number of attempts -/

/-- The file after some attempts, each stopped wherever its fates say. -/
def after (path : String) (observations : List HistoricalEvaluation)
    (candidates : List CandidatePolicy) (config : EvaluationConfig)
    (attempts : List (Bool × (ℕ → Fate RunnerError))) (file : File) : File :=
  attempts.foldl (fun file attempt =>
    (run path observations candidates config attempt.1).leaves attempt.2 file) file

theorem after_progress (path : String)
    (hstudy : Studied observations candidates config artifact contract records)
    (hdigest : evaluationRunDigest observations candidates config = .ok runDigest)
    (attempts : List (Bool × (ℕ → Fate RunnerError))) {file : File}
    (hfile : StudyProgress runDigest observations config artifact file) :
    StudyProgress runDigest observations config artifact
      (after path observations candidates config attempts file) := by
  induction attempts generalizing file with
  | nil => exact hfile
  | cons attempt rest ih =>
      refine ih (Meets.leaves ((run_meets path hstudy hdigest attempt.1).weaken (fun _ => id)
        (fun _ _ hdone => .finished hdone.2) fun _ => id) hfile attempt.2)

omit [Calendar] [EvaluationServices] in
theorem openCheckpoint_refuses (path : String) {content : Content} {resume : Bool}
    (hforeign : resume = true → ∀ checkpoint, parseCheckpoint content = .ok checkpoint →
      checkpoint.runDigest ≠ runDigest) :
    Meets (fun file => file = some content) (openCheckpoint path runDigest resume)
      (fun _ _ => False) (fun file => file = some content) := by
  unfold openCheckpoint
  cases resume with
  | false =>
      have hpresent : Meets (fun file => file = some content)
          (Call.consult fun file => .ok file.isSome : RunnerCall Bool)
          (fun present file => file = some content ∧ present = true)
          (fun file => file = some content) := by
        refine Meets.consult (fun file present hfile hfound => ⟨hfile, ?_⟩) fun _ => id
        cases hfound
        rw [hfile]
        rfl
      refine Meets.bind hpresent fun present => ?_
      refine Meets.given fun htrue => ?_
      refine Meets.bind (evaluating_meets fun _ => id) fun _ => ?_
      refine Meets.given fun hrequired => ?_
      rw [require_eq_ok, htrue] at hrequired
      cases hrequired
  | true =>
      have hverified : Meets (fun file => file = some content) (readEvaluationCheckpoint path)
          (fun checkpoint file => file = some content ∧ checkpoint.runDigest ≠ runDigest)
          (fun file => file = some content) := by
        refine Meets.bind readBytes_meets fun found => ?_
        refine (evaluating_meets fun _ hboth => hboth.1).weaken (fun _ => id) ?_ fun _ => id
        rintro checkpoint file ⟨⟨hfile, hfound⟩, hparse⟩
        rw [hfile, Option.some.injEq] at hfound
        exact ⟨hfile, hforeign rfl checkpoint (hfound ▸ hparse)⟩
      refine Meets.bind hverified fun checkpoint => ?_
      refine Meets.given fun hother => ?_
      refine Meets.bind (evaluating_meets fun _ => id) fun _ => ?_
      refine Meets.given fun hrequired => ?_
      exact absurd (require_eq_ok.mp hrequired) hother

/-- A fresh attempt replaces no file, and a resumed one no file that is damaged or tells the
digest of another run. -/
theorem run_keeps_foreign (path : String) {content : Content} {resume : Bool}
    (hforeign : resume = true → ∀ checkpoint runDigest,
      parseCheckpoint content = .ok checkpoint →
      evaluationRunDigest observations candidates config = .ok runDigest →
        checkpoint.runDigest ≠ runDigest)
    (fates : ℕ → Fate RunnerError) (clock : ℕ) :
    ∃ later stop, run path observations candidates config resume fates clock (some content) =
      (some content, later, .error stop) := by
  have hmeets : Meets (fun file => file = some content)
      (run path observations candidates config resume) (fun _ _ => False)
      (fun file => file = some content) := by
    unfold run
    refine Meets.bind (evaluating_meets fun _ => id) fun runDigest => ?_
    refine Meets.given fun hdigest => ?_
    rw [evaluationRunDigest_sorted] at hdigest
    refine Meets.bind (openCheckpoint_refuses path fun hresume checkpoint hparse =>
      hforeign hresume checkpoint runDigest hparse hdigest) fun saved => ?_
    exact fun _ _ _ hfalse => hfalse.elim
  obtain ⟨hreturn, hstop⟩ := hmeets fates clock (some content) rfl
  rcases hrun : run path observations candidates config resume fates clock (some content) with
    ⟨next, later, stop | result⟩
  · have hnext := hstop next later stop hrun
    exact ⟨later, stop, by rw [hnext]⟩
  · exact (hreturn next later result hrun).elim

end Completing

/-! ## A study that is stopped -/

namespace StoppedStudy

open MatchVet.Foundation.Gregorian
open MatchVet.T18.Evaluation.TwoPolicies

/-- A number in 64 binary digits. -/
def binaryText (number : ℕ) : String :=
  String.ofList ((List.range 64).map fun place => if number.testBit place then '1' else '0')

theorem isDigest_binaryText (number : ℕ) : IsDigest (binaryText number) := by
  refine ⟨?_, ?_⟩
  · rw [binaryText, String.toList_ofList, List.length_map, List.length_range]
  · rw [binaryText, String.toList_ofList, List.all_map, List.all_eq_true]
    intro place _
    change isHexDigit (if number.testBit place then '1' else '0') = true
    split
    · rfl
    · rfl

/-- A digest of the shape of a text, in the length of SHA-256. -/
@[reducible]
def binaryHashing : Hashing where
  sha256 written := binaryText (written.foldl (fun digest token =>
    (digest * 7 + token.weight) % 2305843009213693951) 1)
  uuid5 := quotedName
  uuid5_text := quotedName_text

local instance : Hashing := binaryHashing

local instance : Calendar := gregorianCalendar

local instance : PyRuntime := plainRuntime

local instance : EvaluationServices := lossServices

/-- The process ends at an effect. -/
def crashAt (effect : ℕ) : ℕ → Fate RunnerError := fun clock =>
  if clock = effect then .crash .host else .proceed

/-- A damaged file is kept. -/
theorem run_keeps_foreign_damaged :
    ∃ later stop, run "checkpoint.json" (corpus .win) candidates config true
      (fun _ => .proceed) 0 (some .damaged) = (some .damaged, later, .error stop) := by
  refine run_keeps_foreign "checkpoint.json" (fun _ checkpoint runDigest hparse _ => ?_) _ 0
  cases hparse

end StoppedStudy

end MatchVet.T18.Checkpoint
