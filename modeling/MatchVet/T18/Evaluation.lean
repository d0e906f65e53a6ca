import Mathlib.Data.Prod.Lex
import Mathlib.Data.Rat.Floor
import MatchVet.Foundation.FrozenValue
import MatchVet.T18.Calibration
import MatchVet.T18.Folds

/-!
# Policy evaluation

Candidate Policies are compared on the Validation Period, and the winner alone is
judged on the Final Evaluation Period.  Development folds are recorded on the way.
The metrics of a set of rows come from a parameter; nothing is assumed of it.
-/

namespace MatchVet.T18.Evaluation

open MatchVet.Foundation.CanonicalJson
open MatchVet.Foundation.Dictionary
open MatchVet.Foundation.FrozenValue
open MatchVet.Foundation.KeySort
open MatchVet.Foundation.Runtime
open MatchVet.Foundation.Timestamp
open MatchVet.T18.Calibration (Settlement)
open MatchVet.T18.Folds (EvaluationError ChronologicalPeriod ChronologicalFold
  generateRollingOriginFolds validatePeriodOrder validateMatchweekBoundaries)

/-! ## Rows, policies and controls -/

def settlementText : Settlement → String
  | .win => "WIN"
  | .loss => "LOSS"
  | .push => "PUSH"
  | .void => "VOID"

inductive Recommendation where
  | candidate
  | play
  | reject
  | avoid
  deriving DecidableEq, Repr

def Recommendation.text : Recommendation → String
  | .candidate => "CANDIDATE"
  | .play => "PLAY"
  | .reject => "REJECT"
  | .avoid => "AVOID"

inductive OutcomeUse where
  | unseen
  | development
  | validation
  | inspected
  deriving DecidableEq, Repr

def OutcomeUse.text : OutcomeUse → String
  | .unseen => "UNSEEN"
  | .development => "DEVELOPMENT"
  | .validation => "VALIDATION"
  | .inspected => "INSPECTED"

/-- The frozen `settlement_distribution`. -/
structure SettlementDistribution where
  loss : ℚ
  push : ℚ
  win : ℚ
  deriving DecidableEq, Repr

/-- `HistoricalEvaluation`; a canonical UTC text is the instant that it writes. -/
structure HistoricalEvaluation extends Folds.HistoricalEvaluation where
  matchId : String
  kickoff : Instant
  predictionCreated : Instant
  outcomeKnown : Instant
  league : String
  preferenceId : String
  preferenceFamily : String
  exactLine : String
  policyVersion : String
  policyDigest : String
  modelVersion : String
  modelDigest : String
  evidenceDigest : String
  inputDigest : String
  estimatedProbability : ℚ
  conservativeProbability : ℚ
  uncertaintyLower : ℚ
  uncertaintyUpper : ℚ
  settlement : Settlement
  recommendation : Recommendation
  correlationGroup : String
  inputObserved : List (String × Instant)
  membershipManifest : PyValue
  fixtureRevision : PyValue
  fixtureRevisionDigest : String
  trainingDataEnd : Instant
  modelFitted : Instant
  calibrationDigest : String
  baselineDigest : String
  outcomeUse : OutcomeUse
  selectionStrength : Option ℚ
  baselineProbability : Option ℚ
  baselineStructuralTrivial : Option Bool
  gates : List (String × String)
  selectionComponents : List (String × ℚ)
  structuralConditions : List String
  modelAgreement : Option ℚ
  uncertaintyWidth : Option ℚ
  settlementDistribution : Option SettlementDistribution

/-- `CandidatePolicy`; its status is always `RESEARCH_ONLY`. -/
structure CandidatePolicy where
  version : String
  digest : String
  developmentDataEnd : Instant
  frozenAt : Instant
  parameters : PyValue
  foldParameters : List (String × PyValue)
  inspectedEvaluationDigests : List String

def CandidatePolicy.status : String := "RESEARCH_ONLY"

inductive CriterionOperator where
  | less
  | atMost
  | greater
  | atLeast
  | equal
  deriving DecidableEq, Repr

def CriterionOperator.text : CriterionOperator → String
  | .less => "<"
  | .atMost => "<="
  | .greater => ">"
  | .atLeast => ">="
  | .equal => "=="

structure EvaluationCriterion where
  metric : String
  operator : CriterionOperator
  threshold : ℚ
  minimumEffectiveSample : Option ℕ
  deriving DecidableEq, Repr

inductive SelectionDirection where
  | minimize
  | maximize
  deriving DecidableEq, Repr

def SelectionDirection.text : SelectionDirection → String
  | .minimize => "MINIMIZE"
  | .maximize => "MAXIMIZE"

/-- `EvaluationConfig` with the names of its periods. -/
structure EvaluationConfig extends Folds.EvaluationConfig where
  developmentName : String
  validationName : String
  evaluationName : String
  calibrationBinEdges : List ℚ
  subgroupMinimumEffectiveSamples : List (String × ℕ)
  selectionMetric : String
  selectionDirection : SelectionDirection
  evaluationMinimumRecommendations : Option ℕ
  uncertaintyNominalCoverage : Option ℚ
  criteria : List EvaluationCriterion

/-- `EvaluationMetrics`: the counts that the findings read, and `to_dict`. -/
structure EvaluationMetrics where
  scoredRecommendationMatchClusters : ℕ
  scoredMatchClusters : ℕ
  binaryRecommendationMatchClusters : ℕ
  eligibleMatchCount : ℕ
  toDict : PyValue

/-- `evaluate_observations`, and what `platform` tells of the host. -/
class EvaluationServices where
  evaluateObservations : List HistoricalEvaluation → List ℚ → List (String × ℕ) → Option ℚ →
    Except EvaluationError EvaluationMetrics
  machine : String
  python : String
  system : String

export EvaluationServices (evaluateObservations)

/-! ## Values as JSON data -/

def float (value : ℚ) : PyValue := .float (.finite value)

def optional {α : Type} (write : α → PyValue) : Option α → PyValue
  | none => .none
  | some value => write value

def count (value : ℕ) : PyValue := .int value

def texts (values : List String) : PyValue := .array (values.map PyValue.str)

/-- `_canonical_json`: NaN, infinities and objects that are not JSON data are refused. -/
def canonicalJson (value : PyValue) : Except EvaluationError Json :=
  if plain value then
    match canonical value with
    | some tree => .ok tree
    | none => .error ⟨"Out of range float values are not JSON compliant"⟩
  else .error ⟨"Out of range float values are not JSON compliant"⟩

section Digests

variable [Hashing]

/-- `_sha256`. -/
def sha256Of (value : PyValue) : Except EvaluationError String :=
  (canonicalJson value).map fun tree => sha256 (tokens tree)

variable [Calendar]

def instantText (instant : Instant) : PyValue := .str (isoFormat instant)

/-- `ChronologicalPeriod.to_dict`. -/
def periodDict (name : String) (period : ChronologicalPeriod) : PyValue :=
  .mapping [
    ("name", .str name),
    ("start_utc", instantText period.start),
    ("end_utc", instantText period.finish)]

/-- `EvaluationCriterion.to_dict`. -/
def EvaluationCriterion.toDict (criterion : EvaluationCriterion) : PyValue :=
  .mapping [
    ("metric", .str criterion.metric),
    ("minimum_effective_sample", optional count criterion.minimumEffectiveSample),
    ("operator", .str criterion.operator.text),
    ("threshold", float criterion.threshold)]

/-- `EvaluationConfig.to_dict`. -/
def EvaluationConfig.toDict (config : EvaluationConfig) : PyValue :=
  .mapping [
    ("calibration_bin_edges", .array (config.calibrationBinEdges.map float)),
    ("criteria", .array (config.criteria.map EvaluationCriterion.toDict)),
    ("development", periodDict config.developmentName config.development),
    ("evaluation", periodDict config.evaluationName config.evaluation),
    ("evaluation_minimum_recommendations",
      optional count config.evaluationMinimumRecommendations),
    ("minimum_development_matchweeks", count config.minimumDevelopmentMatchweeks),
    ("rolling_step_matchweeks", count config.rollingStepMatchweeks),
    ("rolling_validation_matchweeks", count config.rollingValidationMatchweeks),
    ("seed", count config.seed),
    ("selection_direction", .str config.selectionDirection.text),
    ("selection_metric", .str config.selectionMetric),
    ("split_method", .str "CHRONOLOGICAL"),
    ("subgroup_minimum_effective_samples",
      .mapping (config.subgroupMinimumEffectiveSamples.map fun entry => (entry.1, count entry.2))),
    ("uncertainty_nominal_coverage", optional float config.uncertaintyNominalCoverage),
    ("validation", periodDict config.validationName config.validation)]

/-- `EvaluationConfig.digest`. -/
def EvaluationConfig.digest (config : EvaluationConfig) : Except EvaluationError String :=
  sha256Of config.toDict

/-- `CandidatePolicy.to_dict`. -/
def CandidatePolicy.toDict (candidate : CandidatePolicy) : PyValue :=
  .mapping [
    ("development_data_end_utc", instantText candidate.developmentDataEnd),
    ("digest", .str candidate.digest),
    ("frozen_at_utc", instantText candidate.frozenAt),
    ("fold_parameters", .mapping candidate.foldParameters),
    ("inspected_evaluation_digests", texts candidate.inspectedEvaluationDigests),
    ("parameters", candidate.parameters),
    ("status", .str CandidatePolicy.status),
    ("version", .str candidate.version)]

/-! ## Rows in the audit -/

variable [PyRuntime]

/-- `_settlement_probabilities`. -/
def settlementProbabilities (observation : HistoricalEvaluation) : PyValue :=
  match observation.settlementDistribution with
  | some distribution => .mapping [
      ("LOSS", float distribution.loss),
      ("PUSH", float distribution.push),
      ("WIN", float distribution.win)]
  | none => .mapping [
      ("LOSS", float (nearest (1 - observation.estimatedProbability))),
      ("PUSH", float 0),
      ("WIN", float observation.estimatedProbability)]

/-- `_historical_payload`. -/
def historicalPayload (observation : HistoricalEvaluation) : PyValue :=
  .mapping [
    ("baseline_probability", optional float observation.baselineProbability),
    ("baseline_digest", .str observation.baselineDigest),
    ("baseline_structural_trivial",
      optional PyValue.bool observation.baselineStructuralTrivial),
    ("conservative_probability", float observation.conservativeProbability),
    ("calibration_digest", .str observation.calibrationDigest),
    ("correlation_group", .str observation.correlationGroup),
    ("estimated_probability", float observation.estimatedProbability),
    ("evidence_digest", .str observation.evidenceDigest),
    ("exact_line", .str observation.exactLine),
    ("fixture_revision", observation.fixtureRevision),
    ("fixture_revision_digest", .str observation.fixtureRevisionDigest),
    ("gates", .mapping (observation.gates.map fun entry => (entry.1, .str entry.2))),
    ("input_digest", .str observation.inputDigest),
    ("input_observed_at_utc",
      .mapping (observation.inputObserved.map fun entry => (entry.1, instantText entry.2))),
    ("kickoff_at_utc", instantText observation.kickoff),
    ("league", .str observation.league),
    ("match_id", .str observation.matchId),
    ("matchweek_id", .str observation.matchweekId),
    ("matchweek_start_utc", instantText observation.matchweekStart),
    ("membership_manifest", observation.membershipManifest),
    ("membership_manifest_digest", .str observation.membershipManifestDigest),
    ("model_agreement", optional float observation.modelAgreement),
    ("model_digest", .str observation.modelDigest),
    ("model_fitted_at_utc", instantText observation.modelFitted),
    ("model_version", .str observation.modelVersion),
    ("outcome_known_at_utc", instantText observation.outcomeKnown),
    ("outcome_use", .str observation.outcomeUse.text),
    ("policy_digest", .str observation.policyDigest),
    ("policy_version", .str observation.policyVersion),
    ("prediction_created_at_utc", instantText observation.predictionCreated),
    ("preference_family", .str observation.preferenceFamily),
    ("preference_id", .str observation.preferenceId),
    ("recommendation", .str observation.recommendation.text),
    ("research_cutoff_at_utc", instantText observation.researchCutoff),
    ("selection_components",
      .mapping (observation.selectionComponents.map fun entry => (entry.1, float entry.2))),
    ("selection_strength", optional float observation.selectionStrength),
    ("settlement", .str (settlementText observation.settlement)),
    ("settlement_distribution", settlementProbabilities observation),
    ("structural_conditions", texts observation.structuralConditions),
    ("training_data_end_utc", instantText observation.trainingDataEnd),
    ("uncertainty_lower", float observation.uncertaintyLower),
    ("uncertainty_upper", float observation.uncertaintyUpper),
    ("uncertainty_width", optional float observation.uncertaintyWidth)]

end Digests

/-- `_observation_sort_key`. -/
abbrev ObservationKey :=
  Instant ×ₗ Instant ×ₗ String ×ₗ String ×ₗ String ×ₗ String

def observationSortKey (observation : HistoricalEvaluation) : ObservationKey :=
  toLex (observation.matchweekStart, toLex (observation.kickoff, toLex (observation.matchId,
    toLex (observation.policyDigest, toLex (observation.preferenceId, observation.inputDigest)))))

/-- Candidates stand by their version and their digest. -/
def candidateSortKey (candidate : CandidatePolicy) : String ×ₗ String :=
  toLex (candidate.version, candidate.digest)

/-! ## The contract -/

/-- `raise EvaluationError(message)` unless the condition holds. -/
def require (condition : Prop) [Decidable condition] (message : String) :
    Except EvaluationError Unit :=
  if condition then .ok () else .error ⟨message⟩

theorem require_eq_ok {condition : Prop} [Decidable condition] {message : String} :
    require condition message = .ok () ↔ condition := by
  unfold require
  split
  next hcondition => exact ⟨fun _ => hcondition, fun _ => rfl⟩
  next hcondition => exact ⟨nofun, fun hholds => absurd hholds hcondition⟩

/-- The rows as the folds read them. -/
def foldRows (rows : List HistoricalEvaluation) : List Folds.HistoricalEvaluation :=
  rows.map HistoricalEvaluation.toHistoricalEvaluation

section Contract

variable [Hashing] [Calendar]

/-- `_evaluation_window_digest`. -/
def evaluationWindowDigest (config : EvaluationConfig) : Except EvaluationError String :=
  sha256Of (.mapping [
    ("purpose", .str "UNTOUCHED_FINAL_EVALUATION_WINDOW"),
    ("period", periodDict config.evaluationName config.evaluation)])

/-- The lifecycle checks on one candidate. -/
def validateCandidate (config : EvaluationConfig) (candidate : CandidatePolicy) :
    Except EvaluationError Unit :=
  if config.development.finish < candidate.developmentDataEnd then
    .error ⟨"Candidate " ++ candidate.version ++
      " uses outcomes beyond the Development Period."⟩
  else if config.evaluation.start < candidate.frozenAt then
    .error ⟨"Candidate " ++ candidate.version ++ " was not frozen before Final Evaluation."⟩
  else if candidate.frozenAt < config.validation.finish then
    .error ⟨"Candidate " ++ candidate.version ++ " froze before Validation ended."⟩
  else .ok ()

/-- The declared periods that a row starts in, with their names. -/
def periodsOf (config : EvaluationConfig) (observation : HistoricalEvaluation) :
    List (String × ChronologicalPeriod) :=
  [(config.developmentName, config.development), (config.validationName, config.validation),
    (config.evaluationName, config.evaluation)].filter fun period =>
      period.2.contains observation.matchweekStart

/-- A row outside of the declared periods. -/
structure Exclusion where
  matchId : String
  matchweekId : String
  deriving DecidableEq, Repr

def Exclusion.toDict (exclusion : Exclusion) : PyValue :=
  .mapping [
    ("match_id", .str exclusion.matchId),
    ("matchweek_id", .str exclusion.matchweekId),
    ("reason", .str "OUTSIDE_DECLARED_PERIODS")]

def Exclusion.key (exclusion : Exclusion) : String ×ₗ String :=
  toLex (exclusion.matchId, exclusion.matchweekId)

/-- The checks on one row: none when it lies outside of the declared periods. -/
def validateObservation (config : EvaluationConfig) (candidates : List CandidatePolicy)
    (observation : HistoricalEvaluation) : Except EvaluationError (Option Exclusion) :=
  match periodsOf config observation with
  | [] => .ok (some ⟨observation.matchId, observation.matchweekId⟩)
  | [period] =>
      match candidates.find? fun candidate => candidate.digest = observation.policyDigest with
      | none => .error ⟨"Historical Evaluation references an undeclared Candidate Policy."⟩
      | some candidate =>
          if observation.policyVersion ≠ candidate.version then
            .error ⟨"Historical Evaluation policy version does not match its Candidate Policy " ++
              "digest."⟩
          else if period.1 = config.developmentName ∧
              candidate.developmentDataEnd < observation.outcomeKnown then
            .error ⟨"A Development outcome was unavailable at the Candidate Policy data cutoff."⟩
          else if period.1 = config.validationName ∧
              candidate.frozenAt < observation.outcomeKnown then
            .error ⟨"A Validation outcome was unavailable when the Candidate Policy was frozen."⟩
          else if period.1 = config.evaluationName ∧ observation.outcomeUse ≠ .unseen then
            .error ⟨"An inspected Final Evaluation row is no longer unseen."⟩
          else .ok none
  | _ => .error ⟨"A Historical Evaluation belongs to overlapping periods."⟩

/-- `EvaluationContract`. -/
structure EvaluationContract where
  exclusions : List Exclusion
  evaluationWindowDigest : String

/-- `validate_evaluation_contract`. -/
def validateEvaluationContract (observations : List HistoricalEvaluation)
    (candidates : List CandidatePolicy) (config : EvaluationConfig) :
    Except EvaluationError EvaluationContract := do
  validatePeriodOrder config.toEvaluationConfig
  validateMatchweekBoundaries (foldRows observations)
  require (¬ candidates.isEmpty) "At least one Candidate Policy is required."
  require (candidates.map CandidatePolicy.digest).Nodup "Candidate Policy digests must be unique."
  forM candidates (validateCandidate config)
  let windowDigest ← evaluationWindowDigest config
  require (∀ candidate ∈ candidates, windowDigest ∉ candidate.inspectedEvaluationDigests)
    "The Final Evaluation window was already inspected and is no longer unseen."
  let found ← observations.mapM (validateObservation config candidates)
  .ok {
    exclusions := sortedOn Exclusion.key (found.filterMap id).eraseDups
    evaluationWindowDigest := windowDigest }

end Contract

/-! ## Nested folds -/

/-- `_metric_value`. -/
def metricValue [PyRuntime] (payload : PyValue) (path : String) : Option ℚ :=
  let parts := (path.toList.splitOn '.').map String.ofList
  match parts.foldl (fun selected part => selected.bind fun value => get? value part)
    (some payload) with
  | some (.int value) => some (nearest value)
  | some (.float (.finite value)) => some value
  | _ => none

/-- `len({...})` of some texts or pairs of texts. -/
def distinctCount {α : Type} [DecidableEq α] (items : List α) : PyValue := count items.dedup.length

/-- `_fold_counts`. -/
def foldCounts (rows : List HistoricalEvaluation) : PyValue :=
  let selected := rows.filter fun item =>
    item.recommendation = .play || item.recommendation = .candidate
  let binary := rows.filter fun item => item.settlement = .win || item.settlement = .loss
  let scored := rows.filter fun item => item.settlement ≠ .void
  .mapping [
    ("effective_samples", .mapping [
      ("binary_recommendation_match_clusters", distinctCount ((selected.filter fun item =>
        item.settlement = .win || item.settlement = .loss).map HistoricalEvaluation.matchId)),
      ("binary_match_clusters", distinctCount (binary.map HistoricalEvaluation.matchId)),
      ("correlation_clusters", distinctCount (rows.map fun item =>
        (item.matchId, item.correlationGroup))),
      ("match_clusters", distinctCount (rows.map HistoricalEvaluation.matchId)),
      ("preference_rows", count rows.length),
      ("recommendation_match_clusters", distinctCount
        (selected.map HistoricalEvaluation.matchId)),
      ("scored_recommendation_match_clusters", distinctCount ((selected.filter fun item =>
        item.settlement ≠ .void).map HistoricalEvaluation.matchId)),
      ("scored_match_clusters", distinctCount (scored.map HistoricalEvaluation.matchId))]),
    ("match_count", distinctCount (rows.map HistoricalEvaluation.matchId)),
    ("recommendation_count", count selected.length),
    ("target_count", count rows.length)]

section Evaluating

variable [Hashing] [Calendar] [PyRuntime] [EvaluationServices]

/-- `evaluate_observations` with the controls of the configuration. -/
def evaluateRows (config : EvaluationConfig) (rows : List HistoricalEvaluation) :
    Except EvaluationError EvaluationMetrics :=
  evaluateObservations rows config.calibrationBinEdges config.subgroupMinimumEffectiveSamples
    config.uncertaintyNominalCoverage

/-- The checks on one validation row of a nested fold. -/
def validateNestedRow (candidate : CandidatePolicy) (fold : ChronologicalFold)
    (developmentRows : List HistoricalEvaluation) (row : HistoricalEvaluation) :
    Except EvaluationError Unit :=
  if fold.developmentEnd < row.trainingDataEnd ∨ fold.validationStart < row.modelFitted then
    .error ⟨"Nested fold training, calibration, and baseline fitting must use only earlier " ++
      "Matchweeks."⟩
  else if developmentRows.any fun item =>
      item.policyDigest = candidate.digest && row.trainingDataEnd < item.outcomeKnown then
    .error ⟨"Nested fold training includes an outcome unavailable at its training boundary."⟩
  else .ok ()

/-- What a nested fold records of one candidate. -/
def candidateResult (config : EvaluationConfig) (candidate : CandidatePolicy)
    (metrics selectionMetricValue : PyValue) : PyValue :=
  .mapping [
    ("metrics", metrics),
    ("policy_digest", .str candidate.digest),
    ("policy_version", .str candidate.version),
    ("selection_metric", .str config.selectionMetric),
    ("selection_metric_value", selectionMetricValue)]

/-- One pass of the loop of `_nested_candidate_results`. -/
def nestedCandidateResult (developmentRows validationRows : List HistoricalEvaluation)
    (config : EvaluationConfig) (fold : ChronologicalFold) (candidate : CandidatePolicy) :
    Except EvaluationError PyValue :=
  let rows := validationRows.filter fun item => item.policyDigest = candidate.digest
  if rows.isEmpty then .ok (candidateResult config candidate .none .none)
  else do
    forM rows (validateNestedRow candidate fold developmentRows)
    let metrics ← evaluateRows config rows
    return candidateResult config candidate metrics.toDict
      (optional float (metricValue metrics.toDict config.selectionMetric))

/-- `_nested_candidate_results`. -/
def nestedCandidateResults (developmentRows validationRows : List HistoricalEvaluation)
    (candidates : List CandidatePolicy) (config : EvaluationConfig) (fold : ChronologicalFold) :
    Except EvaluationError PyValue := do
  let results ← (sortedOn candidateSortKey candidates).mapM
    (nestedCandidateResult developmentRows validationRows config fold)
  return .array results

/-- `tuple(sorted({...}))` of one field of the rows. -/
def distinctTexts (rows : List HistoricalEvaluation) (field : HistoricalEvaluation → String) :
    PyValue :=
  texts (sortedSet (rows.map field))

/-- `_fold_identity_metadata`. -/
def foldIdentityMetadata (rows : List HistoricalEvaluation) (candidates : List CandidatePolicy)
    (config : EvaluationConfig) : Except EvaluationError (List (String × PyValue)) := do
  let configDigest ← config.digest
  return [
    ("config_digest", .str configDigest),
    ("baseline_digests", distinctTexts rows HistoricalEvaluation.baselineDigest),
    ("calibration_digests", distinctTexts rows HistoricalEvaluation.calibrationDigest),
    ("evidence_digests", distinctTexts rows HistoricalEvaluation.evidenceDigest),
    ("fixture_revision_digests", distinctTexts rows HistoricalEvaluation.fixtureRevisionDigest),
    ("input_digests", distinctTexts rows HistoricalEvaluation.inputDigest),
    ("model_digests", distinctTexts rows HistoricalEvaluation.modelDigest),
    ("model_versions", distinctTexts rows HistoricalEvaluation.modelVersion),
    ("membership_manifest_digests",
      distinctTexts rows fun item => item.membershipManifestDigest),
    ("policy_digests", texts ((candidates.map CandidatePolicy.digest).insertionSort (· ≤ ·))),
    ("policy_versions", texts ((candidates.map CandidatePolicy.version).insertionSort (· ≤ ·))),
    ("seed", count config.seed)]

def rangeDict (start finish : Instant) : PyValue :=
  .mapping [("end_utc", instantText finish), ("start_utc", instantText start)]

def exclusionsValue (exclusions : List Exclusion) : PyValue :=
  .array (exclusions.map Exclusion.toDict)

/-- `_nested_fold_record`. -/
def nestedFoldRecord (rows : List HistoricalEvaluation) (candidates : List CandidatePolicy)
    (config : EvaluationConfig) (exclusions : List Exclusion) (fold : ChronologicalFold) :
    Except EvaluationError PyValue := do
  let developmentRows := rows.filter fun item =>
    fold.developmentMatchweekIds.contains item.matchweekId
  let validationRows := rows.filter fun item =>
    fold.validationMatchweekIds.contains item.matchweekId
  let metadata ← foldIdentityMetadata (developmentRows ++ validationRows) candidates config
  let results ← nestedCandidateResults developmentRows validationRows candidates config fold
  return .mapping (metadata ++ [
    ("candidate_validation_results", results),
    ("development_counts", foldCounts developmentRows),
    ("development_matchweek_ids", texts fold.developmentMatchweekIds),
    ("development_range", rangeDict fold.developmentStart fold.developmentEnd),
    ("evaluation_counts", .none),
    ("evaluation_matchweek_ids", .array []),
    ("evaluation_range", .none),
    ("exclusions", exclusionsValue exclusions),
    ("fold_id", .str fold.foldId),
    ("fold_type", .str "NESTED_DEVELOPMENT"),
    ("validation_counts", foldCounts validationRows),
    ("validation_matchweek_ids", texts fold.validationMatchweekIds),
    ("validation_range", rangeDict fold.validationStart fold.validationEnd)])

/-- The rows of one policy in one period. -/
def policyRows (rows : List HistoricalEvaluation) (digest : String)
    (period : ChronologicalPeriod) : List HistoricalEvaluation :=
  rows.filter fun item => item.policyDigest = digest && period.contains item.matchweekStart

/-- The record of the frozen policy over all periods. -/
def outerFoldRecord (rows : List HistoricalEvaluation) (candidates : List CandidatePolicy)
    (config : EvaluationConfig) (selectedDigest : String) (exclusions : List Exclusion) :
    Except EvaluationError PyValue := do
  let developmentRows := policyRows rows selectedDigest config.development
  let validationRows := policyRows rows selectedDigest config.validation
  let evaluationRows := policyRows rows selectedDigest config.evaluation
  let configDigest ← config.digest
  let outerDigest ← sha256Of (.mapping [
    ("config_digest", .str configDigest),
    ("policy_digest", .str selectedDigest),
    ("window", periodDict config.evaluationName config.evaluation)])
  let metadata ← foldIdentityMetadata (developmentRows ++ validationRows ++ evaluationRows)
    (candidates.filter fun candidate => candidate.digest = selectedDigest) config
  return .mapping (metadata ++ [
    ("candidate_validation_results", .none),
    ("development_counts", foldCounts developmentRows),
    ("development_matchweek_ids", distinctTexts developmentRows fun item => item.matchweekId),
    ("development_range", rangeDict config.development.start config.development.finish),
    ("evaluation_counts", foldCounts evaluationRows),
    ("evaluation_matchweek_ids", distinctTexts evaluationRows fun item => item.matchweekId),
    ("evaluation_range", rangeDict config.evaluation.start config.evaluation.finish),
    ("exclusions", exclusionsValue exclusions),
    ("fold_id", .str ("final-" ++ String.ofList (outerDigest.toList.take 12))),
    ("fold_type", .str "OUTER_FINAL_EVALUATION"),
    ("validation_counts", foldCounts validationRows),
    ("validation_matchweek_ids", distinctTexts validationRows fun item => item.matchweekId),
    ("validation_range", rangeDict config.validation.start config.validation.finish)])

/-- The nested records, saved or computed here. -/
def nestedFoldRecords (rows : List HistoricalEvaluation) (candidates : List CandidatePolicy)
    (config : EvaluationConfig) (exclusions : List Exclusion) :
    Option (List PyValue) → Except EvaluationError (List PyValue)
  | some records => .ok records
  | none => do
      let folds ← generateRollingOriginFolds (foldRows rows) config.toEvaluationConfig
      folds.mapM (nestedFoldRecord rows candidates config exclusions)

/-- `_fold_records`. -/
def foldRecords (rows : List HistoricalEvaluation) (candidates : List CandidatePolicy)
    (config : EvaluationConfig) (selectedDigest : String) (exclusions : List Exclusion)
    (nestedRecords : Option (List PyValue)) : Except EvaluationError (List PyValue) := do
  let records ← nestedFoldRecords rows candidates config exclusions nestedRecords
  let outer ← outerFoldRecord rows candidates config selectedDigest exclusions
  return records ++ [outer]

/-! ## Findings -/

/-- `math.isclose(..., abs_tol=1e-12)`. -/
def isClose (first second : ℚ) : Bool :=
  let difference := nearest |second - first|
  let relative := nearest (1 / 10 ^ 9)
  difference ≤ nearest |relative * second| || difference ≤ nearest |relative * first| ||
    difference ≤ nearest (1 / 10 ^ 12)

/-- `_criterion_passes`. -/
def criterionPasses (value : ℚ) (criterion : EvaluationCriterion) : Bool :=
  match criterion.operator with
  | .less => value < criterion.threshold
  | .atMost => value ≤ criterion.threshold
  | .greater => criterion.threshold < value
  | .atLeast => criterion.threshold ≤ value
  | .equal => isClose value criterion.threshold

def startsWith (content start : String) : Bool := start.toList.isPrefixOf content.toList

/-- `_criterion_effective_sample`. -/
def criterionEffectiveSample (metrics : EvaluationMetrics) (metric : String) : ℕ :=
  if startsWith metric "probability_quality." || startsWith metric "calibration_bins." then
    metrics.scoredMatchClusters
  else if startsWith metric "ranking_diagnostics." then metrics.eligibleMatchCount
  else if startsWith metric "settlement_metrics.false_positive" ||
      startsWith metric "settlement_metrics.negative_settlement" then
    metrics.binaryRecommendationMatchClusters
  else metrics.scoredRecommendationMatchClusters

inductive FindingStatus where
  | pass
  | fail
  | inconclusive
  deriving DecidableEq, Repr

def FindingStatus.text : FindingStatus → String
  | .pass => "PASS"
  | .fail => "FAIL"
  | .inconclusive => "INCONCLUSIVE"

/-- A finding: its status and the entries of its dictionary. -/
structure Finding where
  status : FindingStatus
  entries : List (String × PyValue)

def Finding.toDict (finding : Finding) : PyValue := .mapping finding.entries

/-- The finding on one criterion. -/
def criterionFinding (metrics : EvaluationMetrics) (criterion : EvaluationCriterion) : Finding :=
  let value := metricValue metrics.toDict criterion.metric
  let effective := criterionEffectiveSample metrics criterion.metric
  let short := match criterion.minimumEffectiveSample with
    | some minimum => decide (effective < minimum)
    | none => false
  let common : List (String × PyValue) := [
    ("criterion", .str criterion.metric),
    ("effective_sample", count effective),
    ("minimum_effective_sample", optional count criterion.minimumEffectiveSample),
    ("operator", .str criterion.operator.text),
    ("threshold", float criterion.threshold),
    ("value", optional float value)]
  match value, short with
  | some found, false =>
      let status : FindingStatus := if criterionPasses found criterion then .pass else .fail
      ⟨status, common ++ [("status", .str status.text)]⟩
  | _, _ => ⟨.inconclusive, common ++ [
      ("reason", .str "METRIC_OR_SAMPLE_UNAVAILABLE"),
      ("status", .str FindingStatus.inconclusive.text)]⟩

/-- `_evaluation_findings`. -/
def evaluationFindings (metrics : EvaluationMetrics) (config : EvaluationConfig) :
    FindingStatus × List Finding :=
  let effective := metrics.scoredRecommendationMatchClusters
  match config.evaluationMinimumRecommendations, config.criteria.isEmpty with
  | none, true =>
      (.inconclusive, [⟨.inconclusive, [
        ("criterion", .str "evaluation_evidence"),
        ("reason", .str "NO_PREDECLARED_ACCEPTANCE_CRITERIA_OR_MINIMUM_SAMPLE"),
        ("status", .str FindingStatus.inconclusive.text)]⟩])
  | minimum, _ =>
      let insufficient := match minimum with
        | none => true
        | some least => decide (effective < least)
      let evidence : List Finding := if insufficient then [⟨.inconclusive, [
        ("criterion", .str "evaluation_evidence"),
        ("effective_sample", count effective),
        ("minimum_effective_sample", optional count minimum),
        ("reason", .str (if minimum = none then "MINIMUM_SAMPLE_NOT_PREDECLARED"
          else "TOO_FEW_RECOMMENDATIONS")),
        ("status", .str FindingStatus.inconclusive.text)]⟩] else []
      let findings := evidence ++ config.criteria.map (criterionFinding metrics)
      let statuses := findings.map Finding.status
      if insufficient || statuses.contains .inconclusive then (.inconclusive, findings)
      else if statuses.contains .fail then (.fail, findings)
      else if findings.isEmpty then (.inconclusive, findings)
      else (.pass, findings)

/-! ## Stability of the policies -/

mutual

/-- `_numeric_paths`, as the assignments it makes in turn. -/
def numericPaths (path : String) : PyValue → List (String × ℚ)
  | .mapping entries => numericEntries path entries
  | .int value => [(path, nearest value)]
  | .float (.finite value) => [(path, value)]
  | _ => []

def numericEntries (path : String) : List (String × PyValue) → List (String × ℚ)
  | [] => []
  | (name, value) :: rest =>
      numericPaths (if path = "" then name else path ++ "." ++ name) value ++
        numericEntries path rest

end

/-- `max(values) - min(values)`. -/
def spread (values : List ℚ) : ℚ := nearest (values.max?.getD 0 - values.min?.getD 0)

/-- The ranges of the fold parameters under a path. -/
def parameterRanges (foldValues : List (String × ℚ)) (start : String) : PyValue :=
  let paths := (sortedSet (foldValues.map Prod.fst)).filter fun path => startsWith path start
  .mapping (paths.filterMap fun path =>
    let values := (foldValues.filter fun entry => entry.1 = path).map Prod.snd
    if 2 ≤ values.length then some (path, float (spread values)) else none)

/-- The winner and the others, each with the value it was selected by. -/
structure ValidationCandidate where
  candidate : CandidatePolicy
  metrics : PyValue
  selectionMetricValue : ℚ

def ValidationCandidate.toDict (config : EvaluationConfig) (item : ValidationCandidate) : PyValue :=
  candidateResult config item.candidate item.metrics (float item.selectionMetricValue)

/-- `_policy_stability`. -/
def policyStability (validationCandidates : List ValidationCandidate)
    (candidates : List CandidatePolicy) : Except EvaluationError PyValue := do
  let scores := validationCandidates.map ValidationCandidate.selectionMetricValue
  let parameterDigests ← candidates.mapM fun candidate => do
    let digest ← sha256Of candidate.parameters
    return (candidate.digest, PyValue.str digest)
  let foldValues := candidates.flatMap fun candidate =>
    candidate.foldParameters.flatMap fun fold =>
      (PyDict.ofPairs (numericPaths "" fold.2)).entries
  return .mapping [
    ("candidate_parameter_digests", .mapping parameterDigests),
    ("candidate_selection_metric_range",
      if scores.isEmpty then .none else float (spread scores)),
    ("candidate_count", count candidates.length),
    ("fold_parameter_status",
      .str (if foldValues.isEmpty then "INCONCLUSIVE" else "AVAILABLE")),
    ("selection_strength_weight_ranges",
      parameterRanges foldValues "selection_strength.weights."),
    ("threshold_ranges", parameterRanges foldValues "thresholds.")]

/-! ## Artifacts -/

def schemaVersion : String := "matchvet.policy-evaluation.v1"

/-- The text that a value is. -/
def text? : Option PyValue → Option String
  | some (.str content) => some content
  | _ => none

/-- `EvaluationArtifact`. -/
structure EvaluationArtifact where
  payload : PyValue

/-- `EvaluationArtifact.__post_init__` of the entries of a payload. -/
def EvaluationArtifact.make (entries : List (String × PyValue)) :
    Except EvaluationError EvaluationArtifact := do
  require (text? (entries.lookup "schema_version") = some schemaVersion)
    "Unsupported T18 evaluation artifact schema version."
  match text? (entries.lookup "artifact_digest") with
  | none => .error ⟨"Evaluation artifact digest is required."⟩
  | some supplied => do
      let digest ← sha256Of (.mapping (entries.filter fun entry => entry.1 ≠ "artifact_digest"))
      require (supplied = digest) "Evaluation artifact digest does not match its content."
      return ⟨freeze (.mapping entries)⟩

namespace EvaluationArtifact

/-- `str(self.payload["artifact_digest"])`. -/
def digest (artifact : EvaluationArtifact) : String :=
  (text? (get? artifact.payload "artifact_digest")).getD ""

/-- `frozen_policy_identity`, as an artifact tells it. -/
def frozenPolicyIdentity (artifact : EvaluationArtifact) : Option PyValue :=
  get? artifact.payload "frozen_policy_identity"

def validationCandidates (artifact : EvaluationArtifact) : Option PyValue :=
  get? artifact.payload "validation_candidates"

def policyStability (artifact : EvaluationArtifact) : Option PyValue :=
  get? artifact.payload "policy_stability"

def folds (artifact : EvaluationArtifact) : List PyValue :=
  match get? artifact.payload "folds" with
  | some (.array items) => items
  | _ => []

/-- `to_bytes`. -/
def toBytes (artifact : EvaluationArtifact) : Except EvaluationError (List Token) :=
  (canonicalJson artifact.payload).map tokens

end EvaluationArtifact

/-! ## The evaluation -/

/-- One pass of the loop over the candidates. -/
def validationCandidate (rows : List HistoricalEvaluation) (config : EvaluationConfig)
    (candidate : CandidatePolicy) : Except EvaluationError ValidationCandidate := do
  let validationRows := policyRows rows candidate.digest config.validation
  require (¬ validationRows.isEmpty)
    ("Candidate " ++ candidate.version ++ " has no observations in the Validation Period.")
  let metrics ← evaluateRows config validationRows
  match metricValue metrics.toDict config.selectionMetric with
  | none => throw ⟨"Selection metric " ++ PyRuntime.repr (.str config.selectionMetric) ++
      " is unavailable for Candidate " ++ candidate.version ++ "."⟩
  | some value => return ⟨candidate, metrics.toDict, value⟩

/-- `selection_key`. -/
def selectionKey (config : EvaluationConfig) (item : ValidationCandidate) : ℚ ×ₗ String :=
  toLex (match config.selectionDirection with
    | .maximize => -item.selectionMetricValue
    | .minimize => item.selectionMetricValue, item.candidate.digest)

/-- The rows of the Final Evaluation Period, which all belong to the frozen policy. -/
def finalRows (rows : List HistoricalEvaluation) (config : EvaluationConfig)
    (selectedDigest : String) : Except EvaluationError (List HistoricalEvaluation) :=
  let evaluationRows := rows.filter fun item => config.evaluation.contains item.matchweekStart
  let unexpected := sortedSet ((evaluationRows.map HistoricalEvaluation.policyDigest).filter
    fun digest => digest ≠ selectedDigest)
  if ¬ unexpected.isEmpty then
    .error ⟨"Final Evaluation contains outcomes for a non-frozen Candidate Policy: " ++
      ", ".intercalate unexpected⟩
  else if evaluationRows.isEmpty then
    .error ⟨"The frozen Candidate Policy has no Final Evaluation observations."⟩
  else .ok evaluationRows

/-- `frozen_policy_identity`. -/
def policyIdentity (selected : CandidatePolicy) : PyValue :=
  .mapping [
    ("digest", .str selected.digest),
    ("status", .str CandidatePolicy.status),
    ("version", .str selected.version)]

/-- The digests that an artifact tells. -/
structure CoreDigests where
  config : String
  corpus : String
  folds : String

/-- The entries of the artifact before its digest. -/
def coreEntries (rows : List HistoricalEvaluation) (candidates : List CandidatePolicy)
    (config : EvaluationConfig) (contract : EvaluationContract)
    (validationCandidates : List ValidationCandidate) (selected : CandidatePolicy)
    (metrics : EvaluationMetrics) (folds : List PyValue) (stability : PyValue)
    (digests : CoreDigests) : List (String × PyValue) :=
  [
    ("cutoff_fidelity", .mapping [
      ("checked_input_count", count (rows.map fun item => item.inputObserved.length).sum),
      ("fixture_revision_digests", distinctTexts rows HistoricalEvaluation.fixtureRevisionDigest),
      ("membership_manifest_digests",
        distinctTexts rows fun item => item.membershipManifestDigest),
      ("status", .str "PASS")]),
    ("evaluation_metrics", metrics.toDict),
    ("findings", .array ((evaluationFindings metrics config).2.map Finding.toDict)),
    ("folds", .array folds),
    ("frozen_policy_identity", policyIdentity selected),
    ("lifecycle_effect", .str "EVALUATED_RESEARCH_ONLY"),
    ("observation_audit", .array (rows.map historicalPayload)),
    ("policy_stability", stability),
    ("reproducibility", .mapping [
      ("algorithm_version", .str "t18-chronological-evaluation-v1"),
      ("candidate_policy_digests", texts (candidates.map CandidatePolicy.digest)),
      ("config_digest", .str digests.config),
      ("corpus_digest", .str digests.corpus),
      ("environment", .mapping [
        ("machine", .str EvaluationServices.machine),
        ("python", .str EvaluationServices.python),
        ("system", .str EvaluationServices.system)]),
      ("evaluation_window_digest", .str contract.evaluationWindowDigest),
      ("fold_digest", .str digests.folds),
      ("input_digests", distinctTexts rows HistoricalEvaluation.inputDigest),
      ("membership_manifest_digests",
        distinctTexts rows fun item => item.membershipManifestDigest),
      ("fixture_revision_digests", distinctTexts rows HistoricalEvaluation.fixtureRevisionDigest),
      ("model_digests", distinctTexts rows HistoricalEvaluation.modelDigest),
      ("seed", count config.seed)]),
    ("schema_version", .str schemaVersion),
    ("status", .str (evaluationFindings metrics config).1.text),
    ("validation_candidates",
      .array (validationCandidates.map (ValidationCandidate.toDict config)))]

/-- The core of the artifact. -/
def evaluationCore (rows : List HistoricalEvaluation) (candidates : List CandidatePolicy)
    (config : EvaluationConfig) (contract : EvaluationContract)
    (validationCandidates : List ValidationCandidate) (selected : CandidatePolicy)
    (metrics : EvaluationMetrics) (folds : List PyValue) :
    Except EvaluationError (List (String × PyValue)) := do
  let stability ← policyStability validationCandidates candidates
  let configDigest ← config.digest
  let corpusDigest ← sha256Of (.array (rows.map historicalPayload))
  let foldDigest ← sha256Of (.array folds)
  return coreEntries rows candidates config contract validationCandidates selected metrics folds
    stability ⟨configDigest, corpusDigest, foldDigest⟩

/-- What the Validation Period decides: the candidates in the order of their values. -/
def rankedCandidates (rows : List HistoricalEvaluation) (candidates : List CandidatePolicy)
    (config : EvaluationConfig) : Except EvaluationError (List ValidationCandidate) := do
  let validated ← candidates.mapM (validationCandidate rows config)
  return sortedOn (selectionKey config) validated

/-- The core of the artifact, from the sorted rows and candidates on. -/
def artifactCore (rows : List HistoricalEvaluation) (candidates : List CandidatePolicy)
    (config : EvaluationConfig) (nestedRecords : Option (List PyValue)) :
    Except EvaluationError (List (String × PyValue)) := do
  let contract ← validateEvaluationContract rows candidates config
  let ranked ← rankedCandidates rows candidates config
  match ranked with
  | [] => throw ⟨"list index out of range"⟩
  | winner :: _ =>
      let selected := winner.candidate
      let evaluationRows ← finalRows rows config selected.digest
      let metrics ← evaluateRows config evaluationRows
      let folds ← foldRecords rows candidates config selected.digest contract.exclusions
        nestedRecords
      evaluationCore rows candidates config contract ranked selected metrics folds

/-- An artifact with the digest of its core. -/
def sealCore (core : List (String × PyValue)) : Except EvaluationError EvaluationArtifact := do
  let digest ← sha256Of (.mapping core)
  EvaluationArtifact.make (core ++ [("artifact_digest", .str digest)])

/-- `evaluate_policies`. -/
def evaluatePolicies (observations : List HistoricalEvaluation)
    (candidates : List CandidatePolicy) (config : EvaluationConfig)
    (nestedRecords : Option (List PyValue)) : Except EvaluationError EvaluationArtifact :=
  (artifactCore (sortedOn observationSortKey observations) (sortedOn candidateSortKey candidates)
    config nestedRecords) >>= sealCore

end Evaluating

end MatchVet.T18.Evaluation
