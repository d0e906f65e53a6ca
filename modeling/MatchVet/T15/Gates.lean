import MatchVet.T15.Candidate
import MatchVet.T15.Prediction

/-!
# The nine vetting gates

Every gate collects reasons; it passes exactly when it has none.  A threshold
outside its allowed range stops the whole vetting with an error.
-/

namespace MatchVet.T15.Gates

open MatchVet.Foundation.CanonicalJson
open MatchVet.Foundation.Dictionary
open MatchVet.Foundation.Runtime
open MatchVet.T10.Catalog
open MatchVet.T15.Candidate
open MatchVet.T15.Policy
open MatchVet.T15.Prediction
open MatchVet.T15.Values

inductive GateStatus where
  | pass
  | fail
  | unresolved
  deriving DecidableEq, Repr

inductive GateId where
  | g0
  | g1
  | g2
  | g3
  | g4
  | g5
  | g6
  | g7
  | g8
  deriving DecidableEq, Repr

def GateId.name : GateId → String
  | .g0 => "supported preference and valid model/distribution"
  | .g1 => "Research Sufficiency"
  | .g2 => "Critical Evidence and Data Quality"
  | .g3 => "historical predictive reliability"
  | .g4 => "Non-Triviality"
  | .g5 => "Conservative Probability and LOSS risk"
  | .g6 => "Probability Uncertainty"
  | .g7 => "Model Agreement and sensitivity"
  | .g8 => "evidence-backed adversarial Failure Case"

structure GateResult where
  gateId : GateId
  name : String
  status : GateStatus
  reasonCodes : List String
  details : Entries

/-- `_gate`. -/
def gate (gateId : GateId) (passed : Option Bool) (reasons : List String) (details : Entries) :
    GateResult where
  gateId := gateId
  name := gateId.name
  status :=
    match passed with
    | none => .unresolved
    | some true => .pass
    | some false => .fail
  reasonCodes := sortedSet reasons
  details := details

/-- A gate that passes when no reason was collected. -/
def checkedGate (gateId : GateId) (reasons : List String) (details : Entries) : GateResult :=
  gate gateId (some reasons.isEmpty) reasons details

@[simp]
theorem checkedGate_status_eq_pass (gateId : GateId) (reasons : List String) (details : Entries) :
    (checkedGate gateId reasons details).status = .pass ↔ reasons = [] := by
  cases reasons <;> simp [checkedGate, gate]

/-- A reason, when its condition holds. -/
def reasonIf (condition : Bool) (reason : String) : List String :=
  if condition then [reason] else []

@[simp]
theorem reasonIf_eq_nil (condition : Bool) (reason : String) :
    reasonIf condition reason = [] ↔ condition = false := by
  cases condition <;> simp [reasonIf]

def isTrue : PyValue → Bool
  | .bool true => true
  | _ => false

def numberValue (value : Option ℚ) : PyValue :=
  match value with
  | some number => .float (.finite number)
  | none => .none

def floatValue (value : Option PyFloat) : PyValue :=
  match value with
  | some number => .float number
  | none => .none

def boolValue (value : Option Bool) : PyValue :=
  match value with
  | some flag => .bool flag
  | none => .none

def textValue (value : Option String) : PyValue :=
  match value with
  | some content => .str content
  | none => .none

def items : PyValue → List PyValue
  | .array values => values
  | _ => []

variable [PyRuntime]

/-! ## Reading the frozen state -/

def stateTarget (state : PyValue) : PyValue := read state "target" .none

def targetText (target : PyValue) (key : String) : String :=
  display (read target key (.str ""))

/-- `_state_collection`: the first key that is present. -/
def stateCollection (state : PyValue) (keys : List String) : PyValue :=
  match keys with
  | [] => .mapping []
  | key :: rest =>
      match read state key .none with
      | .none => stateCollection state rest
      | selected => selected

def familyLookup (values : PyValue) (family : String) : Option PyValue :=
  (values.entries.find? fun entry => sameFamily entry.1 family).map Prod.snd

def isStr : PyValue → Bool
  | .str _ => true
  | _ => false

def isBlankStr : PyValue → Bool
  | .str content => blank content
  | _ => true

def differentTexts : PyValue → PyValue → Bool
  | .str first, .str second => first ≠ second
  | _, _ => false

/-- `_state_integrity`. -/
def stateReasons (state target : PyValue) : List String :=
  let digest := read state "digest" .none
  let stateDigest := read state "state_digest" digest
  let stateId := read state "state_id" .none
  reasonIf (isBlankStr stateDigest) "EVIDENCE_STATE_DIGEST_MISSING" ++
    reasonIf (differentTexts digest stateDigest) "EVIDENCE_STATE_DIGEST_MISMATCH" ++
    reasonIf (!(stateId matches .none) && isBlankStr stateId) "EVIDENCE_STATE_ID_INVALID" ++
    reasonIf (blank (targetText target "fixture_id")) "EVIDENCE_TARGET_ID_MISSING" ++
    reasonIf (blank (targetText target "matchweek_id")) "EVIDENCE_MATCHWEEK_ID_MISSING"

/-! ## G0: a supported preference with a valid distribution -/

/-- `_supported_preference`: the first reason found. -/
def supportReasons (preference : BettingPreference) (catalog : PreferenceCatalog) :
    List String :=
  if !(catalog.preferences.any fun item => item.preferenceId = preference.preferenceId) then
    ["DISABLED_PREFERENCE"]
  else if contains (upper preference.label) "UNDER" || upper preference.selection = "UNDER" then
    ["BANNED_UNDER_MARKET"]
  else if upper preference.selection = "OVER" && preference.line = some (1 / 2) then
    ["BANNED_OVER_0_5"]
  else
    match defaultPreferenceCatalog.get? preference.preferenceId with
    | none => ["UNSUPPORTED_PREFERENCE"]
    | some canonical =>
        reasonIf (canonicalText preference.toDict ≠ canonicalText canonical.toDict)
          "UNSUPPORTED_PREFERENCE_CONTRACT"

def expectsPush (preference : BettingPreference) : Bool :=
  preference.possibleResults.contains .push

def missingText (value : Option String) : Bool :=
  match value with
  | none => true
  | some content => blank content

/-- The part of `_prediction_integrity` about the settlement distribution. -/
def distributionReasons (preference : BettingPreference) (settlement : PyValue) : List String :=
  match probability settlement winNames, probability settlement lossNames,
    probability settlement pushNames with
  | some win, some loss, some push =>
      reasonIf ([win, loss, push].any fun value =>
          value < -decimalFloat 9 || nearest (1 + decimalFloat 9) < value)
        "INVALID_SETTLEMENT_DISTRIBUTION" ++
        reasonIf (!isClose (nearest (nearest (win + loss) + push)) 1 (decimalFloat 8))
          "SETTLEMENT_DISTRIBUTION_NOT_NORMALIZED" ++
        reasonIf (!expectsPush preference && decide (decimalFloat 8 < push))
          "UNEXPECTED_PUSH_MASS" ++
        reasonIf (expectsPush preference && decide (push < -decimalFloat 8))
          "MISSING_PUSH_TOPOLOGY"
  | _, _, _ => ["INVALID_SETTLEMENT_DISTRIBUTION"]

/-- The part of `_prediction_integrity` about the estimated and the conservative
probability. -/
def probabilityReasons (win estimated conservative : Option ℚ) : List String :=
  (match estimated with
    | none => ["ESTIMATED_PROBABILITY_MISSING"]
    | some value =>
        reasonIf (!decide (Unit value)) "ESTIMATED_PROBABILITY_INVALID" ++
          match win with
          | none => []
          | some reference =>
              reasonIf (!isClose value reference (decimalFloat 7))
                "ESTIMATED_PROBABILITY_MISMATCH") ++
    match conservative with
    | none => []
    | some value =>
        if Unit value then
          match win with
          | none => []
          | some reference =>
              reasonIf (nearest (reference + decimalFloat 8) < value)
                "CONSERVATIVE_PROBABILITY_EXCEEDS_ESTIMATE"
        else ["CONSERVATIVE_PROBABILITY_INVALID"]

/-- The part of `_prediction_integrity` about identities. -/
def identityReasons (view : PredictionView) (preference : BettingPreference)
    (target : PyValue) : List String :=
  reasonIf (view.status ≠ "AVAILABLE") "MODEL_UNAVAILABLE" ++
    (match view.family with
      | none => ["MISSING_MODEL_FAMILY"]
      | some family =>
          reasonIf (token family ≠ token (familyModelKey preference)) "MODEL_FAMILY_MISMATCH") ++
    (match view.targetFixtureId with
      | none => ["MISSING_PREDICTION_TARGET"]
      | some fixture =>
          reasonIf (fixture ≠ targetText target "fixture_id") "PREDICTION_TARGET_MISMATCH") ++
    (match view.matchweekId with
      | none => ["MISSING_PREDICTION_MATCHWEEK"]
      | some matchweek =>
          reasonIf (matchweek ≠ targetText target "matchweek_id")
            "PREDICTION_MATCHWEEK_MISMATCH") ++
    reasonIf (missingText view.modelVersion) "MISSING_MODEL_VERSION" ++
    reasonIf (missingText view.modelDigest) "MISSING_MODEL_DIGEST" ++
    reasonIf (missingText view.calibrationVersion) "MISSING_CALIBRATION_VERSION" ++
    reasonIf (missingText view.predictionDigest) "MISSING_PREDICTION_DIGEST" ++
    reasonIf (differentTexts (read view.raw "digest" .none) (textValue view.predictionDigest))
      "PREDICTION_DIGEST_MISMATCH"

def settlementOf (view : PredictionView) (preference : BettingPreference) : PyValue :=
  (view.settlements.lookup preference.preferenceId).getD .none

def estimatedOf (view : PredictionView) (preference : BettingPreference) : Option ℚ :=
  probabilityMapValue view.estimated preference.preferenceId winNames

def conservativeOf (view : PredictionView) (preference : BettingPreference) : Option ℚ :=
  probabilityMapValue view.conservative preference.preferenceId winNames

def lossUpperOf (view : PredictionView) (preference : BettingPreference) : Option ℚ :=
  probabilityMapValue view.lossUpper preference.preferenceId lossNames

/-- `_prediction_integrity`. -/
def predictionReasons (view : Option PredictionView) (preference : BettingPreference)
    (target : PyValue) : List String :=
  match view with
  | none => ["MODEL_UNAVAILABLE", "MODEL_DISTRIBUTION_MISSING"]
  | some selected =>
      let settlement := settlementOf selected preference
      identityReasons selected preference target ++ distributionReasons preference settlement ++
        probabilityReasons (probability settlement winNames) (estimatedOf selected preference)
          (conservativeOf selected preference)

def predictionDetails (view : Option PredictionView) (preference : BettingPreference) : Entries :=
  match view with
  | none => []
  | some selected =>
      let settlement := settlementOf selected preference
      [("status", .str selected.status), ("family", textValue selected.family),
        ("model_version", textValue selected.modelVersion),
        ("model_digest", textValue selected.modelDigest),
        ("calibration_version", textValue selected.calibrationVersion),
        ("prediction_digest", textValue selected.predictionDigest)] ++
        match probability settlement winNames, probability settlement lossNames,
          probability settlement pushNames with
        | some win, some loss, some push =>
            [("win", numberValue (some win)), ("loss", numberValue (some loss)),
              ("push", numberValue (some push))]
        | _, _, _ => []

def g0Gate (state target : PyValue) (view : Option PredictionView)
    (preference : BettingPreference) (catalog : PreferenceCatalog) : GateResult :=
  let stateCodes := stateReasons state target
  let supportCodes := supportReasons preference catalog
  let predictionCodes := predictionReasons view preference target
  checkedGate .g0 (stateCodes ++ supportCodes ++ predictionCodes) [
    ("evidence_state", .mapping [("ok", .bool stateCodes.isEmpty),
      ("reason_codes", .array ((sortedSet stateCodes).map PyValue.str))]),
    ("supported_preference", .bool supportCodes.isEmpty),
    ("prediction", .mapping (predictionDetails view preference))]

/-! ## G1: Research Sufficiency -/

/-- A number above zero; a boolean counts as one. -/
def positiveNumber : PyValue → Bool
  | .int number => 0 < number
  | .bool flag => flag
  | .float number => number.exceeds (.finite 0)
  | _ => false

def reviewIncomplete (review : Option AdversarialReview) : Bool :=
  match review with
  | none => true
  | some selected => !selected.complete

/-- `_sufficiency_gate`. -/
def sufficiencyGate (state : PyValue) (preference : BettingPreference)
    (review : Option AdversarialReview) : GateResult :=
  let family := preference.family.value
  match familyLookup (stateCollection state ["research_sufficiency", "sufficiency"]) family with
  | none | some .none => checkedGate .g1 ["RESEARCH_SUFFICIENCY_MISSING"] []
  | some sufficiency =>
      let status := statusToken (read sufficiency "status" (.str "UNKNOWN"))
      let conflicts := read sufficiency "unresolved_material_conflicts" (.int 0)
      checkedGate .g1
        (reasonIf (status ≠ "SUFFICIENT") "RESEARCH_SUFFICIENCY_INSUFFICIENT" ++
          reasonIf (!isTrue (read sufficiency "mandatory_research_complete" .none))
            "MANDATORY_RESEARCH_INCOMPLETE" ++
          reasonIf (!isTrue (read sufficiency "critical_evidence_complete" .none))
            "CRITICAL_EVIDENCE_INCOMPLETE" ++
          reasonIf (!isTrue (read sufficiency "diminishing_returns_reached" .none))
            "RESEARCH_DIMINISHING_RETURNS_NOT_REACHED" ++
          reasonIf (read sufficiency "model_unavailable" (.bool false)).truthy
            "MODEL_UNAVAILABLE" ++
          reasonIf (positiveNumber conflicts) "UNRESOLVED_MATERIAL_CONFLICT" ++
          reasonIf (reviewIncomplete review) "ADVERSARIAL_REVIEW_INCOMPLETE")
        [("family", .str family), ("research_status", .str status),
          ("unresolved_material_conflicts", conflicts)]

/-! ## G2: Critical Evidence and Data Quality -/

/-- The first of the named thresholds that is itself a mapping. -/
def dimensionThresholds [Hashing] (policy : PolicyVersion) (keys : List String) : Entries :=
  (keys.findSome? fun key =>
    match policy.thresholds.get? key with
    | some (.mapping entries) => some entries
    | _ => none).getD []

def qualityDimensionKeys : List String :=
  ["data_quality_dimension_min", "data_quality_dimensions", "g2_data_quality_dimensions"]

def reliabilityDimensionKeys : List String :=
  ["historical_reliability_dimensions", "reliability_dimensions", "g3_reliability_dimensions"]

/-- The reason one dimension gives, under the gate's own words. -/
def dimensionReason (unresolved missing below : String) (score : Option ℚ)
    (threshold : String × PyValue) : List String :=
  match optionalFloat threshold.2, score with
  | none, _ => [unresolved]
  | some _, none => [missing ++ threshold.1]
  | some minimum, some observed => reasonIf (observed < minimum) (below ++ threshold.1)

def dimensionDetails (score : String → Option ℚ) (thresholds : Entries) : Entries :=
  thresholds.map fun threshold =>
    (threshold.1, .mapping [("observed", numberValue (score threshold.1)),
      ("threshold", numberValue (optionalFloat threshold.2))])

/-- The reason an overall score gives against its minimum. -/
def minimumReason (missing below : String) (minimum score : Option ℚ) : List String :=
  match minimum, score with
  | none, _ => ["POLICY_THRESHOLD_UNRESOLVED"]
  | some _, none => [missing]
  | some least, some observed => reasonIf (observed < least) below

def coverageReasons (coverage : Option PyValue) : List String :=
  match coverage with
  | none | some .none => ["CRITICAL_EVIDENCE_COVERAGE_MISSING"]
  | some selected =>
      reasonIf (!isTrue (read selected "complete" .none)) "CRITICAL_EVIDENCE_MISSING" ++
        reasonIf (read selected "missing_requirement_ids" (.array [])).truthy
          "CRITICAL_EVIDENCE_MISSING"

def blockingGaps (state : PyValue) (family : String) : List PyValue :=
  (items (stateCollection state ["gaps", "evidence_gaps"])).filter fun gap =>
    sameFamily (display (read gap "family" (.str ""))) family &&
      (read gap "blocks_family" (.bool false)).truthy

def unresolvedConflicts (state : PyValue) (family : String) : List PyValue :=
  (items (stateCollection state ["conflicts", "material_conflicts"])).filter fun conflict =>
    (read conflict "material" (.bool true)).truthy &&
      statusToken (read conflict "status" (.str "UNRESOLVED")) = "UNRESOLVED" &&
      (!(read conflict "family" .none).truthy ||
        sameFamily (display (read conflict "family" .none)) family)

def qualityOverall (quality : Option DataQualityMetrics) : Option ℚ :=
  quality.bind DataQualityMetrics.overall

def qualityScore (quality : Option DataQualityMetrics) (name : String) : Option ℚ :=
  quality.bind fun metrics => metrics.dimensions.get? name

variable [Hashing]

def g2Reasons (state : PyValue) (preference : BettingPreference)
    (quality : Option DataQualityMetrics) (policy : PolicyVersion) (minimum : Option ℚ) :
    List String :=
  let family := preference.family.value
  coverageReasons
      (familyLookup (stateCollection state ["critical_evidence_coverage", "critical_coverage"])
        family) ++
    reasonIf (!(blockingGaps state family).isEmpty) "CRITICAL_EVIDENCE_GAP" ++
    reasonIf (!(unresolvedConflicts state family).isEmpty) "UNRESOLVED_MATERIAL_CONFLICT" ++
    minimumReason "DATA_QUALITY_MISSING" "DATA_QUALITY_BELOW_THRESHOLD" minimum
      (qualityOverall quality) ++
    (dimensionThresholds policy qualityDimensionKeys).flatMap fun threshold =>
      dimensionReason "POLICY_DATA_QUALITY_DIMENSION_UNRESOLVED"
        "DATA_QUALITY_DIMENSION_MISSING:" "DATA_QUALITY_DIMENSION_BELOW_THRESHOLD:"
        (qualityScore quality threshold.1) threshold

def g2Gate (state : PyValue) (preference : BettingPreference) (candidate : NormalizedCandidate)
    (policy : PolicyVersion) : Except T15Error GateResult := do
  let minimum ← policy.thresholdNumber "data_quality_min" preference
  let family := preference.family.value
  let coverage :=
    (familyLookup (stateCollection state ["critical_evidence_coverage", "critical_coverage"])
      family).getD .none
  .ok (checkedGate .g2 (g2Reasons state preference candidate.dataQuality policy minimum)
    [("coverage_complete", .bool (read coverage "complete" (.bool false)).truthy),
      ("data_quality", numberValue (qualityOverall candidate.dataQuality)),
      ("dimensions", .mapping (dimensionDetails (qualityScore candidate.dataQuality)
        (dimensionThresholds policy qualityDimensionKeys))),
      ("unresolved_gap_ids", .array ((blockingGaps state family).map fun gap =>
        .str (display (read gap "gap_id" (.str ""))))),
      ("unresolved_conflict_ids", .array ((unresolvedConflicts state family).map fun conflict =>
        .str (display (read conflict "conflict_id" (.str "")))))])

/-! ## G3: historical predictive reliability -/

def reliabilityOverall (reliability : Option ReliabilityMetrics) : Option ℚ :=
  reliability.bind ReliabilityMetrics.overall

def reliabilitySample (reliability : Option ReliabilityMetrics) : Option ℚ :=
  reliability.bind ReliabilityMetrics.effectiveSample

def reliabilityScore (reliability : Option ReliabilityMetrics) (name : String) : Option ℚ :=
  reliability.bind fun metrics => metrics.dimensions.get? name

/-- Dimension thresholds are read only when there is a reliability record. -/
def reliabilityThresholds (reliability : Option ReliabilityMetrics) (policy : PolicyVersion) :
    Entries :=
  if reliability.isSome then dimensionThresholds policy reliabilityDimensionKeys else []

def sampleReasons (minimum sample : Option ℚ) : List String :=
  match minimum, sample with
  | none, _ => []
  | some _, none => ["HISTORICAL_EFFECTIVE_SAMPLE_MISSING"]
  | some least, some observed =>
      reasonIf (observed < least) "HISTORICAL_EFFECTIVE_SAMPLE_BELOW_THRESHOLD"

def sampleThreshold (preference : BettingPreference) (policy : PolicyVersion) : Option ℚ :=
  (PolicyVersion.thresholdLookup policy.thresholds "minimum_effective_sample"
    (some preference)).bind optionalFloat

def g3Reasons (preference : BettingPreference) (reliability : Option ReliabilityMetrics)
    (policy : PolicyVersion) (minimum : Option ℚ) : List String :=
  minimumReason "HISTORICAL_RELIABILITY_MISSING" "HISTORICAL_RELIABILITY_BELOW_THRESHOLD" minimum
      (reliabilityOverall reliability) ++
    ((reliabilityThresholds reliability policy).flatMap fun threshold =>
      dimensionReason "POLICY_RELIABILITY_DIMENSION_UNRESOLVED" "RELIABILITY_DIMENSION_MISSING:"
        "RELIABILITY_DIMENSION_BELOW_THRESHOLD:" (reliabilityScore reliability threshold.1)
        threshold) ++
    sampleReasons (sampleThreshold preference policy) (reliabilitySample reliability)

def g3Gate (preference : BettingPreference) (candidate : NormalizedCandidate)
    (policy : PolicyVersion) : Except T15Error GateResult := do
  let reliability := candidate.historicalReliability
  let minimum ← policy.thresholdNumber "historical_reliability_min" preference
  .ok (checkedGate .g3 (g3Reasons preference reliability policy minimum)
    [("reliability", numberValue (reliabilityOverall reliability)),
      ("dimensions", .mapping (dimensionDetails (reliabilityScore reliability)
        (reliabilityThresholds reliability policy))),
      ("effective_sample", numberValue (reliabilitySample reliability))])

/-! ## G4: Non-Triviality -/

def below (value limit : Option ℚ) : Bool :=
  match value, limit with
  | some observed, some least => observed < least
  | _, _ => false

/-- The reason the match-specific lift gives.  Only a high baseline without any
explicit flag asks for a lift at all. -/
def liftReasons (explicit structural : Option Bool) (win : ℚ)
    (lift baselineMax liftMin : Option ℚ) : List String :=
  match explicit, structural with
  | none, none =>
      match baselineMax, liftMin with
      | some highest, some _ =>
          if highest ≤ win then
            match lift with
            | none => ["MATCH_SPECIFIC_LIFT_MISSING"]
            | some _ => reasonIf (below lift liftMin) "NON_TRIVIALITY_REJECTED"
          else reasonIf (below lift liftMin) "MATCH_SPECIFIC_LIFT_BELOW_THRESHOLD"
      | _, _ => ["POLICY_THRESHOLD_UNRESOLVED"]
  | _, _ =>
      reasonIf ((explicit = some true || structural = some false) &&
          (match baselineMax with
            | some highest => decide (highest ≤ win)
            | none => false) && below lift liftMin)
        "NON_TRIVIALITY_REJECTED"

/-- The reasons of `_g4_gate` that do not look at the lift. -/
def contractReasons (preference : BettingPreference) (baseline : HistoricalBaseline)
    (explicit : Option Bool) : List String :=
  (if baseline.contract.entries.isEmpty then ["HISTORICAL_BASELINE_CONTRACT_MISSING"]
    else reasonIf
      (canonicalText (.mapping baseline.contract.entries) ≠ canonicalText preference.toDict)
      "HISTORICAL_BASELINE_CONTRACT_MISMATCH") ++
    reasonIf (baseline.structuralTrivial = some true || explicit = some false)
      "NON_TRIVIALITY_REJECTED"

/-- Comparing a contract stops when it has no canonical text. -/
def contractReadable (baseline : HistoricalBaseline) : Bool :=
  baseline.contract.entries.isEmpty ||
    (canonicalText (.mapping baseline.contract.entries)).isSome

def g4Gate (preference : BettingPreference) (candidate : NormalizedCandidate)
    (policy : PolicyVersion) : Except T15Error GateResult :=
  match candidate.baseline with
  | none => .ok (checkedGate .g4 ["HISTORICAL_BASELINE_MISSING"] [])
  | some baseline =>
      if contractReadable baseline then do
        let baselineMax ← policy.thresholdNumber "non_triviality_baseline_win_max" preference
        let liftMin ← policy.thresholdNumber "non_triviality_min_lift" preference
        .ok (checkedGate .g4
          (contractReasons preference baseline candidate.nonTrivial ++
            liftReasons candidate.nonTrivial baseline.structuralTrivial baseline.winProbability
              baseline.matchSpecificLift baselineMax liftMin)
          [("hierarchical_baseline", .str baseline.hierarchicalKey),
            ("baseline_win", numberValue (some baseline.winProbability)),
            ("baseline_loss", numberValue (some baseline.lossProbability)),
            ("baseline_push", numberValue (some baseline.pushProbability)),
            ("structural_trivial", boolValue baseline.structuralTrivial),
            ("match_specific_lift", numberValue baseline.matchSpecificLift)])
      else Strength.fail "T15 values must be finite."

/-! ## G5: Conservative Probability and LOSS risk -/

def conservativeReasons (minimum conservative : Option ℚ) : List String :=
  match conservative with
  | none => ["CONSERVATIVE_PROBABILITY_MISSING"]
  | some value =>
      if Unit value then
        reasonIf (below conservative minimum) "CONSERVATIVE_PROBABILITY_BELOW_THRESHOLD"
      else ["CONSERVATIVE_PROBABILITY_INVALID"]

def lossReasons (lossMax lossRisk : Option ℚ) : List String :=
  match lossRisk with
  | none => ["LOSS_RISK_MISSING"]
  | some value =>
      if Unit value then reasonIf (below lossMax lossRisk) "LOSS_RISK_ABOVE_THRESHOLD"
      else ["LOSS_RISK_INVALID"]

def g5Gate (view : Option PredictionView) (preference : BettingPreference)
    (policy : PolicyVersion) : Except T15Error GateResult := do
  let minimum ← policy.thresholdNumber "conservative_probability_min" preference
  let lossMax ← policy.thresholdNumber "loss_risk_max" preference
  let conservative := view.bind fun selected => conservativeOf selected preference
  let lossRisk := view.bind fun selected => lossUpperOf selected preference
  .ok (checkedGate .g5
    (reasonIf (minimum.isNone || lossMax.isNone) "POLICY_THRESHOLD_UNRESOLVED" ++
      conservativeReasons minimum conservative ++ lossReasons lossMax lossRisk)
    (if view.isNone then [] else
      [("conservative_probability", numberValue conservative),
        ("loss_risk_upper", numberValue lossRisk)]))

/-! ## G6: Probability Uncertainty -/

def orElse {α : Type} (first second : Option α) : Option α :=
  match first with
  | some value => some value
  | none => second

/-- The reason a quantity gives against its ceiling. -/
def ceilingReason (missing above : String) (value ceiling : Option ℚ) : List String :=
  match value with
  | none => [missing]
  | some observed => reasonIf (!decide (Unit observed) || below ceiling (some observed)) above

def uncertaintyEntry (view : Option PredictionView) (key second : String) : PyValue :=
  match view with
  | none => .none
  | some selected =>
      (selected.uncertainty.lookup key).getD ((selected.uncertainty.lookup second).getD .none)

def g6Gate (view : Option PredictionView) (candidate : NormalizedCandidate)
    (preference : BettingPreference) (policy : PolicyVersion) : Except T15Error GateResult := do
  let widthMax ← policy.thresholdNumber "uncertainty_width_max" preference
  let tailMax ← policy.thresholdNumber "uncertainty_tail_risk_max" preference
  let width := orElse candidate.uncertaintyWidth
    (view.bind fun selected => intervalWidth selected preference.preferenceId)
  let tail := orElse candidate.uncertaintyTailRisk
    (optionalFloat (uncertaintyEntry view "tail_risk" "tail_risk"))
  let reliable := orElse candidate.uncertaintyReliable
    (optionalBool (uncertaintyEntry view "empirical_coverage_validated"
      "uncertainty_reliability_validated"))
  .ok (checkedGate .g6
    (reasonIf (widthMax.isNone || tailMax.isNone) "POLICY_THRESHOLD_UNRESOLVED" ++
      ceilingReason "PROBABILITY_UNCERTAINTY_MISSING" "PROBABILITY_UNCERTAINTY_ABOVE_THRESHOLD"
        width widthMax ++
      ceilingReason "UNCERTAINTY_TAIL_RISK_MISSING" "UNCERTAINTY_TAIL_RISK_ABOVE_THRESHOLD"
        tail tailMax ++
      reasonIf (reliable ≠ some true) "UNCERTAINTY_METHOD_NOT_EMPIRICALLY_RELIABLE")
    [("width", numberValue width), ("tail_risk", numberValue tail),
      ("empirically_reliable", boolValue reliable)])

/-! ## G7: Model Agreement and sensitivity -/

def agreementReasons (minimum agreement : Option ℚ) : List String :=
  match agreement with
  | none => ["MODEL_AGREEMENT_MISSING"]
  | some value =>
      if Unit value then reasonIf (below agreement minimum) "MODEL_AGREEMENT_BELOW_THRESHOLD"
      else ["MODEL_AGREEMENT_INVALID"]

def sensitivityReasons (maximum : Option ℚ) (sensitivity : Option PyFloat) : List String :=
  match sensitivity with
  | none => ["MODEL_SENSITIVITY_MISSING"]
  | some (.finite value) =>
      if Unit value then
        reasonIf (below maximum (some value)) "MODEL_SENSITIVITY_ABOVE_THRESHOLD"
      else ["MODEL_SENSITIVITY_INVALID"]
  | some _ => ["MODEL_SENSITIVITY_INVALID"]

def candidateSensitivity (view : Option PredictionView) (candidate : NormalizedCandidate)
    (preference : BettingPreference) : Option PyFloat :=
  orElse (candidate.modelSensitivity.map PyFloat.finite)
    (sensitivityValue view preference.preferenceId)

def candidateAgreement (view : Option PredictionView) (candidate : NormalizedCandidate) :
    Option ℚ :=
  orElse candidate.modelAgreement (view.bind PredictionView.modelAgreement)

def g7Gate (view : Option PredictionView) (candidate : NormalizedCandidate)
    (preference : BettingPreference) (policy : PolicyVersion) : Except T15Error GateResult := do
  let agreementMin ← policy.thresholdNumber "model_agreement_min" preference
  let sensitivityMax ← policy.thresholdNumber "model_sensitivity_max" preference
  let agreement := candidateAgreement view candidate
  let sensitivity := candidateSensitivity view candidate preference
  .ok (checkedGate .g7
    (reasonIf (agreementMin.isNone || sensitivityMax.isNone) "POLICY_THRESHOLD_UNRESOLVED" ++
      agreementReasons agreementMin agreement ++ sensitivityReasons sensitivityMax sensitivity)
    [("model_agreement", numberValue agreement), ("model_sensitivity", floatValue sensitivity)])

/-! ## G8: the adversarial Failure Case -/

def reviewReasons (review : AdversarialReview) (unrepresentedMax : Option ℚ) : List String :=
  reasonIf (!review.complete) "ADVERSARIAL_REVIEW_INCOMPLETE" ++
    reasonIf (!review.evidenceBacked) "ADVERSARIAL_FAILURE_CASE_NOT_EVIDENCE_BACKED" ++
    reasonIf review.veto "ADVERSARIAL_VETO" ++
    reasonIf (!review.representedInUncertainty && below unrepresentedMax (some review.materiality))
      "ADVERSARIAL_RISK_NOT_represented_in_uncertainty"

def g8Gate (candidate : NormalizedCandidate) (policy : PolicyVersion)
    (preference : BettingPreference) : Except T15Error GateResult :=
  match candidate.adversarialReview with
  | none => .ok (checkedGate .g8 ["ADVERSARIAL_FAILURE_CASE_MISSING"] [])
  | some review => do
      let unrepresentedMax ←
        policy.thresholdNumber "adversarial_unrepresented_materiality_max" preference
      .ok (checkedGate .g8 (reviewReasons review unrepresentedMax)
        [("failure_case", .str review.failureCase),
          ("supporting_evidence_ids", .array (review.supportingEvidenceIds.map PyValue.str)),
          ("materiality", numberValue (some review.materiality)),
          ("represented_in_uncertainty", .bool review.representedInUncertainty),
          ("veto", .bool review.veto), ("downgrade", .bool review.downgrade),
          ("outcome", .str review.outcome)])

end MatchVet.T15.Gates
