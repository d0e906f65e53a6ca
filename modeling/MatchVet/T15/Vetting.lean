import MatchVet.T15.Gates

/-!
# Vetting one preference

The nine gates of one preference, its Selection Strength and the audit row made
of them.
-/

namespace MatchVet.T15.Vetting

open MatchVet.Foundation.CanonicalJson
open MatchVet.Foundation.Dictionary
open MatchVet.Foundation.Runtime
open MatchVet.T10.Catalog
open MatchVet.T15.Candidate
open MatchVet.T15.Gates
open MatchVet.T15.Policy
open MatchVet.T15.Prediction
open MatchVet.T15.Strength
open MatchVet.T15.Values

inductive CandidateStatus where
  | reject
  | researchCandidate
  | qualified
  | primaryRecommendation
  | correlatedSecondaryFit
  deriving DecidableEq, Repr

inductive CandidateRole where
  | none
  | researchPrimaryCandidate
  | researchCorrelatedSecondaryCandidate
  | primaryRecommendation
  | correlatedSecondaryFit
  deriving DecidableEq, Repr

variable [PyRuntime]

/-- One audit row. -/
structure PreferenceVettingResult where
  targetFixtureId : String
  preference : BettingPreference
  status : CandidateStatus
  role : CandidateRole
  gates : List GateResult
  rejectionReasons : List String
  selectionStrengthReasons : List String
  estimatedProbability : Option ℚ
  conservativeProbability : Option ℚ
  lossRiskUpper : Option ℚ
  pushProbability : Option ℚ
  uncertaintyWidth : Option ℚ
  dataQuality : Option ℚ
  modelAgreement : Option ℚ
  modelSensitivity : Option PyFloat
  historicalReliability : Option ℚ
  failureRisk : Option ℚ
  baseline : Option HistoricalBaseline
  adversarialReview : Option AdversarialReview
  selectionComponents : List (String × ℚ)
  selectionStrength : Option ℚ
  selectionStrengthInterval : Option (ℚ × ℚ)
  rank : Option Nat
  correlationGroup : Option String
  supportingCase : Option String
  explanatory : Bool

namespace PreferenceVettingResult

def isGateSurvivor (result : PreferenceVettingResult) : Bool :=
  result.gates.all fun item => item.status = .pass

end PreferenceVettingResult

/-- The model quantities of one preference. -/
structure PredictionMetrics where
  estimated : Option ℚ
  conservative : Option ℚ
  lossUpper : Option ℚ
  push : Option ℚ
  uncertaintyWidth : Option ℚ
  modelAgreement : Option ℚ
  modelSensitivity : Option PyFloat

/-- `_prediction_metrics`. -/
def predictionMetrics (view : Option PredictionView) (preference : BettingPreference) :
    PredictionMetrics :=
  match view with
  | none => ⟨none, none, none, none, none, none, none⟩
  | some selected =>
      let settlement := settlementOf selected preference
      { estimated := orElse (estimatedOf selected preference) (probability settlement winNames)
        conservative := conservativeOf selected preference
        lossUpper := lossUpperOf selected preference
        push := probability settlement pushNames
        uncertaintyWidth := intervalWidth selected preference.preferenceId
        modelAgreement := selected.modelAgreement
        modelSensitivity := sensitivityValue view preference.preferenceId }

/-! ## Selection Strength -/

/-- A number the strength formula produced, when it stays between zero and one. -/
def unitValue (value : ℚ) : Option ℚ := if Unit value then some value else none

def halfFloat : ℚ := nearest (1 / 2)

def NormalizationSpec.apply (spec : NormalizationSpec) (selected : ℚ) : Option ℚ :=
  let scaled (lower upper : PyValue) : ℚ :=
    match lower, upper with
    | .float (.finite low), .float (.finite high) =>
        nearest (subtract selected low / subtract high low)
    | _, _ => 0
  let normalized :=
    match spec.method with
    | .identity => selected
    | .percentile =>
        let less := (spec.reference.filter fun reference => reference < selected).length
        let equal := (spec.reference.filter fun reference => reference = selected).length
        nearest (nearest (less + nearest (halfFloat * equal)) / spec.reference.length)
    | .minMax => scaled spec.lower spec.upper
    | .inverseMinMax => subtract 1 (scaled spec.lower spec.upper)
  unitValue (if spec.direction = .lower then subtract 1 normalized else normalized)

def TransformSpec.apply (spec : TransformSpec) (selected : ℚ) : Option ℚ :=
  unitValue (match spec.kind with
    | .identity => selected
    | .linear =>
        nearest (nearest (selected * parameter spec.parameters "slope" 0) +
          parameter spec.parameters "intercept" 0)
    | .power => PyRuntime.power selected (parameter spec.parameters "exponent" 1)
    | .clip =>
        max (parameter spec.parameters "lower" 0)
          (min (parameter spec.parameters "upper" 1) selected)
    | .oneMinus => subtract 1 selected)

/-- `_raw_component`. -/
def rawComponent (candidate : NormalizedCandidate) (metrics : PredictionMetrics)
    (component : String) : Option ℚ :=
  match candidate.selectionComponents.get? component with
  | some supplied => some supplied
  | none =>
      match component with
      | "conservative_probability" => metrics.conservative
      | "win_lift" =>
          match metrics.conservative, candidate.baseline with
          | some conservative, some baseline =>
              some (max 0 (subtract conservative baseline.winProbability))
          | _, _ => none
      | "loss_risk_improvement" =>
          match metrics.lossUpper, candidate.baseline with
          | some risk, some baseline => some (max 0 (subtract baseline.lossProbability risk))
          | _, _ => none
      | "data_quality" => qualityOverall candidate.dataQuality
      | "uncertainty_quality" => orElse candidate.uncertaintyQuality metrics.uncertaintyWidth
      | "model_agreement" => orElse candidate.modelAgreement metrics.modelAgreement
      | "adversarial_safety" =>
          match candidate.adversarialSafety, candidate.failureRisk with
          | some safety, _ => some safety
          | none, some risk => some (subtract 1 risk)
          | none, none => candidate.adversarialReview.map AdversarialReview.safety
      | "historical_reliability" => reliabilityOverall candidate.historicalReliability
      | _ => none

/-- The value of one component, or the reason it has none. -/
def componentValue (config : SelectionStrengthConfig) (raw : Option ℚ) (component : String) :
    Except String ℚ :=
  match raw, config.normalizers.get? component, config.transforms.get? component with
  | some value, some normalizer, some transform =>
      match (NormalizationSpec.apply normalizer value).bind (TransformSpec.apply transform) with
      | some result => .ok result
      | none => .error ("SELECTION_COMPONENT_INVALID:" ++ component)
  | _, _, _ => .error ("SELECTION_COMPONENT_UNRESOLVED:" ++ component)

/-- `selection_strength_from_raw_components` for the policy's own normalizers. -/
def strengthFromRawComponents (config : SelectionStrengthConfig) (raw : String → Option ℚ) :
    Option ℚ × List (String × ℚ) × List String :=
  let values := selectionComponents.map fun component =>
    (component, componentValue config (raw component) component)
  let components := values.filterMap fun entry => entry.2.toOption.map fun value => (entry.1, value)
  let reasons := values.filterMap fun entry =>
    match entry.2 with
    | .error reason => some reason
    | .ok _ => none
  if reasons = [] then
    (some (nearest (components.map fun entry =>
      nearest ((config.weights.get? entry.1).getD 0 * entry.2)).sum), components, [])
  else (none, components, sortedSet reasons)

/-- `_selection_strength`. -/
def selectionStrength (candidate : NormalizedCandidate) (metrics : PredictionMetrics)
    (config : Option SelectionStrengthConfig) : Option ℚ × List (String × ℚ) × List String :=
  match config with
  | none => (none, [], ["SELECTION_STRENGTH_CONFIGURATION_MISSING"])
  | some selected => strengthFromRawComponents selected (rawComponent candidate metrics)

/-- `_candidate_interval`. -/
def candidateInterval (score : Option ℚ) (candidate : NormalizedCandidate) : Option (ℚ × ℚ) :=
  match candidate.selectionStrengthInterval, score, candidate.pairedStrengthUncertainty with
  | some interval, _, _ => some interval
  | none, some value, some spread =>
      some (max 0 (subtract value spread), min 1 (nearest (value + spread)))
  | none, _, _ => none

/-! ## The audit row -/

/-- `_policy_group`. -/
def policyGroup [Hashing] (policy : PolicyVersion) (preferenceId : String)
    (candidate : NormalizedCandidate) : Option String :=
  match candidate.correlationGroup with
  | some group => if group = "" then direct else some group
  | none => direct
where
  direct : Option String :=
    match policy.correlationGroups.get? preferenceId with
    | some group => if group = "" then reverse else some group
    | none => reverse
  reverse : Option String :=
    (policy.correlationGroups.entries.find? fun entry => entry.2 = preferenceId).map Prod.fst

variable [Hashing]

/-- The gates, in order; the first error stops the vetting. -/
def vettingGates (state : PyValue) (preference : BettingPreference) (policy : PolicyVersion)
    (candidate : NormalizedCandidate) (view : Option PredictionView)
    (catalog : PreferenceCatalog) : Except T15Error (List GateResult) := do
  let second ← g2Gate state preference candidate policy
  let third ← g3Gate preference candidate policy
  let fourth ← g4Gate preference candidate policy
  let fifth ← g5Gate view preference policy
  let sixth ← g6Gate view candidate preference policy
  let seventh ← g7Gate view candidate preference policy
  let eighth ← g8Gate candidate policy preference
  .ok [g0Gate state (stateTarget state) view preference catalog,
    sufficiencyGate state preference candidate.adversarialReview,
    second, third, fourth, fifth, sixth, seventh, eighth]

/-- `_result_for_preference` on a normalized candidate and a prediction view. -/
def resultForView (state : PyValue) (preference : BettingPreference) (policy : PolicyVersion)
    (candidate : NormalizedCandidate) (view : Option PredictionView)
    (catalog : PreferenceCatalog) : Except T15Error PreferenceVettingResult := do
  let gates ← vettingGates state preference policy candidate view catalog
  let model := predictionMetrics view preference
  let metrics := { model with
    uncertaintyWidth := orElse candidate.uncertaintyWidth model.uncertaintyWidth
    modelAgreement := orElse candidate.modelAgreement model.modelAgreement
    modelSensitivity :=
      orElse (candidate.modelSensitivity.map PyFloat.finite) model.modelSensitivity }
  let (score, components, scoreReasons) :=
    selectionStrength candidate metrics policy.selectionStrength
  let survivor := gates.all fun item => item.status = .pass
  let gateReasons := (gates.filter fun item => item.status ≠ .pass).flatMap
    GateResult.reasonCodes
  .ok {
    targetFixtureId := targetText (stateTarget state) "fixture_id"
    preference := preference
    status :=
      if !survivor then .reject
      else if policy.status = .researchOnly then .researchCandidate
      else .qualified
    role := .none
    gates := gates
    rejectionReasons := sortedSet (gateReasons ++ if survivor then [] else scoreReasons)
    selectionStrengthReasons := scoreReasons
    estimatedProbability := metrics.estimated
    conservativeProbability := metrics.conservative
    lossRiskUpper := metrics.lossUpper
    pushProbability := metrics.push
    uncertaintyWidth := metrics.uncertaintyWidth
    dataQuality := qualityOverall candidate.dataQuality
    modelAgreement := metrics.modelAgreement
    modelSensitivity := metrics.modelSensitivity
    historicalReliability := reliabilityOverall candidate.historicalReliability
    failureRisk := candidate.failureRisk
    baseline := candidate.baseline
    adversarialReview := candidate.adversarialReview
    selectionComponents := if survivor then components else []
    selectionStrength := if survivor then score else none
    selectionStrengthInterval :=
      if survivor then candidateInterval score candidate else none
    rank := none
    correlationGroup := policyGroup policy preference.preferenceId candidate
    supportingCase := candidate.supportingCase
    explanatory := candidate.explanatory }

/-- `_result_for_preference`. -/
def resultForPreference (state : PyValue) (preference : BettingPreference)
    (policy : PolicyVersion) (candidate : CandidateInput) (predictions : PyValue)
    (catalog : PreferenceCatalog) : Except T15Error PreferenceVettingResult := do
  let normalized ← candidate.normalized
  resultForView state preference policy normalized (predictionFor predictions preference) catalog

end MatchVet.T15.Vetting
