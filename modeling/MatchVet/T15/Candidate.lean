import MatchVet.T15.Strength

/-!
# Per-preference vetting input

The material a preference is vetted with besides the frozen state and the
predictions: Data Quality, Historical Baseline, Historical Reliability and the
Adversarial Review.  Normalization turns every caller form into one record; an
observation that cannot be read is absent.
-/

namespace MatchVet.T15.Candidate

open MatchVet.Foundation.Dictionary
open MatchVet.Foundation.Dictionary.PyDict
open MatchVet.Foundation.Runtime
open MatchVet.T15.Strength
open MatchVet.T15.Strength.NormalizationSpec (entryOr)
open MatchVet.T15.Values

/-- A number between zero and one. -/
def Unit (value : ℚ) : Prop := 0 ≤ value ∧ value ≤ 1

instance (value : ℚ) : Decidable (Unit value) :=
  inferInstanceAs (Decidable (0 ≤ value ∧ value ≤ 1))

instance (values : List (String × ℚ)) : Decidable (∀ entry ∈ values, Unit entry.2) :=
  List.decidableBAll _ values

variable [PyRuntime]

/-- The numeric entries of a score mapping, as the constructors receive them. -/
def scoreEntries (value : PyValue) : List (String × PyValue) :=
  ((ofPairs (floatMapping value)).mapValues PyValue.float).entries

/-! ## Data Quality and Historical Reliability -/

structure DataQualityMetrics where
  overall : Option ℚ
  dimensions : PyDict ℚ
  overall_unit : ∀ value ∈ overall, Unit value
  dimensions_unit : ∀ entry ∈ dimensions.entries, Unit entry.2

namespace DataQualityMetrics

def create (overall : Option PyValue) (dimensions : List (String × PyValue)) :
    Except T15Error DataQualityMetrics :=
  match overall.mapM fun value => finite value "Data Quality" with
  | .error error => .error error
  | .ok selected =>
      if hoverall : ∀ value ∈ selected, Unit value then
        match mapEntries (fun value => finite value "Data Quality dimension") dimensions with
        | .error error => .error error
        | .ok scores =>
            if hscores : ∀ entry ∈ (ofPairs scores).sorted.entries, Unit entry.2 then
              .ok ⟨selected, (ofPairs scores).sorted, hoverall, hscores⟩
            else fail "Data Quality dimensions must be between zero and one."
      else fail "Data Quality must be between zero and one."

def fromValue (value : PyValue) : Except T15Error (Option DataQualityMetrics) :=
  match value with
  | .int number => (create (some (.int number)) []).map some
  | .float number => (create (some (.float number)) []).map some
  | _ =>
      match value.entries with
      | [] => .ok none
      | mapped =>
          (create ((optionalFloat (entryOr mapped "overall" "score" .none)).map
              fun number => .float (.finite number))
            (scoreEntries (entryOr mapped "dimensions" "dimension_scores" (.mapping [])))).map
            some

end DataQualityMetrics

structure ReliabilityMetrics where
  overall : Option ℚ
  dimensions : PyDict ℚ
  effectiveSample : Option ℚ
  overall_unit : ∀ value ∈ overall, Unit value
  dimensions_unit : ∀ entry ∈ dimensions.entries, Unit entry.2
  sample_nonneg : ∀ value ∈ effectiveSample, 0 ≤ value

namespace ReliabilityMetrics

def create (overall : Option PyValue) (dimensions : List (String × PyValue))
    (effectiveSample : PyValue) : Except T15Error ReliabilityMetrics :=
  match overall.mapM fun value => finite value "Historical reliability" with
  | .error error => .error error
  | .ok selected =>
      if hoverall : ∀ value ∈ selected, Unit value then
        match mapEntries (fun value => finite value "Reliability dimension") dimensions with
        | .error error => .error error
        | .ok scores =>
            if hscores : ∀ entry ∈ (ofPairs scores).sorted.entries, Unit entry.2 then
              if hsample : ∀ value ∈ optionalFloat effectiveSample, 0 ≤ value then
                .ok ⟨selected, (ofPairs scores).sorted, optionalFloat effectiveSample, hoverall,
                  hscores, hsample⟩
              else fail "Historical effective sample cannot be negative."
            else fail "Reliability dimensions must be between zero and one."
      else fail "Historical reliability must be between zero and one."

def fromValue (value : PyValue) : Except T15Error (Option ReliabilityMetrics) :=
  match value with
  | .int number => (create (some (.int number)) [] .none).map some
  | .float number => (create (some (.float number)) [] .none).map some
  | _ =>
      match value.entries with
      | [] => .ok none
      | mapped =>
          (create ((optionalFloat (entryOr mapped "overall" "score" .none)).map
              fun number => .float (.finite number))
            (scoreEntries (entryOr mapped "dimensions" "dimension_scores" (.mapping [])))
            ((mapped.lookup "effective_sample").getD .none)).map some

end ReliabilityMetrics

/-! ## Historical Baseline -/

structure HistoricalBaseline where
  winProbability : ℚ
  lossProbability : ℚ
  pushProbability : ℚ
  hierarchicalKey : String
  structuralTrivial : Option Bool
  matchSpecificLift : Option ℚ
  effectiveSample : Option ℚ
  uncertainty : Option ℚ
  contract : PyDict PyValue
  probabilities_valid : Unit winProbability ∧ Unit lossProbability ∧ Unit pushProbability ∧
    isClose (nearest (winProbability + lossProbability + pushProbability)) 1 (decimalFloat 8) = true
  key_text : blank hierarchicalKey = false
  numbers_nonneg : (∀ value ∈ matchSpecificLift, 0 ≤ value) ∧
    (∀ value ∈ effectiveSample, 0 ≤ value) ∧ ∀ value ∈ uncertainty, 0 ≤ value

namespace HistoricalBaseline

/-- The record without its match-specific lift. -/
def eraseLift (baseline : HistoricalBaseline) : HistoricalBaseline where
  winProbability := baseline.winProbability
  lossProbability := baseline.lossProbability
  pushProbability := baseline.pushProbability
  hierarchicalKey := baseline.hierarchicalKey
  structuralTrivial := baseline.structuralTrivial
  matchSpecificLift := none
  effectiveSample := baseline.effectiveSample
  uncertainty := baseline.uncertainty
  contract := baseline.contract
  probabilities_valid := baseline.probabilities_valid
  key_text := baseline.key_text
  numbers_nonneg := ⟨nofun, baseline.numbers_nonneg.2⟩

def create (win loss push : ℚ) (hierarchicalKey : String) (structuralTrivial : Option Bool)
    (matchSpecificLift effectiveSample uncertainty : Option ℚ) (contract : PyDict PyValue) :
    Except T15Error HistoricalBaseline :=
  if hvalid : Unit win ∧ Unit loss ∧ Unit push ∧
      isClose (nearest (win + loss + push)) 1 (decimalFloat 8) = true then
    if hkey : blank hierarchicalKey = false then
      if hlift : ∀ value ∈ matchSpecificLift, 0 ≤ value then
        if hsample : ∀ value ∈ effectiveSample, 0 ≤ value then
          if huncertainty : ∀ value ∈ uncertainty, 0 ≤ value then
            .ok ⟨win, loss, push, hierarchicalKey, structuralTrivial, matchSpecificLift,
              effectiveSample, uncertainty, contract, hvalid, hkey, hlift, hsample, huncertainty⟩
          else fail "Historical Baseline uncertainty cannot be negative."
        else fail "Historical Baseline effective_sample cannot be negative."
      else fail "Historical Baseline match_specific_lift cannot be negative."
    else fail "Historical Baseline hierarchical key must be a non-empty string."
  else fail "Historical Baseline settlement probabilities must sum to one."

/-- A baseline that cannot be read is absent. -/
def fromValue (value : PyValue) : Option HistoricalBaseline :=
  match value.entries with
  | [] => none
  | mapped =>
      let number (key second : String) (default : PyValue) (label : String) :=
        finite (entryOr mapped key second default) label
      let optional (key second : String) := optionalFloat (entryOr mapped key second .none)
      match number "win_probability" "win" .none "Historical Baseline WIN",
        number "loss_probability" "loss" .none "Historical Baseline LOSS",
        number "push_probability" "push" (.float (.finite 0)) "Historical Baseline PUSH" with
      | .ok win, .ok loss, .ok push =>
          (create win loss push
            (display (entryOr mapped "hierarchical_key" "reference_key" (.str "")))
            (optionalBool (entryOr mapped "structural_trivial" "is_trivial" .none))
            (optional "match_specific_lift" "lift")
            (optional "effective_sample" "effective_sample")
            (optional "uncertainty" "uncertainty")
            (ofPairs (entryOr mapped "contract" "preference_contract" (.mapping [])).entries)
            ).toOption
      | _, _, _ => none

end HistoricalBaseline

/-! ## Adversarial Review -/

structure AdversarialReview where
  failureCase : String
  supportingEvidenceIds : List String
  materiality : ℚ
  representedInUncertainty : Bool
  veto : Bool
  complete : Bool
  downgrade : Bool
  failureCase_text : blank failureCase = false
  materiality_unit : Unit materiality

namespace AdversarialReview

def create (failureCase : String) (supportingEvidenceIds : PyValue) (materiality : ℚ)
    (representedInUncertainty veto complete downgrade : Bool) :
    Except T15Error AdversarialReview :=
  if hcase : blank failureCase = false then
    if hmateriality : Unit materiality then
      .ok ⟨failureCase, tupleStrings supportingEvidenceIds, materiality,
        representedInUncertainty, veto, complete, downgrade, hcase, hmateriality⟩
    else fail "Failure Case materiality must be between zero and one."
  else fail "Adversarial Failure Case must be a non-empty string."

/-- A review that cannot be read is absent. -/
def fromValue (value : PyValue) : Option AdversarialReview :=
  match value.entries with
  | [] => none
  | mapped =>
      let flag (key second : String) (default : Bool) :=
        (entryOr mapped key second (.bool default)).truthy
      let evidence :=
        (mapped.lookup "supporting_evidence_ids").getD
          (entryOr mapped "evidence_ids" "supporting_evidence" (.array []))
      match finite ((mapped.lookup "materiality").getD (.float (.finite 0)))
          "Failure Case materiality" with
      | .error _ => none
      | .ok materiality =>
          (create (display (entryOr mapped "failure_case" "description" (.str "")))
            (.array ((tupleStrings evidence).map PyValue.str)) materiality
            (flag "represented_in_uncertainty" "represented" false)
            (flag "veto" "downgrade_to_reject" false)
            (flag "complete" "complete" true)
            (flag "downgrade" "downgrade" false)).toOption

def evidenceBacked (review : AdversarialReview) : Bool := !review.supportingEvidenceIds.isEmpty

def safety (review : AdversarialReview) : ℚ := max 0 (min 1 (subtract 1 review.materiality))

def outcome (review : AdversarialReview) : String :=
  if review.veto then "VETO" else if review.downgrade then "DOWNGRADE" else "PASS"

end AdversarialReview

/-! ## Candidate input and its normal form -/

/-- Per-preference material as the caller supplies it. -/
structure CandidateInput where
  dataQuality : RuleInput DataQualityMetrics
  baseline : RuleInput HistoricalBaseline
  historicalReliability : RuleInput ReliabilityMetrics
  adversarialReview : RuleInput AdversarialReview
  selectionComponents : PyDict PyValue
  correlationGroup : Option String
  uncertaintyWidth : PyValue
  uncertaintyTailRisk : PyValue
  uncertaintyReliable : Option Bool
  uncertaintyQuality : PyValue
  modelAgreement : PyValue
  modelSensitivity : PyValue
  adversarialSafety : PyValue
  failureRisk : PyValue
  nonTrivial : Option Bool
  supportingCase : Option String
  explanatory : Bool
  pairedStrengthUncertainty : Option ℚ
  selectionStrengthInterval : Option (List PyValue)

/-- The normal form every gate reads. -/
structure NormalizedCandidate where
  dataQuality : Option DataQualityMetrics
  baseline : Option HistoricalBaseline
  historicalReliability : Option ReliabilityMetrics
  adversarialReview : Option AdversarialReview
  selectionComponents : PyDict ℚ
  correlationGroup : Option String
  uncertaintyWidth : Option ℚ
  uncertaintyTailRisk : Option ℚ
  uncertaintyReliable : Option Bool
  uncertaintyQuality : Option ℚ
  modelAgreement : Option ℚ
  modelSensitivity : Option ℚ
  adversarialSafety : Option ℚ
  failureRisk : Option ℚ
  nonTrivial : Option Bool
  supportingCase : Option String
  explanatory : Bool
  pairedStrengthUncertainty : Option ℚ
  selectionStrengthInterval : Option (ℚ × ℚ)

namespace CandidateInput

def readQuality : RuleInput DataQualityMetrics → Except T15Error (Option DataQualityMetrics)
  | .built metrics => .ok (some metrics)
  | .raw value => DataQualityMetrics.fromValue value

def readReliability : RuleInput ReliabilityMetrics → Except T15Error (Option ReliabilityMetrics)
  | .built metrics => .ok (some metrics)
  | .raw value => ReliabilityMetrics.fromValue value

def readBaseline : RuleInput HistoricalBaseline → Option HistoricalBaseline
  | .built baseline => some baseline
  | .raw value => HistoricalBaseline.fromValue value

def readReview : RuleInput AdversarialReview → Option AdversarialReview
  | .built review => some review
  | .raw value => AdversarialReview.fromValue value

/-- The bounded fields, under the names their errors give. -/
def boundedFields (candidate : CandidateInput) : List (String × PyValue) :=
  [("uncertainty_tail_risk", candidate.uncertaintyTailRisk),
    ("uncertainty_quality", candidate.uncertaintyQuality),
    ("model_agreement", candidate.modelAgreement),
    ("model_sensitivity", candidate.modelSensitivity),
    ("adversarial_safety", candidate.adversarialSafety),
    ("failure_risk", candidate.failureRisk),
    ("uncertainty_width", candidate.uncertaintyWidth),
    ("paired_strength_uncertainty",
      match candidate.pairedStrengthUncertainty with
      | some number => .float (.finite number)
      | none => .none)]

def outOfRange (field : String × PyValue) : Bool :=
  match optionalFloat field.2 with
  | some number => !decide (Unit number)
  | none => false

def readInterval : Option (List PyValue) → Except T15Error (Option (ℚ × ℚ))
  | none => .ok none
  | some [first, second] => do
      let lower ← finite first "Selection Strength interval"
      let upper ← finite second "Selection Strength interval"
      if lower < 0 ∨ 1 < upper ∨ upper < lower then
        fail "Selection Strength interval bounds are reversed."
      else .ok (some (lower, upper))
  | some _ => fail "Selection Strength intervals require two bounds."

def stripGroup (group : Option String) : Option String :=
  match group with
  | none => none
  | some name => if name = "" then none else some (strip name)

/-- `normalized`. -/
def normalized (candidate : CandidateInput) : Except T15Error NormalizedCandidate := do
  let quality ← readQuality candidate.dataQuality
  let reliability ← readReliability candidate.historicalReliability
  let components ← mapEntries (fun value => finite value "Selection Strength component")
    candidate.selectionComponents.entries
  if (renameKeys components).values.any fun value => !decide (Unit value) then
    fail "Selection Strength component overrides must be normalized."
  else
    match candidate.boundedFields.find? outOfRange with
    | some field => fail (field.1 ++ " must be between zero and one.")
    | none => do
        let interval ← readInterval candidate.selectionStrengthInterval
        .ok {
          dataQuality := quality
          baseline := readBaseline candidate.baseline
          historicalReliability := reliability
          adversarialReview := readReview candidate.adversarialReview
          selectionComponents := renameKeys components
          correlationGroup := stripGroup candidate.correlationGroup
          uncertaintyWidth := optionalFloat candidate.uncertaintyWidth
          uncertaintyTailRisk := optionalFloat candidate.uncertaintyTailRisk
          uncertaintyReliable := candidate.uncertaintyReliable
          uncertaintyQuality := optionalFloat candidate.uncertaintyQuality
          modelAgreement := optionalFloat candidate.modelAgreement
          modelSensitivity := optionalFloat candidate.modelSensitivity
          adversarialSafety := optionalFloat candidate.adversarialSafety
          failureRisk := optionalFloat candidate.failureRisk
          nonTrivial := candidate.nonTrivial
          supportingCase := candidate.supportingCase
          explanatory := candidate.explanatory
          pairedStrengthUncertainty := candidate.pairedStrengthUncertainty
          selectionStrengthInterval := interval }

end CandidateInput

end MatchVet.T15.Candidate
