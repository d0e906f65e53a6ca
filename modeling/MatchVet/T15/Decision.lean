import MatchVet.T15.Ranking

/-!
# The decision on a Target Match

Every preference of the catalog keeps its audit row.  The survivors with a
Selection Strength are ranked, the ranked rows are labelled by the mode of the
policy and put back under their identifiers, and the record of the match checks
itself when it is built.
-/

namespace MatchVet.T15.Decision

open MatchVet.Foundation.CanonicalJson
open MatchVet.Foundation.ComparatorSort
open MatchVet.Foundation.Dictionary
open MatchVet.Foundation.Runtime
open MatchVet.T10.Catalog
open MatchVet.T15.Candidate
open MatchVet.T15.Gates
open MatchVet.T15.Policy
open MatchVet.T15.Ranking
open MatchVet.T15.Strength (fail)
open MatchVet.T15.Values
open MatchVet.T15.Vetting

inductive MatchDecision where
  | researchOnly
  | researchAvoid
  | play
  | avoidMatch
  deriving DecidableEq, Repr

def MatchDecision.value : MatchDecision → String
  | .researchOnly => "RESEARCH_ONLY"
  | .researchAvoid => "RESEARCH AVOID"
  | .play => "PLAY"
  | .avoidMatch => "AVOID MATCH"

section Values

variable [PyRuntime]

/-! ## The payload of a row -/

def statusValue : CandidateStatus → String
  | .reject => "REJECT"
  | .researchCandidate => "RESEARCH CANDIDATE"
  | .qualified => "QUALIFIED"
  | .primaryRecommendation => "Primary Recommendation"
  | .correlatedSecondaryFit => "Correlated Secondary Fit"

def roleValue : CandidateRole → String
  | .none => "NONE"
  | .researchPrimaryCandidate => "RESEARCH PRIMARY CANDIDATE"
  | .researchCorrelatedSecondaryCandidate => "RESEARCH CORRELATED SECONDARY CANDIDATE"
  | .primaryRecommendation => "Primary Recommendation"
  | .correlatedSecondaryFit => "Correlated Secondary Fit"

def gateIdValue : GateId → String
  | .g0 => "G0"
  | .g1 => "G1"
  | .g2 => "G2"
  | .g3 => "G3"
  | .g4 => "G4"
  | .g5 => "G5"
  | .g6 => "G6"
  | .g7 => "G7"
  | .g8 => "G8"

def gateStatusValue : GateStatus → String
  | .pass => "PASS"
  | .fail => "FAIL"
  | .unresolved => "UNRESOLVED"

def textsValue (texts : List String) : PyValue := .array (texts.map PyValue.str)

def gateDict (result : GateResult) : PyValue :=
  .mapping [
    ("details", .mapping result.details),
    ("gate_id", .str (gateIdValue result.gateId)),
    ("name", .str result.name),
    ("passed", .bool (result.status = .pass)),
    ("reason_codes", textsValue result.reasonCodes),
    ("status", .str (gateStatusValue result.status))]

def reviewDict (review : AdversarialReview) : PyValue :=
  .mapping [
    ("complete", .bool review.complete),
    ("failure_case", .str review.failureCase),
    ("materiality", .float (.finite review.materiality)),
    ("represented_in_uncertainty", .bool review.representedInUncertainty),
    ("supporting_evidence_ids", textsValue review.supportingEvidenceIds),
    ("veto", .bool review.veto),
    ("downgrade", .bool review.downgrade),
    ("outcome", .str review.outcome)]

def baselineDict (baseline : HistoricalBaseline) : PyValue :=
  .mapping [
    ("hierarchical_key", .str baseline.hierarchicalKey),
    ("contract", .mapping baseline.contract.entries),
    ("loss_probability", .float (.finite baseline.lossProbability)),
    ("match_specific_lift", numberValue baseline.matchSpecificLift),
    ("push_probability", .float (.finite baseline.pushProbability)),
    ("structural_trivial", boolValue baseline.structuralTrivial),
    ("win_probability", .float (.finite baseline.winProbability))]

def optionalDict {α : Type} (toDict : α → PyValue) (value : Option α) : PyValue :=
  match value with
  | some found => toDict found
  | none => .none

/-- `to_dict` of a row. -/
def rowDict (row : PreferenceVettingResult) : PyValue :=
  .mapping [
    ("adversarial_review", optionalDict reviewDict row.adversarialReview),
    ("baseline", optionalDict baselineDict row.baseline),
    ("conservative_probability", numberValue row.conservativeProbability),
    ("correlation_group", textValue row.correlationGroup),
    ("data_quality", numberValue row.dataQuality),
    ("estimated_probability", numberValue row.estimatedProbability),
    ("failure_risk", numberValue row.failureRisk),
    ("gates", .array (row.gates.map gateDict)),
    ("historical_reliability", numberValue row.historicalReliability),
    ("loss_risk_upper", numberValue row.lossRiskUpper),
    ("model_agreement", numberValue row.modelAgreement),
    ("model_sensitivity", floatValue row.modelSensitivity),
    ("preference", row.preference.toDict),
    ("push_probability", numberValue row.pushProbability),
    ("rank", optionalDict (fun rank : ℕ => .int rank) row.rank),
    ("rejection_reasons", textsValue row.rejectionReasons),
    ("role", .str (roleValue row.role)),
    ("selection_components",
      .mapping (row.selectionComponents.map fun entry => (entry.1, .float (.finite entry.2)))),
    ("selection_strength_reasons", textsValue row.selectionStrengthReasons),
    ("selection_strength", numberValue row.selectionStrength),
    ("selection_strength_interval",
      optionalDict (fun interval : ℚ × ℚ =>
        .array [.float (.finite interval.1), .float (.finite interval.2)])
        row.selectionStrengthInterval),
    ("status", .str (statusValue row.status)),
    ("supporting_case", textValue row.supportingCase),
    ("target_fixture_id", .str row.targetFixtureId),
    ("uncertainty_width", numberValue row.uncertaintyWidth),
    ("explanatory", .bool row.explanatory)]

def rowId (row : PreferenceVettingResult) : String := row.preference.preferenceId

def isProductionOutput (row : PreferenceVettingResult) : Bool :=
  row.status = .primaryRecommendation || row.status = .correlatedSecondaryFit

/-! ## The record of a match -/

/-- What a record is built from. -/
structure AuditFields where
  target : PyValue
  policyVersion : String
  policyStatus : PolicyStatus
  decision : MatchDecision
  preferenceResults : List PreferenceVettingResult
  policyDigest : String
  evidenceStateDigest : String
  researchPrimaryCandidate : Option PreferenceVettingResult
  researchSecondaryCandidates : List PreferenceVettingResult
  primaryRecommendation : Option PreferenceVettingResult
  secondaryFits : List PreferenceVettingResult
  avoidReason : Option String

namespace AuditFields

/-- The first check of the constructor that does not hold. -/
def integrityFault (fields : AuditFields) : Option String :=
  let primaryCount := fields.preferenceResults.countP fun row => row.role = .primaryRecommendation
  if ¬ (fields.preferenceResults.map rowId).Nodup then
    some "T15 audit contains duplicate preference results."
  else if fields.policyStatus = .researchOnly then
    if fields.primaryRecommendation.isSome || !fields.secondaryFits.isEmpty then
      some "Research-only audits cannot carry production recommendations."
    else if fields.preferenceResults.any isProductionOutput then
      some "Research-only audits cannot label a preference as production output."
    else if fields.decision ≠ .researchOnly ∧ fields.decision ≠ .researchAvoid then
      some "Research-only audits cannot carry production decisions."
    else none
  else if fields.decision = .play ∧ fields.primaryRecommendation.isNone then
    some "Production PLAY requires exactly one Primary Recommendation."
  else if fields.decision = .play ∧ primaryCount ≠ 1 then
    some "Production PLAY requires exactly one Primary Recommendation role."
  else if fields.decision ≠ .play ∧ (fields.primaryRecommendation.isSome ∨
      !fields.secondaryFits.isEmpty ∨ primaryCount ≠ 0) then
    some "Only production PLAY may carry production recommendations."
  else none

def payload (fields : AuditFields) : PyValue :=
  .mapping [
    ("decision", .str fields.decision.value),
    ("policy_status", .str fields.policyStatus.value),
    ("policy_digest", .str fields.policyDigest),
    ("policy_version", .str fields.policyVersion),
    ("preference_results", .array (fields.preferenceResults.map rowDict)),
    ("research_primary_candidate", textValue (fields.researchPrimaryCandidate.map rowId)),
    ("research_secondary_candidates", textsValue (fields.researchSecondaryCandidates.map rowId)),
    ("primary_recommendation", textValue (fields.primaryRecommendation.map rowId)),
    ("secondary_fits", textsValue (fields.secondaryFits.map rowId)),
    ("target", fields.target),
    ("evidence_state_digest", .str fields.evidenceStateDigest),
    ("avoid_reason", textValue fields.avoidReason)]

end AuditFields

/-- A record that has met its checks. -/
structure MatchVettingResult extends AuditFields where
  auditDigest : String
  intact : toAuditFields.integrityFault = none

/-- The constructor, with the digest it is given or the empty text. -/
def MatchVettingResult.create [Hashing] (fields : AuditFields) (auditDigest : String) :
    Except T15Error MatchVettingResult :=
  match hfault : fields.integrityFault with
  | some message => .error (.integrity message)
  | none =>
      match canonicalText fields.payload with
      | none => fail "T15 values must be finite."
      | some expected =>
          if auditDigest ≠ "" ∧ auditDigest ≠ sha256 expected then
            .error (.integrity "T15 match audit digest does not match its content.")
          else .ok { toAuditFields := fields, auditDigest := sha256 expected, intact := hfault }

/-! ## Labels -/

/-- The row explains the same non-empty correlation group as the primary row. -/
def sharesGroup (primary row : PreferenceVettingResult) : Bool :=
  match primary.correlationGroup with
  | none => false
  | some group => group ≠ "" && row.correlationGroup = some group && row.explanatory

def researchRole (primary row : PreferenceVettingResult) : PreferenceVettingResult :=
  if rowId row = rowId primary then { row with role := .researchPrimaryCandidate }
  else if sharesGroup primary row then
    { row with role := .researchCorrelatedSecondaryCandidate }
  else row

/-- The labelled rows, the primary one and the secondary ones. -/
structure Labelled where
  rows : List PreferenceVettingResult
  primary : Option PreferenceVettingResult
  secondary : List PreferenceVettingResult

/-- `_research_roles`. -/
def researchRoles (ranked : List PreferenceVettingResult) : Labelled :=
  match ranked with
  | [] => ⟨[], none, []⟩
  | primary :: _ =>
      let withRoles := ranked.map (researchRole primary)
      { rows := withRoles
        primary := withRoles.find? fun row => rowId row = rowId primary
        secondary := (ranked.filter fun row =>
          rowId row ≠ rowId primary && sharesGroup primary row).map (researchRole primary) }

def asPrimary (row : PreferenceVettingResult) : PreferenceVettingResult :=
  { row with status := .primaryRecommendation, role := .primaryRecommendation }

def asSecondaryFit (row : PreferenceVettingResult) : PreferenceVettingResult :=
  { row with status := .correlatedSecondaryFit, role := .correlatedSecondaryFit }

/-- `_production_roles`. -/
def productionRoles (ranked : List PreferenceVettingResult) : Labelled :=
  match ranked with
  | [] => ⟨[], none, []⟩
  | first :: rest =>
      { rows := asPrimary first ::
          rest.map fun row => if sharesGroup first row then asSecondaryFit row else row
        primary := some (asPrimary first)
        secondary := (rest.filter (sharesGroup first)).map asSecondaryFit }

/-- `_replace_ranked_results`. -/
def replaceRankedResults (allResults ranked : List PreferenceVettingResult) :
    List PreferenceVettingResult :=
  let byId := PyDict.ofPairs (ranked.map fun row => (rowId row, row))
  allResults.map fun row => (byId.get? (rowId row)).getD row

end Values

section Vetting

variable [PyRuntime] [Hashing]

/-! ## Vetting -/

def requiredThresholds : List String :=
  ["data_quality_min", "historical_reliability_min", "non_triviality_baseline_win_max",
    "non_triviality_min_lift", "conservative_probability_min", "loss_risk_max",
    "uncertainty_width_max", "uncertainty_tail_risk_max", "model_agreement_min",
    "model_sensitivity_max", "statistical_tie_tolerance"]

/-- `is not None` on a threshold. -/
def isSet : Option PyValue → Bool
  | none => false
  | some .none => false
  | some _ => true

/-- `validate_for_production`. -/
def validateForProduction (policy : PolicyVersion) (catalog : PreferenceCatalog) :
    Except T15Error Unit :=
  let missing := sortedSet (requiredThresholds.filter fun key =>
    !(catalog.preferences.any fun preference =>
      isSet (PolicyVersion.thresholdLookup policy.thresholds key (some preference))))
  if policy.status ≠ .productionPromoted then
    PolicyVersion.policyFail "A RESEARCH_ONLY policy cannot emit production decisions."
  else if catalog.version ≠ policy.catalogVersion ∨ catalog.digest ≠ policy.catalogDigest then
    PolicyVersion.policyFail "Policy and Preference Set identities do not match."
  else if !isTrue ((policy.promotionEvidence.get? "explicitly_promoted").getD .none) then
    PolicyVersion.policyFail
      "Production output requires an explicitly Production Promoted Policy Version."
  else if missing ≠ [] then
    PolicyVersion.policyFail
      ("Production Policy Version is missing frozen thresholds: " ++ ", ".intercalate missing)
  else
    match policy.selectionStrength with
    | none =>
        PolicyVersion.policyFail "Production Policy Version requires Selection Strength config."
    | some config =>
        if sortedSet config.transforms.keys ≠ sortedSet selectionComponents then
          PolicyVersion.policyFail "Production Selection Strength requires every transform."
        else if sortedSet config.normalizers.keys ≠ sortedSet selectionComponents then
          PolicyVersion.policyFail "Production Selection Strength requires every normalizer."
        else .ok ()

/-- What a promoted policy has to meet before anything is vetted. -/
def checkProduction (policy : PolicyVersion) (catalog : PreferenceCatalog) :
    Except T15Error Unit :=
  if policy.status = .productionPromoted then
    if catalog.version ≠ policy.catalogVersion ∨ catalog.digest ≠ policy.catalogDigest then
      PolicyVersion.policyFail "The active Preference Set does not match the Policy Version."
    else validateForProduction policy catalog
  else .ok ()

/-- The row of every preference; `inputs` is what `CandidateInput.from_value` makes of the
input under an identifier. -/
def vetPreferences (state predictions : PyValue) (policy : PolicyVersion)
    (inputs : String → Except T15Error CandidateInput) (catalog : PreferenceCatalog) :
    Except T15Error (List PreferenceVettingResult) :=
  catalog.preferences.mapM fun preference => do
    let candidate ← inputs preference.preferenceId
    resultForPreference state preference policy candidate predictions catalog

/-- The rows that can be ranked, in rank order. -/
def rankResults (sorter : Sorter PreferenceVettingResult) (policy : PolicyVersion)
    (results : List PreferenceVettingResult) : List PreferenceVettingResult :=
  let survivors := results.filter PreferenceVettingResult.isGateSurvivor
  let rankable := survivors.filter fun row => row.selectionStrength.isSome
  if policy.selectionStrength.isSome then rankSurvivors sorter policy rankable else []

/-- The fields that do not depend on the ranking. -/
def recordOf (state : PyValue) (policy : PolicyVersion) (policyDigest : String)
    (decision : MatchDecision) (rows : List PreferenceVettingResult)
    (avoidReason : Option String) : AuditFields where
  target := stateTarget state
  policyVersion := policy.version
  policyStatus := policy.status
  decision := decision
  preferenceResults := rows
  policyDigest := policyDigest
  evidenceStateDigest := display (read state "state_digest" (read state "digest" (.str "")))
  researchPrimaryCandidate := none
  researchSecondaryCandidates := []
  primaryRecommendation := none
  secondaryFits := []
  avoidReason := avoidReason

/-- The record that the ranking leads to. -/
def decideMatch (state : PyValue) (policy : PolicyVersion) (policyDigest : String)
    (results ranked : List PreferenceVettingResult) : AuditFields :=
  let record := recordOf state policy policyDigest
  let survives := results.any PreferenceVettingResult.isGateSurvivor
  match policy.status, ranked with
  | .researchOnly, _ :: _ =>
      let labelled := researchRoles ranked
      { record .researchOnly (replaceRankedResults results labelled.rows) none with
        researchPrimaryCandidate := labelled.primary
        researchSecondaryCandidates := labelled.secondary }
  | .researchOnly, [] =>
      if survives then
        record .researchOnly results (some "RESEARCH_SELECTION_STRENGTH_UNAVAILABLE")
      else
        record .researchAvoid results (some "RESEARCH_NO_PREFERENCE_PASSED_ABSOLUTE_GATES")
  | .productionPromoted, [] =>
      record .avoidMatch results
        (some (if survives then "SELECTION_STRENGTH_UNAVAILABLE"
          else "NO_PREFERENCE_PASSED_ABSOLUTE_GATES"))
  | .productionPromoted, _ :: _ =>
      let labelled := productionRoles ranked
      { record .play (replaceRankedResults results labelled.rows) none with
        primaryRecommendation := labelled.primary
        secondaryFits := labelled.secondary }

/-- `vet_target_match`, up to the constructor of its result. -/
def vetFields (sorter : Sorter PreferenceVettingResult) (state predictions : PyValue)
    (policy : PolicyVersion) (inputs : String → Except T15Error CandidateInput)
    (catalog : PreferenceCatalog) : Except T15Error AuditFields :=
  match stateTarget state with
  | .none => fail "T15 vetting requires a T09 frozen Evidence State target."
  | _ => do
      checkProduction policy catalog
      let results ← vetPreferences state predictions policy inputs catalog
      match policy.digest? with
      | none => fail "T15 values must be finite."
      | some policyDigest =>
          .ok (decideMatch state policy policyDigest results (rankResults sorter policy results))

/-- `vet_target_match`. -/
def vetTargetMatch (sorter : Sorter PreferenceVettingResult) (state predictions : PyValue)
    (policy : PolicyVersion) (inputs : String → Except T15Error CandidateInput)
    (catalog : PreferenceCatalog) : Except T15Error MatchVettingResult := do
  let fields ← vetFields sorter state predictions policy inputs catalog
  MatchVettingResult.create fields ""

end Vetting

end MatchVet.T15.Decision
