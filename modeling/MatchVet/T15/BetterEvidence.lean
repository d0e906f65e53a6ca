import MatchVet.T15.MissingEvidence

/-!
# Better evidence

A preference is vetted twice, the second time on evidence that is numerically no
worse.  Every threshold is compared in one direction, so a gate that passed still
passes, as long as the better numbers stay probabilities and the Conservative
Probability stays below the settlement distribution: the gates that check these
reject evidence for being too good.
-/

namespace MatchVet.T15.BetterEvidence

open MatchVet.Foundation.CanonicalJson
open MatchVet.Foundation.Dictionary
open MatchVet.Foundation.Runtime
open MatchVet.T10.Catalog
open MatchVet.T15.Candidate
open MatchVet.T15.Gates
open MatchVet.T15.MissingEvidence
open MatchVet.T15.Policy
open MatchVet.T15.Prediction
open MatchVet.T15.Ranking (homeWin)
open MatchVet.T15.Values
open MatchVet.T15.Vetting

/-! ## Numerically no worse -/

/-- Both numbers are absent, or both are present and the second is not lower. -/
def NotLower : Option ℚ → Option ℚ → Prop := Option.Rel fun first second => first ≤ second

/-- The second number is not higher. -/
def NotHigher : Option ℚ → Option ℚ → Prop := Option.Rel fun first second => second ≤ first

/-- The second float is a number not higher, when the first is a number. -/
def FloatNotHigher : Option PyFloat → Option PyFloat → Prop :=
  Option.Rel fun first second =>
    ∀ value, first = .finite value → ∃ other, second = .finite other ∧ other ≤ value

/-- Related options are both absent or both present. -/
theorem rel_cases {α : Type} {relation : α → α → Prop} {first second : Option α}
    (hrel : Option.Rel relation first second) :
    first = none ∧ second = none ∨
      ∃ before after, first = some before ∧ second = some after ∧ relation before after := by
  cases hrel with
  | none => exact Or.inl ⟨rfl, rfl⟩
  | some heach => exact Or.inr ⟨_, _, rfl, rfl, heach⟩

theorem notLower_refl (value : Option ℚ) : NotLower value value := by
  cases value with
  | none => exact .none
  | some number => exact .some le_rfl

theorem notHigher_refl (value : Option ℚ) : NotHigher value value := by
  cases value with
  | none => exact .none
  | some number => exact .some le_rfl

/-- A reading that prefers the candidate's own number. -/
theorem NotLower.orElse {first second firstOther secondOther : Option ℚ}
    (hfirst : NotLower first second) (hother : NotLower firstOther secondOther) :
    NotLower (orElse first firstOther) (orElse second secondOther) := by
  cases hfirst with
  | none => exact hother
  | some hle => exact .some hle

theorem NotHigher.orElse {first second firstOther secondOther : Option ℚ}
    (hfirst : NotHigher first second) (hother : NotHigher firstOther secondOther) :
    NotHigher (orElse first firstOther) (orElse second secondOther) := by
  cases hfirst with
  | none => exact hother
  | some hle => exact .some hle

theorem NotHigher.orElse_float {first second : Option ℚ} {firstOther secondOther : Option PyFloat}
    (hfirst : NotHigher first second) (hother : FloatNotHigher firstOther secondOther) :
    FloatNotHigher (Gates.orElse (first.map PyFloat.finite) firstOther)
      (Gates.orElse (second.map PyFloat.finite) secondOther) := by
  cases hfirst with
  | none => exact hother
  | @some value other hle =>
      refine .some fun found hfound => ⟨other, rfl, ?_⟩
      cases hfound
      exact hle

/-! ## Reasons -/

section Reasons

variable {first second : Option ℚ}

/-- A number that is not lower is not below a limit either. -/
theorem below_of_notLower (hbetter : NotLower first second) {limit : Option ℚ}
    (hbelow : below first limit = false) : below second limit = false := by
  cases hbetter with
  | none => rfl
  | some hle =>
      cases limit with
      | none => rfl
      | some least =>
          unfold below at hbelow ⊢
          rw [decide_eq_false_iff_not, not_lt] at hbelow ⊢
          exact hbelow.trans hle

/-- A number that is not higher does not exceed a limit either. -/
theorem above_of_notHigher (hbetter : NotHigher first second) {limit : Option ℚ}
    (habove : below limit first = false) : below limit second = false := by
  cases hbetter with
  | none =>
      cases limit with
      | none => rfl
      | some most => rfl
  | some hle =>
      cases limit with
      | none => rfl
      | some most =>
          unfold below at habove ⊢
          rw [decide_eq_false_iff_not, not_lt] at habove ⊢
          exact hle.trans habove

theorem minimumReason_better (hbetter : NotLower first second) {missing short : String}
    {minimum : Option ℚ} (hnone : minimumReason missing short minimum first = []) :
    minimumReason missing short minimum second = [] := by
  cases minimum with
  | none => exact absurd hnone (List.cons_ne_nil _ _)
  | some least =>
      cases hbetter with
      | none => exact hnone
      | some hle =>
          unfold minimumReason at hnone ⊢
          rw [reasonIf_eq_nil, decide_eq_false_iff_not, not_lt] at hnone ⊢
          exact hnone.trans hle

theorem dimensionReason_better (hbetter : NotLower first second)
    {unresolved missing short : String} {threshold : String × PyValue} [PyRuntime]
    (hnone : dimensionReason unresolved missing short first threshold = []) :
    dimensionReason unresolved missing short second threshold = [] := by
  unfold dimensionReason at hnone ⊢
  cases hminimum : optionalFloat threshold.2 with
  | none =>
      rw [hminimum] at hnone
      exact absurd hnone (List.cons_ne_nil _ _)
  | some least =>
      rw [hminimum] at hnone
      cases hbetter with
      | none => exact hnone
      | some hle =>
          dsimp only at hnone ⊢
          rw [reasonIf_eq_nil, decide_eq_false_iff_not, not_lt] at hnone ⊢
          exact hnone.trans hle

theorem sampleReasons_better (hbetter : NotLower first second) {minimum : Option ℚ}
    (hnone : sampleReasons minimum first = []) : sampleReasons minimum second = [] := by
  cases minimum with
  | none => rfl
  | some least =>
      cases hbetter with
      | none => exact hnone
      | some hle =>
          unfold sampleReasons at hnone ⊢
          rw [reasonIf_eq_nil, decide_eq_false_iff_not, not_lt] at hnone ⊢
          exact hnone.trans hle

/-- A higher lift is never more trivial. -/
theorem liftReasons_better (hbetter : NotLower first second) {explicit structural : Option Bool}
    {win : ℚ} {baselineMax liftMin : Option ℚ}
    (hnone : liftReasons explicit structural win first baselineMax liftMin = []) :
    liftReasons explicit structural win second baselineMax liftMin = [] := by
  have hbelow : ∀ limit, below first limit = false → below second limit = false :=
    fun limit => below_of_notLower hbetter
  unfold liftReasons at hnone ⊢
  split at hnone
  · split at hnone
    next highest least =>
      split at hnone
      next hhigh =>
        rw [if_pos hhigh]
        cases hbetter with
        | none => exact hnone
        | some hle =>
            dsimp only at hnone ⊢
            rw [reasonIf_eq_nil] at hnone ⊢
            exact hbelow _ hnone
      next hlow =>
        rw [if_neg hlow]
        rw [reasonIf_eq_nil] at hnone ⊢
        exact hbelow _ hnone
    · exact absurd hnone (List.cons_ne_nil _ _)
  · rw [reasonIf_eq_nil, Bool.and_eq_false_iff] at hnone ⊢
    exact hnone.imp id fun hlift => hbelow _ hlift

/-- A Conservative Probability that is not lower and still a probability. -/
theorem conservativeReasons_better (hbetter : NotLower first second)
    (hvalid : ∀ value ∈ second, value ≤ 1) {minimum : Option ℚ}
    (hnone : conservativeReasons minimum first = []) :
    conservativeReasons minimum second = [] := by
  have hbelow := fun hfirst => @below_of_notLower first second hbetter minimum hfirst
  cases hbetter with
  | none => exact hnone
  | some hle =>
      unfold conservativeReasons at hnone ⊢
      dsimp only at hnone ⊢
      split at hnone
      next hunit =>
        rw [if_pos ⟨hunit.1.trans hle, hvalid _ rfl⟩]
        rw [reasonIf_eq_nil] at hnone ⊢
        exact hbelow hnone
      · exact absurd hnone (List.cons_ne_nil _ _)

theorem agreementReasons_better (hbetter : NotLower first second)
    (hvalid : ∀ value ∈ second, value ≤ 1) {minimum : Option ℚ}
    (hnone : agreementReasons minimum first = []) : agreementReasons minimum second = [] := by
  have hbelow := fun hfirst => @below_of_notLower first second hbetter minimum hfirst
  cases hbetter with
  | none => exact hnone
  | some hle =>
      unfold agreementReasons at hnone ⊢
      dsimp only at hnone ⊢
      split at hnone
      next hunit =>
        rw [if_pos ⟨hunit.1.trans hle, hvalid _ rfl⟩]
        rw [reasonIf_eq_nil] at hnone ⊢
        exact hbelow hnone
      · exact absurd hnone (List.cons_ne_nil _ _)

theorem lossReasons_better (hbetter : NotHigher first second)
    (hvalid : ∀ value ∈ second, 0 ≤ value) {most : Option ℚ}
    (hnone : lossReasons most first = []) : lossReasons most second = [] := by
  have habove := fun hfirst => @above_of_notHigher first second hbetter most hfirst
  cases hbetter with
  | none => exact hnone
  | some hle =>
      unfold lossReasons at hnone ⊢
      dsimp only at hnone ⊢
      split at hnone
      next hunit =>
        rw [if_pos ⟨hvalid _ rfl, hle.trans hunit.2⟩]
        rw [reasonIf_eq_nil] at hnone ⊢
        exact habove hnone
      · exact absurd hnone (List.cons_ne_nil _ _)

theorem ceilingReason_better (hbetter : NotHigher first second)
    (hvalid : ∀ value ∈ second, 0 ≤ value) {missing excess : String} {ceiling : Option ℚ}
    (hnone : ceilingReason missing excess first ceiling = []) :
    ceilingReason missing excess second ceiling = [] := by
  have habove := fun hfirst => @above_of_notHigher first second hbetter ceiling hfirst
  cases hbetter with
  | none => exact hnone
  | some hle =>
      unfold ceilingReason at hnone ⊢
      dsimp only at hnone ⊢
      rw [reasonIf_eq_nil, Bool.or_eq_false_iff, Bool.not_eq_false', decide_eq_true_eq] at hnone ⊢
      exact ⟨⟨hvalid _ rfl, hle.trans hnone.1.2⟩, habove hnone.2⟩

theorem sensitivityReasons_better {first second : Option PyFloat}
    (hbetter : FloatNotHigher first second)
    (hvalid : ∀ value, second = some (.finite value) → 0 ≤ value) {most : Option ℚ}
    (hnone : sensitivityReasons most first = []) : sensitivityReasons most second = [] := by
  cases hbetter with
  | none => exact hnone
  | @some left right hle =>
      cases left with
      | finite value =>
          obtain ⟨other, rfl, hother⟩ := hle value rfl
          unfold sensitivityReasons at hnone ⊢
          dsimp only at hnone ⊢
          split at hnone
          next hunit =>
            rw [if_pos ⟨hvalid other rfl, hother.trans hunit.2⟩]
            rw [reasonIf_eq_nil] at hnone ⊢
            exact above_of_notHigher (.some hother) hnone
          · exact absurd hnone (List.cons_ne_nil _ _)
      | infinite negative => exact absurd hnone (List.cons_ne_nil _ _)
      | nan => exact absurd hnone (List.cons_ne_nil _ _)

/-- A Conservative Probability that the settlement distribution bears out. -/
def BorneOut [PyRuntime] (win conservative : Option ℚ) : Prop :=
  ∀ value ∈ conservative, value ≤ 1 ∧
    ∀ reference ∈ win, value ≤ nearest (reference + decimalFloat 8)

theorem probabilityReasons_better [PyRuntime] (hbetter : NotLower first second)
    {win estimated : Option ℚ} (hvalid : BorneOut win second)
    (hnone : probabilityReasons win estimated first = []) :
    probabilityReasons win estimated second = [] := by
  unfold probabilityReasons at hnone ⊢
  rw [List.append_eq_nil_iff] at hnone ⊢
  refine ⟨hnone.1, ?_⟩
  cases hbetter with
  | none => rfl
  | some hle =>
      obtain ⟨hone, hwin⟩ := hvalid _ rfl
      have hconservative := hnone.2
      dsimp only at hconservative ⊢
      split at hconservative
      next hunit =>
        rw [if_pos ⟨hunit.1.trans hle, hone⟩]
        cases win with
        | none => rfl
        | some reference =>
            rw [reasonIf_eq_nil, decide_eq_false_iff_not, not_lt]
            exact hwin reference rfl
      · exact absurd hconservative (List.cons_ne_nil _ _)

theorem borneOut_of_probabilityReasons [PyRuntime] {win estimated conservative : Option ℚ}
    (hnone : probabilityReasons win estimated conservative = []) : BorneOut win conservative := by
  unfold probabilityReasons at hnone
  rw [List.append_eq_nil_iff] at hnone
  rintro value ⟨rfl⟩
  have hconservative := hnone.2
  dsimp only at hconservative
  split at hconservative
  next hunit =>
    refine ⟨hunit.2, ?_⟩
    rintro reference ⟨rfl⟩
    dsimp only at hconservative
    rwa [reasonIf_eq_nil, decide_eq_false_iff_not, not_lt] at hconservative
  · exact absurd hconservative (List.cons_ne_nil _ _)

theorem unit_of_ceilingReason {missing excess : String} {value ceiling : Option ℚ}
    (hnone : ceilingReason missing excess value ceiling = []) : ∀ found ∈ value, 0 ≤ found := by
  rintro found ⟨rfl⟩
  unfold ceilingReason at hnone
  dsimp only at hnone
  rw [reasonIf_eq_nil, Bool.or_eq_false_iff, Bool.not_eq_false', decide_eq_true_eq] at hnone
  exact hnone.1.1

theorem reviewReasons_better {review other : AdversarialReview}
    (hcomplete : other.complete = review.complete)
    (hbacked : other.evidenceBacked = review.evidenceBacked) (hveto : other.veto = review.veto)
    (hrepresented : other.representedInUncertainty = review.representedInUncertainty)
    (hmaterial : other.materiality ≤ review.materiality) {most : Option ℚ}
    (hnone : reviewReasons review most = []) : reviewReasons other most = [] := by
  unfold reviewReasons at hnone ⊢
  rw [List.append_eq_nil_iff] at hnone ⊢
  rw [hcomplete, hbacked, hveto, hrepresented]
  refine ⟨hnone.1, ?_⟩
  have hrisk := hnone.2
  rw [reasonIf_eq_nil, Bool.and_eq_false_iff] at hrisk ⊢
  exact hrisk.imp id fun habove => above_of_notHigher (.some hmaterial) habove

end Reasons

/-! ## Gates that still pass -/

/-- The second gate passes when the first one does. -/
structure StillPasses (first second : GateResult) : Prop where
  gateId : second.gateId = first.gateId
  status : first.status = .pass → second.status = .pass

/-- Where the first gate is computed, the second one is too, and passes when it does. -/
def GateKept (first second : Except T15Error GateResult) : Prop :=
  ∀ gate, first = .ok gate → ∃ other, second = .ok other ∧ StillPasses gate other

theorem stillPasses_checked {gateId : GateId} {reasons otherReasons : List String}
    (hreasons : reasons = [] → otherReasons = []) (details otherDetails : Entries) :
    StillPasses (checkedGate gateId reasons details)
      (checkedGate gateId otherReasons otherDetails) :=
  ⟨rfl, fun hpass => (checkedGate_status_eq_pass _ _ _).mpr
    (hreasons ((checkedGate_status_eq_pass _ _ _).mp hpass))⟩

theorem gateKept_ok {first second : GateResult} (hkept : StillPasses first second) :
    GateKept (.ok first) (.ok second) := by
  intro gate hgate
  cases hgate
  exact ⟨second, rfl, hkept⟩

theorem gateKept_refl (call : Except T15Error GateResult) : GateKept call call :=
  fun gate hgate => ⟨gate, hgate, rfl, id⟩

/-- Gates that read the same threshold first. -/
theorem gateKept_bind {α : Type} {call : Except T15Error α}
    {next otherNext : α → Except T15Error GateResult}
    (hnext : ∀ value, GateKept (next value) (otherNext value)) :
    GateKept (call >>= next) (call >>= otherNext) := by
  intro gate hgate
  obtain ⟨value, hvalue, hrest⟩ := bind_eq_ok.mp hgate
  obtain ⟨other, hother, hkept⟩ := hnext value gate hrest
  exact ⟨other, bind_eq_ok.mpr ⟨value, hvalue, hother⟩, hkept⟩

/-! ## Two inputs -/

section TwoInputs

variable [PyRuntime]

/-- The second prediction differs from the first one in numbers that are no worse. -/
structure BetterView (preference : BettingPreference) (first second : PredictionView) : Prop where
  status : second.status = first.status
  family : second.family = first.family
  targetFixtureId : second.targetFixtureId = first.targetFixtureId
  matchweekId : second.matchweekId = first.matchweekId
  modelVersion : second.modelVersion = first.modelVersion
  modelDigest : second.modelDigest = first.modelDigest
  calibrationVersion : second.calibrationVersion = first.calibrationVersion
  predictionDigest : second.predictionDigest = first.predictionDigest
  digest : read second.raw "digest" .none = read first.raw "digest" .none
  settlement : settlementOf second preference = settlementOf first preference
  estimated : estimatedOf second preference = estimatedOf first preference
  conservative : NotLower (conservativeOf first preference) (conservativeOf second preference)
  lossUpper : NotHigher (lossUpperOf first preference) (lossUpperOf second preference)
  width : NotHigher (intervalWidth first preference.preferenceId)
    (intervalWidth second preference.preferenceId)
  tail : NotHigher (optionalFloat (uncertaintyEntry (some first) "tail_risk" "tail_risk"))
    (optionalFloat (uncertaintyEntry (some second) "tail_risk" "tail_risk"))
  reliable : uncertaintyEntry (some second) "empirical_coverage_validated"
      "uncertainty_reliability_validated" =
    uncertaintyEntry (some first) "empirical_coverage_validated"
      "uncertainty_reliability_validated"
  agreement : NotLower first.modelAgreement second.modelAgreement
  sensitivity : FloatNotHigher (sensitivityValue (some first) preference.preferenceId)
    (sensitivityValue (some second) preference.preferenceId)

/-- The second baseline differs from the first one in a lift that is not lower; no gate
reads its sample. -/
structure BetterBaseline (first second : HistoricalBaseline) : Prop where
  contract : second.contract = first.contract
  structural : second.structuralTrivial = first.structuralTrivial
  win : second.winProbability = first.winProbability
  lift : NotLower first.matchSpecificLift second.matchSpecificLift

/-- The second review differs from the first one in a materiality that is not higher. -/
structure BetterReview (first second : AdversarialReview) : Prop where
  complete : second.complete = first.complete
  backed : second.evidenceBacked = first.evidenceBacked
  veto : second.veto = first.veto
  represented : second.representedInUncertainty = first.representedInUncertainty
  materiality : second.materiality ≤ first.materiality

/-- The second candidate differs from the first one in numbers that are no worse. -/
structure BetterCandidate (first second : NormalizedCandidate) : Prop where
  quality : NotLower (qualityOverall first.dataQuality) (qualityOverall second.dataQuality)
  qualityDimensions : ∀ name,
    NotLower (qualityScore first.dataQuality name) (qualityScore second.dataQuality name)
  reliabilityPresent :
    second.historicalReliability.isSome = first.historicalReliability.isSome
  reliability : NotLower (reliabilityOverall first.historicalReliability)
    (reliabilityOverall second.historicalReliability)
  reliabilityDimensions : ∀ name, NotLower (reliabilityScore first.historicalReliability name)
    (reliabilityScore second.historicalReliability name)
  sample : NotLower (reliabilitySample first.historicalReliability)
    (reliabilitySample second.historicalReliability)
  baseline : Option.Rel BetterBaseline first.baseline second.baseline
  nonTrivial : second.nonTrivial = first.nonTrivial
  review : Option.Rel BetterReview first.adversarialReview second.adversarialReview
  width : NotHigher first.uncertaintyWidth second.uncertaintyWidth
  tail : NotHigher first.uncertaintyTailRisk second.uncertaintyTailRisk
  reliable : second.uncertaintyReliable = first.uncertaintyReliable
  agreement : NotLower first.modelAgreement second.modelAgreement
  sensitivity : NotHigher first.modelSensitivity second.modelSensitivity

theorem BetterCandidate.refl (candidate : NormalizedCandidate) :
    BetterCandidate candidate candidate where
  quality := notLower_refl _
  qualityDimensions _ := notLower_refl _
  reliabilityPresent := rfl
  reliability := notLower_refl _
  reliabilityDimensions _ := notLower_refl _
  sample := notLower_refl _
  baseline := by
    cases candidate.baseline with
    | none => exact .none
    | some baseline => exact .some ⟨rfl, rfl, rfl, notLower_refl _⟩
  nonTrivial := rfl
  review := by
    cases candidate.adversarialReview with
    | none => exact .none
    | some review => exact .some ⟨rfl, rfl, rfl, rfl, le_rfl⟩
  width := notHigher_refl _
  tail := notHigher_refl _
  reliable := rfl
  agreement := notLower_refl _
  sensitivity := notHigher_refl _

/-- The width the uncertainty gate compares. -/
def candidateWidth (view : Option PredictionView) (candidate : NormalizedCandidate)
    (preference : BettingPreference) : Option ℚ :=
  orElse candidate.uncertaintyWidth
    (view.bind fun selected => intervalWidth selected preference.preferenceId)

/-- The tail risk the uncertainty gate compares. -/
def candidateTail (view : Option PredictionView) (candidate : NormalizedCandidate) : Option ℚ :=
  orElse candidate.uncertaintyTailRisk
    (optionalFloat (uncertaintyEntry view "tail_risk" "tail_risk"))

/-- The numbers that a better input could move out of their range are still in it. -/
structure InRange (preference : BettingPreference) (candidate : NormalizedCandidate)
    (view : Option PredictionView) : Prop where
  conservative : ∀ selected ∈ view,
    BorneOut (probability (settlementOf selected preference) winNames)
      (conservativeOf selected preference)
  lossUpper : ∀ selected ∈ view, ∀ value ∈ lossUpperOf selected preference, 0 ≤ value
  width : ∀ value ∈ candidateWidth view candidate preference, 0 ≤ value
  tail : ∀ value ∈ candidateTail view candidate, 0 ≤ value
  agreement : ∀ value ∈ candidateAgreement view candidate, value ≤ 1
  sensitivity : ∀ value,
    candidateSensitivity view candidate preference = some (.finite value) → 0 ≤ value

/-! ## Gate by gate -/

variable {preference : BettingPreference} {first second : NormalizedCandidate}
  {firstView secondView : Option PredictionView}

theorem g0Gate_better (hview : Option.Rel (BetterView preference) firstView secondView)
    (hrange : InRange preference second secondView) (state target : PyValue)
    (catalog : PreferenceCatalog) :
    StillPasses (g0Gate state target firstView preference catalog)
      (g0Gate state target secondView preference catalog) := by
  refine stillPasses_checked (fun hnone => ?_) _ _
  rw [List.append_eq_nil_iff] at hnone ⊢
  refine ⟨hnone.1, ?_⟩
  have hreasons := hnone.2
  cases hview with
  | none => exact hreasons
  | @some before after hbetter =>
      have hvalid := hrange.conservative after rfl
      unfold predictionReasons at hreasons ⊢
      dsimp only at hreasons ⊢
      rw [List.append_eq_nil_iff] at hreasons ⊢
      rw [hbetter.settlement] at hvalid ⊢
      rw [hbetter.estimated]
      have hidentity : identityReasons after preference target =
          identityReasons before preference target := by
        unfold identityReasons
        rw [hbetter.status, hbetter.family, hbetter.targetFixtureId, hbetter.matchweekId,
          hbetter.modelVersion, hbetter.modelDigest, hbetter.calibrationVersion,
          hbetter.predictionDigest, hbetter.digest]
      exact ⟨hidentity ▸ hreasons.1,
        probabilityReasons_better hbetter.conservative hvalid hreasons.2⟩

theorem sufficiencyGate_better (hbetter : BetterCandidate first second) (state : PyValue) :
    StillPasses (sufficiencyGate state preference first.adversarialReview)
      (sufficiencyGate state preference second.adversarialReview) := by
  have hreview : reviewIncomplete second.adversarialReview =
      reviewIncomplete first.adversarialReview := by
    rcases rel_cases hbetter.review with ⟨hfirst, hsecond⟩ | ⟨before, after, hfirst, hsecond, heach⟩
    · rw [hfirst, hsecond]
    · rw [hfirst, hsecond]
      exact congrArg (!·) heach.complete
  unfold sufficiencyGate
  dsimp only
  rw [hreview]
  exact ⟨by split <;> rfl, id⟩

/-- The numbers the gates read from a candidate or its view. -/
theorem candidateWidth_better (hbetter : BetterCandidate first second)
    (hview : Option.Rel (BetterView preference) firstView secondView) :
    NotHigher (candidateWidth firstView first preference)
      (candidateWidth secondView second preference) := by
  refine hbetter.width.orElse ?_
  cases hview with
  | none => exact .none
  | some heach => exact heach.width

theorem candidateTail_better (hbetter : BetterCandidate first second)
    (hview : Option.Rel (BetterView preference) firstView secondView) :
    NotHigher (candidateTail firstView first) (candidateTail secondView second) := by
  refine hbetter.tail.orElse ?_
  cases hview with
  | none => exact .none
  | some heach => exact heach.tail

theorem candidateAgreement_better (hbetter : BetterCandidate first second)
    (hview : Option.Rel (BetterView preference) firstView secondView) :
    NotLower (candidateAgreement firstView first) (candidateAgreement secondView second) := by
  refine hbetter.agreement.orElse ?_
  cases hview with
  | none => exact .none
  | some heach => exact heach.agreement

theorem candidateSensitivity_better (hbetter : BetterCandidate first second)
    (hview : Option.Rel (BetterView preference) firstView secondView) :
    FloatNotHigher (candidateSensitivity firstView first preference)
      (candidateSensitivity secondView second preference) := by
  refine hbetter.sensitivity.orElse_float ?_
  cases hview with
  | none => exact .none
  | some heach => exact heach.sensitivity

variable [Hashing]

theorem g2Gate_better (hbetter : BetterCandidate first second) (state : PyValue)
    (policy : PolicyVersion) :
    GateKept (g2Gate state preference first policy) (g2Gate state preference second policy) := by
  refine gateKept_bind fun minimum => gateKept_ok (stillPasses_checked (fun hnone => ?_) _ _)
  unfold g2Reasons at hnone ⊢
  dsimp only at hnone ⊢
  rw [List.append_eq_nil_iff, List.append_eq_nil_iff, List.flatMap_eq_nil_iff] at hnone ⊢
  exact ⟨⟨hnone.1.1, minimumReason_better hbetter.quality hnone.1.2⟩, fun threshold hmem =>
    dimensionReason_better (hbetter.qualityDimensions threshold.1) (hnone.2 threshold hmem)⟩

theorem g3Gate_better (hbetter : BetterCandidate first second) (policy : PolicyVersion) :
    GateKept (g3Gate preference first policy) (g3Gate preference second policy) := by
  refine gateKept_bind fun minimum => gateKept_ok (stillPasses_checked (fun hnone => ?_) _ _)
  have hthresholds : reliabilityThresholds second.historicalReliability policy =
      reliabilityThresholds first.historicalReliability policy := by
    unfold reliabilityThresholds
    rw [hbetter.reliabilityPresent]
  unfold g3Reasons at hnone ⊢
  rw [List.append_eq_nil_iff, List.append_eq_nil_iff, List.flatMap_eq_nil_iff] at hnone ⊢
  rw [hthresholds]
  exact ⟨⟨minimumReason_better hbetter.reliability hnone.1.1, fun threshold hmem =>
    dimensionReason_better (hbetter.reliabilityDimensions threshold.1)
      (hnone.1.2 threshold hmem)⟩, sampleReasons_better hbetter.sample hnone.2⟩

theorem g4Gate_better (hbetter : BetterCandidate first second) (policy : PolicyVersion) :
    GateKept (g4Gate preference first policy) (g4Gate preference second policy) := by
  unfold g4Gate
  rcases rel_cases hbetter.baseline with ⟨hfirst, hsecond⟩ |
    ⟨before, after, hfirst, hsecond, heach⟩
  · rw [hfirst, hsecond]
    exact gateKept_refl _
  · rw [hfirst, hsecond]
    have hreadable : contractReadable after = contractReadable before := by
      unfold contractReadable
      rw [heach.contract]
    have hcontract : contractReasons preference after second.nonTrivial =
        contractReasons preference before first.nonTrivial := by
      unfold contractReasons
      rw [heach.contract, heach.structural, hbetter.nonTrivial]
    dsimp only
    rw [hreadable, hcontract, hbetter.nonTrivial, heach.structural, heach.win]
    split
    · refine gateKept_bind fun baselineMax => gateKept_bind fun liftMin =>
        gateKept_ok (stillPasses_checked (fun hnone => ?_) _ _)
      rw [List.append_eq_nil_iff] at hnone ⊢
      exact ⟨hnone.1, liftReasons_better heach.lift hnone.2⟩
    · exact gateKept_refl _

theorem g5Gate_better (hview : Option.Rel (BetterView preference) firstView secondView)
    (hrange : InRange preference second secondView) (policy : PolicyVersion) :
    GateKept (g5Gate firstView preference policy) (g5Gate secondView preference policy) := by
  refine gateKept_bind fun minimum => gateKept_bind fun lossMax =>
    gateKept_ok (stillPasses_checked (fun hnone => ?_) _ _)
  rw [List.append_eq_nil_iff, List.append_eq_nil_iff] at hnone ⊢
  cases hview with
  | none => exact hnone
  | @some before after heach =>
      exact ⟨⟨hnone.1.1, conservativeReasons_better heach.conservative
        (fun value hvalue => (hrange.conservative after rfl value hvalue).1) hnone.1.2⟩,
        lossReasons_better heach.lossUpper (hrange.lossUpper after rfl) hnone.2⟩

theorem g6Gate_better (hbetter : BetterCandidate first second)
    (hview : Option.Rel (BetterView preference) firstView secondView)
    (hrange : InRange preference second secondView) (policy : PolicyVersion) :
    GateKept (g6Gate firstView first preference policy)
      (g6Gate secondView second preference policy) := by
  have hreliable : uncertaintyEntry secondView "empirical_coverage_validated"
        "uncertainty_reliability_validated" =
      uncertaintyEntry firstView "empirical_coverage_validated"
        "uncertainty_reliability_validated" := by
    cases hview with
    | none => rfl
    | some heach => exact heach.reliable
  refine gateKept_bind fun widthMax => gateKept_bind fun tailMax =>
    gateKept_ok (stillPasses_checked (fun hnone => ?_) _ _)
  rw [List.append_eq_nil_iff, List.append_eq_nil_iff, List.append_eq_nil_iff] at hnone ⊢
  rw [hreliable, hbetter.reliable]
  exact ⟨⟨⟨hnone.1.1.1,
    ceilingReason_better (candidateWidth_better hbetter hview) hrange.width hnone.1.1.2⟩,
    ceilingReason_better (candidateTail_better hbetter hview) hrange.tail hnone.1.2⟩, hnone.2⟩

theorem g7Gate_better (hbetter : BetterCandidate first second)
    (hview : Option.Rel (BetterView preference) firstView secondView)
    (hrange : InRange preference second secondView) (policy : PolicyVersion) :
    GateKept (g7Gate firstView first preference policy)
      (g7Gate secondView second preference policy) := by
  refine gateKept_bind fun agreementMin => gateKept_bind fun sensitivityMax =>
    gateKept_ok (stillPasses_checked (fun hnone => ?_) _ _)
  rw [List.append_eq_nil_iff, List.append_eq_nil_iff] at hnone ⊢
  exact ⟨⟨hnone.1.1, agreementReasons_better (candidateAgreement_better hbetter hview)
    hrange.agreement hnone.1.2⟩, sensitivityReasons_better
      (candidateSensitivity_better hbetter hview) hrange.sensitivity hnone.2⟩

theorem g8Gate_better (hbetter : BetterCandidate first second) (policy : PolicyVersion) :
    GateKept (g8Gate first policy preference) (g8Gate second policy preference) := by
  unfold g8Gate
  rcases rel_cases hbetter.review with ⟨hfirst, hsecond⟩ | ⟨before, after, hfirst, hsecond, heach⟩
  · rw [hfirst, hsecond]
    exact gateKept_refl _
  · rw [hfirst, hsecond]
    refine gateKept_bind fun most => gateKept_ok (stillPasses_checked (fun hnone => ?_) _ _)
    exact reviewReasons_better heach.complete heach.backed heach.veto heach.represented
      heach.materiality hnone

/-! ## All nine gates -/

variable {state : PyValue} {policy : PolicyVersion} {catalog : PreferenceCatalog}

theorem vettingGates_better (hbetter : BetterCandidate first second)
    (hview : Option.Rel (BetterView preference) firstView secondView)
    (hrange : InRange preference second secondView) {gates : List GateResult}
    (hgates : vettingGates state preference policy first firstView catalog = .ok gates) :
    ∃ others, vettingGates state preference policy second secondView catalog = .ok others ∧
      List.Forall₂ StillPasses gates others := by
  simp only [vettingGates, bind_eq_ok] at hgates
  obtain ⟨two, htwo, three, hthree, four, hfour, five, hfive, six, hsix, seven, hseven, eight,
    height, heq⟩ := hgates
  cases heq
  obtain ⟨two', htwo', hkeptTwo⟩ := g2Gate_better hbetter state policy two htwo
  obtain ⟨three', hthree', hkeptThree⟩ := g3Gate_better hbetter policy three hthree
  obtain ⟨four', hfour', hkeptFour⟩ := g4Gate_better hbetter policy four hfour
  obtain ⟨five', hfive', hkeptFive⟩ := g5Gate_better hview hrange policy five hfive
  obtain ⟨six', hsix', hkeptSix⟩ := g6Gate_better hbetter hview hrange policy six hsix
  obtain ⟨seven', hseven', hkeptSeven⟩ := g7Gate_better hbetter hview hrange policy seven hseven
  obtain ⟨eight', height', hkeptEight⟩ := g8Gate_better hbetter policy eight height
  refine ⟨_, ?_, .cons (g0Gate_better hview hrange state (stateTarget state) catalog)
    (.cons (sufficiencyGate_better hbetter state) (.cons hkeptTwo (.cons hkeptThree
      (.cons hkeptFour (.cons hkeptFive (.cons hkeptSix (.cons hkeptSeven
        (.cons hkeptEight .nil))))))))⟩
  simp only [vettingGates, bind_eq_ok]
  exact ⟨two', htwo', three', hthree', four', hfour', five', hfive', six', hsix', seven', hseven',
    eight', height', rfl⟩

omit [PyRuntime] [Hashing] in
theorem all_pass_of_stillPasses {gates others : List GateResult}
    (hkept : List.Forall₂ StillPasses gates others)
    (hall : (gates.all fun item => item.status = .pass) = true) :
    (others.all fun item => item.status = .pass) = true := by
  induction hkept with
  | nil => rfl
  | cons heach _ ih =>
      rw [List.all_cons, Bool.and_eq_true, decide_eq_true_eq] at hall ⊢
      exact ⟨heach.status hall.1, ih hall.2⟩

/-- On better evidence in range every gate that passed still passes, and a survivor
survives. -/
theorem gates_monotone {candidate other : CandidateInput} {predictions otherPredictions : PyValue}
    (hnormal : candidate.normalized = .ok first) (hother : other.normalized = .ok second)
    (hbetter : BetterCandidate first second)
    (hview : Option.Rel (BetterView preference) (predictionFor predictions preference)
      (predictionFor otherPredictions preference))
    (hrange : InRange preference second (predictionFor otherPredictions preference))
    {result : PreferenceVettingResult}
    (hresult : resultForPreference state preference policy candidate predictions catalog =
      .ok result) :
    ∃ better, resultForPreference state preference policy other otherPredictions catalog =
        .ok better ∧ List.Forall₂ StillPasses result.gates better.gates ∧
      (result.isGateSurvivor = true → better.isGateSurvivor = true) := by
  simp only [resultForPreference, resultForView, bind_eq_ok] at hresult ⊢
  obtain ⟨found, hfound, gates, hgates, heq⟩ := hresult
  rw [hnormal] at hfound
  cases hfound
  cases heq
  obtain ⟨others, hothers, hkept⟩ := vettingGates_better hbetter hview hrange hgates
  exact ⟨_, ⟨second, hother, others, hothers, rfl⟩, hkept, all_pass_of_stillPasses hkept⟩

/-! ## Survivors are in range -/

/-- The gates refuse a number that left its range. -/
theorem inRange_of_survives {candidate : CandidateInput} {predictions : PyValue}
    (hnormal : candidate.normalized = .ok first)
    (hsurvives : Survives state preference policy candidate predictions catalog) :
    InRange preference first (predictionFor predictions preference) := by
  obtain ⟨gates, -⟩ := (survives_iff hnormal).mp hsurvives
  have hzero := (checkedGate_status_eq_pass _ _ _).mp gates.supported
  have hfive := gates.probability
  have hsix := gates.uncertainty
  have hseven := gates.agreement
  simp only [g5Gate, g6Gate, g7Gate, passes_bind, passes_checked, List.append_eq_nil_iff]
    at hzero hfive hsix hseven
  obtain ⟨-, -, lossMax, -, -, hloss⟩ := hfive
  obtain ⟨widthMax, -, tailMax, -, ⟨⟨-, hwidth⟩, htail⟩, -⟩ := hsix
  obtain ⟨agreementMin, -, sensitivityMax, -, ⟨-, hagreement⟩, hsensitivity⟩ := hseven
  refine ⟨fun selected hselected => ?_, fun selected hselected value hvalue => ?_,
    unit_of_ceilingReason hwidth, unit_of_ceilingReason htail, fun value hvalue => ?_,
    fun value hvalue => ?_⟩
  · have hprediction := hzero.2
    rw [hselected] at hprediction
    unfold predictionReasons at hprediction
    rw [List.append_eq_nil_iff] at hprediction
    exact borneOut_of_probabilityReasons hprediction.2
  · rw [hselected, Option.bind_some, hvalue] at hloss
    unfold lossReasons at hloss
    dsimp only at hloss
    split at hloss
    next hunit => exact hunit.1
    · exact absurd hloss (List.cons_ne_nil _ _)
  · rw [hvalue] at hagreement
    unfold agreementReasons at hagreement
    dsimp only at hagreement
    split at hagreement
    next hunit => exact hunit.2
    · exact absurd hagreement (List.cons_ne_nil _ _)
  · rw [hvalue] at hsensitivity
    unfold sensitivityReasons at hsensitivity
    dsimp only at hsensitivity
    split at hsensitivity
    next hunit => exact hunit.1
    · exact absurd hsensitivity (List.cons_ne_nil _ _)

end TwoInputs

/-! ## A home win on reported numbers -/

section HomeWin

local instance : PyRuntime := plainRuntime

local instance : Hashing := textHashing

/-- The numbers of a prediction that the gates compare. -/
structure Reported where
  conservative : ℚ
  lossUpper : ℚ
  lower : ℚ
  upper : ℚ
  tail : ℚ
  agreement : ℚ
  sensitivity : ℚ

def Reported.prediction (reported : Reported) : PyValue :=
  .mapping [
    ("status", .str "AVAILABLE"), ("family", .str "FULL_TIME_GOALS"),
    ("target_fixture_id", .str "fixture-1"), ("matchweek_id", .str "week-1"),
    ("model_version", .str "model-1"), ("model_digest", .str "model-digest"),
    ("calibration_version", .str "calibration-1"), ("prediction_digest", .str "prediction-1"),
    ("settlement_distributions", .mapping [("match_winner_home", .mapping [
      ("WIN", number (1 / 2)), ("LOSS", number (1 / 2)), ("PUSH", number 0)])]),
    ("estimated_probabilities", .mapping [("match_winner_home", number (1 / 2))]),
    ("conservative_probabilities",
      .mapping [("match_winner_home", number reported.conservative)]),
    ("loss_probability_upper", .mapping [("match_winner_home", number reported.lossUpper)]),
    ("probability_intervals", .mapping [("match_winner_home", .mapping [("WIN", .mapping [
      ("lower", number reported.lower), ("upper", number reported.upper)])])]),
    ("uncertainty", .mapping [("tail_risk", number reported.tail),
      ("empirical_coverage_validated", .bool true)]),
    ("model_agreement", number reported.agreement),
    ("reference_sensitivity", .mapping [("sensitivity", number reported.sensitivity)])]

def Reported.predictions (reported : Reported) : PyValue :=
  .mapping [("match_winner_home", reported.prediction)]

/-- The second report is numerically no worse. -/
structure Reported.Better (first second : Reported) : Prop where
  conservative : first.conservative ≤ second.conservative
  lossUpper : second.lossUpper ≤ first.lossUpper
  width : second.upper - second.lower ≤ first.upper - first.lower
  tail : second.tail ≤ first.tail
  agreement : first.agreement ≤ second.agreement
  sensitivity : second.sensitivity ≤ first.sensitivity

/-- A candidate that leaves all numbers to the prediction. -/
def plainCandidate : CandidateInput :=
  { homeCandidate lowLift.eraseLift with
    uncertaintyWidth := .none
    uncertaintyTailRisk := .none
    uncertaintyReliable := none
    modelAgreement := .none
    modelSensitivity := .none }

def reportSurvives (reported : Reported) : Bool :=
  survives fixtureState homeWin vettingPolicy plainCandidate reported.predictions
    defaultPreferenceCatalog

theorem homeWin_preferenceId : homeWin.preferenceId = "match_winner_home" := by decide +kernel

theorem Reported.predictionFor_predictions (reported : Reported) :
    predictionFor reported.predictions homeWin =
      some (predictionView reported.prediction (some "match_winner_home")) := by
  rw [Reported.predictions, predictionFor, homeWin_preferenceId]
  rfl

/-- The view of a report. -/
def Reported.view (reported : Reported) : PredictionView :=
  predictionView reported.prediction (some "match_winner_home")

theorem Reported.conservativeOf_view (reported : Reported) :
    conservativeOf reported.view homeWin = some reported.conservative := by
  rw [conservativeOf, homeWin_preferenceId]
  rfl

theorem Reported.lossUpperOf_view (reported : Reported) :
    lossUpperOf reported.view homeWin = some reported.lossUpper := by
  rw [lossUpperOf, homeWin_preferenceId]
  rfl

theorem Reported.intervalWidth_view (reported : Reported) :
    intervalWidth reported.view homeWin.preferenceId = some (reported.upper - reported.lower) := by
  rw [homeWin_preferenceId]
  rfl

theorem Reported.sensitivityValue_view (reported : Reported) :
    sensitivityValue (some reported.view) homeWin.preferenceId =
      some (.finite reported.sensitivity) := by
  rw [homeWin_preferenceId]
  rfl

/-- A better report is a better prediction. -/
theorem Reported.Better.view {first second : Reported} (hbetter : first.Better second) :
    Option.Rel (BetterView homeWin) (predictionFor first.predictions homeWin)
      (predictionFor second.predictions homeWin) := by
  rw [predictionFor_predictions, predictionFor_predictions]
  refine .some ⟨rfl, rfl, rfl, rfl, rfl, rfl, rfl, rfl, rfl, ?_, ?_, ?_, ?_, ?_,
    .some hbetter.tail, rfl, .some hbetter.agreement, ?_⟩
  · rw [settlementOf, settlementOf, homeWin_preferenceId]
    rfl
  · rw [estimatedOf, estimatedOf, homeWin_preferenceId]
    rfl
  · change NotLower (conservativeOf first.view homeWin) (conservativeOf second.view homeWin)
    rw [conservativeOf_view, conservativeOf_view]
    exact .some hbetter.conservative
  · change NotHigher (lossUpperOf first.view homeWin) (lossUpperOf second.view homeWin)
    rw [lossUpperOf_view, lossUpperOf_view]
    exact .some hbetter.lossUpper
  · change NotHigher (intervalWidth first.view _) (intervalWidth second.view _)
    rw [intervalWidth_view, intervalWidth_view]
    exact .some hbetter.width
  · change FloatNotHigher (sensitivityValue (some first.view) _)
      (sensitivityValue (some second.view) _)
    rw [sensitivityValue_view, sensitivityValue_view]
    exact .some fun value hvalue => ⟨second.sensitivity, rfl, by
      cases hvalue
      exact hbetter.sensitivity⟩

theorem exists_plainCandidate : ∃ normal, plainCandidate.normalized = .ok normal := by
  have hok : plainCandidate.normalized.toBool = true := by decide +kernel
  cases hnormal : plainCandidate.normalized with
  | error error =>
      rw [hnormal] at hok
      exact Bool.noConfusion hok
  | ok normal => exact ⟨normal, rfl⟩

def firstReport : Reported where
  conservative := 2 / 5
  lossUpper := 3 / 5
  lower := 2 / 5
  upper := 1 / 2
  tail := 1 / 10
  agreement := 4 / 5
  sensitivity := 1 / 10

theorem read_of_plainCandidate {normal : NormalizedCandidate}
    (hnormal : plainCandidate.normalized = .ok normal) :
    normal.uncertaintyWidth = none ∧ normal.uncertaintyTailRisk = none ∧
      normal.modelAgreement = none ∧ normal.modelSensitivity = none := by
  simp only [CandidateInput.normalized, bind_eq_ok] at hnormal
  obtain ⟨quality, -, reliability, -, components, -, hrest⟩ := hnormal
  split at hrest
  · cases hrest
  · split at hrest
    · cases hrest
    · simp only [bind_eq_ok] at hrest
      obtain ⟨interval, -, heq⟩ := hrest
      cases heq
      exact ⟨rfl, rfl, rfl, rfl⟩

/-- The numbers of a report are in range. -/
structure Reported.InRange (reported : Reported) : Prop where
  conservative : reported.conservative ≤ 1 ∧ reported.conservative ≤ 1 / 2 + 1 / 10 ^ 8
  lossUpper : 0 ≤ reported.lossUpper
  width : 0 ≤ reported.upper - reported.lower
  tail : 0 ≤ reported.tail
  agreement : reported.agreement ≤ 1
  sensitivity : 0 ≤ reported.sensitivity

theorem Reported.winOf_view (reported : Reported) :
    probability (settlementOf reported.view homeWin) winNames = some (1 / 2) := by
  rw [settlementOf, homeWin_preferenceId]
  rfl

theorem Reported.inRange_iff {reported : Reported} {normal : NormalizedCandidate}
    (hnormal : plainCandidate.normalized = .ok normal) :
    BetterEvidence.InRange homeWin normal (predictionFor reported.predictions homeWin) ↔
      reported.InRange := by
  obtain ⟨hwidth, htail, hagreement, hsensitivity⟩ := read_of_plainCandidate hnormal
  have hwidth' : candidateWidth (some reported.view) normal homeWin =
      some (reported.upper - reported.lower) := by
    rw [candidateWidth, hwidth]
    exact reported.intervalWidth_view
  have htail' : candidateTail (some reported.view) normal = some reported.tail := by
    rw [candidateTail, htail]
    rfl
  have hagreement' : candidateAgreement (some reported.view) normal = some reported.agreement := by
    rw [candidateAgreement, hagreement]
    rfl
  have hsensitivity' : candidateSensitivity (some reported.view) normal homeWin =
      some (.finite reported.sensitivity) := by
    rw [candidateSensitivity, hsensitivity]
    exact reported.sensitivityValue_view
  rw [predictionFor_predictions]
  constructor
  · intro hrange
    have hborne := hrange.conservative reported.view rfl _ reported.conservativeOf_view
    exact ⟨⟨hborne.1, hborne.2 _ reported.winOf_view⟩,
      hrange.lossUpper reported.view rfl _ reported.lossUpperOf_view, hrange.width _ hwidth',
      hrange.tail _ htail', hrange.agreement _ hagreement', hrange.sensitivity _ hsensitivity'⟩
  · rintro ⟨hconservative, hloss, hnarrow, hlow, hagreed, hstable⟩
    change BetterEvidence.InRange homeWin normal (some reported.view)
    refine ⟨?_, ?_, ?_, ?_, ?_, ?_⟩
    · rintro selected ⟨rfl⟩
      rw [reported.winOf_view, reported.conservativeOf_view]
      rintro value ⟨rfl⟩
      refine ⟨hconservative.1, ?_⟩
      rintro reference ⟨rfl⟩
      exact hconservative.2
    · rintro selected ⟨rfl⟩
      rw [reported.lossUpperOf_view]
      rintro value ⟨rfl⟩
      exact hloss
    · rw [hwidth']
      rintro value ⟨rfl⟩
      exact hnarrow
    · rw [htail']
      rintro value ⟨rfl⟩
      exact hlow
    · rw [hagreement']
      rintro value ⟨rfl⟩
      exact hagreed
    · rw [hsensitivity']
      intro value hvalue
      cases hvalue
      exact hstable

theorem firstReport_survives : reportSurvives firstReport = true := by decide +kernel

/-- Reports that are better than the first one in a single number, and out of range. -/
def tooGood : List Reported :=
  [{ firstReport with conservative := 3 / 5 }, { firstReport with lossUpper := -1 / 10 },
    { firstReport with upper := 3 / 10 }, { firstReport with tail := -1 / 10 },
    { firstReport with agreement := 11 / 10 }, { firstReport with sensitivity := -1 / 10 }]

/-- Numerically better evidence is refused when it is out of range. -/
theorem tooGood_refused :
    ∃ normal, plainCandidate.normalized = .ok normal ∧ BetterCandidate normal normal ∧
      reportSurvives firstReport = true ∧ ∀ report ∈ tooGood,
        Option.Rel (BetterView homeWin) (predictionFor firstReport.predictions homeWin)
          (predictionFor report.predictions homeWin) ∧ ¬reportSurvives report = true := by
  obtain ⟨normal, hnormal⟩ := exists_plainCandidate
  refine ⟨normal, hnormal, .refl normal, firstReport_survives, fun report hreport => ?_⟩
  have hbetter : firstReport.Better report := by
    unfold tooGood at hreport
    simp only [List.mem_cons, List.not_mem_nil, or_false] at hreport
    rcases hreport with rfl | rfl | rfl | rfl | rfl | rfl <;>
      refine ⟨?_, ?_, ?_, ?_, ?_, ?_⟩ <;> decide +kernel
  refine ⟨hbetter.view, fun hsurvives => ?_⟩
  have hrange := (Reported.inRange_iff hnormal).mp
    (inRange_of_survives hnormal (survives_eq_true.mp hsurvives))
  unfold tooGood at hreport
  simp only [List.mem_cons, List.not_mem_nil, or_false] at hreport
  rcases hreport with rfl | rfl | rfl | rfl | rfl | rfl
  · exact absurd hrange.conservative (by decide +kernel)
  · exact absurd hrange.lossUpper (by decide +kernel)
  · exact absurd hrange.width (by decide +kernel)
  · exact absurd hrange.tail (by decide +kernel)
  · exact absurd hrange.agreement (by decide +kernel)
  · exact absurd hrange.sensitivity (by decide +kernel)

def raisedReport : Reported := { firstReport with conservative := 9 / 20, tail := 0 }

/-- A report that is better within the settlement distribution survives. -/
theorem raisedReport_survives :
    ∃ better, resultForPreference fixtureState homeWin vettingPolicy plainCandidate
        raisedReport.predictions defaultPreferenceCatalog = .ok better ∧
      better.isGateSurvivor = true := by
  obtain ⟨normal, hnormal⟩ := exists_plainCandidate
  obtain ⟨result, hresult, hsurvivor⟩ := survives_eq_true.mp firstReport_survives
  have hbetter : firstReport.Better raisedReport := by
    refine ⟨?_, ?_, ?_, ?_, ?_, ?_⟩ <;> decide +kernel
  have hrange : raisedReport.InRange := by
    refine ⟨?_, ?_, ?_, ?_, ?_, ?_⟩ <;> decide +kernel
  obtain ⟨better, hother, -, hkept⟩ := gates_monotone hnormal hnormal (.refl normal) hbetter.view
    ((Reported.inRange_iff hnormal).mpr hrange) hresult
  exact ⟨better, hother, hkept hsurvivor⟩

end HomeWin

end MatchVet.T15.BetterEvidence
