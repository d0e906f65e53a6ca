import MatchVet.T15.Ranking

/-!
# Missing evidence

A preference is vetted twice, the second time with one observation erased.  No
gate but Non-Triviality can come to pass by that: a missing number is a reason
of its own wherever a present one is compared.  Non-Triviality compares a
match-specific lift in more cases than it asks for one.
-/

namespace MatchVet.T15.MissingEvidence

open MatchVet.Foundation.CanonicalJson
open MatchVet.Foundation.Dictionary
open MatchVet.Foundation.Runtime
open MatchVet.T10.Catalog
open MatchVet.T15.Candidate
open MatchVet.T15.Candidate.CandidateInput
open MatchVet.T15.Gates
open MatchVet.T15.Policy
open MatchVet.T15.Prediction
open MatchVet.T15.Ranking
open MatchVet.T15.Strength
open MatchVet.T15.Values
open MatchVet.T15.Vetting

/-- The observations that nothing else stands in for. -/
inductive Observation where
  | dataQuality
  | dataQualityDimension (name : String)
  | historicalReliability
  | reliabilityDimension (name : String)
  | effectiveSample
  | baseline
  | matchSpecificLift
  | adversarialReview
  | conservativeProbability
  | lossUpper
  deriving DecidableEq, Repr

/-! ## Passing the gates -/

def Passes (gate : Except T15Error GateResult) : Prop :=
  ∃ result, gate = .ok result ∧ result.status = .pass

theorem passes_checked (gateId : GateId) (reasons : List String) (details : Entries) :
    Passes (.ok (checkedGate gateId reasons details)) ↔ reasons = [] := by
  constructor
  · rintro ⟨result, hresult, hpass⟩
    cases hresult
    exact (checkedGate_status_eq_pass gateId reasons details).mp hpass
  · intro hreasons
    exact ⟨_, rfl, (checkedGate_status_eq_pass gateId reasons details).mpr hreasons⟩

theorem passes_bind {α : Type} (first : Except T15Error α)
    (next : α → Except T15Error GateResult) :
    Passes (first >>= next) ↔ ∃ value, first = .ok value ∧ Passes (next value) := by
  constructor
  · rintro ⟨result, hresult, hpass⟩
    obtain ⟨value, hvalue, hnext⟩ := bind_eq_ok.mp hresult
    exact ⟨value, hvalue, result, hnext, hpass⟩
  · rintro ⟨value, hvalue, result, hnext, hpass⟩
    exact ⟨result, bind_eq_ok.mpr ⟨value, hvalue, hnext⟩, hpass⟩

/-! ## A missing number is a reason -/

theorem minimumReason_none_ne (missing below : String) (minimum : Option ℚ) :
    minimumReason missing below minimum none ≠ [] := by
  cases minimum <;> simp [minimumReason]

theorem conservativeReasons_none_ne (minimum : Option ℚ) :
    conservativeReasons minimum none ≠ [] := by
  simp [conservativeReasons]

theorem lossReasons_none_ne (lossMax : Option ℚ) : lossReasons lossMax none ≠ [] := by
  simp [lossReasons]

/-- An effective sample may be missing only where no minimum is set. -/
theorem sampleReasons_of_none {minimum sample : Option ℚ}
    (hnone : sampleReasons minimum none = []) : sampleReasons minimum sample = [] := by
  cases minimum with
  | none => rfl
  | some least => simp [sampleReasons] at hnone

/-- When an absent lift gives no reason but the present one does. -/
theorem liftReasons_erased (explicit structural : Option Bool) (win : ℚ)
    (lift baselineMax liftMin : Option ℚ) :
    (liftReasons explicit structural win none baselineMax liftMin = [] ∧
        liftReasons explicit structural win lift baselineMax liftMin ≠ []) ↔
      ∃ value least highest, lift = some value ∧ value < least ∧ liftMin = some least ∧
        baselineMax = some highest ∧
        ((explicit = none ∧ structural = none ∧ win < highest) ∨
          ((explicit = some true ∨ structural = some false) ∧ highest ≤ win)) := by
  cases lift with
  | none => simp
  | some value =>
      cases liftMin with
      | none =>
          rcases explicit with _ | _ | _ <;> rcases structural with _ | _ | _ <;>
            cases baselineMax <;> simp [liftReasons, below, reasonIf]
      | some least =>
          cases baselineMax with
          | none =>
              rcases explicit with _ | _ | _ <;> rcases structural with _ | _ | _ <;>
                simp [liftReasons, reasonIf]
          | some highest =>
              by_cases hhigh : highest ≤ win
              · rcases explicit with _ | _ | _ <;> rcases structural with _ | _ | _ <;>
                  simp [liftReasons, below, reasonIf, hhigh, not_lt.mpr hhigh]
              · rcases explicit with _ | _ | _ <;> rcases structural with _ | _ | _ <;>
                  simp [liftReasons, below, reasonIf, hhigh, not_le.mp hhigh]

section TwoRuns

variable [PyRuntime]

/-! ## Erasing an observation -/

def ErasesQuality (before after : Option DataQualityMetrics) : Observation → Prop
  | .dataQuality =>
      qualityOverall after = none ∧ ∀ name, qualityScore after name = qualityScore before name
  | .dataQualityDimension erased =>
      qualityOverall after = qualityOverall before ∧ qualityScore after erased = none ∧
        ∀ name, name ≠ erased → qualityScore after name = qualityScore before name
  | _ => after = before

def ErasesReliability (before after : Option ReliabilityMetrics) : Observation → Prop
  | .historicalReliability =>
      reliabilityOverall after = none ∧ reliabilitySample after = reliabilitySample before ∧
        ∀ name, reliabilityScore after name = reliabilityScore before name
  | .reliabilityDimension erased =>
      after.isSome = before.isSome ∧ reliabilityOverall after = reliabilityOverall before ∧
        reliabilitySample after = reliabilitySample before ∧
        reliabilityScore after erased = none ∧
        ∀ name, name ≠ erased → reliabilityScore after name = reliabilityScore before name
  | .effectiveSample =>
      after.isSome = before.isSome ∧ reliabilityOverall after = reliabilityOverall before ∧
        reliabilitySample after = none ∧
        ∀ name, reliabilityScore after name = reliabilityScore before name
  | _ => after = before

def ErasesBaseline (before after : Option HistoricalBaseline) : Observation → Prop
  | .baseline => after = none
  | .matchSpecificLift =>
      ∃ baseline, before = some baseline ∧ after = some baseline.eraseLift
  | _ => after = before

def ErasesReview (before after : Option AdversarialReview) : Observation → Prop
  | .adversarialReview => after = none
  | _ => after = before

/-- The second candidate is the first one without the observation. -/
structure ErasesCandidate (before after : NormalizedCandidate) (observation : Observation) :
    Prop where
  quality : ErasesQuality before.dataQuality after.dataQuality observation
  reliability :
    ErasesReliability before.historicalReliability after.historicalReliability observation
  baseline : ErasesBaseline before.baseline after.baseline observation
  review : ErasesReview before.adversarialReview after.adversarialReview observation
  kept : after = { before with
    dataQuality := after.dataQuality
    historicalReliability := after.historicalReliability
    baseline := after.baseline
    adversarialReview := after.adversarialReview }

/-- The second view is the first one without the observation. -/
def ErasesView (preference : BettingPreference) (before after : Option PredictionView) :
    Observation → Prop
  | .conservativeProbability => ∃ view raw entries,
      before = some view ∧ after = some { view with raw := raw, conservative := entries } ∧
      probabilityMapValue entries preference.preferenceId winNames = none
  | .lossUpper => ∃ view raw entries,
      before = some view ∧ after = some { view with raw := raw, lossUpper := entries } ∧
      probabilityMapValue entries preference.preferenceId lossNames = none
  | _ => after = before

theorem dimensionReason_none_ne (unresolved missing below : String)
    (threshold : String × PyValue) :
    dimensionReason unresolved missing below none threshold ≠ [] := by
  cases h : optionalFloat threshold.2 <;> simp [dimensionReason, h]

/-- A dimension score may be missing only where no minimum is set. -/
theorem dimensionReasons_of_erased {unresolved missing below erased : String}
    {before after : String → Option ℚ} {thresholds : Entries} (herased : after erased = none)
    (hsame : ∀ name, name ≠ erased → after name = before name)
    (hafter : (thresholds.flatMap fun threshold =>
      dimensionReason unresolved missing below (after threshold.1) threshold) = []) :
    (thresholds.flatMap fun threshold =>
      dimensionReason unresolved missing below (before threshold.1) threshold) = [] := by
  rw [List.flatMap_eq_nil_iff] at hafter ⊢
  intro threshold hmem
  have hreason := hafter threshold hmem
  by_cases hname : threshold.1 = erased
  · rw [hname, herased] at hreason
    exact absurd hreason (dimensionReason_none_ne unresolved missing below threshold)
  · rwa [hsame threshold.1 hname] at hreason

/-! ## Erasing in the caller's candidate -/

theorem normalized_replace (candidate : CandidateInput)
    (baseline : RuleInput HistoricalBaseline) (review : RuleInput AdversarialReview) :
    ({ candidate with baseline := baseline, adversarialReview := review }).normalized =
      candidate.normalized.map fun normal =>
        { normal with
          baseline := readBaseline baseline
          adversarialReview := readReview review } := by
  simp only [normalized]
  cases readQuality candidate.dataQuality with
  | error error => rfl
  | ok quality =>
      cases readReliability candidate.historicalReliability with
      | error error => rfl
      | ok reliability =>
          cases mapEntries (fun value => finite value "Selection Strength component")
            candidate.selectionComponents.entries with
          | error error => rfl
          | ok components =>
              simp only [bind, Except.bind]
              split
              · rfl
              · have hfields : boundedFields
                    { candidate with baseline := baseline, adversarialReview := review } =
                    candidate.boundedFields := rfl
                rw [hfields]
                cases candidate.boundedFields.find? outOfRange with
                | some field => rfl
                | none =>
                    cases readInterval candidate.selectionStrengthInterval with
                    | error error => rfl
                    | ok interval => rfl

theorem read_of_normalized {candidate : CandidateInput} {normal : NormalizedCandidate}
    (hnormal : candidate.normalized = .ok normal) :
    normal.baseline = readBaseline candidate.baseline ∧
      normal.adversarialReview = readReview candidate.adversarialReview := by
  have hsame := normalized_replace candidate candidate.baseline candidate.adversarialReview
  change candidate.normalized = _ at hsame
  rw [hnormal] at hsame
  rw [Except.ok.inj hsame]
  exact ⟨rfl, rfl⟩

/-- A record without its lift is an erasure of the lift. -/
theorem erasesCandidate_eraseLift {candidate : CandidateInput} {normal : NormalizedCandidate}
    {baseline : HistoricalBaseline} (hbuilt : candidate.baseline = .built baseline)
    (hnormal : candidate.normalized = .ok normal) :
    ∃ erased, ({ candidate with baseline := .built baseline.eraseLift }).normalized =
      .ok erased ∧ ErasesCandidate normal erased .matchSpecificLift := by
  have hread := read_of_normalized hnormal
  have herased := normalized_replace candidate (.built baseline.eraseLift)
    candidate.adversarialReview
  rw [hnormal] at herased
  rw [hbuilt] at hread
  exact ⟨_, herased, ⟨rfl, rfl, ⟨baseline, hread.1, rfl⟩, hread.2.symm, rfl⟩⟩

/-- An absent review is an erasure of the review. -/
theorem erasesCandidate_noReview {candidate : CandidateInput} {normal : NormalizedCandidate}
    (hnormal : candidate.normalized = .ok normal) :
    ∃ erased, ({ candidate with adversarialReview := .raw .none }).normalized =
      .ok erased ∧ ErasesCandidate normal erased .adversarialReview := by
  have hread := read_of_normalized hnormal
  have herased := normalized_replace candidate candidate.baseline (.raw .none)
  rw [hnormal] at herased
  exact ⟨_, herased, ⟨rfl, rfl, hread.1.symm, rfl, rfl⟩⟩

/-! ## Surviving all nine gates -/

variable [Hashing]

/-- Every gate but Non-Triviality passes. -/
structure OtherGatesPass (state : PyValue) (preference : BettingPreference)
    (policy : PolicyVersion) (candidate : NormalizedCandidate) (view : Option PredictionView)
    (catalog : PreferenceCatalog) : Prop where
  supported : (g0Gate state (stateTarget state) view preference catalog).status = .pass
  sufficient : (sufficiencyGate state preference candidate.adversarialReview).status = .pass
  quality : Passes (g2Gate state preference candidate policy)
  reliability : Passes (g3Gate preference candidate policy)
  probability : Passes (g5Gate view preference policy)
  uncertainty : Passes (g6Gate view candidate preference policy)
  agreement : Passes (g7Gate view candidate preference policy)
  review : Passes (g8Gate candidate policy preference)

/-- The preference passes all nine gates. -/
def Survives (state : PyValue) (preference : BettingPreference) (policy : PolicyVersion)
    (candidate : CandidateInput) (predictions : PyValue) (catalog : PreferenceCatalog) : Prop :=
  ∃ result, resultForPreference state preference policy candidate predictions catalog =
    .ok result ∧ result.isGateSurvivor = true

/-- What one vetting answers, an error counting as no. -/
def survives (state : PyValue) (preference : BettingPreference) (policy : PolicyVersion)
    (candidate : CandidateInput) (predictions : PyValue) (catalog : PreferenceCatalog) : Bool :=
  match resultForPreference state preference policy candidate predictions catalog with
  | .ok result => result.isGateSurvivor
  | .error _ => false

theorem survives_eq_true {state : PyValue} {preference : BettingPreference}
    {policy : PolicyVersion} {candidate : CandidateInput} {predictions : PyValue}
    {catalog : PreferenceCatalog} :
    survives state preference policy candidate predictions catalog = true ↔
      Survives state preference policy candidate predictions catalog := by
  unfold survives Survives
  cases resultForPreference state preference policy candidate predictions catalog with
  | error error => simp
  | ok result => simp

theorem vettingGates_pass_iff (state : PyValue) (preference : BettingPreference)
    (policy : PolicyVersion) (candidate : NormalizedCandidate) (view : Option PredictionView)
    (catalog : PreferenceCatalog) :
    (∃ gates, vettingGates state preference policy candidate view catalog = .ok gates ∧
        (gates.all fun item => item.status = .pass) = true) ↔
      OtherGatesPass state preference policy candidate view catalog ∧
        Passes (g4Gate preference candidate policy) := by
  constructor
  · rintro ⟨gates, hgates, hall⟩
    simp only [vettingGates, bind_eq_ok] at hgates
    obtain ⟨second, hsecond, third, hthird, fourth, hfourth, fifth, hfifth, sixth, hsixth,
      seventh, hseventh, eighth, height, heq⟩ := hgates
    cases heq
    simp only [List.all_cons, List.all_nil, Bool.and_true, Bool.and_eq_true,
      decide_eq_true_eq] at hall
    obtain ⟨hzero, hone, htwo, hthree, hfour, hfive, hsix, hseven, hlast⟩ := hall
    exact ⟨⟨hzero, hone, ⟨second, hsecond, htwo⟩, ⟨third, hthird, hthree⟩,
      ⟨fifth, hfifth, hfive⟩, ⟨sixth, hsixth, hsix⟩, ⟨seventh, hseventh, hseven⟩,
      ⟨eighth, height, hlast⟩⟩, ⟨fourth, hfourth, hfour⟩⟩
  · rintro ⟨⟨hzero, hone, ⟨second, hsecond, htwo⟩, ⟨third, hthird, hthree⟩,
      ⟨fifth, hfifth, hfive⟩, ⟨sixth, hsixth, hsix⟩, ⟨seventh, hseventh, hseven⟩,
      ⟨eighth, height, hlast⟩⟩, ⟨fourth, hfourth, hfour⟩⟩
    refine ⟨[g0Gate state (stateTarget state) view preference catalog,
      sufficiencyGate state preference candidate.adversarialReview,
      second, third, fourth, fifth, sixth, seventh, eighth], ?_, ?_⟩
    · simp only [vettingGates, hsecond, hthird, hfourth, hfifth, hsixth, hseventh, height]
      rfl
    · simp [hzero, hone, htwo, hthree, hfour, hfive, hsix, hseven, hlast]

theorem survives_iff {state : PyValue} {preference : BettingPreference} {policy : PolicyVersion}
    {candidate : CandidateInput} {predictions : PyValue} {catalog : PreferenceCatalog}
    {normal : NormalizedCandidate} (hnormal : candidate.normalized = .ok normal) :
    Survives state preference policy candidate predictions catalog ↔
      OtherGatesPass state preference policy normal (predictionFor predictions preference) catalog ∧
        Passes (g4Gate preference normal policy) := by
  rw [← vettingGates_pass_iff]
  constructor
  · rintro ⟨result, hresult, hsurvives⟩
    simp only [resultForPreference, resultForView, bind_eq_ok] at hresult
    obtain ⟨found, hfound, gates, hgates, heq⟩ := hresult
    rw [hnormal] at hfound
    cases hfound
    cases heq
    exact ⟨gates, hgates, hsurvives⟩
  · rintro ⟨gates, hgates, hall⟩
    simp only [Survives, resultForPreference, resultForView, bind_eq_ok]
    exact ⟨_, ⟨normal, hnormal, gates, hgates, rfl⟩, hall⟩

/-! ## What each gate reads -/

theorem passes_g2Gate (state : PyValue) (preference : BettingPreference)
    (candidate : NormalizedCandidate) (policy : PolicyVersion) :
    Passes (g2Gate state preference candidate policy) ↔
      ∃ minimum, policy.thresholdNumber "data_quality_min" preference = .ok minimum ∧
        g2Reasons state preference candidate.dataQuality policy minimum = [] := by
  rw [g2Gate, passes_bind]
  simp only [passes_checked]

theorem passes_g3Gate (preference : BettingPreference) (candidate : NormalizedCandidate)
    (policy : PolicyVersion) :
    Passes (g3Gate preference candidate policy) ↔
      ∃ minimum, policy.thresholdNumber "historical_reliability_min" preference = .ok minimum ∧
        g3Reasons preference candidate.historicalReliability policy minimum = [] := by
  rw [g3Gate, passes_bind]
  simp only [passes_checked]

theorem passes_g4Gate {candidate : NormalizedCandidate} {baseline : HistoricalBaseline}
    (preference : BettingPreference) (policy : PolicyVersion)
    (hbaseline : candidate.baseline = some baseline) :
    Passes (g4Gate preference candidate policy) ↔
      (contractReadable baseline = true ∧
        contractReasons preference baseline candidate.nonTrivial = []) ∧
      ∃ baselineMax, policy.thresholdNumber "non_triviality_baseline_win_max" preference =
          .ok baselineMax ∧
        ∃ liftMin, policy.thresholdNumber "non_triviality_min_lift" preference = .ok liftMin ∧
          liftReasons candidate.nonTrivial baseline.structuralTrivial baseline.winProbability
            baseline.matchSpecificLift baselineMax liftMin = [] := by
  rw [g4Gate, hbaseline]
  dsimp only
  by_cases hreadable : contractReadable baseline = true
  · rw [if_pos hreadable, passes_bind]
    simp only [passes_bind, passes_checked, List.append_eq_nil_iff]
    constructor
    · rintro ⟨baselineMax, hmax, liftMin, hmin, hcontract, hlift⟩
      exact ⟨⟨hreadable, hcontract⟩, baselineMax, hmax, liftMin, hmin, hlift⟩
    · rintro ⟨⟨-, hcontract⟩, baselineMax, hmax, liftMin, hmin, hlift⟩
      exact ⟨baselineMax, hmax, liftMin, hmin, hcontract, hlift⟩
  · rw [if_neg hreadable]
    constructor
    · rintro ⟨result, hresult, -⟩
      cases hresult
    · rintro ⟨⟨hcontract, -⟩, -⟩
      exact absurd hcontract hreadable

theorem not_passes_g4Gate_none {candidate : NormalizedCandidate}
    (preference : BettingPreference) (policy : PolicyVersion)
    (hbaseline : candidate.baseline = none) :
    ¬ Passes (g4Gate preference candidate policy) := by
  rw [g4Gate, hbaseline, passes_checked]
  exact List.cons_ne_nil _ _

theorem passes_g5Gate (view : Option PredictionView) (preference : BettingPreference)
    (policy : PolicyVersion) (hpass : Passes (g5Gate view preference policy)) :
    (view.bind fun selected => conservativeOf selected preference) ≠ none ∧
      (view.bind fun selected => lossUpperOf selected preference) ≠ none := by
  simp only [g5Gate, passes_bind, passes_checked, List.append_eq_nil_iff] at hpass
  obtain ⟨minimum, -, lossMax, -, ⟨-, hconservative⟩, hloss⟩ := hpass
  constructor
  · intro hnone
    rw [hnone] at hconservative
    exact conservativeReasons_none_ne minimum hconservative
  · intro hnone
    rw [hnone] at hloss
    exact lossReasons_none_ne lossMax hloss

theorem not_passes_g8Gate_none {candidate : NormalizedCandidate} (policy : PolicyVersion)
    (preference : BettingPreference) (hreview : candidate.adversarialReview = none) :
    ¬ Passes (g8Gate candidate policy preference) := by
  rw [g8Gate, hreview, passes_checked]
  exact List.cons_ne_nil _ _

/-! ## Erasing and the gates other than Non-Triviality -/

section Erasing

variable {state : PyValue} {preference : BettingPreference} {policy : PolicyVersion}
  {catalog : PreferenceCatalog} {observation : Observation}
  {before after : NormalizedCandidate} {view erasedView : Option PredictionView}

theorem passes_g2Gate_of_erased (herases : ErasesCandidate before after observation)
    (hpass : Passes (g2Gate state preference after policy)) :
    Passes (g2Gate state preference before policy) := by
  have hquality := herases.quality
  obtain ⟨minimum, hminimum, hreasons⟩ := (passes_g2Gate _ _ _ _).mp hpass
  refine (passes_g2Gate _ _ _ _).mpr ⟨minimum, hminimum, ?_⟩
  cases observation with
  | dataQuality =>
      simp only [g2Reasons, List.append_eq_nil_iff, hquality.1] at hreasons
      exact absurd hreasons.1.2 (minimumReason_none_ne _ _ minimum)
  | dataQualityDimension erased =>
      obtain ⟨hoverall, herased, hsame⟩ := hquality
      simp only [g2Reasons, List.append_eq_nil_iff, hoverall] at hreasons ⊢
      exact ⟨hreasons.1, dimensionReasons_of_erased herased hsame hreasons.2⟩
  | _ =>
      change after.dataQuality = before.dataQuality at hquality
      rwa [← hquality]

theorem reliabilityThresholds_of_isSome {first second : Option ReliabilityMetrics}
    (hsome : first.isSome = second.isSome) :
    reliabilityThresholds first policy = reliabilityThresholds second policy := by
  rw [reliabilityThresholds, reliabilityThresholds, hsome]

theorem passes_g3Gate_of_erased (herases : ErasesCandidate before after observation)
    (hpass : Passes (g3Gate preference after policy)) :
    Passes (g3Gate preference before policy) := by
  have hreliability := herases.reliability
  obtain ⟨minimum, hminimum, hreasons⟩ := (passes_g3Gate _ _ _).mp hpass
  refine (passes_g3Gate _ _ _).mpr ⟨minimum, hminimum, ?_⟩
  cases observation with
  | historicalReliability =>
      simp only [g3Reasons, List.append_eq_nil_iff, hreliability.1] at hreasons
      exact absurd hreasons.1.1 (minimumReason_none_ne _ _ minimum)
  | reliabilityDimension erased =>
      obtain ⟨hsome, hoverall, hsample, herased, hsame⟩ := hreliability
      simp only [g3Reasons, List.append_eq_nil_iff, hoverall, hsample,
        reliabilityThresholds_of_isSome hsome] at hreasons ⊢
      exact ⟨⟨hreasons.1.1, dimensionReasons_of_erased herased hsame hreasons.1.2⟩, hreasons.2⟩
  | effectiveSample =>
      obtain ⟨hsome, hoverall, hsample, hsame⟩ := hreliability
      simp only [g3Reasons, List.append_eq_nil_iff, hoverall, hsample, hsame,
        reliabilityThresholds_of_isSome hsome] at hreasons ⊢
      exact ⟨hreasons.1, sampleReasons_of_none hreasons.2⟩
  | _ =>
      change after.historicalReliability = before.historicalReliability at hreliability
      rwa [← hreliability]

/-- Erasing leaves the candidate's own uncertainty and agreement alone. -/
theorem gates_eq_of_erased (herases : ErasesCandidate before after observation) :
    g6Gate view after preference policy = g6Gate view before preference policy ∧
      g7Gate view after preference policy = g7Gate view before preference policy := by
  rw [herases.kept]
  exact ⟨rfl, rfl⟩

/-- A review that the last gate accepts was not erased. -/
theorem review_eq_of_erased (herases : ErasesCandidate before after observation)
    (hpass : Passes (g8Gate after policy preference)) :
    after.adversarialReview = before.adversarialReview := by
  have hreview := herases.review
  cases observation with
  | adversarialReview => exact absurd hpass (not_passes_g8Gate_none policy preference hreview)
  | _ => exact hreview

/-- A view with both bounds is not an erased one. -/
theorem view_eq_of_erased (herases : ErasesView preference view erasedView observation)
    (hpass : Passes (g5Gate erasedView preference policy)) : erasedView = view := by
  have hbounds := passes_g5Gate erasedView preference policy hpass
  cases observation with
  | conservativeProbability =>
      obtain ⟨selected, raw, entries, -, rfl, hnone⟩ := herases
      exact absurd hnone hbounds.1
  | lossUpper =>
      obtain ⟨selected, raw, entries, -, rfl, hnone⟩ := herases
      exact absurd hnone hbounds.2
  | _ => exact herases

/-- No gate but Non-Triviality comes to pass by an erasure. -/
theorem otherGatesPass_of_erased (herases : ErasesCandidate before after observation)
    (hview : ErasesView preference view erasedView observation)
    (hpass : OtherGatesPass state preference policy after erasedView catalog) :
    OtherGatesPass state preference policy before view catalog := by
  have hsame := view_eq_of_erased hview hpass.probability
  subst hsame
  have hreview := review_eq_of_erased herases hpass.review
  have hgates : g6Gate erasedView after preference policy =
        g6Gate erasedView before preference policy ∧
      g7Gate erasedView after preference policy = g7Gate erasedView before preference policy :=
    gates_eq_of_erased herases
  refine ⟨hpass.supported, ?_, passes_g2Gate_of_erased herases hpass.quality,
    passes_g3Gate_of_erased herases hpass.reliability, hpass.probability, ?_, ?_, ?_⟩
  · rw [← hreview]
    exact hpass.sufficient
  · rw [← hgates.1]
    exact hpass.uncertainty
  · rw [← hgates.2]
    exact hpass.agreement
  · have hlast := hpass.review
    rw [g8Gate, hreview] at hlast
    exact hlast

/-! ## Erasing and Non-Triviality -/

/-- Erasing anything but the lift does not make Non-Triviality pass. -/
theorem passes_g4Gate_of_erased (hlift : observation ≠ .matchSpecificLift)
    (herases : ErasesCandidate before after observation)
    (hpass : Passes (g4Gate preference after policy)) :
    Passes (g4Gate preference before policy) := by
  have hbaseline := herases.baseline
  have hflag : after.nonTrivial = before.nonTrivial := by rw [herases.kept]
  cases observation with
  | matchSpecificLift => exact absurd rfl hlift
  | baseline => exact absurd hpass (not_passes_g4Gate_none preference policy hbaseline)
  | _ =>
      change after.baseline = before.baseline at hbaseline
      rwa [g4Gate, hbaseline, hflag] at hpass

/-- The lift is below its minimum, and would not be asked for if it were absent. -/
def LiftSkipped (preference : BettingPreference) (policy : PolicyVersion)
    (candidate : NormalizedCandidate) : Prop :=
  ∃ baseline lift least highest, candidate.baseline = some baseline ∧
    baseline.matchSpecificLift = some lift ∧ lift < least ∧
    policy.thresholdNumber "non_triviality_min_lift" preference = .ok (some least) ∧
    policy.thresholdNumber "non_triviality_baseline_win_max" preference = .ok (some highest) ∧
    ((candidate.nonTrivial = none ∧ baseline.structuralTrivial = none ∧
        baseline.winProbability < highest) ∨
      ((candidate.nonTrivial = some true ∨ baseline.structuralTrivial = some false) ∧
        highest ≤ baseline.winProbability))

/-- The baseline is for this very contract and does not call it trivial. -/
def ContractAccepted (preference : BettingPreference) (candidate : NormalizedCandidate) : Prop :=
  ∃ baseline, candidate.baseline = some baseline ∧ contractReadable baseline = true ∧
    contractReasons preference baseline candidate.nonTrivial = []

/-- Erasing the lift makes Non-Triviality pass exactly when the lift is skipped
and nothing else is wrong with the baseline. -/
theorem passes_g4Gate_eraseLift_iff {baseline : HistoricalBaseline}
    (hbefore : before.baseline = some baseline) (hafter : after.baseline = some baseline.eraseLift)
    (hflag : after.nonTrivial = before.nonTrivial) :
    (Passes (g4Gate preference after policy) ∧ ¬ Passes (g4Gate preference before policy)) ↔
      LiftSkipped preference policy before ∧ ContractAccepted preference before := by
  rw [passes_g4Gate preference policy hbefore, passes_g4Gate preference policy hafter, hflag]
  constructor
  · rintro ⟨⟨hcontract, baselineMax, hmax, liftMin, hmin, hnone⟩, hfails⟩
    have hpresent : liftReasons before.nonTrivial baseline.structuralTrivial
        baseline.winProbability baseline.matchSpecificLift baselineMax liftMin ≠ [] :=
      fun hreasons => hfails ⟨hcontract, baselineMax, hmax, liftMin, hmin, hreasons⟩
    obtain ⟨lift, least, highest, hlift, hlt, rfl, rfl, hcase⟩ :=
      (liftReasons_erased _ _ _ _ _ _).mp ⟨hnone, hpresent⟩
    exact ⟨⟨baseline, lift, least, highest, hbefore, hlift, hlt, hmin, hmax, hcase⟩,
      baseline, hbefore, hcontract⟩
  · rintro ⟨⟨found, lift, least, highest, hfound, hlift, hlt, hmin, hmax, hcase⟩,
      other, hother, hcontract⟩
    rw [hbefore] at hfound hother
    cases hfound
    cases hother
    have hreasons := (liftReasons_erased before.nonTrivial baseline.structuralTrivial
      baseline.winProbability baseline.matchSpecificLift (some highest) (some least)).mpr
      ⟨lift, least, highest, hlift, hlt, rfl, rfl, hcase⟩
    refine ⟨⟨hcontract, some highest, hmax, some least, hmin, hreasons.1⟩, ?_⟩
    rintro ⟨-, baselineMax, hmax', liftMin, hmin', hempty⟩
    rw [hmax] at hmax'
    rw [hmin] at hmin'
    cases hmax'
    cases hmin'
    exact hreasons.2 hempty

/-- The other gates do not read the lift. -/
theorem otherGatesPass_eraseLift (herases : ErasesCandidate before after .matchSpecificLift) :
    OtherGatesPass state preference policy after view catalog ↔
      OtherGatesPass state preference policy before view catalog := by
  have hquality : after.dataQuality = before.dataQuality := herases.quality
  have hreliability : after.historicalReliability = before.historicalReliability :=
    herases.reliability
  have hreview : after.adversarialReview = before.adversarialReview := herases.review
  have hkept := herases.kept
  rw [hquality, hreliability, hreview] at hkept
  rw [hkept]
  constructor
  · rintro ⟨hzero, hone, htwo, hthree, hfive, hsix, hseven, hlast⟩
    exact ⟨hzero, hone, htwo, hthree, hfive, hsix, hseven, hlast⟩
  · rintro ⟨hzero, hone, htwo, hthree, hfive, hsix, hseven, hlast⟩
    exact ⟨hzero, hone, htwo, hthree, hfive, hsix, hseven, hlast⟩

/-! ## Missing evidence is favorable in one case -/

/-- Everything but the lift speaks for the preference. -/
structure OtherChecksPass (state : PyValue) (preference : BettingPreference)
    (policy : PolicyVersion) (candidate : NormalizedCandidate) (view : Option PredictionView)
    (catalog : PreferenceCatalog) : Prop where
  gates : OtherGatesPass state preference policy candidate view catalog
  contract : ContractAccepted preference candidate

variable {candidate erasedCandidate : CandidateInput} {predictions erasedPredictions : PyValue}

end Erasing

end TwoRuns

/-! ## A home win with a low lift -/

section LowLift

local instance : PyRuntime := plainRuntime

local instance : Hashing := textHashing

def number (value : ℚ) : PyValue := .float (.finite value)

def fixtureState : PyValue :=
  .mapping [("digest", .str "state-1"),
    ("target", .mapping [("fixture_id", .str "fixture-1"), ("matchweek_id", .str "week-1")]),
    ("research_sufficiency", .mapping [("Match Winner", .mapping [
      ("status", .str "SUFFICIENT"), ("mandatory_research_complete", .bool true),
      ("critical_evidence_complete", .bool true), ("diminishing_returns_reached", .bool true)])]),
    ("critical_evidence_coverage", .mapping [("Match Winner", .mapping [
      ("complete", .bool true)])])]

def homePrediction : PyValue :=
  .mapping [("match_winner_home", .mapping [
    ("status", .str "AVAILABLE"), ("family", .str "FULL_TIME_GOALS"),
    ("target_fixture_id", .str "fixture-1"), ("matchweek_id", .str "week-1"),
    ("model_version", .str "model-1"), ("model_digest", .str "model-digest"),
    ("calibration_version", .str "calibration-1"), ("prediction_digest", .str "prediction-1"),
    ("settlement_distributions", .mapping [("match_winner_home", .mapping [
      ("WIN", number (1 / 2)), ("LOSS", number (1 / 2)), ("PUSH", number 0)])]),
    ("estimated_probabilities", .mapping [("match_winner_home", number (1 / 2))]),
    ("conservative_probabilities", .mapping [("match_winner_home", number (2 / 5))]),
    ("loss_probability_upper", .mapping [("match_winner_home", number (3 / 5))])])]

def vettingPolicy : PolicyVersion :=
  thresholdPolicy
    (PyDict.ofPairs [("data_quality_min", number (1 / 2)),
      ("historical_reliability_min", number (1 / 2)),
      ("non_triviality_baseline_win_max", number (3 / 5)),
      ("non_triviality_min_lift", number (1 / 10)),
      ("conservative_probability_min", number (3 / 10)), ("loss_risk_max", number (9 / 10)),
      ("uncertainty_width_max", number (1 / 2)), ("uncertainty_tail_risk_max", number (1 / 2)),
      ("model_agreement_min", number (1 / 2)), ("model_sensitivity_max", number (1 / 2))])
    (by decide +kernel)

/-- A baseline whose lift is one twentieth. -/
def lowLift : HistoricalBaseline where
  winProbability := 2 / 5
  lossProbability := 3 / 5
  pushProbability := 0
  hierarchicalKey := "league"
  structuralTrivial := none
  matchSpecificLift := some (1 / 20)
  effectiveSample := none
  uncertainty := none
  contract := PyDict.ofPairs homeWin.toDict.entries
  probabilities_valid := by decide +kernel
  key_text := by decide +kernel
  numbers_nonneg := by decide +kernel

def vettedReview : AdversarialReview where
  failureCase := "late red card"
  supportingEvidenceIds := ["evidence-1"]
  materiality := 1 / 10
  representedInUncertainty := true
  veto := false
  complete := true
  downgrade := false
  failureCase_text := by decide +kernel
  materiality_unit := by decide +kernel

def homeCandidate (baseline : HistoricalBaseline) : CandidateInput where
  dataQuality := .raw (number (4 / 5))
  baseline := .built baseline
  historicalReliability := .raw (number (4 / 5))
  adversarialReview := .built vettedReview
  selectionComponents := PyDict.empty
  correlationGroup := none
  uncertaintyWidth := number (1 / 10)
  uncertaintyTailRisk := number (1 / 10)
  uncertaintyReliable := some true
  uncertaintyQuality := .none
  modelAgreement := number (4 / 5)
  modelSensitivity := number (1 / 10)
  adversarialSafety := .none
  failureRisk := .none
  nonTrivial := none
  supportingCase := none
  explanatory := true
  pairedStrengthUncertainty := none
  selectionStrengthInterval := none

def vetted (candidate : CandidateInput) : Prop :=
  Survives fixtureState homeWin vettingPolicy candidate homePrediction defaultPreferenceCatalog

theorem exists_normalized : ∃ normal, (homeCandidate lowLift).normalized = .ok normal := by
  have hok : (homeCandidate lowLift).normalized.toBool = true := by decide +kernel
  cases hnormal : (homeCandidate lowLift).normalized with
  | error error =>
      rw [hnormal] at hok
      exact Bool.noConfusion hok
  | ok normal => exact ⟨normal, rfl⟩

end LowLift

end MatchVet.T15.MissingEvidence
