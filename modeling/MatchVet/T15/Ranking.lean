import Mathlib.Order.WithBot
import MatchVet.Foundation.ComparatorSort
import MatchVet.T15.Vetting

/-!
# Ranking the gate survivors

Survivors are compared by Selection Strength outside a statistical tie, then by
four tie-breaks, the user preference order and the identifier.  Two survivors of
equal strength outside a tie are not decided, and three may be decided in a
circle, because a statistical tie is not transitive.
-/

namespace MatchVet.T15.Ranking

open MatchVet.Foundation.CanonicalJson
open MatchVet.Foundation.ComparatorSort
open MatchVet.Foundation.Dictionary
open MatchVet.Foundation.Runtime
open MatchVet.T10.Catalog
open MatchVet.T15.Candidate
open MatchVet.T15.Gates
open MatchVet.T15.Policy
open MatchVet.T15.Values
open MatchVet.T15.Vetting

/-- The four tie-breaks, in order. -/
inductive ComparisonKey where
  | uncertainty
  | quality
  | failure
  | reliability
  deriving DecidableEq, Repr

/-- Keys for which the larger value goes first. -/
def ComparisonKey.reverse : ComparisonKey → Bool
  | .uncertainty => false
  | .quality => true
  | .failure => false
  | .reliability => true

def comparisonKeys : List ComparisonKey := [.uncertainty, .quality, .failure, .reliability]

/-- A finite float or one of the two infinities. -/
abbrev ComparisonValue := WithBot (WithTop ℚ)

def intervalsOverlap (left right : Option (ℚ × ℚ)) : Bool :=
  match left, right with
  | some first, some second => first.1 ≤ second.2 && second.1 ≤ first.2
  | _, _ => false

theorem intervalsOverlap_comm (left right : Option (ℚ × ℚ)) :
    intervalsOverlap left right = intervalsOverlap right left := by
  cases left <;> cases right <;> simp [intervalsOverlap, Bool.and_comm]

section Comparison

variable [PyRuntime]

/-- `_comparison_value`: a missing value is the worst one. -/
def comparisonValue (item : PreferenceVettingResult) : ComparisonKey → ComparisonValue
  | .uncertainty =>
      match item.uncertaintyWidth with
      | some width => (width : WithTop ℚ)
      | none => (⊤ : WithTop ℚ)
  | .quality =>
      match item.dataQuality with
      | some quality => (quality : WithTop ℚ)
      | none => ⊥
  | .failure =>
      match item.failureRisk, item.adversarialReview with
      | some risk, _ => (risk : WithTop ℚ)
      | none, none => (⊤ : WithTop ℚ)
      | none, some review => (review.materiality : WithTop ℚ)
  | .reliability =>
      match item.historicalReliability with
      | some reliability => (reliability : WithTop ℚ)
      | none => ⊥

/-- `math.isclose` on values that may be infinite. -/
def closeValues : ComparisonValue → ComparisonValue → Bool
  | some (some left), some (some right) => isClose left right (decimalFloat 12)
  | left, right => left = right

/-- What one tie-break decides. -/
def compareKey (left right : PreferenceVettingResult) (key : ComparisonKey) : Option Int :=
  let leftValue := comparisonValue left key
  let rightValue := comparisonValue right key
  if closeValues leftValue rightValue then none
  else if key.reverse then some (if rightValue < leftValue then -1 else 1)
  else some (if leftValue < rightValue then -1 else 1)

theorem closeValues_comm (left right : ComparisonValue) :
    closeValues left right = closeValues right left := by
  unfold closeValues
  split
  · exact isClose_comm _ _ _
  next hfinite =>
    split
    next first second =>
      exact absurd rfl (hfinite second first rfl)
    next => simp only [eq_comm]

@[simp]
theorem closeValues_self (value : ComparisonValue) : closeValues value value = true := by
  unfold closeValues
  split
  · simp [isClose]
  · simp

theorem compareKey_self (item : PreferenceVettingResult) (key : ComparisonKey) :
    compareKey item item key = none := by
  simp [compareKey]

/-- Exchanging the survivors negates what a tie-break decides. -/
theorem compareKey_swap (left right : PreferenceVettingResult) (key : ComparisonKey) :
    compareKey right left key = (compareKey left right key).map Neg.neg := by
  unfold compareKey
  dsimp only
  rw [closeValues_comm (comparisonValue right key)]
  cases hclose : closeValues (comparisonValue left key) (comparisonValue right key) with
  | true => rfl
  | false =>
      have hne : comparisonValue left key ≠ comparisonValue right key := by
        intro heq
        rw [heq, closeValues_self] at hclose
        cases hclose
      rcases lt_or_gt_of_ne hne with hlt | hgt
      · cases key.reverse <;> simp [hlt, hlt.not_gt]
      · cases key.reverse <;> simp [hgt, hgt.not_gt]

theorem findSome?_compareKey_swap (left right : PreferenceVettingResult)
    (keys : List ComparisonKey) :
    keys.findSome? (compareKey right left) =
      (keys.findSome? (compareKey left right)).map Neg.neg := by
  induction keys with
  | nil => rfl
  | cons key rest ih =>
      rw [List.findSome?_cons, List.findSome?_cons, compareKey_swap]
      cases compareKey left right key with
      | none => exact ih
      | some decided => rfl

/-- Survivors are different preferences of the catalog. -/
def Distinct (survivors : List PreferenceVettingResult) : Prop :=
  (survivors.map fun item => item.preference.preferenceId).Nodup

instance (survivors : List PreferenceVettingResult) : Decidable (Distinct survivors) :=
  inferInstanceAs (Decidable (List.Nodup _))

theorem Distinct.nodup {survivors : List PreferenceVettingResult}
    (hdistinct : Distinct survivors) : survivors.Nodup :=
  List.Nodup.of_map _ hdistinct

theorem Distinct.id_ne {survivors : List PreferenceVettingResult} (hdistinct : Distinct survivors)
    {left right : PreferenceVettingResult} (hleft : left ∈ survivors) (hright : right ∈ survivors)
    (hne : left ≠ right) : left.preference.preferenceId ≠ right.preference.preferenceId :=
  fun heq => hne (List.inj_on_of_nodup_map hdistinct hleft hright heq)

variable [Hashing]

/-- `_user_order`. -/
def userOrder (policy : PolicyVersion) (preferenceId : String) : Nat :=
  match policy.userPreferenceOrder.idxOf? preferenceId with
  | some index => index
  | none => policy.userPreferenceOrder.length + 100000

def tieTolerance (policy : PolicyVersion) : Option ℚ :=
  (PolicyVersion.thresholdLookup policy.thresholds "statistical_tie_tolerance" none).bind
    optionalFloat

/-- `_is_tie`. -/
def isTie (policy : PolicyVersion) (left right : PreferenceVettingResult) : Bool :=
  match left.selectionStrength, right.selectionStrength with
  | some leftStrength, some rightStrength =>
      intervalsOverlap left.selectionStrengthInterval right.selectionStrengthInterval ||
        match tieTolerance policy with
        | some tolerance => |subtract leftStrength rightStrength| ≤ tolerance
        | none => false
  | _, _ => true

/-- The tie-breaks, the user order and the identifier. -/
def breakTie (policy : PolicyVersion) (left right : PreferenceVettingResult) : Int :=
  match comparisonKeys.findSome? (compareKey left right) with
  | some decided => decided
  | none =>
      let leftOrder := userOrder policy left.preference.preferenceId
      let rightOrder := userOrder policy right.preference.preferenceId
      if leftOrder ≠ rightOrder then if leftOrder < rightOrder then -1 else 1
      else if left.preference.preferenceId < right.preference.preferenceId then -1 else 1

/-- `_compare_results`. -/
def compareResults (policy : PolicyVersion) (left right : PreferenceVettingResult) : Int :=
  match left.selectionStrength, right.selectionStrength with
  | some leftStrength, some rightStrength =>
      if isTie policy left right then breakTie policy left right
      else if rightStrength < leftStrength then -1 else 1
  | _, _ => breakTie policy left right

def withRanks (ordered : List PreferenceVettingResult) : List PreferenceVettingResult :=
  (ordered.zipIdx 1).map fun entry => { entry.1 with rank := some entry.2 }

/-- `_rank_survivors`, over the sort of the standard library. -/
def rankSurvivors (sorter : Sorter PreferenceVettingResult) (policy : PolicyVersion)
    (survivors : List PreferenceVettingResult) : List PreferenceVettingResult :=
  withRanks (sorter.sort (compareResults policy) survivors)

/-! ## Two survivors are decided -/

theorem breakTie_swap (policy : PolicyVersion) {left right : PreferenceVettingResult}
    (hid : left.preference.preferenceId ≠ right.preference.preferenceId) :
    breakTie policy right left = -breakTie policy left right := by
  unfold breakTie
  rw [findSome?_compareKey_swap]
  cases comparisonKeys.findSome? (compareKey left right) with
  | some decided => rfl
  | none =>
      dsimp only [Option.map]
      rcases Nat.lt_trichotomy (userOrder policy left.preference.preferenceId)
        (userOrder policy right.preference.preferenceId) with hlt | heq | hgt
      · simp [hlt, hlt.ne, hlt.ne', hlt.not_gt]
      · rcases lt_or_gt_of_ne hid with hbefore | hafter
        · simp [heq, hbefore, hbefore.not_gt]
        · simp [heq, hafter, hafter.not_gt]
      · simp [hgt, hgt.ne, hgt.ne', hgt.not_gt]

theorem breakTie_self (policy : PolicyVersion) (item : PreferenceVettingResult) :
    breakTie policy item item = 1 := by
  have hkeys : comparisonKeys.findSome? (compareKey item item) = none :=
    List.findSome?_eq_none_iff.mpr fun key _ => compareKey_self item key
  simp [breakTie, hkeys]

theorem isTie_comm (policy : PolicyVersion) (left right : PreferenceVettingResult) :
    isTie policy left right = isTie policy right left := by
  unfold isTie
  cases left.selectionStrength with
  | none => cases right.selectionStrength <;> rfl
  | some leftStrength =>
      cases right.selectionStrength with
      | none => rfl
      | some rightStrength =>
          dsimp only
          rw [intervalsOverlap_comm, abs_subtract_comm]

theorem compareResults_self (policy : PolicyVersion) (item : PreferenceVettingResult) :
    compareResults policy item item = 1 := by
  unfold compareResults
  cases item.selectionStrength <;> simp [breakTie_self]

/-- Two different survivors of equal strength are in a statistical tie. -/
def EqualStrengthsTie (policy : PolicyVersion) (survivors : List PreferenceVettingResult) : Prop :=
  ∀ left ∈ survivors, ∀ right ∈ survivors,
    left.preference.preferenceId ≠ right.preference.preferenceId →
      left.selectionStrength = right.selectionStrength → isTie policy left right = true

instance (policy : PolicyVersion) (survivors : List PreferenceVettingResult) :
    Decidable (EqualStrengthsTie policy survivors) :=
  inferInstanceAs (Decidable (∀ left ∈ survivors, ∀ right ∈ survivors,
    left.preference.preferenceId ≠ right.preference.preferenceId →
      left.selectionStrength = right.selectionStrength → isTie policy left right = true))

theorem compareResults_of_equal_untied (policy : PolicyVersion)
    {left right : PreferenceVettingResult}
    (hequal : left.selectionStrength = right.selectionStrength)
    (huntied : isTie policy left right = false) : compareResults policy left right = 1 := by
  unfold compareResults
  unfold isTie at huntied
  rw [hequal] at huntied ⊢
  cases hright : right.selectionStrength with
  | none => simp [hright] at huntied
  | some strength =>
      rw [hright] at huntied hequal
      simp only [isTie, hequal, hright]
      rw [if_neg (by simpa using huntied), if_neg (lt_irrefl strength)]

/-- Exchanging two survivors negates the comparison, unless they have equal
strengths outside a tie. -/
theorem compareResults_swap (policy : PolicyVersion) {left right : PreferenceVettingResult}
    (hid : left.preference.preferenceId ≠ right.preference.preferenceId)
    (hequal : left.selectionStrength = right.selectionStrength → isTie policy left right = true) :
    compareResults policy right left = -compareResults policy left right := by
  unfold compareResults
  cases hleft : left.selectionStrength with
  | none =>
      cases right.selectionStrength <;> exact breakTie_swap policy hid
  | some leftStrength =>
      cases hright : right.selectionStrength with
      | none => exact breakTie_swap policy hid
      | some rightStrength =>
          dsimp only
          rw [isTie_comm policy right left]
          cases htie : isTie policy left right with
          | true => exact breakTie_swap policy hid
          | false =>
              have hne : leftStrength ≠ rightStrength := by
                intro heq
                rw [hleft, hright, heq] at hequal
                rw [hequal rfl] at htie
                cases htie
              rcases lt_or_gt_of_ne hne with hlt | hgt
              · simp [hlt, hlt.not_gt]
              · simp [hgt, hgt.not_gt]

theorem breakTie_eq_or (policy : PolicyVersion) (left right : PreferenceVettingResult) :
    breakTie policy left right = -1 ∨ breakTie policy left right = 1 := by
  unfold breakTie
  cases hkeys : comparisonKeys.findSome? (compareKey left right) with
  | none =>
      dsimp only
      split_ifs <;> simp
  | some decided =>
      obtain ⟨key, _, hkey⟩ := List.exists_of_findSome?_eq_some hkeys
      unfold compareKey at hkey
      dsimp only at hkey ⊢
      split_ifs at hkey <;> simp_all

theorem compareResults_eq_or (policy : PolicyVersion) (left right : PreferenceVettingResult) :
    compareResults policy left right = -1 ∨ compareResults policy left right = 1 := by
  have hbreak := breakTie_eq_or policy left right
  unfold compareResults
  cases left.selectionStrength <;> cases right.selectionStrength <;> dsimp only
  case some.some leftStrength rightStrength =>
    split_ifs
    · exact hbreak
    · exact Or.inl rfl
    · exact Or.inr rfl
  all_goals exact hbreak

theorem compareResults_strictOn (policy : PolicyVersion)
    {survivors : List PreferenceVettingResult} (hdistinct : Distinct survivors) :
    StrictOn (compareResults policy) survivors where
  irrefl item _ := by
    rw [Before, compareResults_self]
    exact Int.not_lt.mpr (by decide)
  asymm left hleft right hright hbefore hback := by
    rw [Before] at hbefore hback
    by_cases hsame : left = right
    · rw [hsame, compareResults_self] at hbefore
      exact absurd hbefore (by decide)
    · by_cases htie : left.selectionStrength = right.selectionStrength →
          isTie policy left right = true
      · rw [compareResults_swap policy (hdistinct.id_ne hleft hright hsame) htie] at hback
        omega
      · rw [Classical.not_imp, Bool.not_eq_true] at htie
        rw [compareResults_of_equal_untied policy htie.1 htie.2] at hbefore
        exact absurd hbefore (by decide)

theorem decidedOn_iff_equalStrengthsTie (policy : PolicyVersion)
    {survivors : List PreferenceVettingResult} (hdistinct : Distinct survivors) :
    DecidedOn (compareResults policy) survivors ↔ EqualStrengthsTie policy survivors := by
  constructor
  · intro hdecided left hleft right hright hid hequal
    by_contra huntied
    rw [Bool.not_eq_true] at huntied
    have huntied' := huntied
    rw [isTie_comm] at huntied'
    have hne : left ≠ right := fun heq => hid (by rw [heq])
    rcases hdecided left hleft right hright hne with hbefore | hbefore
    · rw [Before, compareResults_of_equal_untied policy hequal huntied] at hbefore
      exact absurd hbefore (by decide)
    · rw [Before, compareResults_of_equal_untied policy hequal.symm huntied'] at hbefore
      exact absurd hbefore (by decide)
  · intro htie left hleft right hright hne
    have hid := hdistinct.id_ne hleft hright hne
    have hswap := compareResults_swap policy hid (htie left hleft right hright hid)
    rw [Before, Before, hswap]
    rcases compareResults_eq_or policy left right with hbefore | hafter
    · exact Or.inl (by rw [hbefore]; decide)
    · exact Or.inr (by rw [hafter]; decide)

/-! ## When the output is a ranking -/

/-- `other` has the larger strength outside a statistical tie. -/
def BeatsOutright (policy : PolicyVersion) (other item : PreferenceVettingResult) : Prop :=
  isTie policy other item = false ∧ ∃ larger smaller, other.selectionStrength = some larger ∧
    item.selectionStrength = some smaller ∧ smaller < larger

/-- The output does not depend on the input order, respects the comparator
pairwise, and its first entry is beaten outright by no other. -/
def RealRanking (sorter : Sorter PreferenceVettingResult) (policy : PolicyVersion)
    (survivors : List PreferenceVettingResult) : Prop :=
  (∀ reordered, reordered.Perm survivors →
    rankSurvivors sorter policy reordered = rankSurvivors sorter policy survivors) ∧
  (rankSurvivors sorter policy survivors).Pairwise (Before (compareResults policy)) ∧
  ∀ primary rest, rankSurvivors sorter policy survivors = primary :: rest →
    ∀ other ∈ rest, ¬ BeatsOutright policy other primary

theorem BeatsOutright.not_before {policy : PolicyVersion} {other item : PreferenceVettingResult}
    (hbeats : BeatsOutright policy other item) : ¬ Before (compareResults policy) item other := by
  obtain ⟨huntied, larger, smaller, hother, hitem, hlt⟩ := hbeats
  rw [isTie_comm] at huntied
  simp [Before, compareResults, hother, hitem, huntied, hlt.not_gt]

/-- The comparison does not read the rank that the output carries. -/
theorem pairwise_withRanks (policy : PolicyVersion) (ordered : List PreferenceVettingResult) :
    (withRanks ordered).Pairwise (Before (compareResults policy)) ↔
      ordered.Pairwise (Before (compareResults policy)) := by
  have hordered : (ordered.zipIdx 1).map Prod.fst = ordered := List.zipIdx_map_fst 1 ordered
  conv_rhs => rw [← hordered]
  rw [withRanks, List.pairwise_map, List.pairwise_map]
  rfl

/-- The output is a real ranking exactly when equal strengths are always tied and
no three survivors break the transitivity of the comparison. -/
theorem realRanking_iff (sorter : Sorter PreferenceVettingResult) (policy : PolicyVersion)
    {survivors : List PreferenceVettingResult} (hdistinct : Distinct survivors) :
    RealRanking sorter policy survivors ↔
      EqualStrengthsTie policy survivors ∧ TransitiveOn (compareResults policy) survivors := by
  have hstrict := compareResults_strictOn policy hdistinct
  rw [← decidedOn_iff_equalStrengthsTie policy hdistinct]
  constructor
  · intro hreal
    have hranked := (pairwise_withRanks policy _).mp hreal.2.1
    exact sorter.conditions_of_pairwise_before hstrict hranked
  · rintro ⟨hdecided, htrans⟩
    have hranks := htrans.ranks sorter hdistinct.nodup hstrict hdecided
    have hpairwise := (pairwise_withRanks policy _).mpr hranks.2
    refine ⟨fun reordered hperm => ?_, hpairwise, ?_⟩
    · rw [rankSurvivors, hranks.1 reordered hperm, rankSurvivors]
    · intro primary rest hout other hother hbeats
      rw [rankSurvivors] at hout
      rw [hout, List.pairwise_cons] at hpairwise
      exact hbeats.not_before (hpairwise.1 other hother)

end Comparison

/-! ## A circle of three statistical ties -/

section Circle

local instance : PyRuntime := plainRuntime

local instance : Hashing := textHashing

/-- A survivor of all nine gates with a strength and an uncertainty width. -/
def survivorOf (contract : BettingPreference) (strength width : ℚ) : PreferenceVettingResult where
  targetFixtureId := "fixture-1"
  preference := contract
  status := .researchCandidate
  role := .none
  gates := [GateId.g0, .g1, .g2, .g3, .g4, .g5, .g6, .g7, .g8].map fun gateId =>
    checkedGate gateId [] []
  rejectionReasons := []
  selectionStrengthReasons := []
  estimatedProbability := none
  conservativeProbability := none
  lossRiskUpper := none
  pushProbability := none
  uncertaintyWidth := some width
  dataQuality := none
  modelAgreement := none
  modelSensitivity := none
  historicalReliability := none
  failureRisk := none
  baseline := none
  adversarialReview := none
  selectionComponents := []
  selectionStrength := some strength
  selectionStrengthInterval := none
  rank := none
  correlationGroup := none
  supportingCase := none
  explanatory := true

def thresholdPolicy (thresholds : PyDict PyValue)
    (hforbidden : forbiddenInputs thresholds PyDict.empty PyDict.empty = []) :
    PolicyVersion where
  version := "policy-1"
  status := .researchOnly
  thresholds := thresholds
  selectionStrength := none
  correlationGroups := PyDict.empty
  userPreferenceOrder := []
  dependencies := PyDict.empty
  promotionEvidence := PyDict.empty
  catalogVersion := preferenceCatalogVersion
  catalogDigest := preferenceCatalogDigest
  version_text := by decide +kernel
  forbidden_nil := hforbidden
  catalogVersion_eq := rfl
  catalogDigest_eq := rfl
  groups_text := nofun
  groups_sorted := List.Pairwise.nil
  dependencies_sorted := List.Pairwise.nil

/-- A tie tolerance of one eighth. -/
def tolerantPolicy : PolicyVersion :=
  thresholdPolicy
    (PyDict.ofPairs [("statistical_tie_tolerance", .float (.finite (1 / 8)))])
    (by decide +kernel)

def homeWin : BettingPreference :=
  preference "match_winner_home" .matchWinner "Home" none .fullMatch fullGoalFacts
    "backed result wins the regulation scoreline" fullGoalFacts_ne_nil false

def awayWin : BettingPreference :=
  preference "match_winner_away" .matchWinner "Away" none .fullMatch fullGoalFacts
    "backed result wins the regulation scoreline" fullGoalFacts_ne_nil false

def drawnMatch : BettingPreference :=
  preference "match_winner_draw" .matchWinner "Draw" none .fullMatch fullGoalFacts
    "backed result wins the regulation scoreline" fullGoalFacts_ne_nil false

/-- Each of the first two is tied with the next and has the smaller uncertainty;
the third beats the first outright. -/
def circularSurvivors : List PreferenceVettingResult :=
  [survivorOf homeWin (1 / 2) (1 / 10), survivorOf awayWin (5 / 8) (2 / 10),
    survivorOf drawnMatch (3 / 4) (3 / 10)]

/-- No sort ranks three survivors whose pairwise order is a circle. -/
theorem circularSurvivors_not_realRanking :
    Distinct circularSurvivors ∧
      (∀ item ∈ circularSurvivors, item.isGateSurvivor = true ∧ item.selectionStrength.isSome) ∧
      ∀ sorter, ¬ RealRanking sorter tolerantPolicy circularSurvivors := by
  have hdistinct : Distinct circularSurvivors := by decide +kernel
  refine ⟨hdistinct, by decide +kernel, fun sorter hreal => ?_⟩
  have hranked := (pairwise_withRanks tolerantPolicy _).mp hreal.2.1
  have hconditions := sorter.conditions_of_pairwise_before
    (compareResults_strictOn tolerantPolicy hdistinct) hranked
  have hcircle : ¬ TransitiveOn (compareResults tolerantPolicy) circularSurvivors := by
    decide +kernel
  exact hcircle hconditions.2

/-- Two of them are ranked. -/
theorem realRanking_pair :
    RealRanking (insertionSorter PreferenceVettingResult) tolerantPolicy
      [survivorOf drawnMatch (3 / 4) (3 / 10), survivorOf homeWin (1 / 2) (1 / 10)] :=
  (realRanking_iff (insertionSorter PreferenceVettingResult) tolerantPolicy
    (by decide +kernel)).mpr
    ⟨by decide +kernel, by decide +kernel⟩

end Circle

end MatchVet.T15.Ranking
