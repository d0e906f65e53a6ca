import MatchVet.Foundation.Runtime
import MatchVet.T11.Settlement

/-!
# Settlement of reference surfaces

T14 predicts each contract from one model family.  A family settles its own
contracts on one surface: goals, half goals or corners, with the same loop for
all of them.
-/

namespace MatchVet.T14.Settlement

open MatchVet.Foundation.Runtime
open MatchVet.Foundation.Surface
open MatchVet.T10.Catalog
open MatchVet.T11.Settlement

/-- The refusals of T14; `t11` is raised by a T11 constructor. -/
inductive T14Error where
  | validation (message : String)
  | t11 (error : T11Error)
  | unexpected
  deriving DecidableEq, Repr

inductive ModelFamily where
  | fullTimeGoals
  | firstHalfGoals
  | secondHalfGoals
  | corners
  deriving DecidableEq, Repr

def ModelFamily.value : ModelFamily → String
  | .fullTimeGoals => "FULL_TIME_GOALS"
  | .firstHalfGoals => "FIRST_HALF_GOALS"
  | .secondHalfGoals => "SECOND_HALF_GOALS"
  | .corners => "CORNERS"

def fullTimeFamilies : List PreferenceFamily :=
  [.matchWinner, .doubleChance, .matchGoalsOver, .homeTeamGoalsOver, .awayTeamGoalsOver,
    .asianHandicap]

def cornerFamilies : List PreferenceFamily :=
  [.cornerWinner, .totalCornersOver, .homeCornersOver, .awayCornersOver]

/-- The test of `_preference_set` on one contract. -/
def predicts (family : ModelFamily) (item : BettingPreference) : Bool :=
  match family with
  | .fullTimeGoals => fullTimeFamilies.contains item.family
  | .corners => cornerFamilies.contains item.family
  | .firstHalfGoals => item.preferenceId = "first_half_over_1_5"
  | .secondHalfGoals => item.preferenceId = "second_half_over_1_5"

/-- `_preference_set`. -/
def preferenceSet (family : ModelFamily) : List BettingPreference :=
  defaultPreferenceCatalog.preferences.filter (predicts family)

/-! ## The settlement loop -/

def withLine {α : Type} (preference : BettingPreference) (next : ℚ → α) : Except T14Error α :=
  match preference.line with
  | some line => .ok (next line)
  | none => .error .unexpected

/-- The branch of `_settle_surface` for one cell. -/
def surfaceOutcome (preference : BettingPreference) (home away : ℕ) : Except T14Error Outcome :=
  match preference.family with
  | .matchWinner | .cornerWinner =>
      .ok (selectedOutcome
        (if preference.selection = "Home" then home > away
        else if preference.selection = "Away" then away > home
        else home = away))
  | .doubleChance =>
      .ok (selectedOutcome
        (if preference.selection = "1X" then home ≥ away
        else if preference.selection = "X2" then away ≥ home
        else home ≠ away))
  | .matchGoalsOver | .firstHalfOver | .secondHalfOver | .totalCornersOver =>
      withLine preference fun line => selectedOutcome ((home : ℚ) + away > line)
  | .homeTeamGoalsOver | .homeCornersOver =>
      withLine preference fun line => selectedOutcome ((home : ℚ) > line)
  | .awayTeamGoalsOver | .awayCornersOver =>
      withLine preference fun line => selectedOutcome ((away : ℚ) > line)
  | .asianHandicap =>
      withLine preference fun line =>
        let difference : ℤ :=
          if preference.selection = "Home" then (home : ℤ) - away else (away : ℤ) - home
        let adjusted : ℚ := 2 * difference + 2 * line
        if adjusted > 0 then .win else if adjusted < 0 then .loss else .push

/-- The normalization at the end of `_settle_surface`. -/
def surfaceProbabilities (masses : Masses) : Except T14Error SettlementProbabilities :=
  if masses.total ≤ 0 then .error (.validation "T14 settlement mass is invalid.")
  else
    let win := masses.win / masses.total
    let push := masses.push / masses.total
    let loss := max 0 (1 - win - push)
    (SettlementProbabilities.create win loss push).mapError .t11

/-- `_settle_surface`. -/
def settleSurface (preference : BettingPreference) (surface : List (List ℚ)) :
    Except T14Error SettlementProbabilities := do
  let masses ← pass Masses.accumulator (surfaceOutcome preference) (cells surface)
    Masses.accumulator.empty
  surfaceProbabilities masses

/-- `_settlement_distributions` of T14. -/
def settlementDistributions (family : ModelFamily) (surface : List (List ℚ)) :
    Except T14Error (List (String × SettlementProbabilities)) :=
  (preferenceSet family).mapM fun preference => do
    let probabilities ← settleSurface preference surface
    .ok (preference.preferenceId, probabilities)

/-- A family settles its own contracts, in catalog order, and no others. -/
theorem settlementDistributions_keys {family : ModelFamily} {surface : List (List ℚ)}
    {distributions : List (String × SettlementProbabilities)}
    (hdistributions : settlementDistributions family surface = .ok distributions) :
    distributions.map Prod.fst = (preferenceSet family).map BettingPreference.preferenceId := by
  have hsettled := forall₂_of_mapM hdistributions
  generalize preferenceSet family = preferences at hsettled ⊢
  clear hdistributions
  induction hsettled with
  | nil => rfl
  | cons hentry _ ih =>
      obtain ⟨probabilities, -, hkey⟩ := bind_eq_ok.mp hentry
      cases hkey
      exact congrArg (List.cons _) ih

/-- The normalization of T14 stores the shares. -/
theorem surfaceProbabilities_shares {masses : Masses}
    (hnonneg : ∀ outcome, 0 ≤ masses.read outcome) (htotal : 0 < masses.total) :
    ∃ probabilities, surfaceProbabilities masses = .ok probabilities ∧
      Shares masses probabilities := by
  obtain ⟨probabilities, hcreate, hshares⟩ := Masses.exists_shares hnonneg htotal
  have hloss : 0 ≤ masses.loss / masses.total := div_nonneg (hnonneg .loss) htotal.le
  refine ⟨probabilities, ?_, hshares⟩
  unfold surfaceProbabilities
  rw [if_neg (not_le.mpr htotal)]
  dsimp only
  rw [Masses.loss_share htotal, max_eq_right hloss, hcreate]
  rfl

end MatchVet.T14.Settlement
