import Mathlib.Algebra.Order.Field.Rat
import Mathlib.Tactic.Linarith
import Mathlib.Tactic.NormNum
import Mathlib.Tactic.Ring
import MatchVet.Foundation.Surface
import MatchVet.T10.Catalog

/-!
# Settlement of score grids

T11 settles every full-time goal contract on a score grid: each cell's mass goes
to the win, loss or push of the contract, and the three masses are normalized
with the loss as the complement.  Masses are exact rationals.
-/

namespace MatchVet.T11.Settlement

open MatchVet.Foundation.Surface
open MatchVet.T10.Catalog

/-- The refusals of T11; `unexpected` is a failed assertion. -/
inductive T11Error where
  | validation (message : String)
  | unexpected
  deriving DecidableEq, Repr

/-- One WIN/PUSH/LOSS distribution, clamped to the unit interval. -/
structure SettlementProbabilities where
  winProbability : ℚ
  lossProbability : ℚ
  pushProbability : ℚ
  inUnit : ∀ value ∈ [winProbability, lossProbability, pushProbability], 0 ≤ value ∧ value ≤ 1
  deriving DecidableEq

def bounded (value lower upper : ℚ) : ℚ := max lower (min upper value)

theorem bounded_mem {lower upper : ℚ} (hle : lower ≤ upper) (value : ℚ) :
    lower ≤ bounded value lower upper ∧ bounded value lower upper ≤ upper :=
  ⟨le_max_left .., max_le hle (min_le_left ..)⟩

theorem bounded_of_mem {value lower upper : ℚ} (hlower : lower ≤ value) (hupper : value ≤ upper) :
    bounded value lower upper = value := by
  rw [bounded, min_eq_right hupper, max_eq_right hlower]

namespace SettlementProbabilities

/-- The clamps that construction applies to its three numbers. -/
def clamped (win loss push : ℚ) : SettlementProbabilities where
  winProbability := bounded win 0 1
  lossProbability := bounded loss 0 1
  pushProbability := bounded push 0 1
  inUnit := by
    intro value hvalue
    simp only [List.mem_cons, List.not_mem_nil, or_false] at hvalue
    rcases hvalue with rfl | rfl | rfl <;> exact bounded_mem zero_le_one _

/-- `SettlementProbabilities.__post_init__`. -/
def create (win loss push : ℚ) : Except T11Error SettlementProbabilities :=
  if [win, loss, push].any (· < -(1 / 10 ^ 12)) then
    .error (.validation "Settlement probabilities must be finite and non-negative.")
  else if 1 / 10 ^ 9 < |[win, loss, push].sum - 1| then
    .error (.validation "Settlement probabilities must sum to one.")
  else
    .ok (clamped win loss push)

/-- A distribution is determined by its three numbers. -/
theorem ext_iff_numbers {first second : SettlementProbabilities} :
    first = second ↔ first.winProbability = second.winProbability ∧
      first.lossProbability = second.lossProbability ∧
      first.pushProbability = second.pushProbability := by
  constructor
  · rintro rfl
    exact ⟨rfl, rfl, rfl⟩
  · intro hnumbers
    obtain ⟨hwin, hloss, hpush⟩ := hnumbers
    cases first
    cases second
    simp_all

/-- Three non-negative numbers that sum to one are stored as they are. -/
theorem create_ok {win loss push : ℚ} (hwin : 0 ≤ win) (hloss : 0 ≤ loss) (hpush : 0 ≤ push)
    (htotal : win + loss + push = 1) :
    ∃ probabilities, create win loss push = .ok probabilities ∧
      probabilities.winProbability = win ∧ probabilities.lossProbability = loss ∧
      probabilities.pushProbability = push := by
  have hsum : [win, loss, push].sum = 1 := by
    rw [← htotal]
    simp only [List.sum_cons, List.sum_nil]
    ring
  have hnonneg : ([win, loss, push].any (· < -(1 / 10 ^ 12))) = false := by
    have htolerance : -(1 / 10 ^ 12) ≤ (0 : ℚ) := by norm_num
    simp only [List.any_cons, List.any_nil, Bool.or_false, Bool.or_eq_false_iff,
      decide_eq_false_iff_not, not_lt]
    exact ⟨htolerance.trans hwin, htolerance.trans hloss, htolerance.trans hpush⟩
  refine ⟨clamped win loss push, ?_, ?_, ?_, ?_⟩
  · have hclose : ¬1 / 10 ^ 9 < |[win, loss, push].sum - 1| := by
      rw [hsum, sub_self, abs_zero]
      norm_num
    rw [create, hnonneg, if_neg Bool.false_ne_true, if_neg hclose]
  · exact bounded_of_mem hwin (by linarith)
  · exact bounded_of_mem hloss (by linarith)
  · exact bounded_of_mem hpush (by linarith)

end SettlementProbabilities

/-! ## Running masses -/

/-- The `win`, `loss` and `push` accumulators of a settlement loop. -/
structure Masses where
  win : ℚ
  loss : ℚ
  push : ℚ

/-- The classes of a cell. -/
inductive Outcome where
  | win
  | loss
  | push
  deriving DecidableEq, Repr

namespace Masses

def add (masses : Masses) (outcome : Outcome) (value : ℚ) : Masses :=
  match outcome with
  | .win => { masses with win := masses.win + value }
  | .loss => { masses with loss := masses.loss + value }
  | .push => { masses with push := masses.push + value }

def read (masses : Masses) : Outcome → ℚ
  | .win => masses.win
  | .loss => masses.loss
  | .push => masses.push

def total (masses : Masses) : ℚ := masses.win + masses.loss + masses.push

theorem ext_read {first second : Masses}
    (hread : ∀ outcome, first.read outcome = second.read outcome) : first = second := by
  obtain ⟨win, loss, push⟩ := first
  exact congr (congr (congrArg Masses.mk (hread .win)) (hread .loss)) (hread .push)

/-- The accumulators as buckets of a pass over a surface. -/
def accumulator : Accumulator Masses Outcome ℚ where
  empty := ⟨0, 0, 0⟩
  add := add
  read := read
  read_empty := by
    intro value
    cases value <;> rfl
  read_add := by
    intro _ masses outcome weight value
    cases outcome <;> cases value <;> simp [add, read]

end Masses

/-- The class of a cell that either wins or loses. -/
def selectedOutcome (selected : Bool) : Outcome := if selected then .win else .loss

/-! ## The score grid -/

def goalFamilies : List PreferenceFamily :=
  [.matchWinner, .doubleChance, .matchGoalsOver, .homeTeamGoalsOver, .awayTeamGoalsOver,
    .asianHandicap]

/-- `_goal_preferences`. -/
def fullTimeGoalPreferences : List BettingPreference :=
  defaultPreferenceCatalog.preferences.filter fun item => goalFamilies.contains item.family

/-- The line a family asserts to have. -/
def withLine {α : Type} (preference : BettingPreference) (next : ℚ → α) : Except T11Error α :=
  match preference.line with
  | some line => .ok (next line)
  | none => .error .unexpected

/-- The branch of `_settle_score` for one cell. -/
def scoreOutcome (preference : BettingPreference) (homeGoals awayGoals : ℕ) :
    Except T11Error Outcome :=
  match preference.family with
  | .matchWinner =>
      .ok (selectedOutcome
        (if preference.selection = "Home" then homeGoals > awayGoals
        else if preference.selection = "Away" then awayGoals > homeGoals
        else homeGoals = awayGoals))
  | .doubleChance =>
      .ok (selectedOutcome
        (if preference.selection = "1X" then homeGoals ≥ awayGoals
        else if preference.selection = "X2" then awayGoals ≥ homeGoals
        else homeGoals ≠ awayGoals))
  | .matchGoalsOver =>
      withLine preference fun line => selectedOutcome ((homeGoals : ℚ) + awayGoals > line)
  | .homeTeamGoalsOver =>
      withLine preference fun line => selectedOutcome ((homeGoals : ℚ) > line)
  | .awayTeamGoalsOver =>
      withLine preference fun line => selectedOutcome ((awayGoals : ℚ) > line)
  | .asianHandicap =>
      withLine preference fun line =>
        let difference : ℤ :=
          if preference.selection = "Home" then (homeGoals : ℤ) - awayGoals
          else (awayGoals : ℤ) - homeGoals
        let adjusted : ℚ := 2 * difference + 2 * line
        if adjusted > 0 then .win else if adjusted < 0 then .loss else .push
  | .firstHalfOver | .secondHalfOver | .cornerWinner | .totalCornersOver | .homeCornersOver
  | .awayCornersOver =>
      .error (.validation
        ("T11 cannot derive unsupported preference family " ++ preference.family.value ++ "."))

/-- The normalization at the end of `_settle_score`. -/
def scoreProbabilities (masses : Masses) : Except T11Error SettlementProbabilities :=
  if masses.total ≤ 0 then
    .error (.validation "T11 settlement probabilities have invalid total mass.")
  else
    let win := bounded (masses.win / masses.total) 0 1
    let push := bounded (masses.push / masses.total) 0 (1 - win)
    let loss := bounded (1 - win - push) 0 1
    SettlementProbabilities.create win loss push

/-- `_settle_score`. -/
def settleScore (preference : BettingPreference) (score : List (List ℚ)) :
    Except T11Error SettlementProbabilities := do
  let masses ← pass Masses.accumulator (scoreOutcome preference) (cells score)
    Masses.accumulator.empty
  scoreProbabilities masses

/-- `_settlement_distributions` of T11. -/
def settlementDistributions (score : List (List ℚ)) :
    Except T11Error (List (String × SettlementProbabilities)) :=
  fullTimeGoalPreferences.mapM fun preference => do
    let probabilities ← settleScore preference score
    .ok (preference.preferenceId, probabilities)

/-! ## Normalized masses -/

/-- Three numbers are the shares of non-negative masses. -/
structure Shares (masses : Masses) (probabilities : SettlementProbabilities) : Prop where
  win : probabilities.winProbability = masses.win / masses.total
  loss : probabilities.lossProbability = masses.loss / masses.total
  push : probabilities.pushProbability = masses.push / masses.total

/-- Shares determine the distribution. -/
theorem Shares.unique {masses : Masses} {first second : SettlementProbabilities}
    (hfirst : Shares masses first) (hsecond : Shares masses second) : first = second :=
  SettlementProbabilities.ext_iff_numbers.mpr
    ⟨hfirst.win.trans hsecond.win.symm, hfirst.loss.trans hsecond.loss.symm,
      hfirst.push.trans hsecond.push.symm⟩

namespace Masses

/-- The loss share is the complement of the other two. -/
theorem loss_share {masses : Masses} (htotal : 0 < masses.total) :
    1 - masses.win / masses.total - masses.push / masses.total = masses.loss / masses.total := by
  have hne : masses.total ≠ 0 := htotal.ne'
  rw [eq_div_iff hne, sub_mul, sub_mul, div_mul_cancel₀ _ hne, div_mul_cancel₀ _ hne, one_mul,
    total]
  ring

/-- The accumulated total is the mass of the surface. -/
theorem total_of_read {masses : Masses} {label : ℕ → ℕ → Outcome} {entries : List (Cell ℚ)}
    (hread : ∀ outcome, masses.read outcome = classMass label entries outcome) :
    masses.total = mass entries := by
  have hsplit : ∑ outcome ∈ {Outcome.win, .loss, .push}, classMass label entries outcome =
      mass entries := by
    apply sum_classMass
    intro cell _
    cases label cell.row cell.column <;> decide
  rw [Finset.sum_insert (by decide), Finset.sum_insert (by decide), Finset.sum_singleton] at hsplit
  rw [← hsplit, ← hread, ← hread, ← hread, ← add_assoc]
  rfl

/-- Non-negative masses of positive total have a distribution of their shares. -/
theorem exists_shares {masses : Masses} (hnonneg : ∀ outcome, 0 ≤ masses.read outcome)
    (htotal : 0 < masses.total) :
    ∃ probabilities,
      SettlementProbabilities.create (masses.win / masses.total) (masses.loss / masses.total)
        (masses.push / masses.total) = .ok probabilities ∧ Shares masses probabilities := by
  have hwin : 0 ≤ masses.win / masses.total := div_nonneg (hnonneg .win) htotal.le
  have hloss : 0 ≤ masses.loss / masses.total := div_nonneg (hnonneg .loss) htotal.le
  have hpush : 0 ≤ masses.push / masses.total := div_nonneg (hnonneg .push) htotal.le
  have hone := loss_share htotal
  obtain ⟨probabilities, hcreate, hfields⟩ :=
    SettlementProbabilities.create_ok hwin hloss hpush (by linarith)
  exact ⟨probabilities, hcreate, hfields.1, hfields.2.1, hfields.2.2⟩

end Masses

/-- The normalization of T11 stores the shares. -/
theorem scoreProbabilities_shares {masses : Masses} (hnonneg : ∀ outcome, 0 ≤ masses.read outcome)
    (htotal : 0 < masses.total) :
    ∃ probabilities, scoreProbabilities masses = .ok probabilities ∧
      Shares masses probabilities := by
  obtain ⟨probabilities, hcreate, hshares⟩ := Masses.exists_shares hnonneg htotal
  have hwin : 0 ≤ masses.win / masses.total := div_nonneg (hnonneg .win) htotal.le
  have hloss : 0 ≤ masses.loss / masses.total := div_nonneg (hnonneg .loss) htotal.le
  have hpush : 0 ≤ masses.push / masses.total := div_nonneg (hnonneg .push) htotal.le
  have hone := Masses.loss_share htotal
  have hwinKept : bounded (masses.win / masses.total) 0 1 = masses.win / masses.total :=
    bounded_of_mem hwin (by linarith)
  have hpushKept : bounded (masses.push / masses.total) 0 (1 - masses.win / masses.total) =
      masses.push / masses.total :=
    bounded_of_mem hpush (by linarith)
  have hlossKept : bounded (masses.loss / masses.total) 0 1 = masses.loss / masses.total :=
    bounded_of_mem hloss (by linarith)
  refine ⟨probabilities, ?_, hshares⟩
  unfold scoreProbabilities
  rw [if_neg (not_le.mpr htotal)]
  dsimp only
  rw [hwinKept, hpushKept, hone, hlossKept]
  exact hcreate

end MatchVet.T11.Settlement
