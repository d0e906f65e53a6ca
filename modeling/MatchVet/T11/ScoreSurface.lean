import Mathlib.Algebra.BigOperators.Ring.List
import Mathlib.Analysis.SpecialFunctions.Exponential
import Mathlib.Analysis.Normed.Ring.InfiniteSum
import Mathlib.Tactic.FieldSimp
import MatchVet.T11.Settlement

/-!
# Score surfaces

T11 multiplies two truncated Poisson distributions, rescales the four low scores
and normalizes the surface, growing the grid until the mass it leaves out is
within the tolerance.  The numbers are those of an ordered field, and the two
Poisson probabilities of no goal are any positive numbers.
-/

namespace MatchVet.T11.ScoreSurface

open MatchVet.Foundation.Runtime (bind_eq_ok)
open MatchVet.Foundation.Surface
open MatchVet.T10.Catalog
open MatchVet.T11.Settlement

/-! ## The grid -/

/-- `_T11FitFailure`. -/
structure FitFailure where
  message : String
  deriving DecidableEq, Repr

/-- The fields of `T11ModelConfig` that the surface reads, with their checks. -/
structure T11ModelConfig (K : Type) [Zero K] [One K] [LT K] where
  maximumScoreGoals : ℕ
  tailTolerance : K
  two_le : 2 ≤ maximumScoreGoals
  tolerance_pos : 0 < tailTolerance
  tolerance_lt_one : tailTolerance < 1

section
variable {K : Type} [Field K]

/-- The probability of a number of goals, from the probability of none. -/
def poisson (zero rate : K) : ℕ → K
  | 0 => zero
  | goal + 1 => poisson zero rate goal * rate / ((goal : K) + 1)

/-- `home[:, None] * away[None, :]`. -/
def outer (home away : List K) : List (List K) := home.map fun left => away.map (left * ·)

/-- `surface[row, column] *= factor`. -/
def scaleCell (surface : List (List K)) (row column : ℕ) (factor : K) : List (List K) :=
  surface.modify row fun entries => entries.modify column (· * factor)

/-- `np.sum`. -/
def total (surface : List (List K)) : K := (surface.map List.sum).sum

def divided (surface : List (List K)) (divisor : K) : List (List K) :=
  surface.map fun row => row.map (· / divisor)

/-! ## Sums of a surface -/

def rowSums (surface : List (List K)) : List K := surface.map List.sum

def columnSum (surface : List (List K)) (column : ℕ) : K :=
  (surface.map fun row => row.getD column 0).sum

/-- Every row and every column keeps its sum. -/
structure SameMargins (first second : List (List K)) : Prop where
  rows : rowSums first = rowSums second
  columns : ∀ column, columnSum first column = columnSum second column

theorem SameMargins.total {first second : List (List K)} (hsame : SameMargins first second) :
    total first = total second :=
  congrArg List.sum hsame.rows

theorem sum_mul_left (factor : K) (values : List K) :
    (values.map (factor * ·)).sum = factor * values.sum := by
  rw [List.sum_map_mul_left, List.map_id']

theorem total_outer (home away : List K) : total (outer home away) = home.sum * away.sum := by
  unfold total outer
  rw [List.map_map]
  have hrows : (List.sum ∘ fun left => away.map (left * ·)) = fun left => left * away.sum :=
    funext fun left => sum_mul_left left away
  rw [hrows, List.sum_map_mul_right, List.map_id']

theorem sum_div (divisor : K) (values : List K) :
    (values.map (· / divisor)).sum = values.sum / divisor := by
  simp only [div_eq_mul_inv]
  rw [List.sum_map_mul_right, List.map_id']

theorem total_divided (surface : List (List K)) (divisor : K) :
    total (divided surface divisor) = total surface / divisor := by
  unfold total divided
  rw [List.map_map]
  have hrows : (List.sum ∘ fun row : List K => row.map (· / divisor)) =
      fun row => row.sum / divisor :=
    funext fun row => sum_div divisor row
  rw [hrows, ← sum_div divisor (surface.map List.sum), List.map_map]
  rfl

/-- The surface with its four low cells written out. -/
theorem scaleCell_outer (home home' away away' first second third fourth : K)
    (homes aways : List K) :
    scaleCell (scaleCell (scaleCell (scaleCell
      (outer (home :: home' :: homes) (away :: away' :: aways)) 0 0 first) 0 1 second) 1 0 third)
      1 1 fourth =
    (home * away * first :: home * away' * second :: aways.map (home * ·)) ::
      (home' * away * third :: home' * away' * fourth :: aways.map (home' * ·)) ::
      homes.map fun left => left * away :: left * away' :: aways.map (left * ·) :=
  rfl

/-- The mass of a truncated distribution. -/
def truncatedMass (zero rate : K) (maximumGoals : ℕ) : K :=
  ((List.range (maximumGoals + 1)).map (poisson zero rate)).sum

/-- The first two probabilities of a grid, which the correction reads. -/
theorem range_poisson (zero rate : K) {maximumGoals : ℕ} (hgoals : 1 ≤ maximumGoals) :
    (List.range (maximumGoals + 1)).map (poisson zero rate) =
      zero :: zero * rate :: (List.range (maximumGoals - 1)).map fun goal =>
        poisson zero rate (goal + 2) := by
  obtain ⟨goals, rfl⟩ := Nat.exists_eq_add_of_le' hgoals
  rw [List.range_succ_eq_map, List.range_succ_eq_map]
  simp [poisson, Function.comp_def]

theorem divided_one (surface : List (List K)) : divided surface 1 = surface := by
  refine (List.map_congr_left fun row _ => ?_).trans surface.map_id'
  exact (List.map_congr_left fun value _ => div_one value).trans row.map_id'

end

/-! ## The loop -/

section
variable {K : Type} [Field K] [LinearOrder K]

/-- `_poisson_probabilities`, where `zero` is `math.exp(-rate)`. -/
def poissonProbabilities (zero rate : K) (maximumGoals : ℕ) : Except FitFailure (List K) :=
  if rate ≤ 0 then .error ⟨"T11 expected goals must be finite and positive."⟩
  else .ok ((List.range (maximumGoals + 1)).map (poisson zero rate))

/-- The four low scores rescaled. -/
def lowScores (homeLambda awayLambda rho : K) (surface : List (List K)) :
    Except FitFailure (List (List K)) :=
  let zeroZero := 1 - homeLambda * awayLambda * rho
  let zeroOne := 1 + homeLambda * rho
  let oneZero := 1 + awayLambda * rho
  let oneOne := 1 - rho
  if min (min zeroZero zeroOne) (min oneZero oneOne) ≤ 0 then
    .error ⟨"T11 Dixon-Coles correction became non-positive."⟩
  else
    .ok (scaleCell (scaleCell (scaleCell (scaleCell surface 0 0 zeroZero) 0 1 zeroOne) 1 0 oneZero)
      1 1 oneOne)

/-- The surface divided by its mass, checked, clipped and divided again. -/
def normalized (surface : List (List K)) (rawMass : K) : Except FitFailure (List (List K)) :=
  if (divided surface rawMass).any fun row => row.any (· < -(1 / 10 ^ 12)) then
    .error ⟨"T11 score surface is not finite and non-negative."⟩
  else
    let clipped := (divided surface rawMass).map fun row => row.map (max · 0)
    .ok (divided clipped (total clipped))

/-- A returned surface, its largest number of goals and its tail mass. -/
structure Answer (K : Type) where
  surface : List (List K)
  maximumGoals : ℕ
  tailMass : K
  deriving DecidableEq, Repr

/-- One pass of the loop; no answer means that the grid grows. -/
def attempt (homeZero awayZero homeLambda awayLambda rho : K) (config : T11ModelConfig K)
    (maximumGoals : ℕ) : Except FitFailure (Option (Answer K)) := do
  let home ← poissonProbabilities homeZero homeLambda maximumGoals
  let away ← poissonProbabilities awayZero awayLambda maximumGoals
  let surface ← lowScores homeLambda awayLambda rho (outer home away)
  let rawMass := total surface
  let tailMass := |1 - rawMass|
  if rawMass ≤ 0 then .error ⟨"T11 score surface has invalid mass."⟩
  else if tailMass ≤ config.tailTolerance then do
    let scaled ← normalized surface rawMass
    .ok (some ⟨scaled, maximumGoals, tailMass⟩)
  else if 128 ≤ maximumGoals then
    .error ⟨"T11 score-grid tail mass exceeds the versioned tolerance."⟩
  else .ok none

def grow (maximumGoals : ℕ) : ℕ := min 128 (max (maximumGoals + 1) (maximumGoals * 2))

/-- The loop, for as many passes as the first argument says. -/
def scoreLoop (homeZero awayZero homeLambda awayLambda rho : K) (config : T11ModelConfig K) :
    ℕ → ℕ → Option (Except FitFailure (Answer K))
  | 0, _ => none
  | passes + 1, maximumGoals =>
      match attempt homeZero awayZero homeLambda awayLambda rho config maximumGoals with
      | .error failure => some (.error failure)
      | .ok (some answer) => some (.ok answer)
      | .ok none => scoreLoop homeZero awayZero homeLambda awayLambda rho config passes
          (grow maximumGoals)

/-- `_score_surface`, for as many passes as the first argument says. -/
def scoreSurface (passes : ℕ) (homeZero awayZero homeLambda awayLambda rho : K)
    (config : T11ModelConfig K) : Option (Except FitFailure (Answer K)) :=
  scoreLoop homeZero awayZero homeLambda awayLambda rho config passes
    (max 2 config.maximumScoreGoals)

/-! ## The low scores -/

variable {homeLambda awayLambda rho : K}

/-- The four factors cancel in both rows and both columns. -/
theorem sameMargins_lowScores {home away home' away' : K} {homes aways : List K}
    {surface : List (List K)} (hhome : home' = home * homeLambda)
    (haway : away' = away * awayLambda)
    (hlow : lowScores homeLambda awayLambda rho
      (outer (home :: home' :: homes) (away :: away' :: aways)) = .ok surface) :
    SameMargins surface (outer (home :: home' :: homes) (away :: away' :: aways)) := by
  unfold lowScores at hlow
  dsimp only at hlow
  split at hlow
  next => cases hlow
  next =>
    obtain rfl := Except.ok.inj hlow
    subst hhome haway
    refine ⟨?_, ?_⟩
    · rw [scaleCell_outer]
      simp only [rowSums, outer, List.map_cons, List.sum_cons, List.cons.injEq, and_true]
      constructor <;> ring
    · intro column
      rw [scaleCell_outer]
      match column with
      | 0 =>
          simp only [columnSum, outer, List.map_cons, List.sum_cons, List.getD_cons_zero]
          ring
      | 1 =>
          simp only [columnSum, outer, List.map_cons, List.sum_cons, List.getD_cons_succ,
            List.getD_cons_zero]
          ring
      | column + 2 => rfl

theorem poissonProbabilities_eq_ok {zero rate : K} {maximumGoals : ℕ} {probabilities : List K}
    (hprobabilities : poissonProbabilities zero rate maximumGoals = .ok probabilities) :
    0 < rate ∧ probabilities = (List.range (maximumGoals + 1)).map (poisson zero rate) := by
  unfold poissonProbabilities at hprobabilities
  split at hprobabilities
  next => cases hprobabilities
  next hrate => exact ⟨not_le.mp hrate, (Except.ok.inj hprobabilities).symm⟩

/-- The correction of a grid keeps the sums of its rows and columns, so the raw mass is the
product of the truncated masses. -/
theorem lowScores_margins {homeZero awayZero : K} {maximumGoals : ℕ} {home away : List K}
    {surface : List (List K)} (hgoals : 1 ≤ maximumGoals)
    (hhome : poissonProbabilities homeZero homeLambda maximumGoals = .ok home)
    (haway : poissonProbabilities awayZero awayLambda maximumGoals = .ok away)
    (hlow : lowScores homeLambda awayLambda rho (outer home away) = .ok surface) :
    SameMargins surface (outer home away) ∧
      total surface = truncatedMass homeZero homeLambda maximumGoals *
        truncatedMass awayZero awayLambda maximumGoals := by
  obtain ⟨-, rfl⟩ := poissonProbabilities_eq_ok hhome
  obtain ⟨-, rfl⟩ := poissonProbabilities_eq_ok haway
  have hsame : SameMargins surface
      (outer ((List.range (maximumGoals + 1)).map (poisson homeZero homeLambda))
        ((List.range (maximumGoals + 1)).map (poisson awayZero awayLambda))) := by
    rw [range_poisson _ _ hgoals, range_poisson _ _ hgoals] at hlow ⊢
    exact sameMargins_lowScores rfl rfl hlow
  exact ⟨hsame, hsame.total.trans (total_outer _ _)⟩

/-! ## Positive cells -/

def Nonneg (surface : List (List K)) : Prop :=
  ∀ row ∈ surface, ∀ probability ∈ row, 0 ≤ probability

/-- The clip of a surface without negative cells. -/
theorem clip_eq_self {surface : List (List K)} (hsurface : Nonneg surface) :
    surface.map (fun row => row.map (max · 0)) = surface := by
  refine (List.map_congr_left fun row hrow => ?_).trans surface.map_id'
  refine (List.map_congr_left fun value hvalue => ?_).trans row.map_id'
  exact max_eq_left (hsurface row hrow value hvalue)

section Positive
variable [IsStrictOrderedRing K]

theorem poisson_pos {zero rate : K} (hzero : 0 < zero) (hrate : 0 < rate) (goal : ℕ) :
    0 < poisson zero rate goal := by
  induction goal with
  | zero => exact hzero
  | succ goal ih => exact div_pos (mul_pos ih hrate) (by positivity)

/-- The correction is refused unless its four factors are positive. -/
theorem lowScores_pos {home home' away away' : K} {homes aways : List K}
    {surface : List (List K)} (hhomes : ∀ left ∈ home :: home' :: homes, 0 < left)
    (haways : ∀ right ∈ away :: away' :: aways, 0 < right)
    (hlow : lowScores homeLambda awayLambda rho
      (outer (home :: home' :: homes) (away :: away' :: aways)) = .ok surface) :
    ∀ row ∈ surface, ∀ probability ∈ row, 0 < probability := by
  unfold lowScores at hlow
  dsimp only at hlow
  split at hlow
  next => cases hlow
  next hfactors =>
    obtain rfl := Except.ok.inj hlow
    rw [not_le, lt_min_iff, lt_min_iff, lt_min_iff] at hfactors
    obtain ⟨⟨hfirst, hsecond⟩, hthird, hfourth⟩ := hfactors
    have hrow : ∀ left, 0 < left → ∀ probability ∈ aways.map (left * ·), 0 < probability := by
      intro left hleft probability hprobability
      obtain ⟨right, hright, rfl⟩ := List.mem_map.mp hprobability
      exact mul_pos hleft (haways right (by simp [hright]))
    have hzero := hhomes home (by simp)
    have hone := hhomes home' (by simp)
    have hnil := haways away (by simp)
    have hunit := haways away' (by simp)
    rw [scaleCell_outer]
    refine List.forall_mem_cons.mpr ⟨?_, List.forall_mem_cons.mpr ⟨?_, ?_⟩⟩
    · exact List.forall_mem_cons.mpr ⟨mul_pos (mul_pos hzero hnil) hfirst,
        List.forall_mem_cons.mpr ⟨mul_pos (mul_pos hzero hunit) hsecond, hrow home hzero⟩⟩
    · exact List.forall_mem_cons.mpr ⟨mul_pos (mul_pos hone hnil) hthird,
        List.forall_mem_cons.mpr ⟨mul_pos (mul_pos hone hunit) hfourth, hrow home' hone⟩⟩
    · intro row hmem
      obtain ⟨left, hleft, rfl⟩ := List.mem_map.mp hmem
      have hpositive := hhomes left (by simp [hleft])
      exact List.forall_mem_cons.mpr ⟨mul_pos hpositive hnil,
        List.forall_mem_cons.mpr ⟨mul_pos hpositive hunit, hrow left hpositive⟩⟩

theorem nonneg_divided {surface : List (List K)} {divisor : K} (hsurface : Nonneg surface)
    (hdivisor : 0 ≤ divisor) : Nonneg (divided surface divisor) := by
  intro row hrow probability hprobability
  obtain ⟨source, hsource, rfl⟩ := List.mem_map.mp hrow
  obtain ⟨value, hvalue, rfl⟩ := List.mem_map.mp hprobability
  exact div_nonneg (hsurface source hsource value hvalue) hdivisor

/-- A surface without negative cells is divided by its mass and kept. -/
theorem normalized_eq_divided {surface : List (List K)} (hsurface : Nonneg surface)
    (htotal : 0 < total surface) :
    normalized surface (total surface) = .ok (divided surface (total surface)) := by
  have hnonneg := nonneg_divided hsurface htotal.le
  have htolerance : -(1 / 10 ^ 12 : K) ≤ 0 := neg_nonpos.mpr (by positivity)
  have hkept : ((divided surface (total surface)).any fun row =>
      row.any (· < -(1 / 10 ^ 12))) = false := by
    rw [List.any_eq_false]
    intro row hrow
    rw [Bool.not_eq_true, List.any_eq_false]
    intro value hvalue
    exact (not_lt.mpr (htolerance.trans (hnonneg row hrow value hvalue))) ∘ of_decide_eq_true
  unfold normalized
  rw [hkept, if_neg Bool.false_ne_true]
  dsimp only
  rw [clip_eq_self hnonneg, total_divided, div_self htotal.ne', divided_one]

/-! ## One pass and the loop -/

variable {homeZero awayZero : K} {config : T11ModelConfig K}

/-- A returned surface is a distribution, and its tail is the mass that the truncated
distributions leave out. -/
structure Proper (homeZero awayZero homeLambda awayLambda : K) (config : T11ModelConfig K)
    (answer : Answer K) : Prop where
  tail : answer.tailMass = |1 - truncatedMass homeZero homeLambda answer.maximumGoals *
    truncatedMass awayZero awayLambda answer.maximumGoals|
  within : answer.tailMass ≤ config.tailTolerance
  nonneg : Nonneg answer.surface
  one : total answer.surface = 1

theorem attempt_eq_some {maximumGoals : ℕ} {answer : Answer K} (hgoals : 1 ≤ maximumGoals)
    (hhomeZero : 0 < homeZero) (hawayZero : 0 < awayZero)
    (hattempt : attempt homeZero awayZero homeLambda awayLambda rho config maximumGoals =
      .ok (some answer)) :
    Proper homeZero awayZero homeLambda awayLambda config answer := by
  obtain ⟨home, hhome, hfirst⟩ := bind_eq_ok.mp hattempt
  obtain ⟨away, haway, hsecond⟩ := bind_eq_ok.mp hfirst
  obtain ⟨surface, hlow, hpass⟩ := bind_eq_ok.mp hsecond
  clear hattempt hfirst hsecond
  have hmass := (lowScores_margins hgoals hhome haway hlow).2
  obtain ⟨hhomeRate, rfl⟩ := poissonProbabilities_eq_ok hhome
  obtain ⟨hawayRate, rfl⟩ := poissonProbabilities_eq_ok haway
  have hpositive : ∀ row ∈ surface, ∀ probability ∈ row, 0 < probability := by
    have hhomes : ∀ left ∈ (List.range (maximumGoals + 1)).map (poisson homeZero homeLambda),
        0 < left := by
      intro left hleft
      obtain ⟨goal, -, rfl⟩ := List.mem_map.mp hleft
      exact poisson_pos hhomeZero hhomeRate goal
    have haways : ∀ right ∈ (List.range (maximumGoals + 1)).map (poisson awayZero awayLambda),
        0 < right := by
      intro right hright
      obtain ⟨goal, -, rfl⟩ := List.mem_map.mp hright
      exact poisson_pos hawayZero hawayRate goal
    rw [range_poisson _ _ hgoals] at hlow hhomes haways
    rw [range_poisson _ _ hgoals] at hlow
    exact lowScores_pos hhomes haways hlow
  dsimp only at hpass
  split at hpass
  next => cases hpass
  next hraw =>
    split at hpass
    next hwithin =>
      have hnonneg : Nonneg surface := fun row hrow probability hprobability =>
        (hpositive row hrow probability hprobability).le
      rw [normalized_eq_divided hnonneg (not_le.mp hraw)] at hpass
      obtain rfl := Option.some.inj (Except.ok.inj hpass)
      refine ⟨?_, hwithin, nonneg_divided hnonneg (not_le.mp hraw).le, ?_⟩
      · rw [hmass]
      · rw [total_divided, div_self (not_le.mp hraw).ne']
    next =>
      split at hpass
      next => cases hpass
      next => cases hpass

omit [IsStrictOrderedRing K] in
theorem attempt_eq_none {maximumGoals : ℕ}
    (hattempt : attempt homeZero awayZero homeLambda awayLambda rho config maximumGoals =
      .ok none) : maximumGoals < 128 := by
  obtain ⟨home, -, hattempt⟩ := bind_eq_ok.mp hattempt
  obtain ⟨away, -, hattempt⟩ := bind_eq_ok.mp hattempt
  obtain ⟨surface, -, hattempt⟩ := bind_eq_ok.mp hattempt
  dsimp only at hattempt
  split at hattempt
  next => cases hattempt
  next =>
    split at hattempt
    next =>
      obtain ⟨scaled, -, hsome⟩ := bind_eq_ok.mp hattempt
      cases hsome
    next =>
      split at hattempt
      next => cases hattempt
      next hsmall => exact not_le.mp hsmall

theorem scoreLoop_proper (hhomeZero : 0 < homeZero) (hawayZero : 0 < awayZero) {answer : Answer K}
    {passes maximumGoals : ℕ} (hgoals : 1 ≤ maximumGoals)
    (hloop : scoreLoop homeZero awayZero homeLambda awayLambda rho config passes maximumGoals =
      some (.ok answer)) :
    Proper homeZero awayZero homeLambda awayLambda config answer := by
  induction passes generalizing maximumGoals with
  | zero => cases hloop
  | succ passes ih =>
      rw [scoreLoop] at hloop
      split at hloop
      next => cases hloop
      next found hattempt =>
        obtain rfl := Except.ok.inj (Option.some.inj hloop)
        exact attempt_eq_some hgoals hhomeZero hawayZero hattempt
      next => exact ih (by unfold grow; omega) hloop

omit [IsStrictOrderedRing K] in
/-- A grid that doubles reaches the cap, and the pass at the cap is the last. -/
theorem scoreLoop_ends {passes maximumGoals : ℕ} (hgoals : 128 ≤ maximumGoals * 2 ^ passes) :
    (scoreLoop homeZero awayZero homeLambda awayLambda rho config (passes + 1)
      maximumGoals).isSome := by
  induction passes generalizing maximumGoals with
  | zero =>
      rw [scoreLoop]
      split
      next => rfl
      next => rfl
      next hattempt =>
        have hsmall := attempt_eq_none hattempt
        omega
  | succ passes ih =>
      rw [scoreLoop]
      split
      next => rfl
      next => rfl
      next =>
        refine ih ?_
        rcases Nat.lt_or_ge (maximumGoals * 2) 128 with hsmall | hlarge
        · calc
            128 ≤ maximumGoals * 2 * 2 ^ passes := by rw [mul_assoc, ← pow_succ']; exact hgoals
            _ ≤ grow maximumGoals * 2 ^ passes :=
              Nat.mul_le_mul_right _ (by unfold grow; omega)
        · have hcap : grow maximumGoals = 128 := by unfold grow; omega
          rw [hcap]
          exact Nat.le_mul_of_pos_right 128 (Nat.two_pow_pos passes)

end Positive

end

/-! ## The Poisson distribution -/

section
variable {rate : ℝ}

theorem poisson_eq_div (zero : ℝ) (goal : ℕ) :
    poisson zero rate goal = zero * (rate ^ goal / goal.factorial) := by
  induction goal with
  | zero => simp [poisson]
  | succ goal ih =>
      have hfactorial : ((goal + 1).factorial : ℝ) = ((goal : ℝ) + 1) * goal.factorial := by
        push_cast [Nat.factorial_succ]
        ring
      rw [poisson, ih, hfactorial, pow_succ]
      field_simp

theorem hasSum_poisson (rate : ℝ) : HasSum (poisson (Real.exp (-rate)) rate) 1 := by
  have hseries := (NormedSpace.expSeries_div_hasSum_exp rate).mul_left (Real.exp (-rate))
  rw [← Real.exp_eq_exp_ℝ, ← Real.exp_add, neg_add_cancel, Real.exp_zero] at hseries
  exact hseries.congr_fun fun goal => poisson_eq_div _ goal

def gridCells (maximumGoals : ℕ) : Finset (ℕ × ℕ) :=
  Finset.range (maximumGoals + 1) ×ˢ Finset.range (maximumGoals + 1)

/-- What the truncated distributions leave out is the mass of the scores outside the grid. -/
theorem truncation_loss {homeLambda awayLambda : ℝ} (hhome : 0 < homeLambda)
    (haway : 0 < awayLambda) (maximumGoals : ℕ) :
    |1 - truncatedMass (Real.exp (-homeLambda)) homeLambda maximumGoals *
        truncatedMass (Real.exp (-awayLambda)) awayLambda maximumGoals| =
      tsum fun cell : {cell : ℕ × ℕ // cell ∉ gridCells maximumGoals} =>
        poisson (Real.exp (-homeLambda)) homeLambda cell.1.1 *
          poisson (Real.exp (-awayLambda)) awayLambda cell.1.2 := by
  have hfirst := hasSum_poisson homeLambda
  have hsecond := hasSum_poisson awayLambda
  have hpositive : ∀ cell : ℕ × ℕ, 0 < poisson (Real.exp (-homeLambda)) homeLambda cell.1 *
      poisson (Real.exp (-awayLambda)) awayLambda cell.2 := fun cell =>
    mul_pos (poisson_pos (Real.exp_pos _) hhome cell.1) (poisson_pos (Real.exp_pos _) haway cell.2)
  have hsummable := hfirst.summable.mul_of_nonneg hsecond.summable
    (fun goal => (poisson_pos (Real.exp_pos _) hhome goal).le)
    (fun goal => (poisson_pos (Real.exp_pos _) haway goal).le)
  have hwhole : (tsum fun cell : ℕ × ℕ =>
      poisson (Real.exp (-homeLambda)) homeLambda cell.1 *
        poisson (Real.exp (-awayLambda)) awayLambda cell.2) = 1 := by
    rw [← hfirst.summable.tsum_mul_tsum hsecond.summable hsummable, hfirst.tsum_eq,
      hsecond.tsum_eq, one_mul]
  have hgrid : ∑ cell ∈ gridCells maximumGoals,
      poisson (Real.exp (-homeLambda)) homeLambda cell.1 *
        poisson (Real.exp (-awayLambda)) awayLambda cell.2 =
      truncatedMass (Real.exp (-homeLambda)) homeLambda maximumGoals *
        truncatedMass (Real.exp (-awayLambda)) awayLambda maximumGoals := by
    rw [gridCells, Finset.sum_product, ← Finset.sum_mul_sum]
    rfl
  have hsplit := hsummable.sum_add_tsum_subtype_compl (gridCells maximumGoals)
  rw [hgrid, hwhole] at hsplit
  rw [← hsplit, add_sub_cancel_left]
  exact abs_of_nonneg (tsum_nonneg fun cell => (hpositive cell.1).le)

end

/-! ## Settlements -/

/-- Whether a preference has a class for every cell does not depend on the cell. -/
theorem scoreOutcome_cases (preference : BettingPreference) :
    (∃ label : ℕ → ℕ → Outcome, ∀ home away, scoreOutcome preference home away = .ok (label home away)) ∨
      ∃ error, ∀ home away, scoreOutcome preference home away = .error error := by
  unfold scoreOutcome withLine
  cases preference.family with
  | matchWinner | doubleChance => exact .inl ⟨_, fun _ _ => rfl⟩
  | matchGoalsOver | homeTeamGoalsOver | awayTeamGoalsOver | asianHandicap =>
      cases preference.line with
      | none => exact .inr ⟨_, fun _ _ => rfl⟩
      | some line => exact .inl ⟨_, fun _ _ => rfl⟩
  | firstHalfOver | secondHalfOver | cornerWinner | totalCornersOver | homeCornersOver
  | awayCornersOver => exact .inr ⟨_, fun _ _ => rfl⟩

/-- A preference that asserts a line has one. -/
def linePresent (preference : BettingPreference) : Bool :=
  match preference.family with
  | .matchWinner | .doubleChance => true
  | _ => preference.line.isSome

theorem fullTimeGoalPreferences_line :
    ∀ preference ∈ fullTimeGoalPreferences, linePresent preference = true := by
  decide +kernel

/-- The contracts of the catalog give a class to every cell. -/
theorem exists_label {preference : BettingPreference}
    (hgoals : preference ∈ fullTimeGoalPreferences) :
    ∃ label : ℕ → ℕ → Outcome, ∀ home away,
      scoreOutcome preference home away = .ok (label home away) := by
  have hfamily : goalFamilies.contains preference.family = true := (List.mem_filter.mp hgoals).2
  have hline := fullTimeGoalPreferences_line preference hgoals
  unfold linePresent at hline
  unfold scoreOutcome withLine
  cases hcase : preference.family with
  | matchWinner | doubleChance => exact ⟨_, fun _ _ => rfl⟩
  | matchGoalsOver | homeTeamGoalsOver | awayTeamGoalsOver | asianHandicap =>
      rw [hcase] at hline
      cases hsome : preference.line with
      | none =>
          rw [hsome] at hline
          cases hline
      | some line => exact ⟨_, fun _ _ => rfl⟩
  | firstHalfOver | secondHalfOver | cornerWinner | totalCornersOver | homeCornersOver
  | awayCornersOver =>
      rw [hcase] at hfamily
      exact absurd hfamily (by decide)

/-- Three numbers of the unit interval that sum to one. -/
def IsDistribution (probabilities : SettlementProbabilities) : Prop :=
  (0 ≤ probabilities.winProbability ∧ probabilities.winProbability ≤ 1) ∧
    (0 ≤ probabilities.pushProbability ∧ probabilities.pushProbability ≤ 1) ∧
      (0 ≤ probabilities.lossProbability ∧ probabilities.lossProbability ≤ 1) ∧
        probabilities.winProbability + probabilities.pushProbability +
          probabilities.lossProbability = 1

theorem settleScore_of_label {preference : BettingPreference} {surface : List (List ℚ)}
    {label : ℕ → ℕ → Outcome}
    (hlabel : ∀ home away, scoreOutcome preference home away = .ok (label home away))
    (hnonneg : Nonneg surface) (htotal : total surface = 1) :
    ∃ probabilities, settleScore preference surface = .ok probabilities ∧
      IsDistribution probabilities := by
  have hweights : ∀ cell ∈ cells surface, 0 ≤ cell.weight := by
    intro cell hcell
    obtain ⟨row, hrow, hweight⟩ := weight_mem_of_cell hcell
    exact hnonneg row hrow cell.weight hweight
  have hclass : ∀ cell ∈ cells surface,
      scoreOutcome preference cell.row cell.column = .ok (label cell.row cell.column) :=
    fun cell _ => hlabel cell.row cell.column
  obtain ⟨masses, hpass, hread⟩ := pass_empty Masses.accumulator hclass
  have hmasses : ∀ outcome, 0 ≤ masses.read outcome := fun outcome =>
    (classMass_nonneg label hweights outcome).trans_eq (hread outcome).symm
  have hone : masses.total = 1 := by
    rw [Masses.total_of_read hread, mass_cells]
    exact htotal
  obtain ⟨probabilities, hprobabilities, hshares⟩ :=
    scoreProbabilities_shares hmasses (by rw [hone]; exact one_pos)
  refine ⟨probabilities, ?_, ?_, ?_, ?_, ?_⟩
  · rw [settleScore, hpass]
    exact hprobabilities
  · exact probabilities.inUnit _ (by simp)
  · exact probabilities.inUnit _ (by simp)
  · exact probabilities.inUnit _ (by simp)
  · rw [hshares.win, hshares.push, hshares.loss, hone, div_one, div_one, div_one, ← hone]
    unfold Masses.total
    ring

/-- A surface with a cell settles a preference only when every cell has a class. -/
theorem isDistribution_of_settleScore {preference : BettingPreference} {surface : List (List ℚ)}
    {probabilities : SettlementProbabilities} (hnonneg : Nonneg surface)
    (htotal : total surface = 1) (hsettle : settleScore preference surface = .ok probabilities) :
    IsDistribution probabilities := by
  rcases scoreOutcome_cases preference with ⟨label, hlabel⟩ | ⟨error, herror⟩
  · obtain ⟨found, hfound, hdistribution⟩ := settleScore_of_label hlabel hnonneg htotal
    rw [hsettle] at hfound
    exact Except.ok.inj hfound ▸ hdistribution
  · obtain ⟨masses, hpass, -⟩ := bind_eq_ok.mp hsettle
    cases hcells : cells surface with
    | nil =>
        have hmass := mass_cells surface
        rw [hcells, mass_nil] at hmass
        exact absurd (hmass.trans htotal) zero_ne_one
    | cons cell rest =>
        rw [hcells, Foundation.Surface.pass, List.foldlM_cons, herror] at hpass
        cases hpass

/-! ## Score surfaces are distributions -/

/-- The correction keeps the margins of every grid, a returned surface is a distribution whose
tail is the truncation loss, settlements are distributions, and seven passes end the loop. -/
theorem score_surface_proper {K : Type} [Field K] [LinearOrder K] [IsStrictOrderedRing K] :
    (∀ (homeZero awayZero homeLambda awayLambda rho : K) (maximumGoals : ℕ) home away surface,
      2 ≤ maximumGoals → poissonProbabilities homeZero homeLambda maximumGoals = .ok home →
        poissonProbabilities awayZero awayLambda maximumGoals = .ok away →
          lowScores homeLambda awayLambda rho (outer home away) = .ok surface →
            SameMargins surface (outer home away) ∧ total surface =
              truncatedMass homeZero homeLambda maximumGoals *
                truncatedMass awayZero awayLambda maximumGoals) ∧
    (∀ (homeZero awayZero homeLambda awayLambda rho : K) config passes answer, 0 < homeZero →
      0 < awayZero →
        scoreSurface passes homeZero awayZero homeLambda awayLambda rho config =
          some (.ok answer) → Proper homeZero awayZero homeLambda awayLambda config answer) ∧
    (∀ (homeZero awayZero homeLambda awayLambda rho : K) config,
      (scoreSurface 7 homeZero awayZero homeLambda awayLambda rho config).isSome) ∧
    (∀ (homeLambda awayLambda rho : ℝ) config passes answer, 0 < homeLambda → 0 < awayLambda →
      scoreSurface passes (Real.exp (-homeLambda)) (Real.exp (-awayLambda)) homeLambda awayLambda
        rho config = some (.ok answer) →
          answer.tailMass = tsum fun cell : {cell : ℕ × ℕ // cell ∉ gridCells answer.maximumGoals} =>
            poisson (Real.exp (-homeLambda)) homeLambda cell.1.1 *
              poisson (Real.exp (-awayLambda)) awayLambda cell.1.2) ∧
    ∀ (homeZero awayZero homeLambda awayLambda rho : ℚ) config passes answer, 0 < homeZero →
      0 < awayZero →
        scoreSurface passes homeZero awayZero homeLambda awayLambda rho config =
          some (.ok answer) →
            (∀ preference ∈ fullTimeGoalPreferences, ∃ probabilities,
              settleScore preference answer.surface = .ok probabilities ∧
                IsDistribution probabilities) ∧
            ∀ preference probabilities, settleScore preference answer.surface = .ok probabilities →
              IsDistribution probabilities := by
  refine ⟨?_, ?_, ?_, ?_, ?_⟩
  · intro homeZero awayZero homeLambda awayLambda rho maximumGoals home away surface hgoals hhome
      haway hlow
    exact lowScores_margins (by omega) hhome haway hlow
  · intro homeZero awayZero homeLambda awayLambda rho config passes answer hhome haway hsurface
    exact scoreLoop_proper hhome haway (by omega) hsurface
  · intro homeZero awayZero homeLambda awayLambda rho config
    exact scoreLoop_ends (by omega)
  · intro homeLambda awayLambda rho config passes answer hhome haway hsurface
    have hproper := scoreLoop_proper (Real.exp_pos _) (Real.exp_pos _) (by omega) hsurface
    rw [hproper.tail, truncation_loss hhome haway]
  · intro homeZero awayZero homeLambda awayLambda rho config passes answer hhome haway hsurface
    have hproper := scoreLoop_proper hhome haway (by omega) hsurface
    refine ⟨fun preference hpreference => ?_, fun preference probabilities hsettle => ?_⟩
    · obtain ⟨label, hlabel⟩ := exists_label hpreference
      exact settleScore_of_label hlabel hproper.nonneg hproper.one
    · exact isDistribution_of_settleScore hproper.nonneg hproper.one hsettle

namespace UnevenRates

def config : T11ModelConfig ℚ := ⟨2, 1 / 100, by decide, by norm_num, by norm_num⟩

/-- The surface of one and two expected goals, whose truncated masses are one. -/
def answer : Answer ℚ where
  surface :=
    [[6 / 125, 24 / 125, 4 / 25], [14 / 125, 16 / 125, 4 / 25], [1 / 25, 2 / 25, 2 / 25]]
  maximumGoals := 2
  tailMass := 0

theorem scoreSurface_answer :
    scoreSurface 1 (2 / 5) (1 / 5) 1 2 (1 / 5) config = some (.ok answer) := by
  decide +kernel

theorem score_surface_answer :
    Proper (2 / 5) (1 / 5) 1 2 config answer ∧
      ∀ preference ∈ fullTimeGoalPreferences, ∃ probabilities,
        settleScore preference answer.surface = .ok probabilities ∧
          IsDistribution probabilities := by
  have hproper := (score_surface_proper (K := ℚ)).2.1 (2 / 5) (1 / 5) 1 2 (1 / 5) config 1 answer
    (by norm_num) (by norm_num) scoreSurface_answer
  have hsettle := (score_surface_proper (K := ℚ)).2.2.2.2 (2 / 5) (1 / 5) 1 2 (1 / 5) config 1
    answer (by norm_num) (by norm_num) scoreSurface_answer
  exact ⟨hproper, hsettle.1⟩

end UnevenRates

end MatchVet.T11.ScoreSurface
