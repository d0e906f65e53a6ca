import Mathlib.Algebra.Order.BigOperators.Group.List
import Mathlib.Algebra.Order.Field.Rat
import Mathlib.Tactic.FieldSimp
import Mathlib.Tactic.Linarith
import MatchVet.Foundation.Binning
import MatchVet.Foundation.Grouping
import MatchVet.T18.Folds

/-!
# Calibration bins

Scored observations are put into bins by their estimated probability.  The
calibration table and the coverage of the uncertainty intervals select the rows
of a bin separately, and describe each bin by means over the Matches of its rows.
Probabilities are exact rationals.
-/

namespace MatchVet.T18.Calibration

open MatchVet.Foundation.Binning
open MatchVet.Foundation.Grouping
open MatchVet.Foundation.Runtime
open MatchVet.T18.Folds (EvaluationError)

inductive Settlement where
  | win
  | loss
  | push
  | void
  deriving DecidableEq, Repr

/-- What the bins read of a `HistoricalEvaluation`. -/
structure HistoricalEvaluation where
  matchId : String
  estimatedProbability : ℚ
  uncertaintyLower : ℚ
  uncertaintyUpper : ℚ
  settlement : Settlement
  lower_nonneg : 0 ≤ uncertaintyLower
  lower_le : uncertaintyLower ≤ estimatedProbability
  le_upper : estimatedProbability ≤ uncertaintyUpper
  upper_le : uncertaintyUpper ≤ 1
  deriving DecidableEq

/-- How the evaluation stops: a refusal, or a fault of the host language. -/
inductive EvaluationFault where
  | refused (error : EvaluationError)
  | zeroDivision
  | assertion
  deriving DecidableEq, Repr

/-! ## Rows and means -/

/-- `_scored_rows`. -/
def scoredRows (observations : List HistoricalEvaluation) : List HistoricalEvaluation :=
  observations.filter fun item => item.settlement ≠ .void

/-- `_outcome`. -/
def outcome (observation : HistoricalEvaluation) : ℚ :=
  if observation.settlement = .win then 1 else 0

/-- `sum(values) / len(values)`. -/
def mean (values : List ℚ) : Except EvaluationFault ℚ :=
  if values.length = 0 then .error .zeroDivision else .ok (values.sum / values.length)

/-- `_match_cluster_mean`. -/
def matchClusterMean (observations : List HistoricalEvaluation)
    (value : HistoricalEvaluation → Option ℚ) : Except EvaluationFault (Option ℚ) :=
  let byMatch := groupsBy Prod.fst (observations.filterMap fun observation =>
    (value observation).map fun selected => (observation.matchId, selected))
  if byMatch.isEmpty then .ok none
  else do
    let matchMeans ← byMatch.mapM fun group => mean (group.2.map Prod.snd)
    let overall ← mean matchMeans
    .ok (some overall)

/-- `len({item.match_id for item in rows})`. -/
def matchClusters (rows : List HistoricalEvaluation) : ℕ :=
  (rows.map HistoricalEvaluation.matchId).dedup.length

/-- `assert value is not None`. -/
def present (value : Option ℚ) : Except EvaluationFault ℚ :=
  match value with
  | some selected => .ok selected
  | none => .error .assertion

/-! ## Bins -/

/-- A finite float. -/
def finiteValue? : PyFloat → Option ℚ
  | .finite value => some value
  | _ => none

/-- `_validate_calibration_edges`. -/
def validateCalibrationEdges (edges : List PyFloat) : Except EvaluationFault (List ℚ) :=
  let refusal : Except EvaluationFault (List ℚ) := .error (.refused
    ⟨"Calibration bin edges must increase strictly from zero through one."⟩)
  if edges.length < 2 ∨ edges.head? ≠ some (.finite 0) ∨ edges.getLast? ≠ some (.finite 1) then
    refusal
  else
    match edges.mapM finiteValue? with
    | none => refusal
    | some selected =>
        if (selected.zip selected.tail).any fun pair => pair.2 ≤ pair.1 then refusal
        else .ok selected

/-- The rows that a loop over the edges selects for a bin. -/
def binRows (scored : List HistoricalEvaluation) (bin : Bin ℚ) : List HistoricalEvaluation :=
  scored.filter fun item => bin.holds item.estimatedProbability

/-- Describe every bin that has a row. -/
def describeBins {β : Type}
    (describe : Bin ℚ → List HistoricalEvaluation → Except EvaluationFault β)
    (scored : List HistoricalEvaluation) : List (Bin ℚ) → Except EvaluationFault (List β)
  | [] => .ok []
  | bin :: rest =>
      let rows := binRows scored bin
      if rows.isEmpty then describeBins describe scored rest
      else do
        let entry ← describe bin rows
        let others ← describeBins describe scored rest
        .ok (entry :: others)

/-- One entry of `_calibration_bins`. -/
structure CalibrationBin where
  finish : ℚ
  matchClusters : ℕ
  meanPredictedProbability : Option ℚ
  observedSuccessRate : Option ℚ
  preferenceRows : ℕ
  start : ℚ
  deriving DecidableEq, Repr

def CalibrationBin.interval (bin : CalibrationBin) : ℚ × ℚ := (bin.start, bin.finish)

def calibrationBin (bin : Bin ℚ) (rows : List HistoricalEvaluation) :
    Except EvaluationFault CalibrationBin := do
  let predicted ← matchClusterMean rows fun item => some item.estimatedProbability
  let observed ← matchClusterMean rows fun item => some (outcome item)
  .ok {
    finish := bin.finish
    matchClusters := matchClusters rows
    meanPredictedProbability := predicted
    observedSuccessRate := observed
    preferenceRows := rows.length
    start := bin.start }

/-- `_calibration_bins`. -/
def calibrationBins (observations : List HistoricalEvaluation) (edges : List ℚ) :
    Except EvaluationFault (List CalibrationBin) :=
  describeBins calibrationBin (scoredRows observations) (enumerated edges)

/-- One entry of the bins of `_uncertainty_coverage`. -/
structure CoverageBin where
  covered : Bool
  finish : ℚ
  intervalLower : ℚ
  intervalUpper : ℚ
  matchClusters : ℕ
  observedSuccessRate : ℚ
  start : ℚ
  deriving DecidableEq, Repr

def CoverageBin.interval (bin : CoverageBin) : ℚ × ℚ := (bin.start, bin.finish)

def coverageBin (bin : Bin ℚ) (rows : List HistoricalEvaluation) :
    Except EvaluationFault CoverageBin := do
  let observedMean ← matchClusterMean rows fun item => some (outcome item)
  let lowerMean ← matchClusterMean rows fun item => some item.uncertaintyLower
  let upperMean ← matchClusterMean rows fun item => some item.uncertaintyUpper
  let observed ← present observedMean
  let lower ← present lowerMean
  let upper ← present upperMean
  .ok {
    covered := lower ≤ observed && observed ≤ upper
    finish := bin.finish
    intervalLower := lower
    intervalUpper := upper
    matchClusters := matchClusters rows
    observedSuccessRate := observed
    start := bin.start }

inductive CoverageStatus where
  | available
  | inconclusive
  deriving DecidableEq, Repr

structure UncertaintyCoverage where
  bins : List CoverageBin
  coverageRate : Option ℚ
  coveredBinCount : ℕ
  eligibleBinCount : ℕ
  nominalCoverage : Option ℚ
  status : CoverageStatus
  deriving DecidableEq, Repr

/-- The answer without a nominal coverage. -/
def UncertaintyCoverage.unstated : UncertaintyCoverage where
  bins := []
  coverageRate := none
  coveredBinCount := 0
  eligibleBinCount := 0
  nominalCoverage := none
  status := .inconclusive

/-- `_probability` on a float. -/
def probability (value : PyFloat) (label : String) : Except EvaluationFault ℚ :=
  match finiteValue? value with
  | some selected =>
      if 0 ≤ selected ∧ selected ≤ 1 then .ok selected
      else .error (.refused ⟨label ++ " must be between zero and one."⟩)
  | none => .error (.refused ⟨label ++ " must be between zero and one."⟩)

/-- `covered / len(bins) if bins else None`. -/
def coverageRate (covered total : ℕ) : Except EvaluationFault (Option ℚ) :=
  if total = 0 then .ok none else .ok (some (covered / total))

/-- `_uncertainty_coverage`. -/
def uncertaintyCoverage (observations : List HistoricalEvaluation) (edges : List ℚ)
    (nominalCoverage : Option PyFloat) : Except EvaluationFault UncertaintyCoverage :=
  match nominalCoverage with
  | none => .ok .unstated
  | some value => do
      let nominal ← probability value "Uncertainty nominal coverage"
      let bins ← describeBins coverageBin (scoredRows observations) (enumerated edges)
      let covered := bins.countP CoverageBin.covered
      let rate ← coverageRate covered bins.length
      .ok {
        bins := bins
        coverageRate := rate
        coveredBinCount := covered
        eligibleBinCount := bins.length
        nominalCoverage := some nominal
        status := if bins.isEmpty then .inconclusive else .available }

/-! ## Means lie between the bounds of their values -/

/-- A mean of values within bounds exists and lies within them. -/
theorem mean_ok {values : List ℚ} {lower upper : ℚ} (hvalues : values ≠ [])
    (hbounds : ∀ value ∈ values, lower ≤ value ∧ value ≤ upper) :
    mean values = .ok (values.sum / values.length) ∧
      lower ≤ values.sum / values.length ∧ values.sum / values.length ≤ upper := by
  have hlength : values.length ≠ 0 := mt List.length_eq_zero_iff.mp hvalues
  have hpositive : (0 : ℚ) < values.length := by exact_mod_cast Nat.pos_of_ne_zero hlength
  have hlow : values.length • lower ≤ values.sum :=
    List.card_nsmul_le_sum values lower fun value hvalue => (hbounds value hvalue).1
  have hhigh : values.sum ≤ values.length • upper :=
    List.sum_le_card_nsmul values upper fun value hvalue => (hbounds value hvalue).2
  rw [nsmul_eq_mul] at hlow hhigh
  refine ⟨if_neg hlength, ?_, ?_⟩
  · rw [le_div_iff₀ hpositive, mul_comm]
    exact hlow
  · rw [div_le_iff₀ hpositive, mul_comm]
    exact hhigh

/-- A cluster mean of some rows exists and lies within the bounds of their values. -/
theorem matchClusterMean_ok {rows : List HistoricalEvaluation}
    {value : HistoricalEvaluation → ℚ} {lower upper : ℚ} (hrows : rows ≠ [])
    (hbounds : ∀ row ∈ rows, lower ≤ value row ∧ value row ≤ upper) :
    ∃ overall, matchClusterMean rows (fun row => some (value row)) = .ok (some overall) ∧
      lower ≤ overall ∧ overall ≤ upper := by
  have hpairs : (rows.filterMap fun row => (some (value row)).map fun selected =>
      (row.matchId, selected)) = rows.map fun row => (row.matchId, value row) :=
    congrFun List.filterMap_eq_map rows
  generalize hgroups : groupsBy Prod.fst (rows.map fun row => (row.matchId, value row)) = groups
  have hgroup : ∀ group ∈ groups, group.2.map Prod.snd ≠ [] ∧
      ∀ selected ∈ group.2.map Prod.snd, lower ≤ selected ∧ selected ≤ upper := by
    intro group hmem
    obtain ⟨hmembers, hsome⟩ := mem_groupsBy.mp (hgroups ▸ hmem)
    refine ⟨mt List.map_eq_nil_iff.mp hsome, ?_⟩
    intro selected hselected
    obtain ⟨pair, hpair, rfl⟩ := List.mem_map.mp hselected
    rw [hmembers] at hpair
    obtain ⟨row, hrow, rfl⟩ := List.mem_map.mp (List.mem_filter.mp hpair).1
    exact hbounds row hrow
  have hnonempty : groups ≠ [] := by
    obtain ⟨row, hrow⟩ := List.exists_mem_of_ne_nil rows hrows
    have hmem : (row.matchId, (rows.map fun row => (row.matchId, value row)).filter
        fun pair => pair.1 = row.matchId) ∈ groups := by
      rw [← hgroups]
      refine mem_groupsBy.mpr ⟨rfl, List.ne_nil_of_mem (a := (row.matchId, value row)) ?_⟩
      exact List.mem_filter.mpr ⟨List.mem_map_of_mem hrow, by simp⟩
    exact List.ne_nil_of_mem hmem
  have hmeans : groups.mapM (fun group => mean (group.2.map Prod.snd)) = .ok
      (groups.map fun group => (group.2.map Prod.snd).sum / (group.2.map Prod.snd).length) :=
    mapM_of_forall fun group hmem => (mean_ok (hgroup group hmem).1 (hgroup group hmem).2).1
  have hselected : ∀ selected ∈ groups.map (fun group =>
      (group.2.map Prod.snd).sum / ((group.2.map Prod.snd).length : ℚ)),
      lower ≤ selected ∧ selected ≤ upper := by
    intro selected hselected
    obtain ⟨group, hmem, rfl⟩ := List.mem_map.mp hselected
    exact (mean_ok (hgroup group hmem).1 (hgroup group hmem).2).2
  have hoverall := mean_ok (mt List.map_eq_nil_iff.mp hnonempty) hselected
  refine ⟨_, ?_, hoverall.2⟩
  unfold matchClusterMean
  rw [hpairs, hgroups]
  dsimp only
  rw [if_neg (mt List.isEmpty_iff.mp hnonempty), hmeans, ok_bind, hoverall.1, ok_bind]

/-! ## Described bins -/

/-- Every bin with a row is described, in order. -/
theorem describeBins_ok {β : Type} {scored : List HistoricalEvaluation}
    {describe : Bin ℚ → List HistoricalEvaluation → Except EvaluationFault β}
    {sound : Bin ℚ → β → Prop} {bins : List (Bin ℚ)}
    (hdescribe : ∀ bin ∈ bins, binRows scored bin ≠ [] →
      ∃ entry, describe bin (binRows scored bin) = .ok entry ∧ sound bin entry) :
    ∃ entries, describeBins describe scored bins = .ok entries ∧
      List.Forall₂ sound (bins.filter fun bin => !(binRows scored bin).isEmpty) entries := by
  induction bins with
  | nil => exact ⟨[], rfl, List.Forall₂.nil⟩
  | cons bin rest ih =>
      obtain ⟨others, hothers, hsound⟩ :=
        ih fun other hother => hdescribe other (List.mem_cons_of_mem _ hother)
      by_cases hempty : (binRows scored bin).isEmpty
      · refine ⟨others, ?_, ?_⟩
        · rw [describeBins, if_pos hempty]
          exact hothers
        · rw [List.filter_cons_of_neg (by simp [hempty])]
          exact hsound
      · obtain ⟨entry, hentry, hbin⟩ :=
          hdescribe bin List.mem_cons_self (mt List.isEmpty_iff.mpr hempty)
        refine ⟨entry :: others, ?_, ?_⟩
        · rw [describeBins, if_neg hempty, hentry, ok_bind, hothers, ok_bind]
        · rw [List.filter_cons_of_pos (by simp [hempty])]
          exact List.Forall₂.cons hbin hsound

theorem eq_map_finite {raw : List PyFloat} {selected : List ℚ}
    (hselected : raw.mapM finiteValue? = some selected) : raw = selected.map PyFloat.finite := by
  induction raw generalizing selected with
  | nil =>
      obtain rfl : [] = selected := Option.some.inj hselected
      rfl
  | cons edge rest ih =>
      rw [List.mapM_cons] at hselected
      obtain ⟨value, hvalue, hrest⟩ := Option.bind_eq_some_iff.mp hselected
      obtain ⟨values, hvalues, heq⟩ := Option.bind_eq_some_iff.mp hrest
      obtain rfl : value :: values = selected := Option.some.inj heq
      obtain rfl : edge = .finite value := by
        cases edge <;> simp_all [finiteValue?]
      rw [ih hvalues, List.map_cons]

theorem pairwise_of_zip {edges : List ℚ}
    (hedges : ¬((edges.zip edges.tail).any fun pair => pair.2 ≤ pair.1) = true) :
    edges.Pairwise (· < ·) := by
  rw [← List.isChain_iff_pairwise]
  induction edges with
  | nil => exact List.IsChain.nil
  | cons first rest ih =>
      cases rest with
      | nil => exact List.IsChain.singleton first
      | cons second rest =>
          have hsplit : ¬(decide (second ≤ first) = true) ∧
              ¬(((second :: rest).zip rest).any fun pair => pair.2 ≤ pair.1) = true := by
            rw [← not_or, ← Bool.or_eq_true]
            exact hedges
          refine List.isChain_cons_cons.mpr ⟨?_, ih hsplit.2⟩
          exact not_le.mp (mt decide_eq_true hsplit.1)

/-- Accepted edges increase strictly from zero through one. -/
theorem validated_edges {raw : List PyFloat} {edges : List ℚ}
    (hedges : validateCalibrationEdges raw = .ok edges) :
    edges.Pairwise (· < ·) ∧ ∃ inner, edges = 0 :: (inner ++ [1]) := by
  unfold validateCalibrationEdges at hedges
  dsimp only at hedges
  split at hedges
  next => cases hedges
  next hends =>
    push Not at hends
    obtain ⟨hlength, hhead, hlast⟩ := hends
    cases hselected : raw.mapM finiteValue? with
    | none => rw [hselected] at hedges; cases hedges
    | some selected =>
        rw [hselected] at hedges
        dsimp only at hedges
        split at hedges
        next => cases hedges
        next hincreasing =>
          obtain rfl : selected = edges := Except.ok.inj hedges
          obtain rfl := eq_map_finite hselected
          rw [List.length_map] at hlength
          rw [List.head?_map] at hhead
          rw [List.getLast?_map] at hlast
          refine ⟨pairwise_of_zip hincreasing, ?_⟩
          cases selected with
          | nil => exact absurd hlength (by simp)
          | cons first rest =>
              obtain rfl : first = 0 := PyFloat.finite.inj (Option.some.inj hhead)
              have hrest : rest ≠ [] := by
                rintro rfl
                exact absurd hlength (by simp)
              rw [List.getLast?_cons_of_ne_nil hrest, List.getLast?_eq_some_getLast hrest] at hlast
              refine ⟨rest.dropLast, ?_⟩
              have hone : rest.getLast hrest = 1 := PyFloat.finite.inj (Option.some.inj hlast)
              rw [← hone, List.dropLast_append_getLast]

/-! ## The partition -/

/-- An observation falls into an interval; the interval that ends at one is closed. -/
def falls (row : HistoricalEvaluation) (interval : ℚ × ℚ) : Bool :=
  interval.1 ≤ row.estimatedProbability &&
    (row.estimatedProbability < interval.2 ||
      interval.2 = 1 && row.estimatedProbability = 1)

/-- Reported intervals hold every scored observation exactly once, and they are
exactly the intervals that hold one. -/
structure Partitions (observations : List HistoricalEvaluation) (edges : List ℚ)
    (intervals : List (ℚ × ℚ)) : Prop where
  once : ∀ row ∈ scoredRows observations, intervals.countP (falls row) = 1
  reported : intervals =
    (edges.zip edges.tail).filter fun interval => (scoredRows observations).any (falls · interval)

/-- A calibration entry counts the rows of its interval, and its means lie within bounds. -/
structure CalibrationBin.Sound (observations : List HistoricalEvaluation) (bin : CalibrationBin) :
    Prop where
  rows : bin.preferenceRows = (scoredRows observations).countP (falls · bin.interval)
  predicted : ∃ predicted, bin.meanPredictedProbability = some predicted ∧
    bin.start ≤ predicted ∧ predicted ≤ bin.finish
  observed : ∃ observed, bin.observedSuccessRate = some observed ∧ 0 ≤ observed ∧ observed ≤ 1

structure CoverageBin.Sound (bin : CoverageBin) : Prop where
  lower_nonneg : 0 ≤ bin.intervalLower
  upper_le : bin.intervalUpper ≤ 1
  observed_nonneg : 0 ≤ bin.observedSuccessRate
  observed_le : bin.observedSuccessRate ≤ 1

theorem outcome_mem (row : HistoricalEvaluation) : 0 ≤ outcome row ∧ outcome row ≤ 1 := by
  unfold outcome
  split <;> norm_num

theorem estimated_mem (row : HistoricalEvaluation) :
    0 ≤ row.estimatedProbability ∧ row.estimatedProbability ≤ 1 :=
  ⟨row.lower_nonneg.trans row.lower_le, row.le_upper.trans row.upper_le⟩

/-- The loops select the rows that fall into the interval of the bin. -/
theorem holds_eq_falls {edges : List ℚ} (hincreasing : edges.Pairwise (· < ·))
    (hends : ∃ inner, edges = 0 :: (inner ++ [1])) {bin : Bin ℚ} (hbin : bin ∈ enumerated edges)
    (row : HistoricalEvaluation) :
    bin.holds row.estimatedProbability = falls row bin.interval := by
  obtain ⟨inner, rfl⟩ := hends
  rw [enumerated_eq_binsOf] at hbin
  have hlast := isLast_iff_finish hincreasing hbin
  have hone := (estimated_mem row).2
  rw [Bool.eq_iff_iff, Bin.holds_iff, hlast]
  unfold falls
  rw [Bool.and_eq_true, Bool.or_eq_true, Bool.and_eq_true, decide_eq_true_iff, decide_eq_true_iff,
    decide_eq_true_iff, decide_eq_true_iff]
  refine and_congr_right fun _ => ?_
  constructor
  · rintro (hlt | ⟨hfinish, hle⟩)
    · exact Or.inl hlt
    · rcases hle.lt_or_eq with hlt | heq
      · exact Or.inl hlt
      · exact Or.inr ⟨hfinish, heq.trans hfinish⟩
  · rintro (hlt | ⟨hfinish, heq⟩)
    · exact Or.inl hlt
    · exact Or.inr ⟨hfinish, (heq.trans hfinish.symm).le⟩

/-- The bins with a row, by their intervals. -/
theorem partitions_of_nonempty {observations : List HistoricalEvaluation} {edges : List ℚ}
    (hincreasing : edges.Pairwise (· < ·)) (hends : ∃ inner, edges = 0 :: (inner ++ [1])) :
    Partitions observations edges
      (((enumerated edges).filter fun bin =>
        !(binRows (scoredRows observations) bin).isEmpty).map Bin.interval) := by
  have hfalls : ∀ bin ∈ enumerated edges, ∀ row : HistoricalEvaluation,
      bin.holds row.estimatedProbability = falls row bin.interval :=
    fun _ hbin => holds_eq_falls hincreasing hends hbin
  have hsome : ∀ bin ∈ enumerated edges, (!(binRows (scoredRows observations) bin).isEmpty) =
      (scoredRows observations).any (falls · bin.interval) := by
    intro bin hbin
    rw [Bool.eq_iff_iff, Bool.not_eq_true', ← Bool.not_eq_true, List.isEmpty_iff, binRows,
      List.filter_eq_nil_iff, List.any_eq_true]
    push Not
    simp only [hfalls bin hbin]
  have hreported : ((enumerated edges).filter fun bin =>
      !(binRows (scoredRows observations) bin).isEmpty).map Bin.interval =
      (edges.zip edges.tail).filter fun interval =>
        (scoredRows observations).any (falls · interval) := by
    rw [List.filter_congr hsome, enumerated_eq_binsOf, ← intervals_binsOf, List.filter_map]
    rfl
  refine ⟨?_, hreported⟩
  intro row hrow
  obtain ⟨inner, rfl⟩ := hends
  have hone := countP_holds hincreasing (estimated_mem row).1 (estimated_mem row).2
  rw [hreported, List.countP_filter, ← hone, ← intervals_binsOf, List.countP_map]
  refine List.countP_congr fun bin hbin => ?_
  rw [← enumerated_eq_binsOf] at hbin
  rw [hfalls bin hbin, Function.comp_apply, Bool.and_eq_true]
  exact and_iff_left_of_imp fun hfall => List.any_eq_true.mpr ⟨row, hrow, hfall⟩

/-! ## Entries -/

theorem binRows_bounds {scored : List HistoricalEvaluation} {bin : Bin ℚ}
    {row : HistoricalEvaluation} (hrow : row ∈ binRows scored bin) :
    bin.start ≤ row.estimatedProbability ∧ row.estimatedProbability ≤ bin.finish := by
  obtain ⟨hstart, hfinish⟩ := Bin.holds_iff.mp (List.mem_filter.mp hrow).2
  exact ⟨hstart, hfinish.elim le_of_lt And.right⟩

/-- A bin with a row has a sound calibration entry. -/
theorem calibrationBin_ok {observations : List HistoricalEvaluation} {bin : Bin ℚ}
    (hrows : binRows (scoredRows observations) bin ≠ [])
    (hfalls : ∀ row, bin.holds row.estimatedProbability = falls row bin.interval) :
    ∃ entry, calibrationBin bin (binRows (scoredRows observations) bin) = .ok entry ∧
      entry.interval = bin.interval ∧ entry.Sound observations := by
  obtain ⟨predicted, hpredicted, hbounds⟩ := matchClusterMean_ok hrows fun row hrow =>
    binRows_bounds hrow
  obtain ⟨observed, hobserved, hunit⟩ := matchClusterMean_ok hrows fun row _ => outcome_mem row
  refine ⟨{
    finish := bin.finish
    matchClusters := matchClusters (binRows (scoredRows observations) bin)
    meanPredictedProbability := some predicted
    observedSuccessRate := some observed
    preferenceRows := (binRows (scoredRows observations) bin).length
    start := bin.start }, ?_, rfl, ?_⟩
  · unfold calibrationBin
    rw [hpredicted, ok_bind, hobserved, ok_bind]
  · refine ⟨?_, ⟨predicted, rfl, hbounds⟩, ⟨observed, rfl, hunit⟩⟩
    dsimp only [CalibrationBin.interval]
    rw [binRows, List.countP_eq_length_filter]
    congr 1
    exact List.filter_congr fun row _ => hfalls row

/-- A bin with a row has a coverage entry, and its assertions hold. -/
theorem coverageBin_ok {scored : List HistoricalEvaluation} {bin : Bin ℚ}
    (hrows : binRows scored bin ≠ []) :
    ∃ entry, coverageBin bin (binRows scored bin) = .ok entry ∧
      entry.interval = bin.interval ∧ entry.Sound := by
  obtain ⟨observed, hobserved, hunit⟩ := matchClusterMean_ok hrows fun row _ => outcome_mem row
  have hlowers : ∀ row ∈ binRows scored bin,
      0 ≤ row.uncertaintyLower ∧ row.uncertaintyLower ≤ 1 :=
    fun row _ => ⟨row.lower_nonneg, row.lower_le.trans (estimated_mem row).2⟩
  have huppers : ∀ row ∈ binRows scored bin,
      0 ≤ row.uncertaintyUpper ∧ row.uncertaintyUpper ≤ 1 :=
    fun row _ => ⟨(estimated_mem row).1.trans row.le_upper, row.upper_le⟩
  obtain ⟨lower, hlower, hlowerUnit⟩ := matchClusterMean_ok hrows hlowers
  obtain ⟨upper, hupper, hupperUnit⟩ := matchClusterMean_ok hrows huppers
  refine ⟨{
    covered := lower ≤ observed && observed ≤ upper
    finish := bin.finish
    intervalLower := lower
    intervalUpper := upper
    matchClusters := matchClusters (binRows scored bin)
    observedSuccessRate := observed
    start := bin.start }, ?_, rfl, ?_⟩
  · unfold coverageBin
    rw [hobserved, ok_bind, hlower, ok_bind, hupper, ok_bind]
    rfl
  · exact ⟨hlowerUnit.1, hupperUnit.2, hunit.1, hunit.2⟩

theorem intervals_of_forall₂ {β : Type} {interval : β → ℚ × ℚ} {sound : β → Prop}
    {bins : List (Bin ℚ)} {entries : List β}
    (hentries : List.Forall₂ (fun bin entry => interval entry = bin.interval ∧ sound entry)
      bins entries) :
    entries.map interval = bins.map Bin.interval ∧ ∀ entry ∈ entries, sound entry := by
  induction hentries with
  | nil => exact ⟨rfl, fun _ hentry => absurd hentry List.not_mem_nil⟩
  | cons hentry _ ih =>
      refine ⟨?_, ?_⟩
      · rw [List.map_cons, List.map_cons, hentry.1, ih.1]
      · intro other hother
        rcases List.mem_cons.mp hother with rfl | hother
        · exact hentry.2
        · exact ih.2 other hother

/-- The rows of the entries add up to the scored rows. -/
theorem sum_preferenceRows {observations : List HistoricalEvaluation} {edges : List ℚ}
    {bins : List CalibrationBin}
    (hpartition : Partitions observations edges (bins.map CalibrationBin.interval))
    (hsound : ∀ bin ∈ bins, bin.Sound observations) :
    (bins.map CalibrationBin.preferenceRows).sum = (scoredRows observations).length := by
  have hcounts : bins.map CalibrationBin.preferenceRows =
      (bins.map CalibrationBin.interval).map fun interval =>
        (scoredRows observations).countP (falls · interval) := by
    rw [List.map_map]
    exact List.map_congr_left fun bin hbin => (hsound bin hbin).rows
  rw [hcounts]
  exact @sum_countP _ _ _ (fun interval row => falls row interval) _ hpartition.once

/-! ## Both tables -/

theorem refused_of_probability {value : PyFloat} {label : String} {fault : EvaluationFault}
    (hfault : probability value label = .error fault) : ∃ error, fault = .refused error := by
  unfold probability at hfault
  split at hfault
  · split at hfault
    · cases hfault
    · exact ⟨_, (Except.error.inj hfault).symm⟩
  · exact ⟨_, (Except.error.inj hfault).symm⟩

/-- The answer of `_uncertainty_coverage`: nothing without a nominal coverage, a
refusal of what is no probability, and else the partition. -/
def CoverageAnswer (observations : List HistoricalEvaluation) (edges : List ℚ)
    (nominalCoverage : Option PyFloat) : Prop :=
  match nominalCoverage with
  | none => uncertaintyCoverage observations edges none = .ok .unstated
  | some value =>
      match probability value "Uncertainty nominal coverage" with
      | .ok _ =>
          ∃ coverage, uncertaintyCoverage observations edges (some value) = .ok coverage ∧
            Partitions observations edges (coverage.bins.map CoverageBin.interval) ∧
            ∀ bin ∈ coverage.bins, bin.Sound
      | .error _ =>
          ∃ error, uncertaintyCoverage observations edges (some value) = .error (.refused error)

theorem coverage_answer {observations : List HistoricalEvaluation} {edges : List ℚ}
    (hincreasing : edges.Pairwise (· < ·)) (hends : ∃ inner, edges = 0 :: (inner ++ [1]))
    (nominalCoverage : Option PyFloat) : CoverageAnswer observations edges nominalCoverage := by
  unfold CoverageAnswer
  cases nominalCoverage with
  | none => rfl
  | some value =>
      dsimp only
      cases hprobability : probability value "Uncertainty nominal coverage" with
      | error fault =>
          obtain ⟨error, rfl⟩ := refused_of_probability hprobability
          refine ⟨error, ?_⟩
          unfold uncertaintyCoverage
          dsimp only
          rw [hprobability]
          rfl
      | ok nominal =>
          obtain ⟨entries, hentries, hsound⟩ := describeBins_ok
            fun bin (_ : bin ∈ enumerated edges)
              (hrows : binRows (scoredRows observations) bin ≠ []) => coverageBin_ok hrows
          obtain ⟨hintervals, hall⟩ := intervals_of_forall₂ hsound
          have hpartition : Partitions observations edges (entries.map CoverageBin.interval) :=
            hintervals ▸ partitions_of_nonempty hincreasing hends
          obtain ⟨rate, hrate⟩ : ∃ rate,
              coverageRate (entries.countP CoverageBin.covered) entries.length = .ok rate := by
            unfold coverageRate
            split
            · exact ⟨_, rfl⟩
            · exact ⟨_, rfl⟩
          refine ⟨{
            bins := entries
            coverageRate := rate
            coveredBinCount := entries.countP CoverageBin.covered
            eligibleBinCount := entries.length
            nominalCoverage := some nominal
            status := if entries.isEmpty then .inconclusive else .available },
              ?_, hpartition, hall⟩
          unfold uncertaintyCoverage
          dsimp only
          rw [hprobability, ok_bind, hentries, ok_bind, hrate, ok_bind]

/-- The calibration bins and the coverage bins partition the scored observations
alike, and every entry is sound. -/
theorem calibration_partition {raw : List PyFloat} {edges : List ℚ}
    (hedges : validateCalibrationEdges raw = .ok edges)
    (observations : List HistoricalEvaluation) :
    (∃ bins, calibrationBins observations edges = .ok bins ∧
      Partitions observations edges (bins.map CalibrationBin.interval) ∧
      (∀ bin ∈ bins, bin.Sound observations) ∧
      (bins.map CalibrationBin.preferenceRows).sum = (scoredRows observations).length) ∧
    ∀ nominalCoverage, CoverageAnswer observations edges nominalCoverage := by
  obtain ⟨hincreasing, hends⟩ := validated_edges hedges
  refine ⟨?_, coverage_answer hincreasing hends⟩
  obtain ⟨bins, hbins, hsound⟩ := describeBins_ok
    fun bin (hbin : bin ∈ enumerated edges)
      (hrows : binRows (scoredRows observations) bin ≠ []) =>
        calibrationBin_ok hrows (holds_eq_falls hincreasing hends hbin)
  obtain ⟨hintervals, hall⟩ := intervals_of_forall₂ hsound
  have hpartition : Partitions observations edges (bins.map CalibrationBin.interval) :=
    hintervals ▸ partitions_of_nonempty hincreasing hends
  exact ⟨bins, hbins, hpartition, hall, sum_preferenceRows hpartition hall⟩

/-! ## A scored observation without a nominal coverage -/

namespace Unstated

def edges : List PyFloat := [.finite 0, .finite (1 / 2), .finite 1]

def halfWon : HistoricalEvaluation where
  matchId := "match-1"
  estimatedProbability := 1 / 2
  uncertaintyLower := 2 / 5
  uncertaintyUpper := 3 / 5
  settlement := .win
  lower_nonneg := by decide +kernel
  lower_le := by decide +kernel
  le_upper := by decide +kernel
  upper_le := by decide +kernel

/-- A probability on an inner edge is reported once, in the upper bin. -/
theorem halfWon_partition :
    validateCalibrationEdges edges = .ok [0, 1 / 2, 1] ∧
      (∃ bins, calibrationBins [halfWon] [0, 1 / 2, 1] = .ok bins ∧
        Partitions [halfWon] [0, 1 / 2, 1] (bins.map CalibrationBin.interval) ∧
        (∀ bin ∈ bins, bin.Sound [halfWon]) ∧
        (bins.map CalibrationBin.preferenceRows).sum = (scoredRows [halfWon]).length) ∧
      ∀ nominalCoverage, CoverageAnswer [halfWon] [0, 1 / 2, 1] nominalCoverage := by
  have hedges : validateCalibrationEdges edges = .ok [0, 1 / 2, 1] := by decide +kernel
  exact ⟨hedges, calibration_partition hedges [halfWon]⟩

/-- Without a nominal coverage no coverage bin is reported, so a scored observation
is in none. -/
theorem coverage_unreported :
    ¬∀ (raw : List PyFloat) (edges : List ℚ) (observations : List HistoricalEvaluation)
      (nominalCoverage : Option PyFloat), validateCalibrationEdges raw = .ok edges →
      ∃ coverage, uncertaintyCoverage observations edges nominalCoverage = .ok coverage ∧
        ∀ row ∈ scoredRows observations,
          (coverage.bins.map CoverageBin.interval).countP (falls row) = 1 := by
  intro hclaim
  have hedges : validateCalibrationEdges edges = .ok [0, 1 / 2, 1] := by decide +kernel
  obtain ⟨coverage, hcoverage, honce⟩ := hclaim edges [0, 1 / 2, 1] [halfWon] none hedges
  obtain rfl : UncertaintyCoverage.unstated = coverage := Except.ok.inj hcoverage
  exact absurd (honce halfWon (by decide +kernel)) (by decide)

end Unstated

end MatchVet.T18.Calibration
