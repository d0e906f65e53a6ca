import MatchVet.T10.Grading
import MatchVet.T14.Settlement

/-!
# Predicted and graded markets

A contract is predicted from a surface of counts and graded from one complete
evidence group.  On every cell both rules give the same result, so the
predicted probabilities are the normalized masses of the graded results.
-/

namespace MatchVet.T14.MarketAgreement

open MatchVet.Foundation.Surface
open MatchVet.T10.Catalog
open MatchVet.T10.Evidence
open MatchVet.T10.Grading
open MatchVet.T11.Settlement (Outcome Masses Shares SettlementProbabilities
  selectedOutcome scoreOutcome scoreProbabilities settleScore fullTimeGoalPreferences)
open MatchVet.T14.Settlement

/-! ## Counts of a group -/

/-- The two counts that the surface of a family is indexed by. -/
def surfaceCounts (family : PreferenceFamily) (values : List ℕ) : ℕ × ℕ :=
  match family with
  | .firstHalfOver => (values.getD 2 0, values.getD 3 0)
  | .secondHalfOver =>
      (values.getD 0 0 - values.getD 2 0, values.getD 1 0 - values.getD 3 0)
  | _ => (values.getD 0 0, values.getD 1 0)

/-- A complete evidence group whose counts name one cell of the surface. -/
structure Observes (preference : BettingPreference) (group : EvidenceGroup)
    (cell : ℕ × ℕ) : Prop where
  complete : group.completeFor preference.requiredFacts = true
  counts : surfaceCounts preference.family
    (preference.requiredFacts.filterMap fun fact => (group.value fact).1) = cell

/-- The graded result of a class of cells. -/
def Outcome.result : Outcome → SettlementResult
  | .win => .win
  | .loss => .loss
  | .push => .push

theorem Outcome.result_injective : Function.Injective Outcome.result := by
  intro first second heq
  cases first <;> cases second <;> first | rfl | exact absurd heq (by decide)

/-! ## Contracts of the catalog -/

/-- The facts that a family settles on. -/
def familyFacts : PreferenceFamily → List Fact
  | .firstHalfOver | .secondHalfOver => halfGoalFacts
  | .cornerWinner | .totalCornersOver | .homeCornersOver | .awayCornersOver => cornerFacts
  | _ => fullGoalFacts

/-- What a family needs of its line. -/
inductive LineKind where
  | unused
  | signed
  | half
  deriving DecidableEq

def lineKind : PreferenceFamily → LineKind
  | .matchWinner | .doubleChance | .cornerWinner => .unused
  | .asianHandicap => .signed
  | _ => .half

def LineKind.accepts (kind : LineKind) (line : Option ℚ) : Bool :=
  match kind, line with
  | .unused, _ => true
  | .signed, line => line.isSome
  | .half, some line => line.den = 2
  | .half, none => false

theorem enabled_facts : ∀ preference ∈ enabledPreferences,
    preference.requiredFacts = familyFacts preference.family := by
  decide +kernel

theorem enabled_line : ∀ preference ∈ enabledPreferences,
    (lineKind preference.family).accepts preference.line = true := by
  decide +kernel

def modelFamilies : List ModelFamily :=
  [.fullTimeGoals, .firstHalfGoals, .secondHalfGoals, .corners]

theorem mem_modelFamilies (family : ModelFamily) : family ∈ modelFamilies := by
  cases family <;> decide

theorem enabled_predicts : ∀ preference ∈ enabledPreferences,
    ∃ family ∈ modelFamilies, ∀ other ∈ modelFamilies,
      predicts other preference = decide (other = family) := by
  decide +kernel

/-- Each enabled contract belongs to exactly one model family. -/
theorem existsUnique_preferenceSet {preference : BettingPreference}
    (henabled : preference ∈ enabledPreferences) :
    ∃! family, preference ∈ preferenceSet family := by
  obtain ⟨family, -, hpredicts⟩ := enabled_predicts preference henabled
  have hmem : ∀ other, preference ∈ preferenceSet other ↔ other = family := by
    intro other
    have hother := hpredicts other (mem_modelFamilies other)
    unfold preferenceSet
    rw [List.mem_filter, hother, decide_eq_true_iff]
    exact and_iff_right henabled
  exact ⟨family, (hmem family).mpr rfl, fun other hother => (hmem other).mp hother⟩

/-! ## Half lines -/

/-- A half line is an odd number of halves. -/
theorem half_line {line : ℚ} (hhalf : line.den = 2) :
    line * 2 = line.num ∧ ¬2 ∣ line.num := by
  constructor
  · have hvalue := Rat.mul_den_eq_num line
    rwa [hhalf] at hvalue
  · intro heven
    have hcoprime := line.reduced
    rw [hhalf] at hcoprime
    have hdvd : 2 ∣ line.num.natAbs := Int.natAbs_dvd_natAbs.mpr heven
    have hone : 2 ∣ 1 := hcoprime ▸ Nat.dvd_gcd hdvd dvd_rfl
    omega

/-- No count meets a half line: grading an Over contract never reaches equality. -/
theorem overResult_half (value : ℕ) {line : ℚ} (hhalf : line.den = 2) :
    overResult value line = .ok (Outcome.result (selectedOutcome ((value : ℚ) > line))) := by
  obtain ⟨hdouble, hodd⟩ := half_line hhalf
  have hden : (line * 2).den = 1 := by rw [hdouble, Rat.den_intCast]
  have hnum : (line * 2).num = line.num := by rw [hdouble, Rat.num_intCast]
  have hover : (value : ℚ) > line ↔ line.num < 2 * (value : ℤ) := by
    have hscale : (value : ℚ) > line ↔ line * 2 < 2 * (value : ℚ) := by
      constructor <;> intro hlt <;> linarith
    rw [hscale, hdouble]
    exact_mod_cast Iff.rfl
  unfold overResult
  rw [hden, hnum, if_neg (by decide)]
  by_cases hwin : line.num < 2 * (value : ℤ)
  · rw [if_pos hwin, decide_eq_true (hover.mpr hwin)]
    rfl
  · have hlose : 2 * (value : ℤ) < line.num := by omega
    rw [if_neg hwin, if_pos hlose, decide_eq_false (fun hgt => hwin (hover.mp hgt))]
    rfl

/-- The handicap margins of both rules compare alike. -/
theorem asianResult_margin (selection : String) (home away : ℕ) (line : ℚ) :
    asianResult selection home away line =
      Outcome.result
        (let difference : ℤ :=
          if selection = "Home" then (home : ℤ) - away else (away : ℤ) - home
        let adjusted : ℚ := 2 * difference + 2 * line
        if adjusted > 0 then .win else if adjusted < 0 then .loss else .push) := by
  unfold asianResult
  dsimp only
  rw [mul_comm line 2]
  generalize (2 * (((if selection = "Home" then (home : ℤ) - away else (away : ℤ) - home) : ℤ) : ℚ)
    + 2 * line) = margin
  rcases lt_trichotomy margin 0 with hneg | rfl | hpos
  · rw [if_neg (not_lt.mpr hneg.le), if_neg hneg.ne, if_neg (not_lt.mpr hneg.le), if_pos hneg]
    rfl
  · simp [Outcome.result]
  · rw [if_pos hpos, if_pos hpos]
    rfl

/-! ## One cell -/

theorem valuesFor_complete {group : EvidenceGroup} {facts : List Fact}
    (hcomplete : group.completeFor facts = true) :
    group.valuesFor facts = .ok (facts.filterMap fun fact => (group.value fact).1) := by
  rw [EvidenceGroup.valuesFor, if_pos hcomplete]

/-- The two ways an Over contract settles a count against its line. -/
theorem over_agreement {preference : BettingPreference} {line : ℚ}
    (hline : preference.line = some line) (hhalf : line.den = 2) (value : ℕ) :
    ∃ outcome,
      T14.Settlement.withLine preference (fun line => selectedOutcome ((value : ℚ) > line)) =
          .ok outcome ∧
        T10.Grading.withLine preference (fun line => overResult value line) =
          .ok (Outcome.result outcome) := by
  refine ⟨selectedOutcome ((value : ℚ) > line), ?_, ?_⟩
  · rw [T14.Settlement.withLine, hline]
  · rw [T10.Grading.withLine, hline]
    exact overResult_half value hhalf

/-- The two ways a handicap settles a goal difference against its line. -/
theorem handicap_agreement {preference : BettingPreference} {line : ℚ}
    (hline : preference.line = some line) (home away : ℕ) :
    ∃ outcome,
      T14.Settlement.withLine preference (fun line =>
          let difference : ℤ :=
            if preference.selection = "Home" then (home : ℤ) - away else (away : ℤ) - home
          let adjusted : ℚ := 2 * difference + 2 * line
          if adjusted > 0 then Outcome.win else if adjusted < 0 then .loss else .push) =
          .ok outcome ∧
        T10.Grading.withLine preference (fun line =>
          .ok (asianResult preference.selection home away line)) =
          .ok (Outcome.result outcome) := by
  rw [T14.Settlement.withLine, T10.Grading.withLine, hline]
  exact ⟨_, rfl, congrArg Except.ok (asianResult_margin ..)⟩

theorem exists_half_line {line : Option ℚ} (hline : LineKind.half.accepts line = true) :
    ∃ value, line = some value ∧ value.den = 2 := by
  cases line with
  | none => exact absurd hline (by decide)
  | some value => exact ⟨value, rfl, of_decide_eq_true hline⟩

theorem winIf_result (selected : Bool) :
    winIf selected = Outcome.result (selectedOutcome selected) := by
  cases selected <;> rfl

/-- On an enabled contract and the counts of a cell, prediction and grading give
the same result. -/
theorem cell_agreement {preference : BettingPreference}
    (henabled : preference ∈ enabledPreferences) {group : EvidenceGroup} {home away : ℕ}
    (hobserves : Observes preference group (home, away)) :
    ∃ outcome, surfaceOutcome preference home away = .ok outcome ∧
      settlePreference preference group = .ok (Outcome.result outcome) := by
  obtain ⟨hcomplete, hcounts⟩ := hobserves
  have hfacts := enabled_facts preference henabled
  have hline := enabled_line preference henabled
  have hvalues := valuesFor_complete hcomplete
  rw [hfacts] at hvalues hcounts
  generalize (familyFacts preference.family).filterMap (fun fact => (group.value fact).1) =
    values at hvalues hcounts
  unfold surfaceOutcome settlePreference
  cases hfamily : preference.family with
  | matchWinner | doubleChance | cornerWinner =>
      rw [hfamily] at hvalues hcounts
      obtain ⟨rfl, rfl⟩ := Prod.mk.inj hcounts
      dsimp only [familyFacts] at hvalues
      refine ⟨_, rfl, ?_⟩
      rw [hvalues]
      exact congrArg Except.ok (winIf_result _)
  | asianHandicap =>
      rw [hfamily] at hvalues hcounts hline
      obtain ⟨rfl, rfl⟩ := Prod.mk.inj hcounts
      obtain ⟨line, hsome⟩ := Option.isSome_iff_exists.mp hline
      dsimp only [familyFacts] at hvalues
      rw [hvalues]
      exact handicap_agreement hsome _ _
  | matchGoalsOver | firstHalfOver | secondHalfOver | totalCornersOver =>
      rw [hfamily] at hvalues hcounts hline
      obtain ⟨rfl, rfl⟩ := Prod.mk.inj hcounts
      obtain ⟨line, hsome, hhalf⟩ := exists_half_line hline
      dsimp only [familyFacts] at hvalues
      rw [hvalues]
      dsimp only
      simp only [← Nat.cast_add]
      exact over_agreement hsome hhalf _
  | homeTeamGoalsOver | awayTeamGoalsOver | homeCornersOver | awayCornersOver =>
      rw [hfamily] at hvalues hcounts hline
      obtain ⟨rfl, rfl⟩ := Prod.mk.inj hcounts
      obtain ⟨line, hsome, hhalf⟩ := exists_half_line hline
      dsimp only [familyFacts] at hvalues
      rw [hvalues]
      exact over_agreement hsome hhalf _

/-- T11 settles each cell of a full-time goal contract as T14 does. -/
theorem scoreOutcome_of_surfaceOutcome {preference : BettingPreference}
    (hgoals : preference ∈ fullTimeGoalPreferences) {home away : ℕ} {outcome : Outcome}
    (hsurface : surfaceOutcome preference home away = .ok outcome) :
    scoreOutcome preference home away = .ok outcome := by
  have hfamily : T11.Settlement.goalFamilies.contains preference.family = true :=
    (List.mem_filter.mp hgoals).2
  unfold surfaceOutcome T14.Settlement.withLine at hsurface
  unfold scoreOutcome T11.Settlement.withLine
  cases hcase : preference.family with
  | matchWinner | doubleChance =>
      rw [hcase] at hsurface
      exact congrArg Except.ok (Except.ok.inj hsurface)
  | matchGoalsOver | homeTeamGoalsOver | awayTeamGoalsOver | asianHandicap =>
      rw [hcase] at hsurface
      cases hline : preference.line with
      | none =>
          rw [hline] at hsurface
          cases hsurface
      | some line =>
          rw [hline] at hsurface
          exact congrArg Except.ok (Except.ok.inj hsurface)
  | firstHalfOver | secondHalfOver | cornerWinner | totalCornersOver | homeCornersOver
  | awayCornersOver =>
      rw [hcase] at hfamily
      exact absurd hfamily (by decide)

/-! ## Whole surfaces -/

/-- The normalized mass of the cells that grade to one result. -/
def gradedShare (preference : BettingPreference) (groups : ℕ → ℕ → EvidenceGroup)
    (surface : List (List ℚ)) (result : SettlementResult) : ℚ :=
  classMass (fun home away => (settlePreference preference (groups home away)).toOption)
      (cells surface) (some result) /
    mass (cells surface)

/-- A predicted distribution is the graded one. -/
structure GradedShares (preference : BettingPreference) (groups : ℕ → ℕ → EvidenceGroup)
    (surface : List (List ℚ)) (probabilities : SettlementProbabilities) : Prop where
  win : probabilities.winProbability = gradedShare preference groups surface .win
  push : probabilities.pushProbability = gradedShare preference groups surface .push
  loss : probabilities.lossProbability = gradedShare preference groups surface .loss

/-- A pass whose labels are the graded results accumulates the graded masses. -/
theorem gradedShares_of_shares {preference : BettingPreference}
    {groups : ℕ → ℕ → EvidenceGroup} {surface : List (List ℚ)} {label : ℕ → ℕ → Outcome}
    (hgraded : ∀ cell ∈ cells surface,
      settlePreference preference (groups cell.row cell.column) =
        .ok (Outcome.result (label cell.row cell.column)))
    {masses : Masses}
    (hread : ∀ outcome, masses.read outcome = classMass label (cells surface) outcome)
    {probabilities : SettlementProbabilities} (hshares : Shares masses probabilities) :
    GradedShares preference groups surface probabilities := by
  have hclass : ∀ outcome, masses.read outcome / masses.total =
      gradedShare preference groups surface (Outcome.result outcome) := by
    intro outcome
    have hinjective : Function.Injective fun item => some (Outcome.result item) :=
      (Option.some_injective _).comp Outcome.result_injective
    have hmass : classMass
          (fun home away => (settlePreference preference (groups home away)).toOption)
          (cells surface) (some (Outcome.result outcome)) =
        classMass label (cells surface) outcome := by
      rw [← classMass_rename hinjective label]
      apply classMass_congr
      intro cell hcell
      rw [hgraded cell hcell]
      rfl
    rw [gradedShare, Masses.total_of_read hread, hread, hmass]
  exact {
    win := hshares.win.trans (hclass .win)
    push := hshares.push.trans (hclass .push)
    loss := hshares.loss.trans (hclass .loss) }

/-- What prediction and grading of one contract agree on. -/
structure Agreement (preference : BettingPreference) : Prop where
  oneFamily : ∃! family, preference ∈ preferenceSet family
  everyCell : ∀ group cell, Observes preference group cell →
    ∃ outcome, settlePreference preference group = .ok (Outcome.result outcome)
  predicted : ∀ (surface : List (List ℚ)) (groups : ℕ → ℕ → EvidenceGroup),
    (∀ row ∈ surface, ∀ probability ∈ row, 0 ≤ probability) → 0 < mass (cells surface) →
    (∀ cell ∈ cells surface,
      Observes preference (groups cell.row cell.column) (cell.row, cell.column)) →
    ∃ probabilities, settleSurface preference surface = .ok probabilities ∧
      GradedShares preference groups surface probabilities ∧
      (preference ∈ fullTimeGoalPreferences →
        settleScore preference surface = .ok probabilities)

theorem settle_shares {preference : BettingPreference}
    (henabled : preference ∈ enabledPreferences) {surface : List (List ℚ)}
    {groups : ℕ → ℕ → EvidenceGroup}
    (hweights : ∀ row ∈ surface, ∀ probability ∈ row, 0 ≤ probability)
    (hpositive : 0 < mass (cells surface))
    (hobserves : ∀ cell ∈ cells surface,
      Observes preference (groups cell.row cell.column) (cell.row, cell.column)) :
    ∃ probabilities, settleSurface preference surface = .ok probabilities ∧
      GradedShares preference groups surface probabilities ∧
      (preference ∈ fullTimeGoalPreferences →
        settleScore preference surface = .ok probabilities) := by
  let label : ℕ → ℕ → Outcome := fun home away =>
    (surfaceOutcome preference home away).toOption.getD .loss
  have hcells : ∀ cell ∈ cells surface,
      surfaceOutcome preference cell.row cell.column = .ok (label cell.row cell.column) ∧
        settlePreference preference (groups cell.row cell.column) =
          .ok (Outcome.result (label cell.row cell.column)) := by
    intro cell hcell
    obtain ⟨outcome, hsurface, hgrade⟩ := cell_agreement henabled (hobserves cell hcell)
    have hlabel : label cell.row cell.column = outcome := by
      change (surfaceOutcome preference cell.row cell.column).toOption.getD .loss = outcome
      rw [hsurface]
      rfl
    rw [hlabel]
    exact ⟨hsurface, hgrade⟩
  have hnonneg : ∀ cell ∈ cells surface, 0 ≤ cell.weight := by
    intro cell hcell
    obtain ⟨row, hrow, hweight⟩ := weight_mem_of_cell hcell
    exact hweights row hrow cell.weight hweight
  obtain ⟨masses, hpass, hread⟩ :=
    pass_empty Masses.accumulator fun cell hcell => (hcells cell hcell).1
  have hmasses : ∀ outcome, 0 ≤ masses.read outcome := fun outcome =>
    (classMass_nonneg label hnonneg outcome).trans_eq (hread outcome).symm
  have htotal : 0 < masses.total := by
    rw [Masses.total_of_read hread]
    exact hpositive
  obtain ⟨probabilities, hprobabilities, hshares⟩ := surfaceProbabilities_shares hmasses htotal
  refine ⟨probabilities, ?_, ?_, ?_⟩
  · rw [settleSurface, hpass]
    exact hprobabilities
  · exact gradedShares_of_shares (fun cell hcell => (hcells cell hcell).2) hread hshares
  · intro hgoals
    obtain ⟨scored, hscored, hsameShares⟩ :=
      T11.Settlement.scoreProbabilities_shares hmasses htotal
    obtain ⟨scoreMasses, hscorePass, hscoreRead⟩ :=
      pass_empty Masses.accumulator fun cell hcell =>
        scoreOutcome_of_surfaceOutcome hgoals (hcells cell hcell).1
    have hsame : scoreMasses = masses :=
      Masses.ext_read fun outcome => (hscoreRead outcome).trans (hread outcome).symm
    rw [settleScore, hscorePass, hsame]
    change scoreProbabilities masses = .ok probabilities
    rw [hscored, hsameShares.unique hshares]

/-- Every contract of the default catalog is predicted from exactly one family,
grades every complete cell, and its predicted numbers are the graded shares. -/
theorem catalog_agreement :
    (∀ family, preferenceSet family ⊆ defaultPreferenceCatalog.preferences) ∧
      (∀ family surface distributions,
        T14.Settlement.settlementDistributions family surface = .ok distributions →
        distributions.map Prod.fst = (preferenceSet family).map BettingPreference.preferenceId) ∧
      ∀ preference ∈ defaultPreferenceCatalog.preferences, Agreement preference := by
  refine ⟨?_, ?_, ?_⟩
  · intro family preference hmem
    exact (List.mem_filter.mp hmem).1
  · intro family surface distributions hdistributions
    exact settlementDistributions_keys hdistributions
  · intro preference henabled
    refine ⟨existsUnique_preferenceSet henabled, ?_, ?_⟩
    · intro group cell hobserves
      obtain ⟨outcome, -, hgrade⟩ := cell_agreement henabled hobserves
      exact ⟨outcome, hgrade⟩
    · intro surface groups hweights hpositive hobserves
      exact settle_shares henabled hweights hpositive hobserves

namespace HomeWin

theorem fixture_named :
    T10.Evidence.text (.str "fixture") "Settlement Evidence fixture ID" = .ok "fixture" := by
  decide +kernel

/-- One complete record with the goals of a cell. -/
def group (home away : ℕ) : EvidenceGroup where
  sourceLevel := .competition
  sourceKey := "source"
  recordSetId := "record"
  records := [{
    fixtureId := "fixture"
    sourceLevel := .competition
    sourceKey := "source"
    recordId := "record"
    recordSetId := "record"
    sourceDigest := none
    fixtureStatus := "FINAL"
    regulationCompleted := true
    resumable := false
    administrativeAward := false
    counts := ⟨some home, some away, none, none, none, none, none, none, none, none⟩
    sourceAssertionIds := []
    publishedAtUtc := none
    observedAtUtc := none
    retrievedAtUtc := none
    predecessorId := none
    provenance := []
    fixture_text := fixture_named }]

/-- The draw, the home win and the away win of a small grid. -/
def grid : List (List ℚ) := [[1 / 2, 1 / 4], [1 / 4]]

def matchWinnerHome : BettingPreference :=
  preference "match_winner_home" .matchWinner "Home" none .fullMatch fullGoalFacts
    "backed result wins the regulation scoreline" fullGoalFacts_ne_nil false

theorem matchWinnerHome_enabled : matchWinnerHome ∈ enabledPreferences := by
  decide +kernel

theorem grid_agreement :
    ∃ probabilities, settleSurface matchWinnerHome grid = .ok probabilities ∧
      GradedShares matchWinnerHome group grid probabilities := by
  obtain ⟨probabilities, hsurface, hgraded, -⟩ :=
    (catalog_agreement.2.2 matchWinnerHome matchWinnerHome_enabled).predicted grid group
      (by decide +kernel) (by decide +kernel) (by
        intro cell _
        exact ⟨rfl, rfl⟩)
  exact ⟨probabilities, hsurface, hgraded⟩

end HomeWin

end MatchVet.T14.MarketAgreement
