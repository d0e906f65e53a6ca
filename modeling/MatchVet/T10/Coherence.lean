import MatchVet.T10.Closing
import MatchVet.T14.MarketAgreement

/-!
# Coherence of the settled markets

The contracts that read the same facts are settled from one group of records.
Each result is a function of the counts of that group, so the results of two
contracts compare as their counts and lines do.
-/

namespace MatchVet.T10.Coherence

open MatchVet.Foundation.CanonicalJson
open MatchVet.Foundation.Runtime
open MatchVet.T10.Catalog
open MatchVet.T10.Closing (factGroup_supplies)
open MatchVet.T10.Evidence
open MatchVet.T10.Grade
open MatchVet.T10.GradeFrame
open MatchVet.T10.Grader
open MatchVet.T10.Grading
open MatchVet.T14.MarketAgreement

/-! ## Results of counts -/

/-- The counts that a group gives for some facts. -/
def countsOf (group : EvidenceGroup) (factSet : List Fact) : List ℕ :=
  factSet.filterMap fun fact => (group.value fact).1

/-- The count that an Over family compares with its line. -/
def overCount : PreferenceFamily → List ℕ → ℕ
  | .firstHalfOver, values => values.getD 2 0 + values.getD 3 0
  | .secondHalfOver, values =>
      values.getD 0 0 - values.getD 2 0 + (values.getD 1 0 - values.getD 3 0)
  | .homeTeamGoalsOver, values | .homeCornersOver, values => values.getD 0 0
  | .awayTeamGoalsOver, values | .awayCornersOver, values => values.getD 1 0
  | _, values => values.getD 0 0 + values.getD 1 0

/-- The result of a contract on the counts of its facts. -/
def settledResult (preference : BettingPreference) (values : List ℕ) : SettlementResult :=
  let line := preference.line.getD 0
  match preference.family with
  | .matchWinner | .cornerWinner =>
      winIf (compareSides preference.selection (values.getD 0 0) (values.getD 1 0))
  | .doubleChance =>
      winIf (doubleChance preference.selection (values.getD 0 0) (values.getD 1 0))
  | .asianHandicap =>
      asianResult preference.selection (values.getD 0 0) (values.getD 1 0) line
  | family => winIf (line < overCount family values)

theorem overResult_of_half (value : ℕ) {line : ℚ} (hhalf : line.den = 2) :
    overResult value line = .ok (winIf (line < value)) := by
  rw [overResult_half value hhalf, winIf_result]

/-- An enabled contract settles on every group that is complete for its facts, and is
never settled without one. -/
theorem settlePreference_eq {preference : BettingPreference}
    (henabled : preference ∈ enabledPreferences) (group : EvidenceGroup) :
    settlePreference preference group =
      if group.completeFor preference.requiredFacts then
        .ok (settledResult preference (countsOf group preference.requiredFacts))
      else invalid "An incomplete or conflicting evidence group has no values." := by
  have hfacts := enabled_facts preference henabled
  have hline := enabled_line preference henabled
  by_cases hcomplete : group.completeFor preference.requiredFacts = true
  · rw [if_pos hcomplete]
    have hvalues := valuesFor_complete hcomplete
    rw [hfacts] at hvalues
    unfold settlePreference settledResult countsOf
    rw [hfacts]
    generalize (familyFacts preference.family).filterMap (fun fact => (group.value fact).1) =
      values at hvalues
    cases hfamily : preference.family with
    | matchWinner | doubleChance | cornerWinner =>
        rw [hfamily] at hvalues
        dsimp only [familyFacts] at hvalues
        rw [hvalues]
        rfl
    | asianHandicap =>
        rw [hfamily] at hvalues hline
        obtain ⟨line, hsome⟩ := Option.isSome_iff_exists.mp hline
        dsimp only [familyFacts] at hvalues
        rw [hvalues, hsome]
        unfold T10.Grading.withLine
        rw [hsome]
        rfl
    | matchGoalsOver | firstHalfOver | secondHalfOver | totalCornersOver | homeTeamGoalsOver
    | awayTeamGoalsOver | homeCornersOver | awayCornersOver =>
        rw [hfamily] at hvalues hline
        obtain ⟨line, hsome, hhalf⟩ := exists_half_line hline
        dsimp only [familyFacts] at hvalues
        rw [hvalues, hsome]
        unfold T10.Grading.withLine
        rw [hsome]
        exact overResult_of_half _ hhalf
  · rw [if_neg hcomplete]
    have hvalues : group.valuesFor preference.requiredFacts =
        invalid "An incomplete or conflicting evidence group has no values." := by
      rw [EvidenceGroup.valuesFor, if_neg hcomplete]
    rw [hfacts] at hvalues
    unfold settlePreference
    cases hfamily : preference.family with
    | matchWinner | doubleChance | cornerWinner | asianHandicap | matchGoalsOver | firstHalfOver
    | secondHalfOver | totalCornersOver | homeTeamGoalsOver | awayTeamGoalsOver
    | homeCornersOver | awayCornersOver =>
        rw [hfamily] at hvalues
        dsimp only [familyFacts] at hvalues
        rw [hvalues]
        rfl

/-- The half-time goals of a group that is complete for them are no more than the
full-time goals, so the second half has a count. -/
theorem half_le_full {group : EvidenceGroup} (hcomplete : group.completeFor halfGoalFacts = true) :
    (countsOf group halfGoalFacts).getD 2 0 ≤ (countsOf group halfGoalFacts).getD 0 0 ∧
      (countsOf group halfGoalFacts).getD 3 0 ≤ (countsOf group halfGoalFacts).getD 1 0 := by
  have hknown (fact : Fact) (hfact : fact ∈ halfGoalFacts) := completeFor_value hcomplete hfact
  obtain ⟨home, hhome⟩ := hknown .fullTimeHomeGoals (by decide)
  obtain ⟨away, haway⟩ := hknown .fullTimeAwayGoals (by decide)
  obtain ⟨homeHalf, hhomeHalf⟩ := hknown .halfTimeHomeGoals (by decide)
  obtain ⟨awayHalf, hawayHalf⟩ := hknown .halfTimeAwayGoals (by decide)
  have hcounts : countsOf group halfGoalFacts = [home, away, homeHalf, awayHalf] := by
    simp [countsOf, halfGoalFacts, hhome, haway, hhomeHalf, hawayHalf]
  unfold EvidenceGroup.completeFor at hcomplete
  rw [hhome, haway, hhomeHalf, hawayHalf] at hcomplete
  rw [hcounts]
  rw [Bool.and_eq_true] at hcomplete
  simpa [SettlementEvidence.halfExceeds] using hcomplete.2

/-! ## Results of the same counts -/

/-- The Match Winner selections that a Double Chance backs. -/
def components (selection : String) : List String :=
  if selection = "1X" then ["Home", "Draw"]
  else if selection = "X2" then ["Draw", "Away"]
  else ["Home", "Away"]

/-- The result of the other side of a handicap. -/
def mirror : SettlementResult → SettlementResult
  | .win => .loss
  | .loss => .win
  | .push => .push
  | .void => .void

theorem mirror_mirror (result : SettlementResult) : mirror (mirror result) = result := by
  cases result <;> rfl

/-- Families whose count is never more than the second family's, on the same facts. -/
def countedIn : List (PreferenceFamily × PreferenceFamily) :=
  [(.matchGoalsOver, .matchGoalsOver), (.firstHalfOver, .firstHalfOver),
    (.secondHalfOver, .secondHalfOver), (.homeTeamGoalsOver, .homeTeamGoalsOver),
    (.awayTeamGoalsOver, .awayTeamGoalsOver), (.totalCornersOver, .totalCornersOver),
    (.homeCornersOver, .homeCornersOver), (.awayCornersOver, .awayCornersOver),
    (.homeTeamGoalsOver, .matchGoalsOver), (.awayTeamGoalsOver, .matchGoalsOver),
    (.homeCornersOver, .totalCornersOver), (.awayCornersOver, .totalCornersOver)]

theorem winIf_eq_win {condition : Bool} : winIf condition = .win ↔ condition = true := by
  cases condition <;> simp [winIf]

theorem winIf_mem (condition : Bool) : winIf condition ∈ [SettlementResult.win, .loss] := by
  cases condition <;> decide

/-- Exactly one side has more, or neither has. -/
theorem existsUnique_side (home away : ℕ) :
    ∃ winner ∈ ["Home", "Draw", "Away"], ∀ selection ∈ ["Home", "Draw", "Away"],
      (compareSides selection home away = true ↔ selection = winner) := by
  rcases lt_trichotomy home away with hless | rfl | hmore
  · exact ⟨"Away", by decide, by simp [compareSides, hless, hless.ne, hless.le]⟩
  · exact ⟨"Draw", by decide, by simp [compareSides]⟩
  · exact ⟨"Home", by decide, by simp [compareSides, hmore, hmore.ne', hmore.le]⟩

theorem doubleChance_iff (selection : String) (home away : ℕ) :
    doubleChance selection home away = true ↔
      ∃ component ∈ components selection, compareSides component home away = true := by
  have hhome : compareSides "Home" home away = true ↔ away < home := decide_eq_true_iff
  have haway : compareSides "Away" home away = true ↔ home < away := decide_eq_true_iff
  have hdraw : compareSides "Draw" home away = true ↔ home = away := decide_eq_true_iff
  unfold doubleChance components
  split
  · simp only [List.mem_cons, List.not_mem_nil, or_false, exists_eq_or_imp, exists_eq_left, hhome,
      hdraw, decide_eq_true_iff]
    omega
  · split
    · simp only [List.mem_cons, List.not_mem_nil, or_false, exists_eq_or_imp, exists_eq_left,
        haway, hdraw, decide_eq_true_iff]
      omega
    · simp only [List.mem_cons, List.not_mem_nil, or_false, exists_eq_or_imp, exists_eq_left,
        hhome, haway, decide_eq_true_iff]
      omega

theorem asianResult_mirror (home away : ℕ) (line : ℚ) :
    asianResult "Away" home away (-line) = mirror (asianResult "Home" home away line) := by
  have haway : ¬ "Away" = "Home" := by decide
  unfold asianResult
  dsimp only
  simp only [if_neg haway, if_true]
  generalize hmargin : 2 * (((home : ℤ) - away : ℤ) : ℚ) + line * 2 = margin
  have hother : 2 * (((away : ℤ) - home : ℤ) : ℚ) + -line * 2 = -margin := by
    rw [← hmargin]
    push_cast
    ring
  rw [hother]
  rcases lt_trichotomy margin 0 with hneg | rfl | hpos
  · rw [if_pos (neg_pos.mpr hneg), if_neg (not_lt.mpr hneg.le), if_neg hneg.ne]
    rfl
  · simp [mirror]
  · rw [if_neg (by linarith), if_neg (by linarith), if_pos hpos]
    rfl

theorem overCount_le {smaller larger : PreferenceFamily} (hcounted : (smaller, larger) ∈ countedIn)
    (values : List ℕ) : overCount smaller values ≤ overCount larger values := by
  simp only [countedIn, List.mem_cons, Prod.mk.injEq, List.not_mem_nil, or_false] at hcounted
  rcases hcounted with ⟨rfl, rfl⟩ | ⟨rfl, rfl⟩ | ⟨rfl, rfl⟩ | ⟨rfl, rfl⟩ | ⟨rfl, rfl⟩ | ⟨rfl, rfl⟩ |
    ⟨rfl, rfl⟩ | ⟨rfl, rfl⟩ | ⟨rfl, rfl⟩ | ⟨rfl, rfl⟩ | ⟨rfl, rfl⟩ | ⟨rfl, rfl⟩ <;>
    simp [overCount]

/-! ## Contracts of a family -/

theorem enabled_winner : ∀ family ∈ [PreferenceFamily.matchWinner, .cornerWinner],
    ∀ selection ∈ ["Home", "Draw", "Away"], ∃ preference ∈ enabledPreferences,
      preference.family = family ∧ preference.selection = selection := by
  decide +kernel

theorem enabled_selection : ∀ preference ∈ enabledPreferences,
    preference.family ∈ [PreferenceFamily.matchWinner, .cornerWinner] →
      preference.selection ∈ ["Home", "Draw", "Away"] ∧ ∀ other ∈ enabledPreferences,
        other.family = preference.family → other.selection = preference.selection →
          other = preference := by
  decide +kernel

theorem enabled_possible : ∀ preference ∈ enabledPreferences,
    (.win ∈ preference.possibleResults ∧ .loss ∈ preference.possibleResults) ∧
      (preference.family = .asianHandicap → (preference.line.getD 0).den = 1 →
        .push ∈ preference.possibleResults) := by
  decide +kernel

theorem countedIn_facts : ∀ families ∈ countedIn, familyFacts families.1 = familyFacts families.2 := by
  decide

/-- Only a goal difference on a whole line is pushed. -/
theorem asianResult_push {selection : String} {home away : ℕ} {line : ℚ}
    (hpush : asianResult selection home away line = .push) : line.den = 1 := by
  unfold asianResult at hpush
  dsimp only at hpush
  generalize (if selection = "Home" then (home : ℤ) - away else (away : ℤ) - home) = backed
    at hpush
  split at hpush
  · cases hpush
  · split at hpush
    next hzero =>
      have hline : line = ((-backed : ℤ) : ℚ) := by
        push_cast
        linarith
      rw [hline]
      exact Rat.den_intCast _
    · cases hpush

theorem asianResult_ne_void (selection : String) (home away : ℕ) (line : ℚ) :
    asianResult selection home away line ≠ .void := by
  unfold asianResult
  dsimp only
  generalize (if selection = "Home" then (home : ℤ) - away else (away : ℤ) - home) = backed
  split
  · decide
  · split <;> decide

theorem settledResult_winner {preference : BettingPreference}
    (hfamily : preference.family ∈ [PreferenceFamily.matchWinner, .cornerWinner])
    (values : List ℕ) :
    settledResult preference values = .win ↔
      compareSides preference.selection (values.getD 0 0) (values.getD 1 0) = true := by
  simp only [List.mem_cons, List.not_mem_nil, or_false] at hfamily
  unfold settledResult
  rcases hfamily with hfamily | hfamily <;> rw [hfamily] <;> exact winIf_eq_win

theorem settledResult_over {preference : BettingPreference} {line : ℚ}
    (hfamily : (lineKind preference.family) = .half) (hline : preference.line = some line)
    (values : List ℕ) :
    settledResult preference values = .win ↔ line < overCount preference.family values := by
  unfold settledResult
  rw [hline]
  cases hcase : preference.family <;> rw [hcase] at hfamily <;>
    first | exact absurd hfamily (by decide) | exact winIf_eq_win.trans decide_eq_true_iff

theorem settledResult_twoWay {preference : BettingPreference}
    (hfamily : preference.family ≠ .asianHandicap) (values : List ℕ) :
    settledResult preference values ∈ [SettlementResult.win, .loss] := by
  unfold settledResult
  cases hcase : preference.family <;>
    first | exact absurd hcase hfamily | exact winIf_mem _

/-- A contract settles to one of its declared results, and is pushed on a whole
handicap line only. -/
theorem settledResult_possible {preference : BettingPreference}
    (henabled : preference ∈ enabledPreferences) (values : List ℕ) :
    settledResult preference values ∈ preference.possibleResults ∧
      (settledResult preference values = .push → preference.family = .asianHandicap ∧
        ∃ line, preference.line = some line ∧ line.den = 1) := by
  obtain ⟨⟨hwin, hloss⟩, hpush⟩ := enabled_possible preference henabled
  by_cases hfamily : preference.family = .asianHandicap
  · have hresult : settledResult preference values = asianResult preference.selection
        (values.getD 0 0) (values.getD 1 0) (preference.line.getD 0) := by
      unfold settledResult
      rw [hfamily]
    rw [hresult]
    have hline := enabled_line preference henabled
    rw [hfamily] at hline
    obtain ⟨line, hsome⟩ := Option.isSome_iff_exists.mp hline
    refine ⟨?_, fun hpushed => ⟨hfamily, line, hsome, ?_⟩⟩
    · cases hcase : asianResult preference.selection (values.getD 0 0) (values.getD 1 0)
          (preference.line.getD 0) with
      | win => exact hwin
      | loss => exact hloss
      | push => exact hpush hfamily (asianResult_push hcase)
      | void => exact absurd hcase (asianResult_ne_void _ _ _ _)
    · have hden := asianResult_push hpushed
      rw [hsome] at hden
      exact hden
  · have htwo := settledResult_twoWay hfamily values
    simp only [List.mem_cons, List.not_mem_nil, or_false] at htwo
    rcases htwo with hresult | hresult
    · rw [hresult]
      exact ⟨hwin, fun hpushed => by cases hpushed⟩
    · rw [hresult]
      exact ⟨hloss, fun hpushed => by cases hpushed⟩

theorem countedIn_half : ∀ families ∈ countedIn,
    lineKind families.1 = .half ∧ lineKind families.2 = .half := by
  decide

theorem mem_of_components {selection component : String}
    (hcomponent : component ∈ components selection) : component ∈ ["Home", "Draw", "Away"] := by
  unfold components at hcomponent
  split at hcomponent
  · exact List.mem_append_left ["Away"] hcomponent
  · split at hcomponent
    · exact List.mem_cons_of_mem _ hcomponent
    · simp only [List.mem_cons, List.not_mem_nil, or_false] at hcomponent ⊢
      rcases hcomponent with rfl | rfl
      · exact Or.inl rfl
      · exact Or.inr (Or.inr rfl)

/-! ## All grades of one evidence list -/

/-- What a caller asks to be graded under every contract. -/
structure GradeAllRequest where
  evidence : List SettlementEvidence
  fixtureId : Option String
  finalize : Bool
  closeUnresolved : Option Bool
  withdrawn : Bool
  matchweekId : String
  recommendationIds : List (String × String)
  predictionDigests : List (String × String)
  frozenEvidenceDigest : Option String

def GradeAllRequest.request (all : GradeAllRequest) (preference : BettingPreference) :
    GradeRequest where
  preferenceId := preference.preferenceId
  evidence := all.evidence
  fixtureId := all.fixtureId
  finalize := all.finalize
  closeUnresolved := all.closeUnresolved
  withdrawn := all.withdrawn
  matchweekId := all.matchweekId
  recommendationId := (all.recommendationIds.lookup preference.preferenceId).getD ""
  predictionDigest := all.predictionDigests.lookup preference.preferenceId
  frozenEvidenceDigest := all.frozenEvidenceDigest
  frozenRecommendation := none

section Grades

variable [Hashing]

/-- The counts that control some facts. -/
def Counts (all : GradeAllRequest) (factSet : List Fact) (values : List ℕ) : Prop :=
  all.withdrawn = false ∧ ∃ selected,
    Controls (evidenceGroups (activeEvidenceRecords (sortedRecords all.evidence)).1) factSet
      selected ∧ countsOf selected factSet = values

theorem counts_unique {all : GradeAllRequest} {factSet : List Fact} {first second : List ℕ}
    (hfirst : Counts all factSet first) (hsecond : Counts all factSet second) :
    first = second := by
  obtain ⟨-, selected, controls, rfl⟩ := hfirst
  obtain ⟨-, other, controlsOther, rfl⟩ := hsecond
  have hsame : selected = other :=
    Option.some.inj (controls.selected.symm.trans controlsOther.selected)
  rw [hsame]

/-- Grades that settle a contract. -/
def Settles (grades : List SettlementGrade) (preference : BettingPreference)
    (result : SettlementResult) : Prop :=
  ∃ graded ∈ grades, graded.preference = preference ∧ graded.reasonCode = "GRADED" ∧
    graded.settlementResult = some result

/-- The counts of a family's facts, for each of its contracts. -/
theorem counts_family {all : GradeAllRequest} {preference : BettingPreference}
    (henabled : preference ∈ enabledPreferences) {family : PreferenceFamily}
    (hfamily : preference.family = family) {values : List ℕ} :
    Counts all preference.requiredFacts values ↔ Counts all (familyFacts family) values := by
  rw [enabled_facts preference henabled, hfamily]

variable [PyRuntime]

/-- `SettlementGrader.grade_all`. -/
def gradeAll (all : GradeAllRequest) : Except T10Error (List SettlementGrade) :=
  defaultPreferenceCatalog.preferences.mapM fun preference => grade (all.request preference)

/-- A contract is settled by the counts that control its facts, and by nothing else. -/
theorem settles_iff {all : GradeAllRequest} {grades : List SettlementGrade}
    (hgrades : gradeAll all = .ok grades) {preference : BettingPreference}
    {result : SettlementResult} :
    Settles grades preference result ↔ preference ∈ enabledPreferences ∧
      ∃ values, Counts all preference.requiredFacts values ∧
        settledResult preference values = result := by
  have hall := forall₂_of_mapM hgrades
  constructor
  · rintro ⟨graded, hmem, rfl, hcode, hresult⟩
    obtain ⟨contract, hcontract, hgrade⟩ := exists_of_mem_right hall hmem
    obtain ⟨preference, selected, fixtureId, outcome, framed, houtcome, hnodup, hgraded⟩ :=
      grade_eq_ok.mp hgrade
    have hsame : contract = preference :=
      Option.some.inj ((get?_preferenceId contract hcontract).symm.trans framed.contract)
    subst hsame
    rw [hgraded] at hcode hresult ⊢
    refine ⟨hcontract, ?_⟩
    obtain ⟨hwithdrawn, group, settled, controls, hsettle, hsettled⟩ :=
      controls_of_graded houtcome hcode
    have hcomplete := (factGroup_supplies controls.selected).complete
    rw [settlePreference_eq hcontract, if_pos hcomplete] at hsettle
    have hsame := (congrArg some (Except.ok.inj hsettle)).trans (hsettled.symm.trans hresult)
    exact ⟨_, ⟨hwithdrawn, group, controls, rfl⟩, Option.some.inj hsame⟩
  · rintro ⟨henabled, values, ⟨hwithdrawn, selected, controls, rfl⟩, rfl⟩
    obtain ⟨graded, hmem, hgrade⟩ := exists_of_mem_left hall henabled
    obtain ⟨contract, named, fixtureId, outcome, framed, houtcome, hnodup, hgraded⟩ :=
      grade_eq_ok.mp hgrade
    have hsame : preference = contract :=
      Option.some.inj ((get?_preferenceId preference henabled).symm.trans framed.contract)
    subst hsame
    have hsettle := settlePreference_eq henabled selected
    rw [if_pos (factGroup_supplies controls.selected).complete] at hsettle
    obtain ⟨known, hknown, hcode, hresult⟩ := gradeOutcome_graded controls hsettle
    change gradeOutcome _ all.withdrawn _ _ = _ at houtcome
    rw [hwithdrawn] at houtcome
    have houtcomes : known = outcome := Except.ok.inj (hknown.symm.trans houtcome)
    refine ⟨graded, hmem, ?_⟩
    rw [hgraded]
    exact ⟨rfl, houtcomes ▸ hcode, houtcomes ▸ hresult⟩

/-- Grades whose settled contracts do not contradict each other. -/
structure Coherent (grades : List SettlementGrade) : Prop where
  winner : ∀ family ∈ [PreferenceFamily.matchWinner, .cornerWinner],
    (∃ settled result, Settles grades settled result ∧
      settled.requiredFacts = familyFacts family) →
    ∃! preference, preference.family = family ∧ Settles grades preference .win
  doubleChance : ∀ preference result, preference.family = .doubleChance →
    Settles grades preference result →
      (result = .win ↔ ∃ component, component.family = .matchWinner ∧
        component.selection ∈ components preference.selection ∧ Settles grades component .win)
  handicap : ∀ home ∈ enabledPreferences, ∀ away ∈ enabledPreferences, ∀ line,
    home.family = .asianHandicap → away.family = .asianHandicap →
    home.selection = "Home" → away.selection = "Away" →
    home.line = some line → away.line = some (-line) →
      ∀ result, Settles grades home result ↔ Settles grades away (mirror result)
  counts : ∀ harder, ∀ easier ∈ enabledPreferences, (harder.family, easier.family) ∈ countedIn →
    ∀ line smaller, harder.line = some line → easier.line = some smaller → smaller ≤ line →
      Settles grades harder .win → Settles grades easier .win
  possible : ∀ preference result, Settles grades preference result →
    result ∈ preference.possibleResults
  push : ∀ preference, Settles grades preference .push → preference.family = .asianHandicap ∧
    ∃ line, preference.line = some line ∧ line.den = 1

variable {all : GradeAllRequest} {grades : List SettlementGrade}

theorem winner_of_grades (hgrades : gradeAll all = .ok grades) {family : PreferenceFamily}
    (hfamily : family ∈ [PreferenceFamily.matchWinner, .cornerWinner]) {values : List ℕ}
    (hcounts : Counts all (familyFacts family) values) :
    ∃! preference, preference.family = family ∧ Settles grades preference .win := by
  obtain ⟨side, hside, honly⟩ := existsUnique_side (values.getD 0 0) (values.getD 1 0)
  obtain ⟨preference, henabled, rfl, rfl⟩ := enabled_winner family hfamily side hside
  refine ⟨preference, ⟨rfl, (settles_iff hgrades).mpr ⟨henabled, values,
    (counts_family henabled rfl).mpr hcounts, (settledResult_winner hfamily values).mpr
      ((honly _ hside).mpr rfl)⟩⟩, ?_⟩
  rintro other ⟨hother, hsettles⟩
  obtain ⟨hotherEnabled, known, hknown, hwin⟩ := (settles_iff hgrades).mp hsettles
  obtain rfl := counts_unique hcounts ((counts_family hotherEnabled hother).mp hknown)
  have hotherFamily : other.family ∈ [PreferenceFamily.matchWinner, .cornerWinner] :=
    hother ▸ hfamily
  have hcompare := (settledResult_winner hotherFamily values).mp hwin
  have hselection := (honly _ (enabled_selection other hotherEnabled hotherFamily).1).mp hcompare
  exact (enabled_selection preference henabled hfamily).2 other hotherEnabled hother hselection

theorem doubleChance_of_grades (hgrades : gradeAll all = .ok grades)
    {preference : BettingPreference} {result : SettlementResult}
    (hfamily : preference.family = .doubleChance) (hsettles : Settles grades preference result) :
    result = .win ↔ ∃ component, component.family = .matchWinner ∧
      component.selection ∈ components preference.selection ∧ Settles grades component .win := by
  obtain ⟨henabled, values, hcounts, rfl⟩ := (settles_iff hgrades).mp hsettles
  have hgoals := (counts_family henabled hfamily).mp hcounts
  have hresult : settledResult preference values = .win ↔
      doubleChance preference.selection (values.getD 0 0) (values.getD 1 0) = true := by
    unfold settledResult
    rw [hfamily]
    exact winIf_eq_win
  rw [hresult, doubleChance_iff]
  constructor
  · rintro ⟨side, hside, hcompare⟩
    obtain ⟨component, hcomponent, hwinner, rfl⟩ :=
      enabled_winner .matchWinner (by decide) side (mem_of_components hside)
    refine ⟨component, hwinner, hside, (settles_iff hgrades).mpr ⟨hcomponent, values,
      (counts_family hcomponent hwinner).mpr hgoals, ?_⟩⟩
    exact (settledResult_winner (hwinner ▸ List.mem_cons_self) values).mpr hcompare
  · rintro ⟨component, hwinner, hside, hwin⟩
    obtain ⟨hcomponent, known, hknown, hsettled⟩ := (settles_iff hgrades).mp hwin
    obtain rfl := counts_unique hgoals ((counts_family hcomponent hwinner).mp hknown)
    exact ⟨_, hside, (settledResult_winner (hwinner ▸ List.mem_cons_self) values).mp hsettled⟩

theorem handicap_of_grades (hgrades : gradeAll all = .ok grades) {home away : BettingPreference}
    (hhome : home ∈ enabledPreferences) (haway : away ∈ enabledPreferences) {line : ℚ}
    (hhomeFamily : home.family = .asianHandicap) (hawayFamily : away.family = .asianHandicap)
    (hhomeSide : home.selection = "Home") (hawaySide : away.selection = "Away")
    (hhomeLine : home.line = some line) (hawayLine : away.line = some (-line))
    (result : SettlementResult) :
    Settles grades home result ↔ Settles grades away (mirror result) := by
  have hmirror (values : List ℕ) :
      settledResult away values = mirror (settledResult home values) := by
    unfold settledResult
    rw [hhomeFamily, hawayFamily, hhomeSide, hawaySide, hhomeLine, hawayLine]
    exact asianResult_mirror ..
  rw [settles_iff hgrades, settles_iff hgrades, and_iff_right hhome, and_iff_right haway]
  refine exists_congr fun values => ?_
  rw [counts_family hhome hhomeFamily, counts_family haway hawayFamily, hmirror]
  refine and_congr_right fun _ => ⟨fun hresult => congrArg mirror hresult, fun hresult => ?_⟩
  rw [← mirror_mirror (settledResult home values), hresult, mirror_mirror]

theorem over_of_grades (hgrades : gradeAll all = .ok grades) {harder easier : BettingPreference}
    (heasier : easier ∈ enabledPreferences)
    (hcounted : (harder.family, easier.family) ∈ countedIn) {line smaller : ℚ}
    (hline : harder.line = some line) (hsmaller : easier.line = some smaller)
    (hle : smaller ≤ line) (hwin : Settles grades harder .win) : Settles grades easier .win := by
  obtain ⟨hharder, values, hcounts, hsettled⟩ := (settles_iff hgrades).mp hwin
  have hfacts : Counts all easier.requiredFacts values := by
    rw [counts_family heasier rfl, ← countedIn_facts _ hcounted]
    exact (counts_family hharder rfl).mp hcounts
  obtain ⟨hharderHalf, heasierHalf⟩ := countedIn_half _ hcounted
  rw [settledResult_over hharderHalf hline] at hsettled
  have hmore : (overCount harder.family values : ℚ) ≤ overCount easier.family values :=
    Nat.cast_le.mpr (overCount_le hcounted values)
  refine (settles_iff hgrades).mpr ⟨heasier, values, hfacts, ?_⟩
  exact (settledResult_over heasierHalf hsmaller values).mpr (by linarith)

/-- The grades of one evidence list are coherent, no second half has a negative count, and
no contract of the catalog meets an error of its line on any group. -/
theorem gradeAll_coherent (hgrades : gradeAll all = .ok grades) :
    Coherent grades ∧
      (∀ values, Counts all halfGoalFacts values →
        values.getD 2 0 ≤ values.getD 0 0 ∧ values.getD 3 0 ≤ values.getD 1 0) ∧
      ∀ preference ∈ enabledPreferences, ∀ group error,
        settlePreference preference group = .error error →
          error = .validation "An incomplete or conflicting evidence group has no values." := by
  refine ⟨⟨?_, fun _ _ => doubleChance_of_grades hgrades, ?_, ?_, ?_, ?_⟩, ?_, ?_⟩
  · rintro family hfamily ⟨settled, result, hsettles, hfacts⟩
    obtain ⟨-, values, hcounts, -⟩ := (settles_iff hgrades).mp hsettles
    exact winner_of_grades hgrades hfamily (hfacts ▸ hcounts)
  · intro home hhome away haway line hhomeFamily hawayFamily hhomeSide hawaySide hhomeLine
    exact handicap_of_grades hgrades hhome haway hhomeFamily hawayFamily hhomeSide hawaySide
      hhomeLine
  · intro harder easier heasier hcounted line smaller hline hsmaller hle
    exact over_of_grades hgrades heasier hcounted hline hsmaller hle
  · intro preference result hsettles
    obtain ⟨henabled, values, -, rfl⟩ := (settles_iff hgrades).mp hsettles
    exact (settledResult_possible henabled values).1
  · intro preference hsettles
    obtain ⟨henabled, values, -, hpush⟩ := (settles_iff hgrades).mp hsettles
    exact (settledResult_possible henabled values).2 hpush
  · rintro values ⟨-, selected, controls, rfl⟩
    exact half_le_full (factGroup_supplies controls.selected).complete
  · intro preference henabled group error herror
    rw [settlePreference_eq henabled] at herror
    split at herror
    · cases herror
    · exact (Except.error.inj herror).symm

end Grades

/-! ## A full record -/

namespace LeagueResult

open MatchVet.T10.Authority.LeagueResult

local instance : PyRuntime := plainRuntime

local instance : Hashing := shapeHashing

/-- A league record with goals, half-time goals and corners. -/
def fullRecord : SettlementEvidence :=
  { played .competition "league" 2 1 with
    counts := ⟨some 2, some 1, some 1, some 0, some 6, some 4, none, none, none, none⟩ }

def fullRequest : GradeAllRequest := ⟨[fullRecord], none, false, none, false, "", [], [], none⟩

/-- Every contract is graded from the full record. -/
theorem fullRecord_coherent :
    ∃ grades, gradeAll fullRequest = .ok grades ∧
      (grades.all fun graded => graded.reasonCode = "GRADED") = true ∧ Coherent grades := by
  have hgraded : ((gradeAll fullRequest).toOption.any fun grades =>
      grades.all fun graded => graded.reasonCode = "GRADED") = true := by decide +kernel
  cases hgrades : gradeAll fullRequest with
  | error error =>
      rw [hgrades] at hgraded
      cases hgraded
  | ok grades =>
      rw [hgrades] at hgraded
      exact ⟨grades, rfl, hgraded, (gradeAll_coherent hgrades).1⟩

end LeagueResult

end MatchVet.T10.Coherence
