import MatchVet.Foundation.CanonicalJson

/-!
# The version 1 preference catalog

A Betting Preference is one exact contract: a family, a selection, an optional
half-goal line, the facts it reads and the results it can settle to.  The
catalog lists the 37 enabled contracts under pairwise different identifiers.
-/

namespace MatchVet.T10.Catalog

open MatchVet.Foundation.CanonicalJson
open MatchVet.Foundation.Runtime

def preferenceCatalogName : String := "matchvet-initial-preference-set"

def preferenceCatalogVersion : String := "1.0.0"

def sourceHierarchyVersion : String := "1.0.0"

inductive SettlementResult where
  | win
  | loss
  | push
  | void
  deriving DecidableEq, Repr

def SettlementResult.value : SettlementResult → String
  | .win => "WIN"
  | .loss => "LOSS"
  | .push => "PUSH"
  | .void => "VOID"

theorem SettlementResult.value_injective : Function.Injective SettlementResult.value := by
  intro first second heq
  cases first <;> cases second <;> first | rfl | exact absurd heq (by decide)

inductive MatchPhase where
  | fullMatch
  | firstHalf
  | secondHalf
  deriving DecidableEq, Repr

def MatchPhase.value : MatchPhase → String
  | .fullMatch => "FULL_MATCH"
  | .firstHalf => "FIRST_HALF"
  | .secondHalf => "SECOND_HALF"

inductive PreferenceFamily where
  | matchWinner
  | doubleChance
  | matchGoalsOver
  | firstHalfOver
  | secondHalfOver
  | homeTeamGoalsOver
  | awayTeamGoalsOver
  | cornerWinner
  | totalCornersOver
  | homeCornersOver
  | awayCornersOver
  | asianHandicap
  deriving DecidableEq, Repr

def PreferenceFamily.value : PreferenceFamily → String
  | .matchWinner => "Match Winner"
  | .doubleChance => "Double Chance"
  | .matchGoalsOver => "Match Goals Over"
  | .firstHalfOver => "First-Half Over"
  | .secondHalfOver => "Second-Half Over"
  | .homeTeamGoalsOver => "Home Team Goals Over"
  | .awayTeamGoalsOver => "Away Team Goals Over"
  | .cornerWinner => "Corner Match Winner"
  | .totalCornersOver => "Full-Match Total Corners Over"
  | .homeCornersOver => "Home Team Corners Over"
  | .awayCornersOver => "Away Team Corners Over"
  | .asianHandicap => "Asian Handicap"

/-- The facts a contract can require, under the names of the evidence fields. -/
inductive Fact where
  | fullTimeHomeGoals
  | fullTimeAwayGoals
  | halfTimeHomeGoals
  | halfTimeAwayGoals
  | cornersHome
  | cornersAway
  deriving DecidableEq, Repr

def Fact.name : Fact → String
  | .fullTimeHomeGoals => "full_time_home_goals"
  | .fullTimeAwayGoals => "full_time_away_goals"
  | .halfTimeHomeGoals => "half_time_home_goals"
  | .halfTimeAwayGoals => "half_time_away_goals"
  | .cornersHome => "corners_home"
  | .cornersAway => "corners_away"

def fullGoalFacts : List Fact := [.fullTimeHomeGoals, .fullTimeAwayGoals]

theorem fullGoalFacts_ne_nil : fullGoalFacts ≠ [] := by decide

def halfGoalFacts : List Fact :=
  [.fullTimeHomeGoals, .fullTimeAwayGoals, .halfTimeHomeGoals, .halfTimeAwayGoals]

def cornerFacts : List Fact := [.cornersHome, .cornersAway]

/-! ## Line texts -/

def lineText (value : ℚ) : String :=
  if value.den = 1 then toString value.num
  else
    (if value.num < 0 then "-" else "") ++ toString (value.num.natAbs / value.den) ++ "." ++
      toString (value.num.natAbs % value.den * 10 / value.den)

def asianLineText (value : ℚ) : String :=
  let text := if value.den = 1 then lineText value ++ ".0" else lineText value
  if 0 < value then "+" ++ text else text

def lineKey (value : ℚ) : String :=
  String.ofList ((lineText value).toList.flatMap fun char =>
    if char = '-' then "minus_".toList else if char = '.' then ['_'] else [char])

/-! ## Contracts -/

/-- One exact contract.  It declares required facts, and `VOID` is a grading
result, never a completed outcome. -/
structure BettingPreference where
  preferenceId : String
  family : PreferenceFamily
  selection : String
  line : Option ℚ
  phase : MatchPhase
  requiredFacts : List Fact
  possibleResults : List SettlementResult
  settlementRule : String
  label : String
  voidTreatment : String
  hierarchyVersion : String
  requiredFacts_ne_nil : requiredFacts ≠ []
  void_not_mem : SettlementResult.void ∉ possibleResults
  deriving DecidableEq

def BettingPreference.lineLabel (preference : BettingPreference) : Option String :=
  preference.line.map fun line =>
    if preference.family = .asianHandicap then asianLineText line else lineText line

/-- The payload of a contract. -/
def BettingPreference.toDict (preference : BettingPreference) : PyValue :=
  .mapping [
    ("family", .str preference.family.value),
    ("label", .str preference.label),
    ("line", match preference.lineLabel with
      | none => .none
      | some text => .str text),
    ("phase", .str preference.phase.value),
    ("preference_id", .str preference.preferenceId),
    ("possible_results", .array (preference.possibleResults.map fun item => .str item.value)),
    ("required_facts", .array (preference.requiredFacts.map fun item => .str item.name)),
    ("selection", .str preference.selection),
    ("settlement_rule", .str preference.settlementRule),
    ("source_hierarchy_version", .str preference.hierarchyVersion),
    ("void_treatment", .str preference.voidTreatment)]

/-- An immutable catalog: its identifiers are unique. -/
structure PreferenceCatalog where
  preferences : List BettingPreference
  version : String
  name : String
  unique : (preferences.map BettingPreference.preferenceId).Nodup

namespace PreferenceCatalog

def payload (catalog : PreferenceCatalog) : PyValue :=
  .mapping [
    ("name", .str catalog.name),
    ("preferences", .array (catalog.preferences.map BettingPreference.toDict)),
    ("version", .str catalog.version)]

def digest [Hashing] (catalog : PreferenceCatalog) : String :=
  sha256 ((canonicalText catalog.payload).getD [])

/-- A contract is found by its identifier or by its label. -/
def get? (catalog : PreferenceCatalog) (preferenceId : String) : Option BettingPreference :=
  catalog.preferences.find? fun item =>
    item.preferenceId = preferenceId || item.label = preferenceId

def resolve? (catalog : PreferenceCatalog) (family : PreferenceFamily) (selection : String)
    (line : Option ℚ) : Option BettingPreference :=
  catalog.preferences.find? fun item =>
    item.family = family && item.selection = selection && item.line = line

end PreferenceCatalog

/-! ## The enabled contracts -/

def preference (preferenceId : String) (family : PreferenceFamily) (selection : String)
    (line : Option ℚ) (phase : MatchPhase) (requiredFacts : List Fact) (settlementRule : String)
    (hfacts : requiredFacts ≠ []) (pushes : Bool) : BettingPreference where
  preferenceId := preferenceId
  family := family
  selection := selection
  line := line
  phase := phase
  requiredFacts := requiredFacts
  possibleResults := if pushes then [.win, .push, .loss] else [.win, .loss]
  settlementRule := settlementRule
  label := family.value ++ ": " ++ selection ++
    match line with
    | none => ""
    | some value =>
        " " ++ if family = .asianHandicap then asianLineText value else lineText value
  voidTreatment := "VOID for final void status or unresolved required evidence."
  hierarchyVersion := sourceHierarchyVersion
  requiredFacts_ne_nil := hfacts
  void_not_mem := by cases pushes <;> simp

def lowerSelection (selection : String) : String :=
  String.ofList (selection.toList.map Char.toLower)

/-- Three-way results on the full-match goals. -/
def resultContracts (pre : String) (family : PreferenceFamily) (selections : List String)
    (requiredFacts : List Fact) (settlementRule : String) (hfacts : requiredFacts ≠ []) :
    List BettingPreference :=
  selections.map fun selection =>
    preference (pre ++ lowerSelection selection) family selection none .fullMatch requiredFacts
      settlementRule hfacts false

/-- Totals over exact half lines. -/
def overContracts (pre : String) (family : PreferenceFamily) (lines : List ℚ)
    (requiredFacts : List Fact) (settlementRule : String) (hfacts : requiredFacts ≠ []) :
    List BettingPreference :=
  lines.map fun line =>
    preference (pre ++ "_over_" ++ lineKey line) family "Over" (some line) .fullMatch
      requiredFacts settlementRule hfacts false

def asianContracts (side : String) : List BettingPreference :=
  [((0 : ℚ), "0_0"), (1, "plus_1_0"), (3 / 2, "plus_1_5"), (-1, "minus_1_0"),
    (-3 / 2, "minus_1_5")].map fun entry =>
      preference ("asian_handicap_" ++ lowerSelection side ++ "_" ++ entry.2) .asianHandicap side
        (some entry.1) .fullMatch fullGoalFacts
        "2 times backed goal difference plus signed line compared with zero"
        (by decide) (entry.1.den = 1)

def enabledPreferences : List BettingPreference :=
  resultContracts "match_winner_" .matchWinner ["Home", "Draw", "Away"] fullGoalFacts
      "backed result wins the regulation scoreline" (by decide) ++
    resultContracts "double_chance_" .doubleChance ["1X", "X2", "12"] fullGoalFacts
      "backed double-chance result contains the regulation scoreline" (by decide) ++
    overContracts "match_goals" .matchGoalsOver [3 / 2, 5 / 2, 7 / 2] fullGoalFacts
      "full-match goals exceed the exact half line" (by decide) ++
    [preference "first_half_over_1_5" .firstHalfOver "Over" (some (3 / 2)) .firstHalf
        halfGoalFacts "first-half goals exceed 1.5 including first-half stoppage"
        (by decide) false,
      preference "second_half_over_1_5" .secondHalfOver "Over" (some (3 / 2)) .secondHalf
        halfGoalFacts "second-half goals exceed 1.5 including second-half stoppage"
        (by decide) false] ++
    overContracts "home_team_goals" .homeTeamGoalsOver [3 / 2, 5 / 2] fullGoalFacts
      "named team's full-match goals exceed the exact half line" (by decide) ++
    overContracts "away_team_goals" .awayTeamGoalsOver [3 / 2, 5 / 2] fullGoalFacts
      "named team's full-match goals exceed the exact half line" (by decide) ++
    resultContracts "corner_winner_" .cornerWinner ["Home", "Draw", "Away"] cornerFacts
      "backed corner count wins the regulation corner scoreline" (by decide) ++
    overContracts "total_corners" .totalCornersOver [17 / 2, 19 / 2, 21 / 2] cornerFacts
      "combined observed corners exceed the exact half line" (by decide) ++
    overContracts "home_corners" .homeCornersOver [7 / 2, 9 / 2, 11 / 2] cornerFacts
      "named team's observed corners exceed the exact half line" (by decide) ++
    overContracts "away_corners" .awayCornersOver [7 / 2, 9 / 2, 11 / 2] cornerFacts
      "named team's observed corners exceed the exact half line" (by decide) ++
    asianContracts "Home" ++ asianContracts "Away"

theorem enabledPreferences_unique :
    (enabledPreferences.map BettingPreference.preferenceId).Nodup := by
  decide +kernel

def defaultPreferenceCatalog : PreferenceCatalog where
  preferences := enabledPreferences
  version := preferenceCatalogVersion
  name := preferenceCatalogName
  unique := enabledPreferences_unique

def preferenceCatalogDigest [Hashing] : String := defaultPreferenceCatalog.digest

/-- Every enabled contract is found by its own identifier. -/
theorem get?_preferenceId : ∀ preference ∈ enabledPreferences,
    defaultPreferenceCatalog.get? preference.preferenceId = some preference := by
  decide +kernel

theorem get?_of_get? {preferenceId : String} {preference : BettingPreference}
    (hfound : defaultPreferenceCatalog.get? preferenceId = some preference) :
    defaultPreferenceCatalog.get? preference.preferenceId = some preference :=
  get?_preferenceId preference (List.mem_of_find?_eq_some hfound)

theorem enabledPreferences_length : enabledPreferences.length = 37 := by
  decide +kernel

end MatchVet.T10.Catalog
