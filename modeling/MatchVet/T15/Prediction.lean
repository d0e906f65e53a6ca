import MatchVet.T15.Policy

/-!
# Reading calibrated predictions

A family prediction arrives as a mapping or as an object.  The view names the
parts of it that the gates read.
-/

namespace MatchVet.T15.Prediction

open MatchVet.Foundation.Runtime
open MatchVet.T10.Catalog
open MatchVet.T15.Values

abbrev Entries := List (String × PyValue)

variable [PyRuntime]

/-- `_map_field`. -/
def mapField (value : PyValue) (key : String) : Entries :=
  match read value key (.mapping []) with
  | .mapping entries => entries
  | .object _ _ (some converted) => converted.entries
  | _ => []

def optionalText (value : PyValue) : Option String :=
  match value with
  | .none => none
  | _ => some (display value)

structure PredictionView where
  raw : PyValue
  status : String
  family : Option String
  targetFixtureId : Option String
  matchweekId : Option String
  modelVersion : Option String
  modelDigest : Option String
  calibrationVersion : Option String
  predictionDigest : Option String
  settlements : Entries
  estimated : Entries
  conservative : Entries
  lossUpper : Entries
  intervals : Entries
  uncertainty : Entries
  modelAgreement : Option ℚ
  referenceSensitivity : Entries

/-- The keys that mark a whole prediction, not one preference's distribution. -/
def predictionMarkers : List String :=
  ["settlement_distributions", "status", "model_version", "model_digest"]

/-- A bare distribution given for one preference stands for an available
prediction. -/
def wrapDistribution (value : PyValue) (preferenceId : Option String) : PyValue :=
  match value, preferenceId with
  | .mapping entries, some key =>
      if predictionMarkers.any fun marker => (entries.lookup marker).isSome then value
      else .mapping [("status", .str "AVAILABLE"),
        ("settlement_distributions", .mapping [(key, value)])]
  | _, _ => value

def predictionView (supplied : PyValue) (preferenceId : Option String) : PredictionView :=
  let value := wrapDistribution supplied preferenceId
  let referenceSensitivity := mapField value "reference_sensitivity"
  { raw := value
    status := statusToken (read value "status" (.str "UNKNOWN"))
    family := optionalText (read value "family" .none)
    targetFixtureId := optionalText (read value "target_fixture_id" .none)
    matchweekId := optionalText (read value "matchweek_id" .none)
    modelVersion := optionalText (read value "model_version" .none)
    modelDigest := optionalText (read value "model_digest" .none)
    calibrationVersion := optionalText (read value "calibration_version" .none)
    predictionDigest :=
      optionalText (read value "prediction_digest" (read value "digest" .none))
    settlements := mapField value "settlement_distributions"
    estimated := mapField value "estimated_probabilities"
    conservative := mapField value "conservative_probabilities"
    lossUpper := mapField value "loss_probability_upper"
    intervals := mapField value "probability_intervals"
    uncertainty := mapField value "uncertainty"
    modelAgreement :=
      match optionalFloat (read value "model_agreement" .none) with
      | some agreement => some agreement
      | none => (referenceSensitivity.lookup "agreement").bind optionalFloat
    referenceSensitivity := referenceSensitivity }

def familyModelKey (preference : BettingPreference) : String :=
  match preference.family with
  | .firstHalfOver => "FIRST_HALF_GOALS"
  | .secondHalfOver => "SECOND_HALF_GOALS"
  | .cornerWinner | .totalCornersOver | .homeCornersOver | .awayCornersOver => "CORNERS"
  | _ => "FULL_TIME_GOALS"

def familyAliases (familyKey : String) : List String :=
  [familyKey, lower familyKey, replaceChar '_' '-' familyKey, replaceChar '_' ' ' familyKey]

/-- `_prediction_for`. -/
def predictionFor (predictions : PyValue) (preference : BettingPreference) :
    Option PredictionView :=
  match predictions with
  | .none => none
  | .mapping entries =>
      match entries.lookup preference.preferenceId with
      | some (.none) | none =>
          let aliases := (familyAliases (familyModelKey preference)).map token
          match entries.find? fun entry => aliases.contains (token entry.1) with
          | some entry => some (predictionView entry.2 none)
          | none =>
              if (entries.lookup "settlement_distributions").isSome ||
                  (entries.lookup "status").isSome then
                some (predictionView predictions none)
              else none
      | some direct => some (predictionView direct (some preference.preferenceId))
  | _ => some (predictionView predictions none)

/-! ## Probabilities -/

/-- The names one settlement outcome is read under, in a mapping and on an object. -/
structure OutcomeNames where
  mappingKeys : List String
  attributes : List String

def winNames : OutcomeNames := ⟨["WIN", "win", "win_probability"], ["win", "win_probability"]⟩

def lossNames : OutcomeNames :=
  ⟨["LOSS", "loss", "loss_probability"], ["loss", "loss_probability"]⟩

def pushNames : OutcomeNames :=
  ⟨["PUSH", "push", "push_probability"], ["push", "push_probability"]⟩

/-- `_probability`: the first named mapping entry, or the first readable
attribute. -/
def probability (value : PyValue) (names : OutcomeNames) : Option ℚ :=
  match value with
  | .mapping entries => (names.mappingKeys.findSome? fun key => entries.lookup key).bind
      optionalFloat
  | .object _ attributes _ =>
      names.attributes.findSome? fun key => (attributes.lookup key).bind optionalFloat
  | _ => none

def probabilityMapValue (values : Entries) (preferenceId : String) (names : OutcomeNames) :
    Option ℚ :=
  match values.lookup preferenceId with
  | none => none
  | some (.int number) => optionalFloat (.int number)
  | some (.float number) => optionalFloat (.float number)
  | some selected => probability selected names

def intervalWidth (view : PredictionView) (preferenceId : String) : Option ℚ :=
  match view.intervals.lookup preferenceId with
  | none => none
  | some raw =>
      let selected := read raw "WIN" (read raw "win" .none)
      match optionalFloat (read selected "lower" .none),
        optionalFloat (read selected "upper" .none) with
      | some lower, some upper => some (subtract upper lower)
      | _, _ => none

/-- The largest of the numeric group sensitivities. -/
def groupSensitivity (entries : Entries) : Option PyFloat :=
  PyFloat.maximum? ((floatMapping (.mapping entries)).map Prod.snd)

def sensitivityValue (view : Option PredictionView) (preferenceId : String) : Option PyFloat :=
  match view with
  | none => none
  | some selected =>
      let entries (key : String) :=
        ((selected.referenceSensitivity.lookup key).getD .none).entries
      match ((entries "sensitivity_by_preference").lookup preferenceId).bind optionalFloat with
      | some direct => some (.finite direct)
      | none =>
          match groupSensitivity (entries "group_sensitivity") with
          | some largest => some largest
          | none =>
              ((selected.referenceSensitivity.lookup "sensitivity").bind optionalFloat).map
                PyFloat.finite

end MatchVet.T15.Prediction
