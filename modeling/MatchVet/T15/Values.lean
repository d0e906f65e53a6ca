import MatchVet.Foundation.CanonicalJson
import MatchVet.T10.Catalog

/-!
# Reading policy and evidence values

The coercion helpers of the vetting seam.  Frozen states, predictions and
policies arrive as mappings or as objects; every gate reads them through the
functions of this module.
-/

namespace MatchVet.T15.Values

open MatchVet.Foundation.CanonicalJson
open MatchVet.Foundation.Dictionary
open MatchVet.Foundation.Runtime

inductive T15Error where
  | validation (message : String)
  | integrity (message : String)
  | policyValidation (message : String)
  deriving DecidableEq, Repr

/-- `_read`: a mapping entry or an attribute, else the default. -/
def read (value : PyValue) (key : String) (default : PyValue) : PyValue :=
  match value with
  | .mapping entries => (entries.lookup key).getD default
  | .object _ attributes _ => (attributes.lookup key).getD default
  | _ => default

def text (value : PyValue) (label : String) : Except T15Error String :=
  match value with
  | .str content =>
      if blank content then .error (.validation (label ++ " must be a non-empty string."))
      else .ok (strip content)
  | _ => .error (.validation (label ++ " must be a non-empty string."))

/-- Stripped text passes the check that produced it. -/
theorem text_of_text {value : PyValue} {label content : String}
    (htext : text value label = .ok content) : text (.str content) label = .ok content := by
  unfold text at htext
  split at htext
  next original =>
    split at htext
    · cases htext
    next hblank =>
      cases htext
      simp_all [text, blank]
  next => cases htext

variable [PyRuntime]

def finite (value : PyValue) (label : String) : Except T15Error ℚ :=
  match value with
  | .int number => .ok (nearest number)
  | .float (.finite number) => .ok number
  | _ => .error (.validation (label ++ " must be a finite number."))

@[simp]
theorem finite_float (number : ℚ) (label : String) :
    finite (.float (.finite number)) label = .ok number := rfl

def optionalFloat : PyValue → Option ℚ
  | .int number => some (nearest number)
  | .float (.finite number) => some number
  | _ => none

def optionalBool : PyValue → Option Bool
  | .bool value => some value
  | _ => none

/-- `_token` of a text. -/
def token (content : String) : String :=
  joinWords (replaceChar '-' ' ' (upper (strip content)))

def statusToken (value : PyValue) : String := token (display value)

def sameFamily (left right : String) : Bool :=
  token left = token right ||
    (token left = "ASIAN_HANDICAP" && token right = "ASIAN_HANDICAPS") ||
    (token left = "ASIAN_HANDICAPS" && token right = "ASIAN_HANDICAP")

def tupleStrings : PyValue → List String
  | .array items => sortedSet ((items.map display).filter fun item => !blank item)
  | _ => []

/-- `_float_mapping`: the numeric entries of a mapping. -/
def floatMapping (value : PyValue) : List (String × PyFloat) :=
  value.entries.filterMap fun entry =>
    match entry.2 with
    | .int number => some (entry.1, .finite (nearest number))
    | .float number => some (entry.1, number)
    | _ => none

def stringMapping (value : PyValue) : List (String × String) :=
  value.entries.map fun entry => (entry.1, display entry.2)

/-! ## Forbidden policy inputs -/

def forbiddenPolicyTokens : List String :=
  ["bookmaker", "bookmaker_odds", "odds", "implied_probability", "price", "expected_profit",
    "profit", "value", "stake", "target_volume", "volume"]

def contains (content part : String) : Bool := decide (part.toList <:+: content.toList)

def forbiddenKey (key : String) : Bool :=
  forbiddenPolicyTokens.contains (token key) ||
    forbiddenPolicyTokens.any fun part => contains (lower (token key)) part

mutual

/-- Every forbidden key below a value, in the order it is met. -/
def collectForbidden : PyValue → List String
  | .mapping entries => collectForbiddenEntries entries
  | .array items => collectForbiddenItems items
  | _ => []

def collectForbiddenItems : List PyValue → List String
  | [] => []
  | item :: rest => collectForbidden item ++ collectForbiddenItems rest

def collectForbiddenEntries : List (String × PyValue) → List String
  | [] => []
  | (key, value) :: rest =>
      (if forbiddenKey key then [key] else []) ++ collectForbidden value ++
        collectForbiddenEntries rest

end

def forbiddenKeys (value : PyValue) : List String := sortedSet (collectForbidden value)

/-! ## Component names -/

def selectionComponents : List String :=
  ["conservative_probability", "win_lift", "loss_risk_improvement", "data_quality",
    "uncertainty_quality", "model_agreement", "adversarial_safety", "historical_reliability"]

def componentAliases : List (String × String) :=
  [("c", "conservative_probability"),
    ("conservative_probability", "conservative_probability"),
    ("conservative_probability_percentile", "conservative_probability"),
    ("w", "win_lift"), ("win_lift", "win_lift"), ("conservative_win_lift", "win_lift"),
    ("l", "loss_risk_improvement"), ("loss_risk", "loss_risk_improvement"),
    ("loss_risk_improvement", "loss_risk_improvement"),
    ("q", "data_quality"), ("data_quality", "data_quality"),
    ("u", "uncertainty_quality"), ("uncertainty", "uncertainty_quality"),
    ("uncertainty_quality", "uncertainty_quality"),
    ("m", "model_agreement"), ("model_agreement", "model_agreement"),
    ("f", "adversarial_safety"), ("failure_safety", "adversarial_safety"),
    ("adversarial_safety", "adversarial_safety"),
    ("r", "historical_reliability"), ("historical_reliability", "historical_reliability")]

def componentKey (key : String) : String :=
  (componentAliases.lookup (lower (token key))).getD (lower (token key))

/-! ## Closeness of floats -/

def subtract (left right : ℚ) : ℚ := nearest (left - right)

/-- The float written `1e-n`. -/
def decimalFloat (places : Nat) : ℚ := nearest (1 / 10 ^ places)

/-- `math.isclose` with the default relative tolerance. -/
def isClose (left right absTol : ℚ) : Bool :=
  left = right || |subtract left right| ≤ |nearest (decimalFloat 9 * right)| ||
    |subtract left right| ≤ |nearest (decimalFloat 9 * left)| || |subtract left right| ≤ absTol

theorem abs_subtract_comm (left right : ℚ) : |subtract left right| = |subtract right left| := by
  rw [subtract, subtract, ← neg_sub left right, PyRuntime.nearest_neg, abs_neg]

theorem isClose_comm (left right absTol : ℚ) :
    isClose left right absTol = isClose right left absTol := by
  rw [Bool.eq_iff_iff]
  simp only [isClose, abs_subtract_comm left right, Bool.or_eq_true, decide_eq_true_eq]
  tauto

end MatchVet.T15.Values
