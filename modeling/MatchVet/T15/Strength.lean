import MatchVet.T15.Values

/-!
# Selection Strength configuration

Normalization rules, monotonic transforms and the weighted configuration made
of them.  Each record carries what its constructor has checked, so an invalid
rule cannot be built.
-/

namespace MatchVet.T15.Strength

open MatchVet.Foundation.CanonicalJson
open MatchVet.Foundation.Dictionary
open MatchVet.Foundation.Dictionary.PyDict
open MatchVet.Foundation.Runtime
open MatchVet.T15.Values

def fail {α : Type} (message : String) : Except T15Error α := .error (.validation message)

/-- Evaluate a constructor argument for every entry, keeping the keys. -/
def mapEntries {α β : Type} (f : α → Except T15Error β) :
    List (String × α) → Except T15Error (List (String × β))
  | [] => .ok []
  | (key, value) :: rest => do
      let selected ← f value
      let others ← mapEntries f rest
      .ok ((key, selected) :: others)

def mapItems {α β : Type} (f : α → Except T15Error β) : List α → Except T15Error (List β)
  | [] => .ok []
  | value :: rest => do
      let selected ← f value
      let others ← mapItems f rest
      .ok (selected :: others)

theorem mapEntries_map {α β γ : Type} {f : β → Except T15Error γ} {g : α → β} {h : α → γ}
    {entries : List (String × α)} (hf : ∀ entry ∈ entries, f (g entry.2) = .ok (h entry.2)) :
    mapEntries f (entries.map fun entry => (entry.1, g entry.2)) =
      .ok (entries.map fun entry => (entry.1, h entry.2)) := by
  induction entries with
  | nil => rfl
  | cons entry rest ih =>
      rw [List.forall_mem_cons] at hf
      rw [List.map_cons, mapEntries, hf.1, ih hf.2]
      rfl

theorem mapEntries_map_self {α β : Type} {f : β → Except T15Error α} {g : α → β}
    {entries : List (String × α)} (hf : ∀ entry ∈ entries, f (g entry.2) = .ok entry.2) :
    mapEntries f (entries.map fun entry => (entry.1, g entry.2)) = .ok entries :=
  (mapEntries_map (h := id) hf).trans (congrArg Except.ok (List.map_id entries))

/-- Evaluated texts keep the keys, and each passes the check again. -/
theorem mapEntries_text {entries : List (String × PyValue)} {label : String}
    {texts : List (String × String)}
    (htexts : mapEntries (fun value => text value label) entries = .ok texts) :
    texts.map Prod.fst = entries.map Prod.fst ∧
      ∀ entry ∈ texts, text (.str entry.2) label = .ok entry.2 := by
  induction entries generalizing texts with
  | nil =>
      cases htexts
      exact ⟨rfl, nofun⟩
  | cons entry rest ih =>
      obtain ⟨key, value⟩ := entry
      cases hvalue : text value label with
      | error error => simp [mapEntries, hvalue, bind, Except.bind] at htexts
      | ok content =>
          cases hrest : mapEntries (fun value => text value label) rest with
          | error error => simp [mapEntries, hvalue, hrest, bind, Except.bind] at htexts
          | ok others =>
              simp only [mapEntries, hvalue, hrest, bind, Except.bind, Except.ok.injEq] at htexts
              subst htexts
              obtain ⟨hkeys, htexts⟩ := ih hrest
              refine ⟨by rw [List.map_cons, List.map_cons, hkeys], ?_⟩
              intro entry hmem
              rcases List.mem_cons.mp hmem with rfl | hmem
              · exact text_of_text hvalue
              · exact htexts entry hmem

/-! ## Normalization rules -/

inductive NormalizationMethod where
  | identity
  | percentile
  | minMax
  | inverseMinMax
  deriving DecidableEq, Repr

def NormalizationMethod.value : NormalizationMethod → String
  | .identity => "identity"
  | .percentile => "percentile"
  | .minMax => "min_max"
  | .inverseMinMax => "inverse_min_max"

def NormalizationMethod.ofValue? (value : String) : Option NormalizationMethod :=
  [NormalizationMethod.identity, .percentile, .minMax, .inverseMinMax].find?
    fun method => method.value = value

inductive Direction where
  | higher
  | lower
  deriving DecidableEq, Repr

def Direction.value : Direction → String
  | .higher => "higher"
  | .lower => "lower"

def Direction.ofValue? (value : String) : Option Direction :=
  [Direction.higher, .lower].find? fun direction => direction.value = value

/-- The bounds a method needs: only the min-max methods read them as numbers. -/
def BoundsValid (method : NormalizationMethod) (lower upper : PyValue) : Prop :=
  match method with
  | .identity => True
  | .percentile => True
  | .minMax | .inverseMinMax =>
      ∃ low high : ℚ, lower = .float (.finite low) ∧ upper = .float (.finite high) ∧ low < high

/-- One normalization rule.  The bounds of the other two methods are kept as the
caller gave them. -/
structure NormalizationSpec where
  method : NormalizationMethod
  reference : List ℚ
  lower : PyValue
  upper : PyValue
  direction : Direction
  reference_sorted : reference.Pairwise (· ≤ ·)
  reference_ne_nil : method = .percentile → reference ≠ []
  bounds_valid : BoundsValid method lower upper

namespace NormalizationSpec

@[ext]
theorem ext {first second : NormalizationSpec} (hmethod : first.method = second.method)
    (hreference : first.reference = second.reference) (hlower : first.lower = second.lower)
    (hupper : first.upper = second.upper) (hdirection : first.direction = second.direction) :
    first = second := by
  cases first
  cases second
  cases hmethod
  cases hreference
  cases hlower
  cases hupper
  cases hdirection
  rfl

def sortedReference (values : List ℚ) : List ℚ := values.insertionSort (· ≤ ·)

theorem sortedReference_ne_nil {values : List ℚ} (hvalues : values ≠ []) :
    sortedReference values ≠ [] := by
  intro hnil
  have hperm := List.perm_insertionSort (· ≤ ·) values
  rw [show values.insertionSort (· ≤ ·) = [] from hnil] at hperm
  exact hvalues hperm.nil_eq.symm

def boundless (method : NormalizationMethod) (values : List ℚ) (lower upper : PyValue)
    (direction : Direction) (hvalues : method = .percentile → values ≠ [])
    (hbounds : BoundsValid method lower upper) : NormalizationSpec where
  method := method
  reference := sortedReference values
  lower := lower
  upper := upper
  direction := direction
  reference_sorted := List.pairwise_insertionSort (· ≤ ·) values
  reference_ne_nil hmethod := sortedReference_ne_nil (hvalues hmethod)
  bounds_valid := hbounds

variable [PyRuntime]

/-- The min-max constructors convert both bounds. -/
def bounded (method : NormalizationMethod) (values : List ℚ) (lower upper : PyValue)
    (direction : Direction) (hminmax : method = .minMax ∨ method = .inverseMinMax) :
    Except T15Error NormalizationSpec :=
  if lower matches .none || upper matches .none then
    fail "Min-max normalization requires lower and upper bounds."
  else
    match finite lower "T15 normalization lower bound" with
    | .error error => .error error
    | .ok low =>
        match finite upper "T15 normalization upper bound" with
        | .error error => .error error
        | .ok high =>
            if horder : high ≤ low then
              fail "T15 normalization upper bound must exceed lower bound."
            else
              .ok (boundless method values (.float (.finite low)) (.float (.finite high))
                direction (by rcases hminmax with rfl | rfl <;> exact nofun)
                (by rcases hminmax with rfl | rfl <;>
                  exact ⟨low, high, rfl, rfl, not_le.mp horder⟩))

/-- The constructor. -/
def create (method : String) (reference : List PyValue) (lower upper : PyValue)
    (direction : String) : Except T15Error NormalizationSpec :=
  match NormalizationMethod.ofValue? (PyRuntime.lower (token method)) with
  | none => fail ("Unsupported T15 normalization method " ++ PyRuntime.repr (.str method) ++ ".")
  | some selected =>
      match Direction.ofValue? direction with
      | none => fail "T15 normalization direction must be higher or lower."
      | some orientation =>
          match mapItems (fun item => finite item "T15 normalization reference") reference with
          | .error error => .error error
          | .ok values =>
              match selected with
              | .identity =>
                  .ok (boundless .identity values lower upper orientation nofun trivial)
              | .percentile =>
                  if hvalues : values = [] then
                    fail "Percentile normalization requires reference values."
                  else .ok (boundless .percentile values lower upper orientation
                    (fun _ => hvalues) trivial)
              | .minMax => bounded .minMax values lower upper orientation (Or.inl rfl)
              | .inverseMinMax =>
                  bounded .inverseMinMax values lower upper orientation (Or.inr rfl)

def optionalNumber (value : PyValue) : PyValue :=
  match optionalFloat value with
  | some number => .float (.finite number)
  | none => .none

/-- A mapping entry under the first of two names. -/
def entryOr (entries : List (String × PyValue)) (key second : String) (default : PyValue) :
    PyValue :=
  (entries.lookup key).getD ((entries.lookup second).getD default)

def fromValue (value : PyValue) : Except T15Error NormalizationSpec :=
  match value with
  | .str method => create method [] .none .none "higher"
  | _ =>
      match value.entries with
      | [] => fail "A normalization rule must be a string or object."
      | mapped =>
          let reference :=
            match entryOr mapped "reference" "reference_values" (.array []) with
            | .array items => items
            | _ => []
          match mapItems (fun item => finite item "T15 normalization reference") reference with
          | .error error => .error error
          | .ok values =>
              create (display ((mapped.lookup "method").getD (.str "")))
                (values.map fun number => .float (.finite number))
                (optionalNumber ((mapped.lookup "lower").getD .none))
                (optionalNumber ((mapped.lookup "upper").getD .none))
                (PyRuntime.lower (display ((mapped.lookup "direction").getD (.str "higher"))))

def toDict (spec : NormalizationSpec) : PyValue :=
  .mapping [
    ("direction", .str spec.direction.value),
    ("lower", spec.lower),
    ("method", .str spec.method.value),
    ("reference", .array (spec.reference.map fun number => .float (.finite number))),
    ("upper", spec.upper)]

end NormalizationSpec

/-! ## Transforms -/

inductive TransformKind where
  | identity
  | linear
  | power
  | clip
  | oneMinus
  deriving DecidableEq, Repr

def TransformKind.value : TransformKind → String
  | .identity => "identity"
  | .linear => "linear"
  | .power => "power"
  | .clip => "clip"
  | .oneMinus => "one_minus"

def TransformKind.ofValue? (value : String) : Option TransformKind :=
  [TransformKind.identity, .linear, .power, .clip, .oneMinus].find?
    fun kind => kind.value = value

def parameter (parameters : PyDict ℚ) (name : String) (default : ℚ) : ℚ :=
  (parameters.get? name).getD default

def named (parameters : PyDict ℚ) (name : String) : Bool := (parameters.get? name).isSome

/-- What the constructor reports about the parameters of a kind, checked in its
order. -/
def parameterFault (kind : TransformKind) (parameters : PyDict ℚ) : Option String :=
  match kind with
  | .identity => none
  | .oneMinus => none
  | .linear =>
      if parameter parameters "slope" 0 < 0 then
        some "T15 Selection Strength transforms must be monotonic."
      else if named parameters "slope" && named parameters "intercept" then none
      else some "Linear T15 transforms require slope and intercept."
  | .power =>
      if !named parameters "exponent" then some "Power T15 transforms require an exponent."
      else if parameter parameters "exponent" 0 ≤ 0 then
        some "T15 power transform exponent must be positive."
      else none
  | .clip =>
      if !(named parameters "lower" && named parameters "upper") then
        some "Clip T15 transforms require lower and upper bounds."
      else if parameter parameters "upper" 1 < parameter parameters "lower" 0 then
        some "T15 clip transform bounds are invalid."
      else none

/-- One monotonic transform, its parameters in name order. -/
structure TransformSpec where
  kind : TransformKind
  parameters : PyDict ℚ
  sorted : parameters.KeySorted
  parameters_valid : parameterFault kind parameters = none

namespace TransformSpec

@[ext]
theorem ext {first second : TransformSpec} (hkind : first.kind = second.kind)
    (hparameters : first.parameters = second.parameters) : first = second := by
  cases first
  cases second
  cases hkind
  cases hparameters
  rfl

variable [PyRuntime]

/-- The constructor.  Sorting happens after the checks, which read by name. -/
def create (kind : String) (parameters : List (String × PyValue)) :
    Except T15Error TransformSpec :=
  match TransformKind.ofValue? (PyRuntime.lower (token kind)) with
  | none => fail ("Unsupported T15 transform " ++ PyRuntime.repr (.str kind) ++ ".")
  | some selected =>
      match mapEntries (fun item => finite item "T15 transform parameter") parameters with
      | .error error => .error error
      | .ok params =>
          match hfault : parameterFault selected (ofPairs params).sorted with
          | some message => fail message
          | none => .ok ⟨selected, (ofPairs params).sorted, sorted_keySorted _, hfault⟩

def fromValue (value : PyValue) : Except T15Error TransformSpec :=
  match value with
  | .str kind => create kind []
  | _ =>
      match value.entries with
      | [] => fail "A transform must be a string or object."
      | mapped =>
          let raw :=
            match (mapped.lookup "parameters").getD (.mapping []) with
            | .mapping entries => entries
            | _ => mapped.filter fun entry => entry.1 ≠ "kind" && entry.1 ≠ "transform"
          match mapEntries (fun item => finite item "T15 transform parameter") raw with
          | .error error => .error error
          | .ok params =>
              create (display (NormalizationSpec.entryOr mapped "kind" "transform" (.str "")))
                ((ofPairs params).mapValues fun number => .float (.finite number)).entries

def toDict (spec : TransformSpec) : PyValue :=
  .mapping [
    ("kind", .str spec.kind.value),
    ("parameters",
      .mapping (spec.parameters.entries.map fun entry => (entry.1, .float (.finite entry.2))))]

end TransformSpec

/-! ## Weighted configurations -/

/-- A rule given as a built record or as a value to read. -/
inductive RuleInput (α : Type) where
  | built (spec : α)
  | raw (value : PyValue)

variable [PyRuntime]

def RuleInput.resolve {α : Type} (fromValue : PyValue → Except T15Error α) :
    RuleInput α → Except T15Error α
  | .built spec => .ok spec
  | .raw value => fromValue value

/-- The sum of the weights as one correctly rounded float. -/
def weightSum (weights : PyDict ℚ) : ℚ := nearest weights.values.sum

def weightFault (weights : PyDict ℚ) : Option String :=
  if !(weights.keys.all selectionComponents.contains && selectionComponents.all weights.keys.contains)
  then some "Selection Strength weights must name exactly the eight settled components."
  else if weights.values.any fun value => decide (value < 0) then
    some "Selection Strength weights must be non-negative."
  else if !isClose (weightSum weights) 1 (decimalFloat 9) then
    some "Selection Strength weights must sum to one."
  else none

/-- Rename every key to its settled component. -/
def renameKeys {α : Type} (entries : List (String × α)) : PyDict α :=
  ofPairs (entries.map fun entry => (componentKey entry.1, entry.2))

/-- Versioned weights, transforms and normalizers, each in name order. -/
structure SelectionStrengthConfig where
  weights : PyDict ℚ
  transforms : PyDict TransformSpec
  normalizers : PyDict NormalizationSpec
  version : String
  weights_sorted : weights.KeySorted
  transforms_sorted : transforms.KeySorted
  normalizers_sorted : normalizers.KeySorted
  weights_valid : weightFault weights = none
  version_text : text (.str version) "Selection Strength version" = .ok version

namespace SelectionStrengthConfig

@[ext]
theorem ext {first second : SelectionStrengthConfig} (hweights : first.weights = second.weights)
    (htransforms : first.transforms = second.transforms)
    (hnormalizers : first.normalizers = second.normalizers)
    (hversion : first.version = second.version) : first = second := by
  cases first
  cases second
  cases hweights
  cases htransforms
  cases hnormalizers
  cases hversion
  rfl

/-- The constructor. -/
def create (weights : List (String × PyValue)) (transforms : List (String × RuleInput TransformSpec))
    (normalizers : List (String × RuleInput NormalizationSpec)) (version : PyValue) :
    Except T15Error SelectionStrengthConfig :=
  match hversion : text version "Selection Strength version" with
  | .error error => .error error
  | .ok selectedVersion =>
      match mapEntries (fun value => finite value "Selection Strength weight") weights with
      | .error error => .error error
      | .ok selectedWeights =>
          match hfault : weightFault (renameKeys selectedWeights).sorted with
          | some message => fail message
          | none =>
              match mapEntries (RuleInput.resolve TransformSpec.fromValue) transforms with
              | .error error => .error error
              | .ok selectedTransforms =>
                  match mapEntries (RuleInput.resolve NormalizationSpec.fromValue) normalizers with
                  | .error error => .error error
                  | .ok selectedNormalizers =>
                      .ok {
                        weights := (renameKeys selectedWeights).sorted
                        transforms := (renameKeys selectedTransforms).sorted
                        normalizers := (renameKeys selectedNormalizers).sorted
                        version := selectedVersion
                        weights_sorted := sorted_keySorted _
                        transforms_sorted := sorted_keySorted _
                        normalizers_sorted := sorted_keySorted _
                        weights_valid := hfault
                        version_text := text_of_text hversion }

def toDict (config : SelectionStrengthConfig) : PyValue :=
  .mapping [
    ("normalizers", .mapping (config.normalizers.mapValues NormalizationSpec.toDict).entries),
    ("transforms", .mapping (config.transforms.mapValues TransformSpec.toDict).entries),
    ("version", .str config.version),
    ("weights",
      .mapping (config.weights.mapValues fun value => .float (.finite value)).entries)]

def digest [Hashing] (config : SelectionStrengthConfig) : Option String :=
  (canonicalText config.toDict).map sha256

end SelectionStrengthConfig

end MatchVet.T15.Strength
