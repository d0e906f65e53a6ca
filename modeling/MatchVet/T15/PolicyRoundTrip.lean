import MatchVet.T15.Ranking

/-!
# Reading a policy back from its payload

`fromMapping` succeeds on every payload, but it does not always return the
policy the payload was made of: the user preference order comes back as a
sorted set, dependency values come back as texts, normalization bounds as
floats, and component names are renamed once more.  The round trip is exact
when none of these changes anything.
-/

namespace MatchVet.T15.PolicyRoundTrip

open MatchVet.Foundation.CanonicalJson
open MatchVet.Foundation.ComparatorSort
open MatchVet.Foundation.Dictionary
open MatchVet.Foundation.Dictionary.PyDict
open MatchVet.Foundation.Runtime
open MatchVet.T10.Catalog
open MatchVet.T15.Candidate
open MatchVet.T15.Policy
open MatchVet.T15.Policy.PolicyVersion
open MatchVet.T15.Ranking
open MatchVet.T15.Strength
open MatchVet.T15.Values
open MatchVet.T15.Vetting

/-! ## Rules with the same canonical form -/

theorem plain_parameters (spec : TransformSpec) :
    plain (.mapping (spec.parameters.mapValues fun number =>
      .float (.finite number)).entries) = true :=
  plainEntries_mapValues _ fun _ _ => rfl

theorem plain_transform (spec : TransformSpec) : plain spec.toDict = true := by
  have hparameters := plain_parameters spec
  rw [plain, entries_mapValues] at hparameters
  simp only [TransformSpec.toDict, plain, plainEntries, hparameters, Bool.and_self]

theorem plain_normalizer {spec : NormalizationSpec} (hlower : plain spec.lower = true)
    (hupper : plain spec.upper = true) : plain spec.toDict = true := by
  simp only [NormalizationSpec.toDict, plain, plainEntries, plain_float_items, hlower, hupper,
    Bool.and_self]

theorem kind_value_injective {first second : TransformKind} (heq : first.value = second.value) :
    first = second := by
  revert heq
  cases first <;> cases second <;> decide

theorem method_value_injective {first second : NormalizationMethod}
    (heq : first.value = second.value) : first = second := by
  revert heq
  cases first <;> cases second <;> decide

theorem direction_value_injective {first second : Direction}
    (heq : first.value = second.value) : first = second := by
  revert heq
  cases first <;> cases second <;> decide

theorem str_eq_of_canonical {left right : String}
    (heq : canonical (.str left) = canonical (.str right)) : left = right := by
  simpa [canonical] using heq

/-- The canonical form of a transform determines it. -/
theorem canonical_transform_injective {first second : TransformSpec}
    (heq : canonical first.toDict = canonical second.toDict) : first = second := by
  obtain ⟨tree, hsecond⟩ := exists_canonical (plain_transform second)
  have hfirst := heq.trans hsecond
  have hkind : canonical (.str first.kind.value) = canonical (.str second.kind.value) :=
    canonical_member_eq (by simp) hfirst hsecond "kind" (by simp) (by simp)
  have hparameters : canonical (.mapping (first.parameters.mapValues fun number =>
      .float (.finite number)).entries) = canonical (.mapping (second.parameters.mapValues
      fun number => .float (.finite number)).entries) :=
    canonical_member_eq (by simp) hfirst hsecond "parameters"
      (List.mem_cons_of_mem _ List.mem_cons_self) (List.mem_cons_of_mem _ List.mem_cons_self)
  obtain ⟨inner, hinner⟩ := exists_canonical (plain_parameters second)
  refine TransformSpec.ext (kind_value_injective (str_eq_of_canonical hkind))
    (eq_of_canonical_mapValues first.sorted second.sorted (hparameters.trans hinner) hinner
      fun left _ right _ hnumber => ?_)
  simpa [canonical] using hnumber

/-- A bound that reading back keeps: absent or a finite float. -/
def NumericBound (bound : PyValue) : Prop :=
  bound = .none ∨ ∃ number : ℚ, bound = .float (.finite number)

/-- A plain bound with the form of a numeric one is that bound. -/
theorem NumericBound.eq_of_canonical {bound other : PyValue} (hbound : NumericBound bound)
    (hother : plain other = true)
    (heq : canonical bound = canonical other) : bound = other := by
  rcases hbound with rfl | ⟨number, rfl⟩
  · exact (eq_none_of_canonical hother heq.symm).symm
  · exact (eq_float_of_canonical hother heq.symm).symm

/-- The canonical form of a normalization rule determines it, when its bounds
are numbers. -/
theorem canonical_normalizer_injective {first second : NormalizationSpec}
    (hlower : NumericBound first.lower) (hupper : NumericBound first.upper)
    (hplainLower : plain second.lower = true) (hplainUpper : plain second.upper = true)
    (heq : canonical first.toDict = canonical second.toDict) : first = second := by
  obtain ⟨tree, hsecond⟩ := exists_canonical (plain_normalizer hplainLower hplainUpper)
  have hfirst := heq.trans hsecond
  have hdirection : canonical (.str first.direction.value) =
      canonical (.str second.direction.value) :=
    canonical_member_eq (by simp) hfirst hsecond "direction" (by simp) (by simp)
  have hlow : canonical first.lower = canonical second.lower :=
    canonical_member_eq (by simp) hfirst hsecond "lower" (by simp) (by simp)
  have hmethod : canonical (.str first.method.value) = canonical (.str second.method.value) :=
    canonical_member_eq (by simp) hfirst hsecond "method" (by simp) (by simp)
  have hreference : canonical (.array (first.reference.map fun number =>
      .float (.finite number))) = canonical (.array (second.reference.map fun number =>
      .float (.finite number))) :=
    canonical_member_eq (by simp) hfirst hsecond "reference" (by simp) (by simp)
  have hhigh : canonical first.upper = canonical second.upper :=
    canonical_member_eq (by simp) hfirst hsecond "upper" (by simp) (by simp)
  refine NormalizationSpec.ext (method_value_injective (str_eq_of_canonical hmethod)) ?_
    (hlower.eq_of_canonical hplainLower hlow) (hupper.eq_of_canonical hplainUpper hhigh)
    (direction_value_injective (str_eq_of_canonical hdirection))
  rw [canonical, canonical, canonicalItems_float, canonicalItems_float, Option.map_some,
    Option.map_some, Option.some.injEq, Json.array.injEq] at hreference
  exact List.map_injective_iff.mpr (fun _ _ hnumber => Json.number.inj hnumber) hreference

section RoundTrip

variable [PyRuntime]

/-! ## Settled names are fixed by the token helpers -/

def asciiWords (content : String) : String :=
  joinWords (replaceChar '-' ' ' (asciiUpper (strip content)))

theorem lower_token (content : String) (hstrip : asciiOnly (strip content) = true)
    (hwords : asciiOnly (asciiWords content) = true) :
    PyRuntime.lower (token content) = asciiLower (asciiWords content) := by
  have htoken : token content = asciiWords content := by
    rw [token, PyRuntime.upper_ascii _ hstrip, asciiWords]
  rw [htoken, PyRuntime.lower_ascii _ hwords]

theorem method_ofValue (method : NormalizationMethod) :
    NormalizationMethod.ofValue? (PyRuntime.lower (token method.value)) = some method := by
  cases method <;> (rw [lower_token _ (by decide) (by decide)]; decide)

theorem kind_ofValue (kind : TransformKind) :
    TransformKind.ofValue? (PyRuntime.lower (token kind.value)) = some kind := by
  cases kind <;> (rw [lower_token _ (by decide) (by decide)]; decide)

/-- The eight settled components keep their names. -/
theorem componentKey_of_mem {key : String} (hkey : key ∈ selectionComponents) :
    componentKey key = key := by
  have hall : ∀ name ∈ selectionComponents, asciiOnly (strip name) = true ∧
      asciiOnly (asciiWords name) = true ∧
      (componentAliases.lookup (asciiLower (asciiWords name))).getD
        (asciiLower (asciiWords name)) = name := by decide +kernel
  obtain ⟨hstrip, hwords, hname⟩ := hall key hkey
  rw [componentKey, lower_token key hstrip hwords]
  exact hname

/-! ## Reading numbers back -/

def floatEntry (entry : String × ℚ) : String × PyValue := (entry.1, .float (.finite entry.2))

theorem mapItems_finite (numbers : List ℚ) (label : String) :
    mapItems (fun item => finite item label) (numbers.map fun number => .float (.finite number)) =
      .ok numbers := by
  induction numbers with
  | nil => rfl
  | cons number rest ih =>
      simp only [List.map_cons, mapItems, finite_float, ih, bind, Except.bind]

theorem mapEntries_finite (entries : List (String × ℚ)) (label : String) :
    mapEntries (fun item => finite item label) (entries.map floatEntry) = .ok entries :=
  mapEntries_map_self (f := fun item => finite item label)
    (g := fun number : ℚ => .float (.finite number))
    fun entry _ => finite_float entry.2 label

/-! ## Transforms -/

theorem transform_create_value (spec : TransformSpec) :
    TransformSpec.create spec.kind.value (spec.parameters.entries.map floatEntry) =
      .ok spec := by
  have hsorted : (ofPairs spec.parameters.entries).sorted = spec.parameters := by
    rw [ofPairs_entries, spec.sorted.sorted_eq]
  unfold TransformSpec.create
  rw [kind_ofValue, mapEntries_finite]
  dsimp only
  split
  next message hfault =>
    rw [hsorted, spec.parameters_valid] at hfault
    cases hfault
  next hfault =>
    exact congrArg Except.ok (TransformSpec.ext rfl hsorted)

/-- A transform is read back from its payload. -/
theorem transform_fromValue_toDict (spec : TransformSpec) :
    TransformSpec.fromValue spec.toDict = .ok spec := by
  have hparams : ((ofPairs spec.parameters.entries).mapValues
      fun number => PyValue.float (.finite number)).entries =
      spec.parameters.entries.map floatEntry := by
    rw [ofPairs_entries]
    rfl
  unfold TransformSpec.fromValue TransformSpec.toDict
  dsimp only [PyValue.entries]
  erw [mapEntries_finite]
  dsimp only
  erw [hparams, PyRuntime.display_str, transform_create_value]

theorem numericBound_optionalNumber (bound : PyValue) :
    NumericBound (NormalizationSpec.optionalNumber bound) := by
  unfold NormalizationSpec.optionalNumber
  cases optionalFloat bound with
  | none => exact Or.inl rfl
  | some number => exact Or.inr ⟨number, rfl⟩

theorem NumericBound.optionalNumber_eq {bound : PyValue} (hbound : NumericBound bound) :
    NormalizationSpec.optionalNumber bound = bound := by
  rcases hbound with rfl | ⟨number, rfl⟩ <;> rfl

theorem boundsValid_optionalNumber {method : NormalizationMethod} {lower upper : PyValue}
    (hbounds : BoundsValid method lower upper) :
    BoundsValid method (NormalizationSpec.optionalNumber lower)
      (NormalizationSpec.optionalNumber upper) := by
  cases method
  case identity => trivial
  case percentile => trivial
  all_goals
    obtain ⟨low, high, rfl, rfl, horder⟩ := hbounds
    exact ⟨low, high, rfl, rfl, horder⟩

/-- The rule that reading a payload returns. -/
def reloadedNormalizer (spec : NormalizationSpec) : NormalizationSpec where
  method := spec.method
  reference := spec.reference
  lower := NormalizationSpec.optionalNumber spec.lower
  upper := NormalizationSpec.optionalNumber spec.upper
  direction := spec.direction
  reference_sorted := spec.reference_sorted
  reference_ne_nil := spec.reference_ne_nil
  bounds_valid := boundsValid_optionalNumber spec.bounds_valid

theorem reloadedNormalizer_eq {spec : NormalizationSpec} (hlower : NumericBound spec.lower)
    (hupper : NumericBound spec.upper) : reloadedNormalizer spec = spec :=
  NormalizationSpec.ext rfl rfl hlower.optionalNumber_eq hupper.optionalNumber_eq rfl

theorem normalizer_create_value (spec : NormalizationSpec) :
    NormalizationSpec.create spec.method.value
      (spec.reference.map fun number => .float (.finite number)) spec.lower spec.upper
      spec.direction.value = .ok spec := by
  have hsorted : NormalizationSpec.sortedReference spec.reference = spec.reference :=
    spec.reference_sorted.insertionSort_eq
  obtain ⟨method, reference, lower, upper, direction, hreference, hne, hbounds⟩ := spec
  have hdirection : Direction.ofValue? direction.value = some direction := by
    cases direction <;> decide
  unfold NormalizationSpec.create
  dsimp only at hsorted hreference hne hbounds ⊢
  rw [method_ofValue, hdirection, mapItems_finite]
  cases method with
  | identity => exact congrArg Except.ok (NormalizationSpec.ext rfl hsorted rfl rfl rfl)
  | percentile =>
      dsimp only
      rw [dif_neg (hne rfl)]
      exact congrArg Except.ok (NormalizationSpec.ext rfl hsorted rfl rfl rfl)
  | minMax =>
      obtain ⟨low, high, rfl, rfl, horder⟩ := hbounds
      simp only [NormalizationSpec.bounded, finite, dif_neg (not_le.mpr horder)]
      exact congrArg Except.ok (NormalizationSpec.ext rfl hsorted rfl rfl rfl)
  | inverseMinMax =>
      obtain ⟨low, high, rfl, rfl, horder⟩ := hbounds
      simp only [NormalizationSpec.bounded, finite, dif_neg (not_le.mpr horder)]
      exact congrArg Except.ok (NormalizationSpec.ext rfl hsorted rfl rfl rfl)

theorem direction_lower (direction : Direction) :
    PyRuntime.lower direction.value = direction.value := by
  cases direction <;> (rw [PyRuntime.lower_ascii _ (by decide)]; decide)

theorem normalizer_fromValue_toDict (spec : NormalizationSpec) :
    NormalizationSpec.fromValue spec.toDict = .ok (reloadedNormalizer spec) := by
  unfold NormalizationSpec.fromValue NormalizationSpec.toDict
  dsimp only [PyValue.entries]
  erw [mapItems_finite]
  dsimp only
  erw [PyRuntime.display_str, PyRuntime.display_str, direction_lower]
  exact normalizer_create_value (reloadedNormalizer spec)

/-! ## Strength configurations -/

theorem weights_keys_settled (config : SelectionStrengthConfig) :
    ∀ entry ∈ config.weights.entries, entry.1 ∈ selectionComponents := by
  have hvalid := config.weights_valid
  unfold weightFault at hvalid
  split at hvalid
  · cases hvalid
  next hkeys =>
    simp only [Bool.not_eq_true', Bool.not_eq_false, Bool.and_eq_true, List.all_eq_true,
      List.contains_iff_mem] at hkeys
    intro entry hmem
    exact hkeys.1 entry.1 (List.mem_map_of_mem hmem)

theorem renameKeys_weights (config : SelectionStrengthConfig) :
    (renameKeys config.weights.entries).sorted = config.weights := by
  have hmap : config.weights.entries.map (fun entry => (componentKey entry.1, entry.2)) =
      config.weights.entries := by
    refine Eq.trans (List.map_congr_left fun entry hmem => ?_)
      (List.map_id config.weights.entries)
    exact Prod.ext (componentKey_of_mem (weights_keys_settled config entry hmem)) rfl
  rw [renameKeys, hmap, ofPairs_entries, config.weights_sorted.sorted_eq]

theorem floatMapping_finite (entries : List (String × ℚ)) :
    floatMapping (.mapping (entries.map floatEntry)) =
      entries.map fun entry => (entry.1, .finite entry.2) := by
  rw [floatMapping, PyValue.entries, List.filterMap_map, ← List.filterMap_eq_map]
  rfl

/-- The configuration that reading a payload returns. -/
def reloadedConfig (config : SelectionStrengthConfig) : SelectionStrengthConfig where
  weights := config.weights
  transforms := (renameKeys config.transforms.entries).sorted
  normalizers := (renameKeys (config.normalizers.mapValues reloadedNormalizer).entries).sorted
  version := config.version
  weights_sorted := config.weights_sorted
  transforms_sorted := sorted_keySorted _
  normalizers_sorted := sorted_keySorted _
  weights_valid := config.weights_valid
  version_text := config.version_text

/-- Reading a configuration's payload always succeeds. -/
theorem config_create (config : SelectionStrengthConfig) :
    SelectionStrengthConfig.create (config.weights.entries.map floatEntry)
      (config.transforms.entries.map fun entry => (entry.1, .raw entry.2.toDict))
      (config.normalizers.entries.map fun entry => (entry.1, .raw entry.2.toDict))
      (.str config.version) = .ok (reloadedConfig config) := by
  have htransforms : mapEntries (RuleInput.resolve TransformSpec.fromValue)
      (config.transforms.entries.map fun entry => (entry.1, .raw entry.2.toDict)) =
      .ok config.transforms.entries :=
    mapEntries_map_self (f := RuleInput.resolve TransformSpec.fromValue)
      (g := fun spec : TransformSpec => RuleInput.raw spec.toDict)
      fun entry _ => transform_fromValue_toDict entry.2
  have hnormalizers : mapEntries (RuleInput.resolve NormalizationSpec.fromValue)
      (config.normalizers.entries.map fun entry => (entry.1, .raw entry.2.toDict)) =
      .ok (config.normalizers.entries.map fun entry => (entry.1, reloadedNormalizer entry.2)) :=
    mapEntries_map (f := RuleInput.resolve NormalizationSpec.fromValue)
      (g := fun spec : NormalizationSpec => RuleInput.raw spec.toDict)
      fun entry _ => normalizer_fromValue_toDict entry.2
  unfold SelectionStrengthConfig.create
  rw [mapEntries_finite, htransforms, hnormalizers]
  split
  next error hversion =>
    rw [config.version_text] at hversion
    cases hversion
  next version hversion =>
    rw [config.version_text] at hversion
    cases hversion
    dsimp only
    split
    next message hfault =>
      rw [renameKeys_weights, config.weights_valid] at hfault
      cases hfault
    next hfault =>
      exact congrArg Except.ok (SelectionStrengthConfig.ext (renameKeys_weights config)
        rfl rfl rfl)

theorem strengthFromValue_toDict (config : SelectionStrengthConfig) :
    strengthFromValue config.toDict = .ok (some (reloadedConfig config)) := by
  have hweights : ((ofPairs (floatMapping (.mapping (config.weights.entries.map
      floatEntry)))).mapValues PyValue.float).entries = config.weights.entries.map floatEntry := by
    have hnodup : ((config.weights.entries.map fun entry =>
        (entry.1, PyFloat.finite entry.2)).map Prod.fst).Nodup := by
      rw [List.map_map]
      exact config.weights.nodup
    rw [floatMapping_finite, entries_mapValues, entries_ofPairs hnodup, List.map_map]
    rfl
  have hcreate := config_create config
  unfold strengthFromValue SelectionStrengthConfig.toDict
  dsimp only
  erw [hweights, PyRuntime.display_str, List.map_map, List.map_map]
  simp only [Function.comp_def]
  erw [hcreate]

theorem plain_config {config : SelectionStrengthConfig}
    (hbounds : ∀ entry ∈ config.normalizers.entries,
      plain entry.2.lower = true ∧ plain entry.2.upper = true) :
    plain config.toDict = true := by
  have hnormalizers := plainEntries_mapValues NormalizationSpec.toDict
    fun entry hmem => plain_normalizer (hbounds entry hmem).1 (hbounds entry hmem).2
  have htransforms : plain (.mapping (config.transforms.mapValues TransformSpec.toDict).entries) =
      true := plainEntries_mapValues TransformSpec.toDict fun entry _ => plain_transform entry.2
  have hweights : plain (.mapping (config.weights.mapValues fun number =>
      .float (.finite number)).entries) = true := plainEntries_mapValues _ fun _ _ => rfl
  rw [plain] at hnormalizers htransforms hweights
  simp only [SelectionStrengthConfig.toDict, plain, plainEntries, hnormalizers, htransforms,
    hweights, Bool.and_self]

theorem numericBounds_reloadedConfig (config : SelectionStrengthConfig)
    {entry : String × NormalizationSpec}
    (hmem : entry ∈ (reloadedConfig config).normalizers.entries) :
    NumericBound entry.2.lower ∧ NumericBound entry.2.upper := by
  have hrenamed := mem_of_mem_ofPairs ((mem_entries_sorted _ entry).mp hmem)
  obtain ⟨reloaded, hreloaded, rfl⟩ := List.mem_map.mp hrenamed
  obtain ⟨original, -, rfl⟩ := List.mem_map.mp hreloaded
  exact ⟨numericBound_optionalNumber _, numericBound_optionalNumber _⟩

/-- A configuration with the form of its reloaded one keeps its rules. -/
theorem rules_eq_of_canonical {config : SelectionStrengthConfig}
    (hbounds : ∀ entry ∈ config.normalizers.entries,
      plain entry.2.lower = true ∧ plain entry.2.upper = true)
    (heq : canonical (reloadedConfig config).toDict = canonical config.toDict) :
    (reloadedConfig config).transforms = config.transforms ∧
      (reloadedConfig config).normalizers = config.normalizers := by
  obtain ⟨tree, hconfig⟩ := exists_canonical (plain_config hbounds)
  have hreloaded := heq.trans hconfig
  constructor
  · obtain ⟨inner, hinner⟩ := exists_canonical (plainEntries_mapValues TransformSpec.toDict
      fun entry (_ : entry ∈ config.transforms.entries) => plain_transform entry.2)
    have hmember := canonical_member_eq (by simp) hreloaded hconfig "transforms"
      (List.mem_cons_of_mem _ List.mem_cons_self) (List.mem_cons_of_mem _ List.mem_cons_self)
    exact eq_of_canonical_mapValues (reloadedConfig config).transforms_sorted
      config.transforms_sorted (hmember.trans hinner) hinner
      fun left _ right _ hleft => canonical_transform_injective hleft
  · obtain ⟨inner, hinner⟩ := exists_canonical (plainEntries_mapValues NormalizationSpec.toDict
      fun entry hmem => plain_normalizer (hbounds entry hmem).1 (hbounds entry hmem).2)
    have hmember := canonical_member_eq (by simp) hreloaded hconfig "normalizers"
      List.mem_cons_self List.mem_cons_self
    refine eq_of_canonical_mapValues (reloadedConfig config).normalizers_sorted
      config.normalizers_sorted (hmember.trans hinner) hinner fun left hleft right hright hsame => ?_
    have hnumeric := numericBounds_reloadedConfig config hleft
    exact canonical_normalizer_injective hnumeric.1 hnumeric.2 (hbounds right hright).1
      (hbounds right hright).2 hsame

/-! ## Policies -/

/-- The user preference order that reading a payload returns. -/
def reloadedOrder (order : List String) : List String :=
  sortedSet (order.filter fun item => !blank item)

def reloadedDependencies (dependencies : PyDict PyValue) : PyDict PyValue :=
  dependencies.mapValues fun value => .str (display value)

theorem tupleStrings_str (order : List String) :
    tupleStrings (.array (order.map PyValue.str)) = reloadedOrder order := by
  rw [tupleStrings, map_display_str, reloadedOrder]

theorem collectForbiddenEntries_texts {entries : List (String × PyValue)}
    (hnil : collectForbiddenEntries entries = []) :
    collectForbiddenEntries (entries.map fun entry => (entry.1, .str (display entry.2))) = [] := by
  induction entries with
  | nil => rfl
  | cons entry rest ih =>
      rw [collectForbiddenEntries, List.append_eq_nil_iff, List.append_eq_nil_iff] at hnil
      rw [List.map_cons, collectForbiddenEntries, hnil.1.1, ih hnil.2]
      rfl

theorem forbiddenInputs_reloaded {thresholds dependencies promotion : PyDict PyValue}
    (hnil : forbiddenInputs thresholds dependencies promotion = []) :
    forbiddenInputs thresholds (reloadedDependencies dependencies) promotion = [] := by
  simp only [forbiddenInputs, forbiddenKeys, List.append_eq_nil_iff, sortedSet_eq_nil,
    collectForbidden] at hnil ⊢
  exact ⟨⟨hnil.1.1, collectForbiddenEntries_texts hnil.1.2⟩, hnil.2⟩

theorem stringMapping_str (dict : PyDict String) :
    (ofPairs (stringMapping (.mapping (dict.mapValues PyValue.str).entries))).mapValues
      PyValue.str = dict.mapValues PyValue.str := by
  have hentries : stringMapping (.mapping (dict.mapValues PyValue.str).entries) =
      dict.entries := by
    rw [stringMapping, PyValue.entries, entries_mapValues, List.map_map]
    refine Eq.trans (List.map_congr_left fun entry _ => ?_) (List.map_id dict.entries)
    exact Prod.ext rfl (PyRuntime.display_str entry.2)
  rw [hentries, ofPairs_entries]

theorem stringMapping_dependencies (dependencies : PyDict PyValue) :
    (ofPairs (stringMapping (.mapping dependencies.entries))).mapValues PyValue.str =
      reloadedDependencies dependencies := by
  have hnodup : ((stringMapping (.mapping dependencies.entries)).map Prod.fst).Nodup := by
    rw [stringMapping, PyValue.entries, List.map_map]
    exact dependencies.nodup
  apply PyDict.ext
  rw [entries_mapValues, entries_ofPairs hnodup, stringMapping, PyValue.entries, List.map_map]
  rfl

theorem strengthFromValue_strengthDict (strength : Option SelectionStrengthConfig) :
    strengthFromValue (strengthDict strength) = .ok (strength.map reloadedConfig) := by
  cases strength with
  | none => rfl
  | some config => exact strengthFromValue_toDict config

variable [Hashing]

/-- The policy that reading a payload returns. -/
def reloadedPolicy (policy : PolicyVersion) : PolicyVersion where
  version := policy.version
  status := policy.status
  thresholds := policy.thresholds
  selectionStrength := policy.selectionStrength.map reloadedConfig
  correlationGroups := policy.correlationGroups
  userPreferenceOrder := reloadedOrder policy.userPreferenceOrder
  dependencies := reloadedDependencies policy.dependencies
  promotionEvidence := policy.promotionEvidence
  catalogVersion := policy.catalogVersion
  catalogDigest := policy.catalogDigest
  version_text := policy.version_text
  forbidden_nil := forbiddenInputs_reloaded policy.forbidden_nil
  catalogVersion_eq := policy.catalogVersion_eq
  catalogDigest_eq := policy.catalogDigest_eq
  groups_text := policy.groups_text
  groups_sorted := policy.groups_sorted
  dependencies_sorted := policy.dependencies_sorted.mapValues _

/-- The constructor arguments a policy can be built from again. -/
def argumentsOf (policy : PolicyVersion) : Arguments where
  version := .str policy.version
  status := .str policy.status.value
  thresholds := policy.thresholds
  selectionStrength := policy.selectionStrength
  correlationGroups := policy.correlationGroups.mapValues PyValue.str
  userPreferenceOrder := policy.userPreferenceOrder.map PyValue.str
  dependencies := policy.dependencies
  promotionEvidence := policy.promotionEvidence
  catalogVersion := .str policy.catalogVersion
  catalogDigest := .str policy.catalogDigest

/-- Every policy is accepted by its own constructor and returned unchanged. -/
theorem create_argumentsOf (policy : PolicyVersion) :
    PolicyVersion.create (argumentsOf policy) = .ok policy := by
  have htexts : mapEntries (fun value => text value "Correlation group")
      (argumentsOf policy).correlationGroups.entries = .ok policy.correlationGroups.entries :=
    mapEntries_map_self (f := fun value => text value "Correlation group") policy.groups_text
  have hgroups : (ofPairs policy.correlationGroups.entries).sorted = policy.correlationGroups := by
    rw [ofPairs_entries, policy.groups_sorted.sorted_eq]
  have horder : (argumentsOf policy).userPreferenceOrder.map display =
      policy.userPreferenceOrder := map_display_str policy.userPreferenceOrder
  have hdependencies : (argumentsOf policy).dependencies.sorted = policy.dependencies :=
    policy.dependencies_sorted.sorted_eq
  have hstatus : PolicyStatus.ofValue? (display (argumentsOf policy).status) =
      some policy.status := by
    rw [argumentsOf, PyRuntime.display_str, PolicyStatus.ofValue?_value]
  have hversion : isText (argumentsOf policy).catalogVersion preferenceCatalogVersion = true :=
    decide_eq_true policy.catalogVersion_eq
  have hdigest : isText (argumentsOf policy).catalogDigest preferenceCatalogDigest = true :=
    decide_eq_true policy.catalogDigest_eq
  have hforbidden : forbiddenInputs (argumentsOf policy).thresholds
      (argumentsOf policy).dependencies.sorted (argumentsOf policy).promotionEvidence = [] := by
    rw [hdependencies]
    exact policy.forbidden_nil
  have hlabel : text (argumentsOf policy).version "Policy Version" = .ok policy.version :=
    policy.version_text
  unfold PolicyVersion.create
  split
  next error herror =>
    rw [hlabel] at herror
    cases herror
  next version hfound =>
    rw [hlabel] at hfound
    cases hfound
    rw [hstatus]
    dsimp only
    rw [dif_pos hforbidden, if_pos hversion, if_pos hdigest]
    split
    next error herror =>
      rw [htexts] at herror
      cases herror
    next groups hfound =>
      rw [htexts] at hfound
      cases hfound
      exact congrArg Except.ok (PolicyVersion.ext rfl rfl rfl rfl hgroups horder hdependencies rfl)

/-- Reading the payload of a policy succeeds. -/
theorem fromMapping_payload (policy : PolicyVersion) (digest : String) :
    fromMapping (.mapping (policy.payload ++ [("policy_digest", .str digest)])) =
      .ok (reloadedPolicy policy) := by
  have hcreate := create_argumentsOf (reloadedPolicy policy)
  unfold fromMapping
  dsimp only
  erw [strengthFromValue_strengthDict]
  change PolicyVersion.create {
      version := .str (display (.str policy.version))
      status := .str (display (.str policy.status.value))
      thresholds := ofPairs policy.thresholds.entries
      selectionStrength := policy.selectionStrength.map reloadedConfig
      correlationGroups :=
        (ofPairs (stringMapping (.mapping
          (policy.correlationGroups.mapValues PyValue.str).entries))).mapValues PyValue.str
      userPreferenceOrder :=
        (tupleStrings (.array (policy.userPreferenceOrder.map PyValue.str))).map PyValue.str
      dependencies :=
        (ofPairs (stringMapping (.mapping policy.dependencies.entries))).mapValues PyValue.str
      promotionEvidence := ofPairs policy.promotionEvidence.entries
      catalogVersion := .str (display (.str policy.catalogVersion))
      catalogDigest := .str (display (.str policy.catalogDigest)) } =
    Except.ok (reloadedPolicy policy)
  rw [stringMapping_str, stringMapping_dependencies, tupleStrings_str, ofPairs_entries,
    ofPairs_entries]
  simp only [PyRuntime.display_str]
  exact hcreate

theorem eq_reloadedPolicy {policy reloaded : PolicyVersion} {payload : PyValue}
    (hpayload : policy.toDict = .ok payload) (hread : fromMapping payload = .ok reloaded) :
    reloaded = reloadedPolicy policy := by
  unfold PolicyVersion.toDict at hpayload
  cases hdigest : policy.digest? with
  | none => simp [hdigest, fail] at hpayload
  | some digest =>
      rw [hdigest] at hpayload
      cases hpayload
      rw [fromMapping_payload] at hread
      exact (Except.ok.inj hread).symm

/-! ## JSON policies and the round trip -/

/-- Everything in the policy is JSON data. -/
structure JsonRepresentable (policy : PolicyVersion) : Prop where
  thresholds : plainEntries policy.thresholds.entries = true
  dependencies : plainEntries policy.dependencies.entries = true
  promotionEvidence : plainEntries policy.promotionEvidence.entries = true
  bounds : ∀ config ∈ policy.selectionStrength, ∀ entry ∈ config.normalizers.entries,
    plain entry.2.lower = true ∧ plain entry.2.upper = true

/-- The payload reloads to a policy with the same digest, under which every
preference is vetted and every list of survivors ranked the same way. -/
def RoundTrips (policy : PolicyVersion) : Prop :=
  ∃ payload reloaded, policy.toDict = .ok payload ∧ fromMapping payload = .ok reloaded ∧
    reloaded.digest? = policy.digest? ∧
    (∀ sorter survivors,
      rankSurvivors sorter reloaded survivors = rankSurvivors sorter policy survivors) ∧
    ∀ state preference candidate predictions catalog,
      resultForPreference state preference reloaded candidate predictions catalog =
        resultForPreference state preference policy candidate predictions catalog

/-- Nothing in the policy is changed by the coercions of `fromMapping`. -/
structure Stable (policy : PolicyVersion) : Prop where
  order : reloadedOrder policy.userPreferenceOrder = policy.userPreferenceOrder
  dependencies : ∀ entry ∈ policy.dependencies.entries, ∃ content, entry.2 = .str content
  transforms : ∀ config ∈ policy.selectionStrength,
    (renameKeys config.transforms.entries).sorted = config.transforms
  normalizers : ∀ config ∈ policy.selectionStrength,
    (renameKeys config.normalizers.entries).sorted = config.normalizers
  bounds : ∀ config ∈ policy.selectionStrength, ∀ entry ∈ config.normalizers.entries,
    NumericBound entry.2.lower ∧ NumericBound entry.2.upper

theorem Stable.reloadedPolicy_eq {policy : PolicyVersion} (hstable : Stable policy) :
    reloadedPolicy policy = policy := by
  refine PolicyVersion.ext rfl rfl rfl ?_ rfl hstable.order ?_ rfl
  · change policy.selectionStrength.map reloadedConfig = policy.selectionStrength
    cases hstrength : policy.selectionStrength with
    | none => rfl
    | some config =>
        have hnormalizers : config.normalizers.mapValues reloadedNormalizer =
            config.normalizers := by
          refine mapValues_eq_self fun entry hmem => ?_
          have hbounds := hstable.bounds config hstrength entry hmem
          exact reloadedNormalizer_eq hbounds.1 hbounds.2
        refine congrArg some (SelectionStrengthConfig.ext rfl
          (hstable.transforms config hstrength) ?_ rfl)
        change (renameKeys (config.normalizers.mapValues reloadedNormalizer).entries).sorted =
          config.normalizers
        rw [hnormalizers]
        exact hstable.normalizers config hstrength
  · change reloadedDependencies policy.dependencies = policy.dependencies
    refine mapValues_eq_self fun entry hmem => ?_
    obtain ⟨content, hcontent⟩ := hstable.dependencies entry hmem
    rw [hcontent, PyRuntime.display_str]

/-! ## Equal digests come from stable policies -/

/-- The payload of a JSON policy has a canonical text. -/
theorem exists_canonical_payload {policy : PolicyVersion} (hjson : JsonRepresentable policy) :
    ∃ tree, canonical (.mapping policy.payload) = some tree := by
  have hstrength : plain (strengthDict policy.selectionStrength) = true := by
    cases hfound : policy.selectionStrength with
    | none => rfl
    | some config => exact plain_config (hjson.bounds config hfound)
  have hgroups : plain (.mapping (policy.correlationGroups.mapValues PyValue.str).entries) =
      true := plainEntries_mapValues PyValue.str fun _ _ => rfl
  rw [plain] at hgroups
  refine exists_canonical ?_
  simp only [payload, plain, plainEntries, hstrength, hgroups, plain_str_items, hjson.thresholds,
    hjson.dependencies, hjson.promotionEvidence, Bool.and_self]

theorem stable_of_canonical {policy : PolicyVersion} {tree : Json}
    (hjson : JsonRepresentable policy)
    (hpolicy : canonical (.mapping policy.payload) = some tree)
    (hreloaded : canonical (.mapping (reloadedPolicy policy).payload) = some tree) :
    Stable policy := by
  have horder : canonical (.array ((reloadedOrder policy.userPreferenceOrder).map PyValue.str)) =
      canonical (.array (policy.userPreferenceOrder.map PyValue.str)) :=
    canonical_member_eq (by simp [payload]) hreloaded hpolicy "user_preference_order"
      (by simp [payload, reloadedPolicy]) (by simp [payload])
  have hdependencies : canonical (.mapping (reloadedDependencies policy.dependencies).entries) =
      canonical (.mapping policy.dependencies.entries) :=
    canonical_member_eq (by simp [payload]) hreloaded hpolicy "dependencies"
      (by simp [payload, reloadedPolicy]) (by simp [payload])
  have hstrength : canonical (strengthDict (policy.selectionStrength.map reloadedConfig)) =
      canonical (strengthDict policy.selectionStrength) :=
    canonical_member_eq (by simp [payload]) hreloaded hpolicy "selection_strength"
      (by simp [payload, reloadedPolicy]) (by simp [payload])
  have hrules : ∀ config ∈ policy.selectionStrength,
      (reloadedConfig config).transforms = config.transforms ∧
        (reloadedConfig config).normalizers = config.normalizers := by
    intro config hconfig
    rw [Option.mem_def.mp hconfig] at hstrength
    exact rules_eq_of_canonical (hjson.bounds config hconfig) hstrength
  have hbounds : ∀ config ∈ policy.selectionStrength, ∀ entry ∈ config.normalizers.entries,
      NumericBound entry.2.lower ∧ NumericBound entry.2.upper := by
    intro config hconfig entry hmem
    rw [← (hrules config hconfig).2] at hmem
    exact numericBounds_reloadedConfig config hmem
  refine ⟨?_, ?_, fun config hconfig => (hrules config hconfig).1, ?_, hbounds⟩
  · rw [canonical, canonical, canonicalItems_str, canonicalItems_str, Option.map_some,
      Option.map_some, Option.some.injEq, Json.array.injEq] at horder
    exact List.map_injective_iff.mpr (fun _ _ htext => Json.str.inj htext) horder
  · intro entry hmem
    have hplain : plain (.mapping policy.dependencies.entries) = true := by
      rw [plain, hjson.dependencies]
    obtain ⟨inner, hinner⟩ := exists_canonical hplain
    obtain ⟨other, hother, hcanonical⟩ :=
      mem_of_canonical_eq hinner (hdependencies.trans hinner) hmem
    obtain ⟨original, -, heq⟩ := List.mem_map.mp hother
    obtain ⟨-, rfl⟩ := Prod.mk.inj heq
    exact ⟨_, eq_str_of_canonical ((plainEntries_iff _).mp hjson.dependencies entry hmem)
      hcanonical.symm⟩
  · intro config hconfig
    have hreload : config.normalizers.mapValues reloadedNormalizer = config.normalizers :=
      mapValues_eq_self fun entry hmem =>
        reloadedNormalizer_eq (hbounds config hconfig entry hmem).1
          (hbounds config hconfig entry hmem).2
    have hnormalizers : (renameKeys (config.normalizers.mapValues
        reloadedNormalizer).entries).sorted = config.normalizers := (hrules config hconfig).2
    rwa [hreload] at hnormalizers

/-- A policy that keeps its digest keeps everything else. -/
theorem stable_of_digest {policy : PolicyVersion} (hinjective : Function.Injective sha256)
    (hjson : JsonRepresentable policy)
    (hsame : (reloadedPolicy policy).digest? = policy.digest?) : Stable policy := by
  obtain ⟨tree, hpolicy⟩ := exists_canonical_payload hjson
  rw [PolicyVersion.digest?, PolicyVersion.digest?] at hsame
  have htext := Option.map_injective hinjective hsame
  rw [canonicalText_eq_iff] at htext
  exact stable_of_canonical hjson hpolicy (htext.trans hpolicy)

end RoundTrip

/-! ## A policy that prefers home wins -/

section Preferring

local instance : PyRuntime := plainRuntime

theorem policy_named : text (.str "policy-1") "Policy Version" = .ok "policy-1" := by
  decide +kernel

theorem empty_allowed :
    forbiddenInputs (PyDict.empty : PyDict PyValue) PyDict.empty PyDict.empty = [] := by
  decide +kernel

theorem catalogVersion_kept : preferenceCatalogVersion = preferenceCatalogVersion := rfl

theorem catalogDigest_kept [Hashing] : preferenceCatalogDigest = preferenceCatalogDigest := rfl

theorem noGroups_text : ∀ entry ∈ (PyDict.empty : PyDict String).entries,
    text (.str entry.2) "Correlation group" = .ok entry.2 :=
  fun _ hentry => absurd hentry List.not_mem_nil

theorem noGroups_sorted : (PyDict.empty : PyDict String).KeySorted := List.Pairwise.nil

theorem noValues_sorted : (PyDict.empty : PyDict PyValue).KeySorted := List.Pairwise.nil

/-- A policy with a user preference order and nothing else. -/
def orderedPolicy [Hashing] (order : List String) : PolicyVersion where
  version := "policy-1"
  status := .researchOnly
  thresholds := PyDict.empty
  selectionStrength := none
  correlationGroups := PyDict.empty
  userPreferenceOrder := order
  dependencies := PyDict.empty
  promotionEvidence := PyDict.empty
  catalogVersion := preferenceCatalogVersion
  catalogDigest := preferenceCatalogDigest
  version_text := policy_named
  forbidden_nil := empty_allowed
  catalogVersion_eq := catalogVersion_kept
  catalogDigest_eq := catalogDigest_kept
  groups_text := noGroups_text
  groups_sorted := noGroups_sorted
  dependencies_sorted := noValues_sorted

theorem jsonRepresentable_orderedPolicy [Hashing] (order : List String) :
    JsonRepresentable (orderedPolicy order) :=
  ⟨rfl, rfl, rfl, nofun⟩

/-- Two survivors whose strength intervals overlap. -/
def tiedSurvivors : List PreferenceVettingResult :=
  [survivorOf homeWin (1 / 2) (1 / 10), survivorOf awayWin (1 / 2) (1 / 10)].map fun result =>
    { result with selectionStrengthInterval := some (1 / 4, 3 / 4) }

def rankedIds [Hashing] (policy : PolicyVersion) : List String :=
  (rankSurvivors (insertionSorter PreferenceVettingResult) policy tiedSurvivors).map
    fun result => result.preference.preferenceId

noncomputable local instance : Hashing := injectiveHashing

noncomputable def preferringHome : PolicyVersion :=
  orderedPolicy ["match_winner_home", "match_winner_away"]

end Preferring

end MatchVet.T15.PolicyRoundTrip
