import MatchVet.T15.Strength

/-!
# Selection Policy Versions

An immutable policy: thresholds, an optional Selection Strength configuration,
correlation groups and the user preference order.  The payload is what the
policy digest covers and what `fromMapping` reads back.
-/

namespace MatchVet.T15.Policy

open MatchVet.Foundation.CanonicalJson
open MatchVet.Foundation.Dictionary
open MatchVet.Foundation.Dictionary.PyDict
open MatchVet.Foundation.Runtime
open MatchVet.T10.Catalog
open MatchVet.T15.Strength
open MatchVet.T15.Values

inductive PolicyStatus where
  | researchOnly
  | productionPromoted
  deriving DecidableEq, Repr

def PolicyStatus.value : PolicyStatus → String
  | .researchOnly => "RESEARCH_ONLY"
  | .productionPromoted => "PRODUCTION_PROMOTED"

def PolicyStatus.ofValue? (value : String) : Option PolicyStatus :=
  [PolicyStatus.researchOnly, .productionPromoted].find? fun status => status.value = value

theorem PolicyStatus.ofValue?_value (status : PolicyStatus) :
    PolicyStatus.ofValue? status.value = some status := by
  cases status <;> decide

variable [PyRuntime]

/-- The forbidden keys of the three free-form sections, in constructor order. -/
def forbiddenInputs (thresholds dependencies promotionEvidence : PyDict PyValue) : List String :=
  forbiddenKeys (.mapping thresholds.entries) ++ forbiddenKeys (.mapping dependencies.entries) ++
    forbiddenKeys (.mapping promotionEvidence.entries)

/-- A policy with everything its constructor has checked. -/
structure PolicyVersion [Hashing] where
  version : String
  status : PolicyStatus
  thresholds : PyDict PyValue
  selectionStrength : Option SelectionStrengthConfig
  correlationGroups : PyDict String
  userPreferenceOrder : List String
  dependencies : PyDict PyValue
  promotionEvidence : PyDict PyValue
  catalogVersion : String
  catalogDigest : String
  version_text : text (.str version) "Policy Version" = .ok version
  forbidden_nil : forbiddenInputs thresholds dependencies promotionEvidence = []
  catalogVersion_eq : catalogVersion = preferenceCatalogVersion
  catalogDigest_eq : catalogDigest = preferenceCatalogDigest
  groups_text : ∀ entry ∈ correlationGroups.entries,
    text (.str entry.2) "Correlation group" = .ok entry.2
  groups_sorted : correlationGroups.KeySorted
  dependencies_sorted : dependencies.KeySorted

namespace PolicyVersion

variable [Hashing]

@[ext]
theorem ext {first second : PolicyVersion} (hversion : first.version = second.version)
    (hstatus : first.status = second.status) (hthresholds : first.thresholds = second.thresholds)
    (hstrength : first.selectionStrength = second.selectionStrength)
    (hgroups : first.correlationGroups = second.correlationGroups)
    (horder : first.userPreferenceOrder = second.userPreferenceOrder)
    (hdependencies : first.dependencies = second.dependencies)
    (hpromotion : first.promotionEvidence = second.promotionEvidence) : first = second := by
  have hcatalogVersion := first.catalogVersion_eq.trans second.catalogVersion_eq.symm
  have hcatalogDigest := first.catalogDigest_eq.trans second.catalogDigest_eq.symm
  cases first
  cases second
  rw [mk.injEq]
  exact ⟨hversion, hstatus, hthresholds, hstrength, hgroups, horder, hdependencies, hpromotion,
    hcatalogVersion, hcatalogDigest⟩

/-! ## The constructor -/

/-- The constructor arguments, before any check. -/
structure Arguments where
  version : PyValue
  status : PyValue
  thresholds : PyDict PyValue
  selectionStrength : Option SelectionStrengthConfig
  correlationGroups : PyDict PyValue
  userPreferenceOrder : List PyValue
  dependencies : PyDict PyValue
  promotionEvidence : PyDict PyValue
  catalogVersion : PyValue
  catalogDigest : PyValue

def isText (value : PyValue) (expected : String) : Bool :=
  match value with
  | .str content => content = expected
  | _ => false

def policyFail {α : Type} (message : String) : Except T15Error α :=
  .error (.policyValidation message)

/-- The constructor. -/
def create (arguments : Arguments) : Except T15Error PolicyVersion :=
  match hversion : text arguments.version "Policy Version" with
  | .error error => .error error
  | .ok version =>
      match PolicyStatus.ofValue? (display arguments.status) with
      | none =>
          policyFail ("Unsupported Selection Policy status " ++
            PyRuntime.repr arguments.status ++ ".")
      | some status =>
          let dependencies := arguments.dependencies.sorted
          if hforbidden : forbiddenInputs arguments.thresholds dependencies
              arguments.promotionEvidence = [] then
            if isText arguments.catalogVersion preferenceCatalogVersion then
              if isText arguments.catalogDigest preferenceCatalogDigest then
                match hgroups : mapEntries (fun value => text value "Correlation group")
                    arguments.correlationGroups.entries with
                | .error error => .error error
                | .ok groups =>
                    .ok {
                      version := version
                      status := status
                      thresholds := arguments.thresholds
                      selectionStrength := arguments.selectionStrength
                      correlationGroups := (ofPairs groups).sorted
                      userPreferenceOrder := arguments.userPreferenceOrder.map display
                      dependencies := dependencies
                      promotionEvidence := arguments.promotionEvidence
                      catalogVersion := preferenceCatalogVersion
                      catalogDigest := preferenceCatalogDigest
                      version_text := text_of_text hversion
                      forbidden_nil := hforbidden
                      catalogVersion_eq := rfl
                      catalogDigest_eq := rfl
                      groups_text := by
                        have hchecked := mapEntries_text hgroups
                        have hentries : (ofPairs groups).entries = groups :=
                          entries_ofPairs (hchecked.1 ▸ arguments.correlationGroups.nodup)
                        intro entry hmem
                        rw [mem_entries_sorted, hentries] at hmem
                        exact hchecked.2 entry hmem
                      groups_sorted := sorted_keySorted _
                      dependencies_sorted := sorted_keySorted _ }
              else policyFail "T15 requires the immutable T10 preference catalog digest."
            else policyFail "T15 requires the immutable T10 preference catalog version."
          else
            policyFail ("Bookmaker odds, value, profit, stake, and volume cannot be policy " ++
              "inputs: " ++ ", ".intercalate (forbiddenInputs arguments.thresholds dependencies
                arguments.promotionEvidence))

/-! ## The payload and its digest -/

def strengthDict (strength : Option SelectionStrengthConfig) : PyValue :=
  match strength with
  | some config => config.toDict
  | none => .none

/-- `to_dict(include_digest=False)`. -/
def payload (policy : PolicyVersion) : List (String × PyValue) :=
  [("catalog_digest", .str policy.catalogDigest),
    ("catalog_version", .str policy.catalogVersion),
    ("correlation_groups", .mapping (policy.correlationGroups.mapValues PyValue.str).entries),
    ("dependencies", .mapping policy.dependencies.entries),
    ("promotion_evidence", .mapping policy.promotionEvidence.entries),
    ("selection_strength", strengthDict policy.selectionStrength),
    ("status", .str policy.status.value),
    ("thresholds", .mapping policy.thresholds.entries),
    ("user_preference_order", .array (policy.userPreferenceOrder.map PyValue.str)),
    ("version", .str policy.version)]

/-- The policy digest, when the payload has a canonical text. -/
def digest? (policy : PolicyVersion) : Option String :=
  (canonicalText (.mapping policy.payload)).map sha256

/-- `to_dict()`, which stops when the digest cannot be computed. -/
def toDict (policy : PolicyVersion) : Except T15Error PyValue :=
  match policy.digest? with
  | some digest => .ok (.mapping (policy.payload ++ [("policy_digest", .str digest)]))
  | none => fail "T15 values must be finite."

/-! ## Reading a payload -/

def dictOf (value : PyValue) : PyDict PyValue := ofPairs value.entries

def strengthFromValue (value : PyValue) : Except T15Error (Option SelectionStrengthConfig) :=
  match value with
  | .mapping entries =>
      let rules (key : String) := ((entries.lookup key).getD .none).entries
      match SelectionStrengthConfig.create
          ((ofPairs (floatMapping ((entries.lookup "weights").getD .none))).mapValues
            PyValue.float).entries
          ((rules "transforms").map fun entry => (entry.1, .raw entry.2))
          ((rules "normalizers").map fun entry => (entry.1, .raw entry.2))
          (.str (display ((entries.lookup "version").getD (.str "")))) with
      | .error error => .error error
      | .ok config => .ok (some config)
  | _ => .ok none

/-- `from_mapping`. -/
def fromMapping (value : PyValue) : Except T15Error PolicyVersion :=
  let get (key : String) (default : PyValue) := (value.entries.lookup key).getD default
  let strings (key : String) :=
    (ofPairs (stringMapping (get key (.mapping [])))).mapValues PyValue.str
  match strengthFromValue (get "selection_strength" .none) with
  | .error error => .error error
  | .ok strength =>
      create {
        version := .str (display (get "version" (.str "")))
        status := .str (display (get "status" (.str PolicyStatus.researchOnly.value)))
        thresholds := dictOf (get "thresholds" (get "gate_thresholds" (.mapping [])))
        selectionStrength := strength
        correlationGroups := strings "correlation_groups"
        userPreferenceOrder :=
          (tupleStrings (get "user_preference_order" (.array []))).map PyValue.str
        dependencies := strings "dependencies"
        promotionEvidence := dictOf (get "promotion_evidence" (.mapping []))
        catalogVersion := .str (display (get "catalog_version" (.str preferenceCatalogVersion)))
        catalogDigest := .str (display (get "catalog_digest" (.str preferenceCatalogDigest))) }

/-! ## Thresholds -/

def thresholdAliases (key : String) : List String :=
  ([("data_quality_min", ["data_quality_min", "g2_data_quality_min"]),
    ("historical_reliability_min", ["historical_reliability_min", "reliability_min"]),
    ("non_triviality_baseline_win_max",
      ["non_triviality_baseline_win_max", "trivial_baseline_win_max"]),
    ("non_triviality_min_lift", ["non_triviality_min_lift", "match_specific_lift_min"]),
    ("conservative_probability_min",
      ["conservative_probability_min", "conservative_win_probability_min"]),
    ("loss_risk_max", ["loss_risk_max", "loss_probability_upper_max"]),
    ("uncertainty_width_max", ["uncertainty_width_max", "probability_uncertainty_width_max"]),
    ("uncertainty_tail_risk_max", ["uncertainty_tail_risk_max", "tail_risk_max"]),
    ("model_agreement_min", ["model_agreement_min", "agreement_min"]),
    ("model_sensitivity_max", ["model_sensitivity_max", "sensitivity_max"]),
    ("statistical_tie_tolerance", ["statistical_tie_tolerance", "tie_tolerance"])].lookup
      key).getD [key]

/-- `_threshold_lookup`; a preference selects inside a threshold that is itself a
mapping. -/
def thresholdLookup (thresholds : PyDict PyValue) (key : String)
    (preference : Option BettingPreference) : Option PyValue :=
  match (thresholdAliases key).findSome? thresholds.get?, preference with
  | some (.mapping entries), some selected =>
      [selected.preferenceId, selected.family.value, "default"].findSome?
        fun name => entries.lookup name
  | value, _ => value

/-- `_threshold_number` with the bounds every gate uses. -/
def thresholdNumber (policy : PolicyVersion) (key : String) (preference : BettingPreference) :
    Except T15Error (Option ℚ) :=
  match (thresholdLookup policy.thresholds key (some preference)).bind optionalFloat with
  | none => .ok none
  | some selected =>
      if selected < 0 then
        policyFail ("Policy threshold " ++ key ++ " is below its allowed range.")
      else if 1 < selected then
        policyFail ("Policy threshold " ++ key ++ " is above its allowed range.")
      else .ok (some selected)

end PolicyVersion

end MatchVet.T15.Policy
