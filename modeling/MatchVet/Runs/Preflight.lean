import Mathlib.Data.Int.Order.Basic
import Mathlib.Order.Lattice
import Mathlib.Tactic.NormNum.Basic
import MatchVet.Artifacts.Manifest

/-!
# Resource preflight

A run is refused before it starts when its estimate exceeds the budget.  An
accepted run is given its CPU concurrency and its warnings.
-/

namespace MatchVet.Runs.Preflight

open MatchVet.Artifacts.Manifest

/-! ## Errors of a run -/

structure RunError where
  status : String
  code : String
  explanation : String
  lastCheckpoint : String
  reuseState : String
  recoveryCommand : String
  deriving DecidableEq, Repr

/-- What a run can raise. -/
inductive RunFault where
  | lifecycle (error : RunError) (runId : String)
  | artifact (error : ArtifactError)
  | os (text : String)
  | database (text : String)
  | workInterrupted (text : String)
  | keyboardInterrupt
  | hardLimitExpired
  | inexactIdentities (missing unexpected : List String)
  | value (text : String)
  | lookup (text : String)
  | other (text : String)
  deriving DecidableEq, Repr

/-- `str(error)`. -/
def RunFault.text : RunFault → String
  | .lifecycle error _ => error.code ++ ": " ++ error.explanation
  | .artifact error => error.message
  | .os text => text
  | .database text => text
  | .workInterrupted text => text
  | .keyboardInterrupt => ""
  | .hardLimitExpired => ""
  | .inexactIdentities _ _ => "Run input identities must be exact."
  | .value text => text
  | .lookup text => text
  | .other text => text

/-! ## Budgets and estimates -/

def mib : ℤ := 1024 * 1024

def gib : ℤ := 1024 * mib

structure ResourceBudget where
  managedStorageCapBytes : ℤ := 1536 * mib
  minimumFreeSpaceBytes : ℤ := 3 * gib
  targetMemoryBytes : ℤ := gib
  absoluteMemoryBytes : ℤ := 1536 * mib
  minimumAvailableMemoryBytes : ℤ := 1536 * mib
  targetDurationSeconds : ℤ := 7200
  hardDurationSeconds : ℤ := 14400
  maximumCpuHeavyOperations : ℤ := 2
  reservedCpus : ℤ := 1
  routineNetworkBytes : ℤ := 250 * mib

def ResourceBudget.cleanupTriggerBytes (budget : ResourceBudget) : ℤ :=
  budget.managedStorageCapBytes * 4 / 5

def settledResourceBudget : ResourceBudget := {}

structure ResourceEstimate where
  storageGrowthBytes : ℕ
  peakMemoryBytes : ℕ
  durationSeconds : ℕ
  networkBytes : ℕ
  cpuHeavyOperations : ℕ
  cpuHeavyOperations_pos : 1 ≤ cpuHeavyOperations

structure ResourceObservation where
  managedStorageBytes : ℕ
  freeSpaceBytes : ℕ
  availableMemoryBytes : ℕ
  availableCpus : ℕ
  memoryPressure : Bool
  thermalPressure : Bool
  activeCoordinators : ℕ
  availableCpus_pos : 1 ≤ availableCpus

structure PreflightResult where
  cpuConcurrency : ℤ
  warnings : List String
  deriving DecidableEq, Repr

def refusal (code explanation : String) : Except RunError PreflightResult :=
  .error ⟨"REFUSED", code, explanation, "none", "NONE", "matchvet run"⟩

/-- The warnings about storage, memory and time. -/
def budgetWarnings (estimate : ResourceEstimate) (observation : ResourceObservation)
    (budget : ResourceBudget) : List String :=
  (if budget.cleanupTriggerBytes ≤
      observation.managedStorageBytes + estimate.storageGrowthBytes then
    ["Projected storage reaches the 80% cleanup threshold; disposable cache cleanup " ++
      "should target 60% of the normal cap."]
  else []) ++
  (if budget.targetMemoryBytes < estimate.peakMemoryBytes then
    ["Projected peak memory exceeds the 1 GiB target."]
  else []) ++
  if budget.targetDurationSeconds < estimate.durationSeconds then
    ["Projected execution exceeds the two-hour target."]
  else []

def cpuCapacity (observation : ResourceObservation) (budget : ResourceBudget) : ℤ :=
  max 1 (observation.availableCpus - budget.reservedCpus)

/-- The concurrency and the warning about it. -/
def pressedConcurrency (estimate : ResourceEstimate) (observation : ResourceObservation)
    (budget : ResourceBudget) : ℤ × List String :=
  let concurrency := min (estimate.cpuHeavyOperations : ℤ) (cpuCapacity observation budget)
  if observation.memoryPressure || observation.thermalPressure then
    (min concurrency 1, ["CPU concurrency reduced to one because of " ++
      (if observation.memoryPressure then "memory pressure" else "thermal pressure") ++ "."])
  else if concurrency < estimate.cpuHeavyOperations then
    (concurrency, ["CPU concurrency reduced to reserve one CPU for Android."])
  else (concurrency, [])

def accepted (estimate : ResourceEstimate) (observation : ResourceObservation)
    (budget : ResourceBudget) : PreflightResult :=
  let pressed := pressedConcurrency estimate observation budget
  ⟨if budget.targetMemoryBytes < estimate.peakMemoryBytes then min pressed.1 1 else pressed.1,
    budgetWarnings estimate observation budget ++ pressed.2⟩

def preflightResources (estimate : ResourceEstimate) (observation : ResourceObservation)
    (budget : ResourceBudget) : Except RunError PreflightResult :=
  if 0 < observation.activeCoordinators then
    refusal "MV-PREFLIGHT-COORDINATOR_BUSY" "Another foreground MatchVet coordinator is active."
  else if budget.managedStorageCapBytes <
      observation.managedStorageBytes + estimate.storageGrowthBytes then
    refusal "MV-PREFLIGHT-STORAGE_CAP" "Projected managed storage exceeds the 1.5 GiB normal cap."
  else if observation.freeSpaceBytes - estimate.storageGrowthBytes <
      budget.minimumFreeSpaceBytes then
    refusal "MV-PREFLIGHT-FREE_SPACE"
      "Projected work would leave less than 3 GiB of device free space."
  else if budget.absoluteMemoryBytes < estimate.peakMemoryBytes then
    refusal "MV-PREFLIGHT-MEMORY_LIMIT"
      "Projected peak memory exceeds the 1.5 GiB absolute process budget."
  else if observation.availableMemoryBytes < budget.minimumAvailableMemoryBytes then
    refusal "MV-PREFLIGHT-AVAILABLE_MEMORY"
      "Available system memory is below the 1.5 GiB start threshold."
  else if budget.hardDurationSeconds < estimate.durationSeconds then
    refusal "MV-PREFLIGHT-TIME_HARD_LIMIT" "Projected execution exceeds the four-hour hard limit."
  else if budget.routineNetworkBytes < estimate.networkBytes then
    refusal "MV-PREFLIGHT-NETWORK_LIMIT" "Projected routine network use exceeds 250 MiB."
  else if budget.maximumCpuHeavyOperations < estimate.cpuHeavyOperations then
    refusal "MV-PREFLIGHT-CONCURRENCY_LIMIT"
      "Projected CPU-heavy concurrency exceeds the two-operation limit."
  else .ok (accepted estimate observation budget)

/-! ## The concurrency of an accepted run -/

theorem accepted_concurrency_pos (estimate : ResourceEstimate)
    (observation : ResourceObservation) (budget : ResourceBudget) :
    1 ≤ (accepted estimate observation budget).cpuConcurrency := by
  have hops : (1 : ℤ) ≤ estimate.cpuHeavyOperations := by
    exact_mod_cast estimate.cpuHeavyOperations_pos
  have hcapacity : 1 ≤ cpuCapacity observation budget := le_max_left _ _
  have hpressed : 1 ≤ (pressedConcurrency estimate observation budget).1 := by
    unfold pressedConcurrency
    dsimp only
    split
    · exact le_min (le_min hops hcapacity) le_rfl
    · split
      · exact le_min hops hcapacity
      · exact le_min hops hcapacity
  unfold accepted
  dsimp only
  split
  · exact le_min hpressed le_rfl
  · exact hpressed

theorem preflightResources_ok {estimate : ResourceEstimate} {observation : ResourceObservation}
    {budget : ResourceBudget} {result : PreflightResult}
    (hresult : preflightResources estimate observation budget = .ok result) :
    result = accepted estimate observation budget ∧
      estimate.cpuHeavyOperations ≤ budget.maximumCpuHeavyOperations := by
  unfold preflightResources refusal at hresult
  split at hresult
  · cases hresult
  split at hresult
  · cases hresult
  split at hresult
  · cases hresult
  split at hresult
  · cases hresult
  split at hresult
  · cases hresult
  split at hresult
  · cases hresult
  split at hresult
  · cases hresult
  split at hresult
  · cases hresult
  next hlimit =>
    cases hresult
    exact ⟨rfl, not_lt.mp hlimit⟩

theorem preflightResources_concurrency_pos {estimate : ResourceEstimate}
    {observation : ResourceObservation} {budget : ResourceBudget} {result : PreflightResult}
    (hresult : preflightResources estimate observation budget = .ok result) :
    1 ≤ result.cpuConcurrency := by
  rw [(preflightResources_ok hresult).1]
  exact accepted_concurrency_pos estimate observation budget

end MatchVet.Runs.Preflight
