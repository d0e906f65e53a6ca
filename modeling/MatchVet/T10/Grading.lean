import Mathlib.Data.Finset.Basic
import Mathlib.Data.Finset.Card
import Mathlib.Data.Prod.Lex
import MatchVet.T10.Evidence

/-!
# Settlement grading

Active evidence is grouped by source and record set.  The fixture status comes
from the highest authority level, the required facts from the first level with
a complete group, and a disagreement at the controlling level is a conflict.
-/

namespace MatchVet.T10.Grading

open MatchVet.Foundation.CanonicalJson
open MatchVet.Foundation.Runtime
open MatchVet.T10.Catalog
open MatchVet.T10.Evidence

def settlementRulesName : String := "matchvet-settlement-rules-v1"

def settlementRulesVersion : String := "1.0.0"

def sourceHierarchyName : String := "matchvet-settlement-source-hierarchy-v1"

def sourceHierarchy : List SettlementSource :=
  [.competition, .federation, .club, .footballData]

inductive GradingState where
  | pending
  | final
  deriving DecidableEq, Repr

def GradingState.value : GradingState → String
  | .pending => "PENDING"
  | .final => "FINAL"

theorem GradingState.value_injective : Function.Injective GradingState.value := by
  intro first second heq
  cases first <;> cases second <;> first | rfl | exact absurd heq (by decide)

def GradingState.ofValue? (value : String) : Option GradingState :=
  [GradingState.pending, .final].find? fun state => state.value = value

def resultOfValue? (value : String) : Option SettlementResult :=
  [SettlementResult.win, .loss, .push, .void].find? fun result => result.value = value

/-! ## Evidence groups -/

/-- The records of one source and one record set. -/
structure EvidenceGroup where
  sourceLevel : SettlementSource
  sourceKey : String
  recordSetId : String
  records : List SettlementEvidence

abbrev GroupKey := SettlementSource × String × String

def groupKey (evidence : SettlementEvidence) : GroupKey :=
  (evidence.sourceLevel, evidence.sourceKey, evidence.recordSetId)

namespace EvidenceGroup

def sourceRank (group : EvidenceGroup) : ℕ := group.sourceLevel.rank

def statusKinds (group : EvidenceGroup) : Finset StatusKind :=
  (group.records.map SettlementEvidence.statusKind).toFinset

def statusConflict (group : EvidenceGroup) : Bool := 1 < group.statusKinds.card

/-- `_value`: the one value the records give for a fact, and whether they give
several. -/
def value (group : EvidenceGroup) (fact : Fact) : Option ℕ × Bool :=
  let values := group.records.filterMap fun item => item.fact fact
  if 1 < values.toFinset.card then (none, true) else (values.head?, false)

def factKnown (group : EvidenceGroup) (fact : Fact) : Bool :=
  !(group.value fact).2 && (group.value fact).1.isSome

/-- Every status is complete and every fact has one value. -/
def completeFor (group : EvidenceGroup) (factSet : List Fact) : Bool :=
  !group.statusConflict && group.statusKinds = {.complete} && factSet.all group.factKnown &&
    (factSet ≠ halfGoalFacts ||
      (!SettlementEvidence.halfExceeds (group.value .halfTimeHomeGoals).1
          (group.value .fullTimeHomeGoals).1 &&
        !SettlementEvidence.halfExceeds (group.value .halfTimeAwayGoals).1
          (group.value .fullTimeAwayGoals).1))

def conflictsFor (group : EvidenceGroup) (factSet : List Fact) : Bool :=
  !group.statusConflict && group.statusKinds = {.complete} &&
    factSet.any fun fact => (group.value fact).2

def signature (group : EvidenceGroup) (factSet : List Fact) : List (Option ℕ) :=
  factSet.map fun fact => (group.value fact).1

def valuesFor (group : EvidenceGroup) (factSet : List Fact) : Except T10Error (List ℕ) :=
  if group.completeFor factSet then .ok (factSet.filterMap fun fact => (group.value fact).1)
  else invalid "An incomplete or conflicting evidence group has no values."

end EvidenceGroup

def groupOrder (group : EvidenceGroup) : ℕ ×ₗ String ×ₗ String :=
  toLex (group.sourceRank, toLex (group.sourceKey, group.recordSetId))

/-- `_evidence_groups`: groups in the order of their first record, then sorted. -/
def evidenceGroups (evidence : List SettlementEvidence) : List EvidenceGroup :=
  ((evidence.map groupKey).eraseDups.map fun key =>
    { sourceLevel := key.1
      sourceKey := key.2.1
      recordSetId := key.2.2
      records := evidence.filter fun item => groupKey item = key : EvidenceGroup }).insertionSort
    fun first second => groupOrder first ≤ groupOrder second

/-- A group has the source level of one of its records. -/
theorem exists_mem_of_mem_evidenceGroups {evidence : List SettlementEvidence}
    {group : EvidenceGroup} (hgroup : group ∈ evidenceGroups evidence) :
    ∃ item ∈ evidence, item.sourceLevel = group.sourceLevel := by
  rw [evidenceGroups, List.mem_insertionSort, List.mem_map] at hgroup
  obtain ⟨key, hkey, rfl⟩ := hgroup
  rw [List.mem_eraseDups, List.mem_map] at hkey
  obtain ⟨item, hitem, rfl⟩ := hkey
  exact ⟨item, hitem, rfl⟩

section Identified

variable [Hashing]

/-- The record a predecessor reference names: the last one under that key. -/
def lastNamed (evidence : List SettlementEvidence) (name : SettlementEvidence → String)
    (key : String) : Option SettlementEvidence :=
  evidence.reverse.find? fun item => name item = key

/-- The identifiers of the records that a successor names. -/
def supersededIds (evidence : List SettlementEvidence) : List String :=
  (evidence.filterMap SettlementEvidence.predecessorId).flatMap fun key =>
    ([lastNamed evidence SettlementEvidence.evidenceId key,
      lastNamed evidence SettlementEvidence.recordId key].filterMap id).map
      SettlementEvidence.evidenceId

/-- `_active_evidence_records`. -/
def activeEvidenceRecords (evidence : List SettlementEvidence) :
    List SettlementEvidence × List SettlementEvidence :=
  evidence.partition fun item => !(supersededIds evidence).contains item.evidenceId

theorem mem_of_mem_active {evidence : List SettlementEvidence} {item : SettlementEvidence}
    (hitem : item ∈ (activeEvidenceRecords evidence).1) : item ∈ evidence := by
  rw [activeEvidenceRecords, List.partition_eq_filter_filter] at hitem
  exact (List.mem_filter.mp hitem).1

def aggregateEvidenceDigest (evidence : List SettlementEvidence) : String :=
  sha256 (tokens (.object [("evidence_digests",
    textsJson ((evidence.map SettlementEvidence.evidenceDigest).insertionSort (· ≤ ·)))]))

end Identified

/-! ## Controlling groups -/

/-- The smallest of some ranks. -/
def minimumRank? (ranks : List ℕ) : Option ℕ := ranks.min?

theorem mem_of_minimumRank? {ranks : List ℕ} {rank : ℕ} (hmin : minimumRank? ranks = some rank) :
    rank ∈ ranks :=
  List.min?_mem hmin

def atRank (groups : List EvidenceGroup) (rank : Option ℕ) : List EvidenceGroup :=
  groups.filter fun group => some group.sourceRank = rank

/-- `_status_group`. -/
def statusGroup (groups : List EvidenceGroup) : Option EvidenceGroup × Bool :=
  let highest := atRank groups (minimumRank? (groups.map EvidenceGroup.sourceRank))
  if 1 < (highest.flatMap fun group =>
      group.records.map SettlementEvidence.statusKind).toFinset.card then (none, true)
  else (highest.head?, false)

theorem mem_of_atRank_head {groups : List EvidenceGroup} {rank : Option ℕ}
    {group : EvidenceGroup} (hhead : (atRank groups rank).head? = some group) :
    group ∈ groups :=
  (List.mem_filter.mp (List.mem_of_head? hhead)).1

theorem mem_of_statusGroup {groups : List EvidenceGroup} {group : EvidenceGroup}
    {conflict : Bool} (hstatus : statusGroup groups = (some group, conflict)) :
    group ∈ groups := by
  unfold statusGroup at hstatus
  dsimp only at hstatus
  split at hstatus
  · cases hstatus
  · exact mem_of_atRank_head (congrArg Prod.fst hstatus)

structure FactSelection where
  selected : Option EvidenceGroup
  conflict : Bool
  related : List EvidenceGroup

/-- `_fact_group`. -/
def factGroup (groups : List EvidenceGroup) (factSet : List Fact) : FactSelection :=
  let complete := groups.filter fun group => group.completeFor factSet
  match minimumRank? (complete.map EvidenceGroup.sourceRank) with
  | some firstRank =>
      let blocking := groups.filter fun group =>
        group.sourceRank ≤ firstRank && group.conflictsFor factSet
      match minimumRank? (blocking.map EvidenceGroup.sourceRank) with
      | some conflictRank => ⟨none, true, atRank blocking (some conflictRank)⟩
      | none =>
          let sameRank := atRank complete (some firstRank)
          if 1 < (sameRank.map fun group => group.signature factSet).toFinset.card then
            ⟨none, true, sameRank⟩
          else
            ⟨sameRank.head?, false, groups.filter fun group =>
              firstRank < group.sourceRank &&
                (group.completeFor factSet || group.conflictsFor factSet)⟩
  | none =>
      let conflicts := groups.filter fun group => group.conflictsFor factSet
      match minimumRank? (conflicts.map EvidenceGroup.sourceRank) with
      | some firstRank => ⟨none, true, atRank conflicts (some firstRank)⟩
      | none => ⟨none, false, []⟩

theorem mem_of_factGroup {groups : List EvidenceGroup} {factSet : List Fact}
    {group : EvidenceGroup} (hfacts : (factGroup groups factSet).selected = some group) :
    group ∈ groups := by
  unfold factGroup at hfacts
  dsimp only at hfacts
  split at hfacts
  · split at hfacts
    · cases hfacts
    · split at hfacts
      · cases hfacts
      · exact (List.mem_filter.mp (mem_of_atRank_head hfacts)).1
  · split at hfacts <;> cases hfacts

/-! ## Settling one contract -/

def overResult (value : ℕ) (line : ℚ) : Except T10Error SettlementResult :=
  if (line * 2).den ≠ 1 then
    mismatch "v1 Over settlement lines must be representable in half-units."
  else if (line * 2).num < 2 * (value : ℤ) then .ok .win
  else if 2 * (value : ℤ) < (line * 2).num then .ok .loss
  else mismatch "An enabled v1 .5 Over line cannot settle at equality."

def winIf (condition : Bool) : SettlementResult := if condition then .win else .loss

def compareSides (selection : String) (home away : ℕ) : Bool :=
  if selection = "Home" then away < home
  else if selection = "Away" then home < away
  else home = away

def doubleChance (selection : String) (home away : ℕ) : Bool :=
  if selection = "1X" then away ≤ home
  else if selection = "X2" then home ≤ away
  else home ≠ away

def asianResult (selection : String) (home away : ℕ) (line : ℚ) : SettlementResult :=
  let backed : ℤ := if selection = "Home" then home - away else away - home
  let margin : ℚ := 2 * backed + line * 2
  if 0 < margin then .win else if margin = 0 then .push else .loss

/-- The line a family asserts to have. -/
def withLine {α : Type} (preference : BettingPreference) (next : ℚ → Except T10Error α) :
    Except T10Error α :=
  match preference.line with
  | some line => next line
  | none => .error .unexpected

def pairOf (values : List ℕ) : ℕ × ℕ := (values.getD 0 0, values.getD 1 0)

/-- `_settle_preference`. -/
def settlePreference (preference : BettingPreference) (group : EvidenceGroup) :
    Except T10Error SettlementResult :=
  match preference.family with
  | .matchWinner => do
      let goals ← group.valuesFor fullGoalFacts
      .ok (winIf (compareSides preference.selection (pairOf goals).1 (pairOf goals).2))
  | .doubleChance => do
      let goals ← group.valuesFor fullGoalFacts
      .ok (winIf (doubleChance preference.selection (pairOf goals).1 (pairOf goals).2))
  | .asianHandicap => do
      let goals ← group.valuesFor fullGoalFacts
      withLine preference fun line =>
        .ok (asianResult preference.selection (pairOf goals).1 (pairOf goals).2 line)
  | .firstHalfOver => do
      let goals ← group.valuesFor halfGoalFacts
      withLine preference fun line => overResult (goals.getD 2 0 + goals.getD 3 0) line
  | .secondHalfOver => do
      let goals ← group.valuesFor halfGoalFacts
      withLine preference fun line =>
        overResult (goals.getD 0 0 - goals.getD 2 0 + (goals.getD 1 0 - goals.getD 3 0)) line
  | .matchGoalsOver => do
      let goals ← group.valuesFor fullGoalFacts
      withLine preference fun line => overResult ((pairOf goals).1 + (pairOf goals).2) line
  | .homeTeamGoalsOver => do
      let goals ← group.valuesFor fullGoalFacts
      withLine preference fun line => overResult (pairOf goals).1 line
  | .awayTeamGoalsOver => do
      let goals ← group.valuesFor fullGoalFacts
      withLine preference fun line => overResult (pairOf goals).2 line
  | .cornerWinner => do
      let corners ← group.valuesFor cornerFacts
      .ok (winIf (compareSides preference.selection (pairOf corners).1 (pairOf corners).2))
  | .totalCornersOver => do
      let corners ← group.valuesFor cornerFacts
      withLine preference fun line => overResult ((pairOf corners).1 + (pairOf corners).2) line
  | .homeCornersOver => do
      let corners ← group.valuesFor cornerFacts
      withLine preference fun line => overResult (pairOf corners).1 line
  | .awayCornersOver => do
      let corners ← group.valuesFor cornerFacts
      withLine preference fun line => overResult (pairOf corners).2 line

end MatchVet.T10.Grading
