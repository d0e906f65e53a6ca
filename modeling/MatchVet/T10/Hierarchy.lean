import MatchVet.Foundation.KeySort
import MatchVet.T10.Authority

/-!
# The source hierarchy is not overridden from below

A decided outcome rests on the groups up to its controlling rank.  Further records of
lower authority leave those groups as they are.
-/

namespace MatchVet.T10.Hierarchy

open MatchVet.Foundation.CanonicalJson
open MatchVet.Foundation.KeySort
open MatchVet.Foundation.Runtime
open MatchVet.T10.Catalog
open MatchVet.T10.Evidence
open MatchVet.T10.Grade
open MatchVet.T10.Grader
open MatchVet.T10.Grading

/-! ## Groups up to a rank -/

/-- The groups of at least the authority of a rank. -/
def upTo (rank : ℕ) (groups : List EvidenceGroup) : List EvidenceGroup :=
  groups.filter fun group => group.sourceRank ≤ rank

/-- Two lists of groups agree up to a rank. -/
def AgreeUpTo (rank : ℕ) (first second : List EvidenceGroup) : Prop :=
  upTo rank first = upTo rank second

section Agreement

variable {rank lowest : ℕ} {first second : List EvidenceGroup}

theorem AgreeUpTo.symm (hagree : AgreeUpTo rank first second) : AgreeUpTo rank second first :=
  Eq.symm hagree

theorem AgreeUpTo.mem (hagree : AgreeUpTo rank first second) {group : EvidenceGroup}
    (hmem : group ∈ first) (hrank : group.sourceRank ≤ rank) : group ∈ second := by
  have hup : group ∈ upTo rank first := List.mem_filter.mpr ⟨hmem, decide_eq_true hrank⟩
  rw [hagree] at hup
  exact List.mem_of_mem_filter hup

/-- What is selected up to the rank is selected alike. -/
theorem AgreeUpTo.filter (hagree : AgreeUpTo rank first second) {keep : EvidenceGroup → Bool}
    (hkeep : ∀ group, keep group = true → group.sourceRank ≤ rank) :
    first.filter keep = second.filter keep := by
  have hboth (groups : List EvidenceGroup) : groups.filter keep = (upTo rank groups).filter keep := by
    rw [upTo, List.filter_filter]
    refine List.filter_congr fun group _ => ?_
    cases hkept : keep group with
    | false => rfl
    | true => simp [hkeep group hkept]
  rw [hboth first, hboth second, hagree]

theorem minimumRank?_iff {groups : List EvidenceGroup} :
    minimumRank? (groups.map EvidenceGroup.sourceRank) = some lowest ↔
      (∃ group ∈ groups, group.sourceRank = lowest) ∧
        ∀ group ∈ groups, lowest ≤ group.sourceRank := by
  rw [minimumRank?, List.min?_eq_some_iff, List.mem_map, List.forall_mem_map]

/-- The lowest rank of the selected groups, where it is up to the rank. -/
theorem AgreeUpTo.minimum (hagree : AgreeUpTo rank first second) (keep : EvidenceGroup → Bool)
    (hlowest : lowest ≤ rank)
    (hmin : minimumRank? ((first.filter keep).map EvidenceGroup.sourceRank) = some lowest) :
    minimumRank? ((second.filter keep).map EvidenceGroup.sourceRank) = some lowest := by
  obtain ⟨⟨group, hgroup, hrank⟩, hle⟩ := minimumRank?_iff.mp hmin
  refine minimumRank?_iff.mpr ⟨⟨group, ?_, hrank⟩, fun other hother => ?_⟩
  · obtain ⟨hmem, hkeep⟩ := List.mem_filter.mp hgroup
    exact List.mem_filter.mpr ⟨hagree.mem hmem (hrank ▸ hlowest), hkeep⟩
  · obtain ⟨hmem, hkeep⟩ := List.mem_filter.mp hother
    by_cases hother : other.sourceRank ≤ rank
    · exact hle other (List.mem_filter.mpr ⟨hagree.symm.mem hmem hother, hkeep⟩)
    · omega

theorem AgreeUpTo.minimum_all (hagree : AgreeUpTo rank first second) (hlowest : lowest ≤ rank)
    (hmin : minimumRank? (first.map EvidenceGroup.sourceRank) = some lowest) :
    minimumRank? (second.map EvidenceGroup.sourceRank) = some lowest := by
  have hall := hagree.minimum (fun _ => true) hlowest
  rw [List.filter_true, List.filter_true] at hall
  exact hall hmin

theorem AgreeUpTo.atRank (hagree : AgreeUpTo rank first second) (keep : EvidenceGroup → Bool)
    (hlowest : lowest ≤ rank) :
    atRank (first.filter keep) (some lowest) = atRank (second.filter keep) (some lowest) := by
  rw [Grading.atRank, Grading.atRank, List.filter_filter, List.filter_filter]
  refine hagree.filter fun group hkept => ?_
  simp only [Bool.and_eq_true, decide_eq_true_eq, Option.some.injEq] at hkept
  exact hkept.1 ▸ hlowest

theorem AgreeUpTo.statusGroup (hagree : AgreeUpTo rank first second) (hlowest : lowest ≤ rank)
    (hmin : minimumRank? (first.map EvidenceGroup.sourceRank) = some lowest) :
    statusGroup second = statusGroup first := by
  have hgroups := hagree.atRank (fun _ => true) hlowest
  rw [List.filter_true, List.filter_true] at hgroups
  rw [Grading.statusGroup, Grading.statusGroup, hmin, hagree.minimum_all hlowest hmin, hgroups]

/-! ## The controlling facts -/

variable {factSet : List Fact}

/-- A conflict at or above every complete group decides. -/
theorem factGroup_conflict_of {groups : List EvidenceGroup} {group : EvidenceGroup}
    (hmem : group ∈ groups) (hconflict : group.conflictsFor factSet = true)
    (hcomplete : ∀ other ∈ groups, other.completeFor factSet = true →
      group.sourceRank ≤ other.sourceRank) :
    (factGroup groups factSet).conflict = true := by
  unfold factGroup
  dsimp only
  split
  next firstRank hfirst =>
    obtain ⟨⟨other, hother, rfl⟩, -⟩ := minimumRank?_iff.mp hfirst
    obtain ⟨hother, hcompleteOther⟩ := List.mem_filter.mp hother
    have hblocking : group ∈ groups.filter fun item =>
        item.sourceRank ≤ other.sourceRank && item.conflictsFor factSet :=
      List.mem_filter.mpr ⟨hmem, by
        rw [hconflict, decide_eq_true (hcomplete other hother hcompleteOther)]
        rfl⟩
    split
    · rfl
    next hnone =>
      rw [minimumRank?, List.min?_eq_none_iff, List.map_eq_nil_iff] at hnone
      rw [hnone] at hblocking
      cases hblocking
  · split
    · rfl
    next hnone =>
      have hconflicts : group ∈ groups.filter fun item => item.conflictsFor factSet :=
        List.mem_filter.mpr ⟨hmem, hconflict⟩
      rw [minimumRank?, List.min?_eq_none_iff, List.map_eq_nil_iff] at hnone
      rw [hnone] at hconflicts
      cases hconflicts

/-- The rank that a selection of facts rests on. -/
def factRank? : FactSelection → Option ℕ
  | ⟨_, true, related⟩ => minimumRank? (related.map EvidenceGroup.sourceRank)
  | ⟨selected, false, _⟩ => selected.map EvidenceGroup.sourceRank

theorem mem_atRank {groups : List EvidenceGroup} {group : EvidenceGroup} :
    group ∈ Grading.atRank groups (some rank) ↔ group ∈ groups ∧ group.sourceRank = rank := by
  rw [Grading.atRank, List.mem_filter, decide_eq_true_eq, Option.some.injEq]

/-- A group that conflicts at the rank, above which nothing is complete. -/
def Blocked (rank : ℕ) (factSet : List Fact) (groups : List EvidenceGroup) : Prop :=
  ∃ group ∈ groups, group.conflictsFor factSet = true ∧ group.sourceRank = rank ∧
    ∀ other ∈ groups, other.completeFor factSet = true → rank ≤ other.sourceRank

/-- The conflicts at or above a rank. -/
def blocking (rank : ℕ) (factSet : List Fact) (groups : List EvidenceGroup) :
    List EvidenceGroup :=
  groups.filter fun group => group.sourceRank ≤ rank && group.conflictsFor factSet

/-- The first complete groups are at the rank, and no conflict stands before them. -/
def Completed (rank : ℕ) (factSet : List Fact) (groups : List EvidenceGroup) : Prop :=
  minimumRank? ((groups.filter fun group => group.completeFor factSet).map
      EvidenceGroup.sourceRank) = some rank ∧
    blocking rank factSet groups = []

theorem minimumRank?_eq_none {groups : List EvidenceGroup}
    (hnone : minimumRank? (groups.map EvidenceGroup.sourceRank) = none) : groups = [] := by
  rw [minimumRank?, List.min?_eq_none_iff, List.map_eq_nil_iff] at hnone
  exact hnone

/-- A decided selection of facts is blocked or completed at its rank. -/
theorem factGroup_decided {groups : List EvidenceGroup}
    (hrank : factRank? (factGroup groups factSet) = some rank) :
    Blocked rank factSet groups ∨ Completed rank factSet groups := by
  unfold factGroup at hrank
  dsimp only at hrank
  cases hcomplete : minimumRank? ((groups.filter fun group => group.completeFor factSet).map
      EvidenceGroup.sourceRank) with
  | some firstRank =>
      rw [hcomplete] at hrank
      dsimp only at hrank
      obtain ⟨-, hlowest⟩ := minimumRank?_iff.mp hcomplete
      cases hblocking : minimumRank? ((blocking firstRank factSet groups).map
          EvidenceGroup.sourceRank) with
      | some conflictRank =>
          unfold blocking at hblocking
          rw [hblocking] at hrank
          obtain ⟨⟨group, hgroup, rfl⟩, -⟩ := minimumRank?_iff.mp hrank
          have hconflict := (List.mem_filter.mp (mem_atRank.mp hgroup).1).2
          rw [Bool.and_eq_true, decide_eq_true_eq] at hconflict
          refine Or.inl ⟨group, List.mem_of_mem_filter (mem_atRank.mp hgroup).1, hconflict.2, rfl,
            fun other hother hcompleteOther => hconflict.1.trans ?_⟩
          exact hlowest other (List.mem_filter.mpr ⟨hother, hcompleteOther⟩)
      | none =>
          have hempty := minimumRank?_eq_none hblocking
          unfold blocking at hblocking
          rw [hblocking] at hrank
          dsimp only at hrank
          have hsame : firstRank = rank := by
            split at hrank
            · obtain ⟨⟨group, hgroup, rfl⟩, -⟩ := minimumRank?_iff.mp hrank
              exact (mem_atRank.mp hgroup).2.symm
            · obtain ⟨group, hhead, rfl⟩ := Option.map_eq_some_iff.mp hrank
              exact (mem_atRank.mp (List.mem_of_head? hhead)).2.symm
          subst hsame
          exact Or.inr ⟨hcomplete, hempty⟩
  | none =>
      rw [hcomplete] at hrank
      dsimp only at hrank
      have hincomplete := minimumRank?_eq_none hcomplete
      split at hrank
      next firstRank hfirst =>
        obtain ⟨⟨group, hgroup, rfl⟩, -⟩ := minimumRank?_iff.mp hrank
        obtain ⟨hmem, hconflict⟩ := List.mem_filter.mp (mem_atRank.mp hgroup).1
        refine Or.inl ⟨group, hmem, hconflict, rfl, fun other hother hcompleteOther => ?_⟩
        have hfound : other ∈ groups.filter fun item => item.completeFor factSet :=
          List.mem_filter.mpr ⟨hother, hcompleteOther⟩
        rw [hincomplete] at hfound
        cases hfound
      · cases hrank

theorem factGroup_selected_of_conflict {groups : List EvidenceGroup} :
    (factGroup groups factSet).conflict = true → (factGroup groups factSet).selected = none := by
  unfold factGroup
  dsimp only
  split
  · split
    · exact fun _ => rfl
    · split
      · exact fun _ => rfl
      · exact nofun
  · split
    · exact fun _ => rfl
    · exact nofun

theorem Blocked.conflict {groups : List EvidenceGroup} (hblocked : Blocked rank factSet groups) :
    (factGroup groups factSet).conflict = true := by
  obtain ⟨group, hmem, hconflict, rfl, hcomplete⟩ := hblocked
  exact factGroup_conflict_of hmem hconflict hcomplete

theorem AgreeUpTo.blocked (hagree : AgreeUpTo rank first second)
    (hblocked : Blocked rank factSet first) : Blocked rank factSet second := by
  obtain ⟨group, hmem, hconflict, hrank, hcomplete⟩ := hblocked
  refine ⟨group, hagree.mem hmem hrank.le, hconflict, hrank, fun other hother hcompleteOther => ?_⟩
  by_cases hup : other.sourceRank ≤ rank
  · exact hcomplete other (hagree.symm.mem hother hup) hcompleteOther
  · exact Nat.le_of_not_le hup

theorem AgreeUpTo.completed (hagree : AgreeUpTo rank first second)
    (hcompleted : Completed rank factSet first) : Completed rank factSet second := by
  refine ⟨hagree.minimum _ le_rfl hcompleted.1, ?_⟩
  have hblocking : blocking rank factSet first = blocking rank factSet second := by
    refine hagree.filter fun group hkept => ?_
    rw [Bool.and_eq_true, decide_eq_true_eq] at hkept
    exact hkept.1
  exact hblocking ▸ hcompleted.2

theorem Completed.factGroup {groups : List EvidenceGroup}
    (hcompleted : Completed rank factSet groups) :
    ((factGroup groups factSet).selected, (factGroup groups factSet).conflict) =
      if 1 < ((Grading.atRank (groups.filter fun group => group.completeFor factSet)
          (some rank)).map fun group => group.signature factSet).toFinset.card then (none, true)
      else ((Grading.atRank (groups.filter fun group => group.completeFor factSet)
        (some rank)).head?, false) := by
  obtain ⟨hcomplete, hblocking⟩ := hcompleted
  unfold blocking at hblocking
  rw [Grading.factGroup, hcomplete]
  dsimp only
  have hnone : minimumRank? (([] : List EvidenceGroup).map EvidenceGroup.sourceRank) = none := rfl
  rw [hblocking, hnone]
  dsimp only
  split
  · rfl
  · rfl

/-- Facts whose rank is up to the rank are decided alike. -/
theorem AgreeUpTo.factGroup (hagree : AgreeUpTo rank first second)
    (hrank : factRank? (factGroup first factSet) = some rank) :
    ((factGroup second factSet).selected, (factGroup second factSet).conflict) =
      ((factGroup first factSet).selected, (factGroup first factSet).conflict) := by
  rcases factGroup_decided hrank with hblocked | hcompleted
  · have hfirst := hblocked.conflict
    have hsecond := (hagree.blocked hblocked).conflict
    rw [hfirst, hsecond, factGroup_selected_of_conflict hfirst,
      factGroup_selected_of_conflict hsecond]
  · rw [hcompleted.factGroup, (hagree.completed hcompleted).factGroup,
      hagree.atRank (fun group => group.completeFor factSet) le_rfl]

end Agreement

/-! ## Records of lower authority -/

section Records

theorem eraseDups_filter {α : Type} [BEq α] [LawfulBEq α] (keep : α → Bool) (items : List α) :
    (items.filter keep).eraseDups = items.eraseDups.filter keep := by
  induction hlength : items.length using Nat.strong_induction_on generalizing items with
  | _ length ih =>
      cases items with
      | nil => rfl
      | cons first rest =>
          have hshorter : (rest.filter fun item => !item == first).length < length := by
            rw [← hlength]
            exact Nat.lt_succ_of_le (List.length_filter_le _ rest)
          have hrest := ih _ hshorter _ rfl
          rw [List.eraseDups_cons, List.filter_cons, List.filter_cons, ← hrest]
          cases hkeep : keep first with
          | true =>
              rw [if_pos rfl, if_pos rfl, List.eraseDups_cons, List.filter_filter,
                List.filter_filter]
              refine congrArg (first :: ·.eraseDups) (List.filter_congr fun item _ => ?_)
              exact Bool.and_comm _ _
          | false =>
              rw [if_neg nofun, if_neg nofun, List.filter_filter]
              refine congrArg List.eraseDups (List.filter_congr fun item _ => ?_)
              cases hitem : keep item with
              | false => rfl
              | true =>
                  have hne : item ≠ first := by
                    rintro rfl
                    rw [hkeep] at hitem
                    cases hitem
                  simp [hne]

/-- The groups up to a rank are those of the records up to it. -/
theorem upTo_evidenceGroups (rank : ℕ) (evidence : List SettlementEvidence) :
    upTo rank (evidenceGroups evidence) =
      evidenceGroups (evidence.filter fun item => item.sourceRank ≤ rank) := by
  have hkeys : (evidence.filter fun item => decide (item.sourceRank ≤ rank)).map groupKey =
      (evidence.map groupKey).filter fun key => key.1.rank ≤ rank := by
    rw [List.filter_map]
    rfl
  change (sortedOn groupOrder _).filter _ = sortedOn groupOrder _
  rw [filter_sortedOn, List.filter_map, hkeys, eraseDups_filter]
  refine congrArg (sortedOn groupOrder) (List.map_congr_left fun key hkey => ?_)
  have hlow : key.1.rank ≤ rank := of_decide_eq_true (List.mem_filter.mp hkey).2
  rw [EvidenceGroup.mk.injEq, List.filter_filter]
  refine ⟨rfl, rfl, rfl, List.filter_congr fun item _ => ?_⟩
  by_cases hitem : groupKey item = key
  · have hrank : item.sourceRank ≤ rank := by
      rw [← hitem] at hlow
      exact hlow
    simp [hrank]
  · simp [hitem]

variable [Hashing] {evidence further : List SettlementEvidence} {rank : ℕ}

theorem agreeUpTo_append (hbelow : ∀ item ∈ further, rank < item.sourceRank) :
    AgreeUpTo rank (evidenceGroups (sortedRecords evidence))
      (evidenceGroups (sortedRecords (evidence ++ further))) := by
  have hnone : (further.filter fun item => decide (item.sourceRank ≤ rank)) = [] :=
    List.filter_eq_nil_iff.mpr fun item hmem =>
      by simpa using hbelow item hmem
  have hfilter (items : List SettlementEvidence) (keep : SettlementEvidence → Bool) :
      (sortedRecords items).filter keep = sortedRecords (items.filter keep) :=
    filter_sortedOn recordOrder keep items
  rw [AgreeUpTo, upTo_evidenceGroups, upTo_evidenceGroups, hfilter, hfilter, List.filter_append,
    hnone, List.append_nil]

/-- No record is superseded by another of them. -/
def AllActive (evidence : List SettlementEvidence) : Prop :=
  (activeEvidenceRecords (sortedRecords evidence)).2 = []

theorem AllActive.active (hactive : AllActive evidence) :
    (activeEvidenceRecords (sortedRecords evidence)).1 = sortedRecords evidence := by
  unfold AllActive activeEvidenceRecords at *
  rw [List.partition_eq_filter_filter] at hactive ⊢
  refine List.filter_eq_self.mpr fun item hmem => ?_
  have hnot := List.filter_eq_nil_iff.mp hactive item hmem
  simpa using hnot

/-! ## Verdicts -/

/-- What a grade says, without its texts and its provenance. -/
structure Verdict where
  gradingState : GradingState
  settlementResult : Option SettlementResult
  reasonCode : String
  sourceLevel : Option SettlementSource
  sourceKey : Option String

def outcomeVerdict (outcome : Outcome) : Verdict where
  gradingState := outcome.gradingState
  settlementResult := outcome.settlementResult
  reasonCode := outcome.reasonCode
  sourceLevel := outcome.selected.map EvidenceGroup.sourceLevel
  sourceKey := outcome.selected.map EvidenceGroup.sourceKey

/-- The rank that decides a contract: that of the status, or that of its facts. -/
def controllingRank? (groups : List EvidenceGroup) (preference : BettingPreference) : Option ℕ :=
  match statusGroup groups with
  | (_, true) => minimumRank? (groups.map EvidenceGroup.sourceRank)
  | (none, false) => none
  | (some status, false) =>
      if status.statusKinds = {.void} then some status.sourceRank
      else if status.statusKinds ≠ {.complete} then none
      else factRank? (factGroup groups preference.requiredFacts)

end Records

/-- The controlling rank is the rank of a group. -/
theorem exists_of_controllingRank {groups : List EvidenceGroup} {preference : BettingPreference}
    {rank : ℕ} (hrank : controllingRank? groups preference = some rank) :
    ∃ group ∈ groups, group.sourceRank = rank := by
  unfold controllingRank? at hrank
  split at hrank
  · exact (minimumRank?_iff.mp hrank).1
  · cases hrank
  next status hstatus =>
    split at hrank
    · cases hrank
      exact ⟨status, mem_of_statusGroup hstatus, rfl⟩
    · split at hrank
      · cases hrank
      · rcases factGroup_decided hrank with ⟨group, hmem, -, hsame, -⟩ | ⟨hcomplete, -⟩
        · exact ⟨group, hmem, hsame⟩
        · obtain ⟨⟨group, hgroup, hsame⟩, -⟩ := minimumRank?_iff.mp hcomplete
          exact ⟨group, List.mem_of_mem_filter hgroup, hsame⟩

theorem exists_minimumRank {groups : List EvidenceGroup} {group : EvidenceGroup}
    (hmem : group ∈ groups) :
    ∃ lowest, minimumRank? (groups.map EvidenceGroup.sourceRank) = some lowest ∧
      lowest ≤ group.sourceRank := by
  cases hmin : minimumRank? (groups.map EvidenceGroup.sourceRank) with
  | none =>
      rw [minimumRank?_eq_none hmin] at hmem
      cases hmem
  | some lowest => exact ⟨lowest, rfl, (minimumRank?_iff.mp hmin).2 group hmem⟩

section Outcomes

variable [Hashing] {records superseded others otherSuperseded : List SettlementEvidence}
  {first second : List EvidenceGroup} {finalize : Bool} {preference : BettingPreference}

/-- Facts that are decided alike give the same verdict. -/
theorem completeOutcome_verdict {rank : ℕ} (hagree : AgreeUpTo rank first second)
    (hrank : factRank? (factGroup first preference.requiredFacts) = some rank)
    (status : EvidenceGroup) :
    (completeOutcome others otherSuperseded second finalize preference status).map
        outcomeVerdict =
      (completeOutcome records superseded first finalize preference status).map
        outcomeVerdict := by
  have hfacts := Prod.mk.injEq .. ▸ hagree.factGroup hrank
  unfold completeOutcome
  dsimp only
  rw [hfacts.1, hfacts.2]
  cases hconflict : (factGroup first preference.requiredFacts).conflict with
  | true => rfl
  | false =>
      rw [if_neg Bool.false_ne_true, if_neg Bool.false_ne_true]
      cases hselected : (factGroup first preference.requiredFacts).selected with
      | none =>
          rcases hfirst : factGroup first preference.requiredFacts with ⟨selected, conflict, related⟩
          rw [hfirst] at hrank hconflict hselected
          dsimp only at hconflict hselected
          subst hconflict hselected
          cases hrank
      | some selected =>
          dsimp only
          cases settlePreference preference selected with
          | ok result => rfl
          | error error =>
              cases error with
              | validation message => rfl
              | integrity message => rfl
              | unexpected => rfl

variable {evidence further : List SettlementEvidence} {rank : ℕ}

/-- Records below the controlling rank leave the verdict of the grading core as it is. -/
theorem gradeOutcome_verdict (hactive : AllActive evidence)
    (hactiveAll : AllActive (evidence ++ further))
    (hrank : controllingRank? (evidenceGroups (sortedRecords evidence)) preference = some rank)
    (hbelow : ∀ item ∈ further, rank < item.sourceRank) (withdrawn : Bool) :
    (gradeOutcome (sortedRecords (evidence ++ further)) withdrawn finalize preference).map
        outcomeVerdict =
      (gradeOutcome (sortedRecords evidence) withdrawn finalize preference).map
        outcomeVerdict := by
  have hagree : AgreeUpTo rank (evidenceGroups (sortedRecords evidence))
      (evidenceGroups (sortedRecords (evidence ++ further))) :=
    agreeUpTo_append hbelow
  obtain ⟨group, hgroup, hsame⟩ := exists_of_controllingRank hrank
  obtain ⟨lowest, hlowest, hle⟩ := exists_minimumRank hgroup
  have hstatus := hagree.statusGroup (hle.trans hsame.le) hlowest
  unfold gradeOutcome
  dsimp only
  rw [hactive.active, hactiveAll.active, hstatus]
  cases withdrawn with
  | true => rfl
  | false =>
      rw [if_neg nofun, if_neg nofun]
      unfold controllingRank? at hrank
      rcases hfound : statusGroup (evidenceGroups (sortedRecords evidence)) with
        ⟨_ | status, _ | _⟩
      · rfl
      · rfl
      · rw [hfound] at hrank
        dsimp only at hrank ⊢
        by_cases hvoid : status.statusKinds = {.void}
        · rw [if_pos hvoid, if_pos hvoid]
          rfl
        · rw [if_neg hvoid] at hrank
          rw [if_neg hvoid, if_neg hvoid]
          by_cases hcomplete : status.statusKinds = {.complete}
          · rw [if_neg (not_not_intro hcomplete)] at hrank
            rw [if_neg (not_not_intro hcomplete), if_neg (not_not_intro hcomplete)]
            exact completeOutcome_verdict hagree hrank status
          · rw [if_pos hcomplete, if_pos hcomplete]
            rfl
      · rfl

end Outcomes

/-! ## Grades -/

section Grades

theorem any_fixture {records : List SettlementEvidence} {fixtureId : String}
    (hnonempty : records ≠ []) (hfixture : ∀ item ∈ records, item.fixtureId = fixtureId)
    (selected : String) :
    (records.any fun item => item.fixtureId ≠ selected) = decide (fixtureId ≠ selected) := by
  obtain ⟨first, rest, rfl⟩ := List.exists_cons_of_ne_nil hnonempty
  rw [Bool.eq_iff_iff, List.any_eq_true, decide_eq_true_eq]
  constructor
  · rintro ⟨item, hmem, hne⟩
    rw [← hfixture item hmem]
    exact of_decide_eq_true hne
  · intro hne
    refine ⟨first, List.mem_cons_self, decide_eq_true ?_⟩
    rwa [hfixture first List.mem_cons_self]

theorem requestedFixture_eq {records : List SettlementEvidence} {fixtureId : String}
    (hnonempty : records ≠ []) (hfixture : ∀ item ∈ records, item.fixtureId = fixtureId)
    (given : Option String) :
    requestedFixture given records = .ok (given.getD fixtureId) := by
  obtain ⟨first, rest, rfl⟩ := List.exists_cons_of_ne_nil hnonempty
  cases given with
  | some fixtureId => rfl
  | none =>
      rw [requestedFixture, hfixture first List.mem_cons_self]
      rfl

variable [Hashing]

def gradeVerdict (grade : SettlementGrade) : Verdict where
  gradingState := grade.gradingState
  settlementResult := grade.settlementResult
  reasonCode := grade.reasonCode
  sourceLevel := grade.selectedSourceLevel
  sourceKey := grade.selectedSourceKey

def argumentsVerdict (arguments : SettlementGrade.Arguments) : Verdict where
  gradingState := arguments.gradingState
  settlementResult := arguments.settlementResult
  reasonCode := arguments.reasonCode
  sourceLevel := arguments.selectedSourceLevel
  sourceKey := arguments.selectedSourceKey

/-- What the constructor makes of a verdict. -/
def constructed (fixtureId : String) (verdict : Verdict) : Except T10Error Verdict :=
  match stateFault verdict.gradingState verdict.settlementResult with
  | some message => invalid message
  | none => (text (.str fixtureId) "Settlement Grade fixture ID").map fun _ => verdict

/-- The arguments of a new grade fit its evidence. -/
structure Fitting (arguments : SettlementGrade.Arguments) : Prop where
  evidenceIds : arguments.evidenceIds = arguments.evidence.map SettlementEvidence.evidenceId
  nodup : (arguments.evidence.map SettlementEvidence.evidenceId).Nodup
  evidenceDigest : arguments.evidenceDigest = aggregateEvidenceDigest arguments.evidence
  correctionSequence : arguments.correctionSequence = 0
  gradeId : arguments.gradeId = ""
  gradeDigest : arguments.gradeDigest = ""

/-- A fitting grade is refused only for its state or its fixture. -/
theorem create_verdict {arguments : SettlementGrade.Arguments} (hfitting : Fitting arguments) :
    (SettlementGrade.create arguments).map gradeVerdict =
      constructed arguments.fixtureId (argumentsVerdict arguments) := by
  have hids : sortedSet arguments.evidenceIds =
      (arguments.evidence.map SettlementEvidence.evidenceId).insertionSort (· ≤ ·) := by
    rw [hfitting.evidenceIds, sortedSet, hfitting.nodup.dedup]
  unfold SettlementGrade.create
  split
  next message hstate =>
    have hverdict : constructed arguments.fixtureId (argumentsVerdict arguments) =
        invalid message := by
      rw [constructed, argumentsVerdict, hstate]
    rw [hverdict]
    rfl
  next hstate =>
    have hverdict : constructed arguments.fixtureId (argumentsVerdict arguments) =
        (text (.str arguments.fixtureId) "Settlement Grade fixture ID").map fun _ =>
          argumentsVerdict arguments := by
      rw [constructed, argumentsVerdict, hstate]
    rw [hverdict, if_neg (by rw [hfitting.correctionSequence]; decide)]
    split
    next error htext =>
      rw [htext]
      rfl
    next fixtureId htext =>
      have hfixture : ((text (.str arguments.fixtureId) "Settlement Grade fixture ID").map fun _ =>
          argumentsVerdict arguments) = .ok (argumentsVerdict arguments) := by
        rw [htext]
        rfl
      rw [hfixture, dif_pos hids]
      dsimp only
      rw [if_neg, if_neg, if_neg]
      · rfl
      · rw [hfitting.gradeId]
        simp [differs]
      · rw [hfitting.gradeDigest]
        simp [differs]
      · rw [hfitting.evidenceDigest]
        exact differs_self _

theorem sortedRecords_nodup {evidence : List SettlementEvidence}
    (hnodup : (evidence.map SettlementEvidence.evidenceId).Nodup) :
    ((sortedRecords evidence).map SettlementEvidence.evidenceId).Nodup :=
  ((List.perm_insertionSort _ evidence).map _).nodup_iff.mpr hnodup

theorem sortedRecords_fixture {evidence : List SettlementEvidence} {fixtureId : String}
    (hfixture : ∀ item ∈ evidence, item.fixtureId = fixtureId) :
    ∀ item ∈ sortedRecords evidence, item.fixtureId = fixtureId :=
  fun item hmem => hfixture item ((List.mem_insertionSort _).mp hmem)

variable [PyRuntime]

/-- The grade of records of one fixture, as far as its verdict goes. -/
theorem grade_verdict {request : GradeRequest} {preference : BettingPreference}
    {fixtureId : String}
    (hpreference : defaultPreferenceCatalog.get? request.preferenceId = some preference)
    (hnonempty : sortedRecords request.evidence ≠ [])
    (hfixture : ∀ item ∈ request.evidence, item.fixtureId = fixtureId)
    (hnodup : (request.evidence.map SettlementEvidence.evidenceId).Nodup) :
    (grade request).map gradeVerdict = (do
      let selected ← identities request preference
      let selectedFixtureId ← text (.str (selected.fixtureId.getD fixtureId))
        "Settlement Grade fixture ID"
      if fixtureId ≠ selectedFixtureId then
        invalid "All Settlement Evidence must identify the same Fixture."
      else do
        let verdict ← (gradeOutcome (sortedRecords request.evidence) request.withdrawn
          (request.closeUnresolved.getD request.finalize) preference).map outcomeVerdict
        constructed selectedFixtureId verdict) := by
  have hsorted := sortedRecords_fixture hfixture
  unfold Grader.grade
  rw [hpreference]
  dsimp only
  cases identities request preference with
  | error error => rfl
  | ok selected =>
      change Except.map gradeVerdict (requestedFixture selected.fixtureId _ >>= _) = _
      rw [requestedFixture_eq hnonempty hsorted]
      change Except.map gradeVerdict (text _ _ >>= _) = text _ _ >>= _
      cases text (.str (selected.fixtureId.getD fixtureId)) "Settlement Grade fixture ID" with
      | error error => rfl
      | ok selectedFixtureId =>
          change Except.map gradeVerdict (if _ then _ else _) = if _ then _ else _
          rw [any_fixture hnonempty hsorted]
          by_cases hsame : fixtureId ≠ selectedFixtureId
          · rw [if_pos (decide_eq_true hsame), if_pos hsame]
            rfl
          · rw [if_neg (by simpa using hsame), if_neg hsame]
            cases gradeOutcome (sortedRecords request.evidence) request.withdrawn
                (request.closeUnresolved.getD request.finalize) preference with
            | error error => rfl
            | ok outcome =>
                exact create_verdict ⟨rfl, sortedRecords_nodup hnodup, rfl, rfl, rfl, rfl⟩

/-- A decided outcome is not overridden by records of lower authority. -/
theorem below_keeps_verdict {request : GradeRequest} {further : List SettlementEvidence}
    {preference : BettingPreference} {fixtureId : String} {rank : ℕ}
    (hpreference : defaultPreferenceCatalog.get? request.preferenceId = some preference)
    (hfixture : ∀ item ∈ request.evidence ++ further, item.fixtureId = fixtureId)
    (hactive : AllActive request.evidence)
    (hactiveAll : AllActive (request.evidence ++ further))
    (hrank : controllingRank? (evidenceGroups (sortedRecords request.evidence)) preference =
      some rank)
    (hbelow : ∀ item ∈ further, rank < item.sourceRank) :
    (∀ withdrawn finalize,
      (gradeOutcome (sortedRecords (request.evidence ++ further)) withdrawn finalize
          preference).map outcomeVerdict =
        (gradeOutcome (sortedRecords request.evidence) withdrawn finalize preference).map
          outcomeVerdict) ∧
      (((request.evidence ++ further).map SettlementEvidence.evidenceId).Nodup →
        (grade { request with evidence := request.evidence ++ further }).map gradeVerdict =
          (grade request).map gradeVerdict) := by
  have houtcome (withdrawn finalize : Bool) :
      (gradeOutcome (sortedRecords (request.evidence ++ further)) withdrawn finalize
          preference).map outcomeVerdict =
        (gradeOutcome (sortedRecords request.evidence) withdrawn finalize preference).map
          outcomeVerdict :=
    gradeOutcome_verdict hactive hactiveAll hrank hbelow withdrawn
  refine ⟨houtcome, fun hnodup => ?_⟩
  have hnonempty : sortedRecords request.evidence ≠ [] := by
    intro hnone
    obtain ⟨group, hgroup, -⟩ := exists_of_controllingRank hrank
    obtain ⟨item, hitem, -⟩ := exists_mem_of_mem_evidenceGroups hgroup
    rw [hnone] at hitem
    cases hitem
  have hnonemptyAll : sortedRecords (request.evidence ++ further) ≠ [] := by
    intro hnone
    obtain ⟨item, hitem⟩ := List.exists_mem_of_ne_nil _ hnonempty
    have hall : item ∈ sortedRecords (request.evidence ++ further) :=
      (List.mem_insertionSort _).mpr (List.mem_append_left _ ((List.mem_insertionSort _).mp hitem))
    rw [hnone] at hall
    cases hall
  have hfirst : (request.evidence.map SettlementEvidence.evidenceId).Nodup := by
    rw [List.map_append] at hnodup
    exact hnodup.of_append_left
  rw [grade_verdict hpreference hnonempty (fun item hmem => hfixture item
      (List.mem_append_left _ hmem)) hfirst,
    grade_verdict (by exact hpreference) (by exact hnonemptyAll) (by exact hfixture)
      (by exact hnodup)]
  dsimp only
  rw [houtcome]
  rfl

end Grades

/-! ## A league result and a later club result -/

namespace LeagueResult

open MatchVet.T10.Authority.LeagueResult

local instance : PyRuntime := plainRuntime

local instance : Hashing := shapeHashing

def homeWin : BettingPreference :=
  (defaultPreferenceCatalog.get? "match_winner_home").get (by decide +kernel)

def leagueRecords : List SettlementEvidence := [played .competition "league" 2 1]

def clubRecords : List SettlementEvidence := [played .club "club" 0 1]

/-- The club's record does not change the verdict of the league's. -/
theorem club_keeps_verdict :
    (grade (homeRequest (leagueRecords ++ clubRecords))).map gradeVerdict =
      (grade (homeRequest leagueRecords)).map gradeVerdict := by
  have hpreference : defaultPreferenceCatalog.get? (homeRequest leagueRecords).preferenceId =
      some homeWin := (Option.some_get _).symm
  have hfixture : ∀ item ∈ leagueRecords ++ clubRecords, item.fixtureId = "fixture" := by
    decide +kernel
  have hactive : AllActive leagueRecords := by
    unfold AllActive
    decide +kernel
  have hactiveAll : AllActive (leagueRecords ++ clubRecords) := by
    unfold AllActive
    decide +kernel
  have hrank : controllingRank? (evidenceGroups (sortedRecords leagueRecords)) homeWin =
      some 0 := by decide +kernel
  have hbelow : ∀ item ∈ clubRecords, 0 < item.sourceRank := by decide +kernel
  have hnodup : ((leagueRecords ++ clubRecords).map SettlementEvidence.evidenceId).Nodup := by
    decide +kernel
  exact (below_keeps_verdict hpreference (by exact hfixture) (by exact hactive)
    (by exact hactiveAll) (by exact hrank) hbelow).2 (by exact hnodup)

end LeagueResult

end MatchVet.T10.Hierarchy
