import Mathlib.Data.List.Basic
import Mathlib.Data.List.Induction
import Mathlib.Data.List.Nodup
import Mathlib.Tactic.Common

/-!
# Groups by a key

A dictionary of lists collects the items of each key.  The groups stand in the
order of their first items, and each of them holds exactly the items of its key.
-/

namespace MatchVet.Foundation.Grouping

section Groups

variable {α β : Type} [DecidableEq β] {key : α → β}

/-- Add an item to the group of its key. -/
def addToGroup (key : α → β) : List (β × List α) → α → List (β × List α)
  | [], item => [(key item, [item])]
  | (name, items) :: rest, item =>
      if name = key item then (name, items ++ [item]) :: rest
      else (name, items) :: addToGroup key rest item

/-- Groups of items by a key, in the order of their first items. -/
def groupsBy (key : α → β) (items : List α) : List (β × List α) :=
  items.foldl (addToGroup key) []

/-- Adding an item to the groups of some names puts it into the group of its key. -/
theorem addToGroup_map {names : List β} (hnodup : names.Nodup) {members : β → List α} {item : α}
    (hfresh : key item ∉ names → members (key item) = []) :
    addToGroup key (names.map fun name => (name, members name)) item =
      (if key item ∈ names then names else names ++ [key item]).map fun name =>
        (name, if name = key item then members name ++ [item] else members name) := by
  induction names with
  | nil =>
      have hnone : members (key item) = [] := hfresh List.not_mem_nil
      simp [addToGroup, hnone]
  | cons name rest ih =>
      obtain ⟨hname, hrest⟩ := List.nodup_cons.mp hnodup
      rw [List.map_cons, addToGroup]
      by_cases heq : name = key item
      · have hothers : ∀ other ∈ rest, (other, members other) =
            (other, if other = key item then members other ++ [item] else members other) := by
          intro other hother
          rw [if_neg fun hsame : other = key item => hname (heq ▸ hsame ▸ hother)]
        rw [if_pos heq, if_pos (List.mem_cons.mpr (Or.inl heq.symm)), List.map_cons, if_pos heq,
          List.map_congr_left hothers]
      · have hmem : key item ∈ name :: rest ↔ key item ∈ rest :=
          List.mem_cons.trans (or_iff_right (Ne.symm heq))
        have hih := ih hrest fun habsent => hfresh (mt hmem.mp habsent)
        rw [if_neg heq, hih]
        by_cases hin : key item ∈ rest
        · rw [if_pos hin, if_pos (hmem.mpr hin), List.map_cons, if_neg heq]
        · rw [if_neg hin, if_neg (mt hmem.mp hin), List.cons_append, List.map_cons, if_neg heq]

/-- The groups are the items of each key. -/
theorem groupsBy_spec (key : α → β) (items : List α) :
    ∃ names : List β, names.Nodup ∧ (∀ name, name ∈ names ↔ ∃ item ∈ items, key item = name) ∧
      groupsBy key items =
        names.map fun name => (name, items.filter fun item => key item = name) := by
  induction items using List.reverseRecOn with
  | nil => exact ⟨[], List.nodup_nil, by simp, rfl⟩
  | append_singleton items item ih =>
      obtain ⟨names, hnodup, hnames, hgroups⟩ := ih
      have hfresh : key item ∉ names →
          (items.filter fun other => key other = key item) = [] := by
        intro habsent
        refine List.filter_eq_nil_iff.mpr fun other hother => ?_
        rw [decide_eq_true_eq]
        exact fun hsame => habsent ((hnames _).mpr ⟨other, hother, hsame⟩)
      refine ⟨if key item ∈ names then names else names ++ [key item], ?_, ?_, ?_⟩
      · split
        next => exact hnodup
        next habsent =>
          refine List.nodup_append.mpr ⟨hnodup, List.nodup_singleton _, ?_⟩
          rintro name hname other hother rfl
          exact habsent (List.mem_singleton.mp hother ▸ hname)
      · intro name
        have hsplit : (∃ other ∈ items ++ [item], key other = name) ↔
            name ∈ names ∨ key item = name := by
          simp only [List.mem_append, List.mem_singleton, or_and_right, exists_or,
            exists_eq_left, hnames]
        rw [hsplit]
        split
        next hpresent => exact (or_iff_left_of_imp fun heq => heq ▸ hpresent).symm
        next => rw [List.mem_append, List.mem_singleton, eq_comm]
      · unfold groupsBy at hgroups ⊢
        rw [List.foldl_append, hgroups, List.foldl_cons, List.foldl_nil,
          addToGroup_map hnodup hfresh]
        refine List.map_congr_left fun name _ => ?_
        rw [List.filter_append, List.filter_singleton]
        by_cases heq : name = key item
        · simp [heq]
        · simp [heq, Ne.symm heq]

theorem mem_groupsBy {items : List α} {group : β × List α} :
    group ∈ groupsBy key items ↔
      (group.2 = items.filter fun item => key item = group.1) ∧ group.2 ≠ [] := by
  obtain ⟨names, -, hnames, hgroups⟩ := groupsBy_spec key items
  have hne : ∀ name, name ∈ names ↔ (items.filter fun item => key item = name) ≠ [] := by
    intro name
    rw [hnames, ne_eq, List.filter_eq_nil_iff]
    simp
  rw [hgroups, List.mem_map]
  constructor
  · rintro ⟨name, hname, rfl⟩
    exact ⟨rfl, (hne name).mp hname⟩
  · rintro ⟨hmembers, hsome⟩
    exact ⟨group.1, (hne _).mpr (hmembers ▸ hsome), by rw [← hmembers]⟩

theorem groupsBy_keys_nodup (key : α → β) (items : List α) :
    ((groupsBy key items).map Prod.fst).Nodup := by
  obtain ⟨names, hnodup, -, hgroups⟩ := groupsBy_spec key items
  rw [hgroups, List.map_map]
  simpa [Function.comp_def] using hnodup

end Groups

end MatchVet.Foundation.Grouping
