import Mathlib.Data.List.Basic

/-!
# Updating rows

`UPDATE ... WHERE` on the rows of a table, kept in the order of their insertion.
-/

namespace MatchVet.Foundation.TableUpdate

variable {α β : Type*}

/-- The rows after `UPDATE ... SET update WHERE matching`. -/
def updateWhere (matching : α → Bool) (update : α → α) (rows : List α) : List α :=
  rows.map fun row => if matching row then update row else row

variable {matching : α → Bool} {update : α → α}

theorem mem_updateWhere {rows : List α} {row : α} (hmem : row ∈ updateWhere matching update rows) :
    ∃ old ∈ rows, (matching old = true ∧ row = update old) ∨ (matching old = false ∧ row = old) := by
  obtain ⟨old, hold, rfl⟩ := List.mem_map.mp hmem
  refine ⟨old, hold, ?_⟩
  cases hmatching : matching old with
  | true => exact Or.inl ⟨rfl, if_pos rfl⟩
  | false => exact Or.inr ⟨rfl, if_neg Bool.false_ne_true⟩

theorem mem_updateWhere_of_unmatched {rows : List α} {row : α} (hmem : row ∈ rows)
    (hmatching : matching row = false) : row ∈ updateWhere matching update rows := by
  refine List.mem_map.mpr ⟨row, hmem, ?_⟩
  rw [hmatching]
  exact if_neg Bool.false_ne_true

theorem update_mem_updateWhere {rows : List α} {row : α} (hmem : row ∈ rows)
    (hmatching : matching row = true) : update row ∈ updateWhere matching update rows := by
  refine List.mem_map.mpr ⟨row, hmem, ?_⟩
  rw [hmatching]
  exact if_pos rfl

/-- An update of what is read of the rows. -/
theorem map_updateWhere {read : α → β} {seen : β → Bool} {change : β → β}
    (hseen : ∀ row, seen (read row) = matching row)
    (hchange : ∀ row, matching row = true → read (update row) = change (read row))
    (rows : List α) :
    (updateWhere matching update rows).map read = updateWhere seen change (rows.map read) := by
  unfold updateWhere
  rw [List.map_map, List.map_map]
  refine List.map_congr_left fun row _ => ?_
  change read (if matching row = true then update row else row) =
    if seen (read row) = true then change (read row) else read row
  rw [hseen]
  split
  · exact hchange row ‹_›
  · rfl

/-- What the update keeps of each row it keeps of the table. -/
theorem map_updateWhere_of_kept {read : α → β}
    (hread : ∀ row, matching row = true → read (update row) = read row) (rows : List α) :
    (updateWhere matching update rows).map read = rows.map read := by
  unfold updateWhere
  rw [List.map_map]
  refine List.map_congr_left fun row _ => ?_
  change read (if matching row = true then update row else row) = read row
  split
  · exact hread row ‹_›
  · rfl

theorem filter_updateWhere {keep : α → Bool} (hkeep : ∀ row, keep (update row) = keep row)
    (rows : List α) :
    (updateWhere matching update rows).filter keep =
      updateWhere matching update (rows.filter keep) := by
  unfold updateWhere
  rw [List.filter_map]
  congr 1
  refine List.filter_congr fun row _ => ?_
  change keep (if matching row = true then update row else row) = keep row
  split
  · exact hkeep row
  · rfl

theorem updateWhere_of_unmatched {rows : List α} (hrows : ∀ row ∈ rows, matching row = false) :
    updateWhere matching update rows = rows := by
  unfold updateWhere
  rw [List.map_congr_left (g := id), List.map_id]
  intro row hmem
  rw [hrows row hmem]
  exact if_neg Bool.false_ne_true

/-- An update that leaves no row of a kind that was not there before. -/
theorem filter_updateWhere_sublist {keep : α → Bool}
    (hkeep : ∀ row, matching row = true → keep (update row) = false) (rows : List α) :
    ((updateWhere matching update rows).filter keep).Sublist (rows.filter keep) := by
  induction rows with
  | nil => exact List.Sublist.slnil
  | cons row rest ih =>
      change (((if matching row then update row else row) ::
        updateWhere matching update rest).filter keep).Sublist _
      cases hmatching : matching row with
      | true =>
          rw [if_pos rfl, List.filter_cons, hkeep row hmatching, if_neg Bool.false_ne_true]
          exact ih.trans ((List.sublist_cons_self row rest).filter keep)
      | false =>
          rw [if_neg Bool.false_ne_true, List.filter_cons, List.filter_cons]
          cases keep row with
          | true => exact ih.cons_cons row
          | false => exact ih

end MatchVet.Foundation.TableUpdate
