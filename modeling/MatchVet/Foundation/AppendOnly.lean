import Mathlib.Data.List.Induction
import Mathlib.Order.Basic
import Mathlib.Tactic.Common

/-!
# Rows written one after another

A table that is only appended to relates each of its rows to the rows written before
it.  Such a relation holds of a longer table when it holds of the new row.
-/

namespace MatchVet.Foundation.AppendOnly

variable {α : Type} {holds : List α → α → Prop} {rows : List α}

/-- Each row stands in a relation to the rows written before it. -/
def EachRow (holds : List α → α → Prop) (rows : List α) : Prop :=
  ∀ before row after, rows = before ++ row :: after → holds before row

theorem eachRow_nil : EachRow holds [] := fun before row after hsplit =>
  absurd hsplit.symm (List.append_ne_nil_of_right_ne_nil before (List.cons_ne_nil row after))

theorem EachRow.concat (heach : EachRow holds rows) {last : α} (hlast : holds rows last) :
    EachRow holds (rows ++ [last]) := by
  intro before row after hsplit
  rcases List.eq_nil_or_concat after with rfl | ⟨rest, final, rfl⟩
  · obtain ⟨rfl, hrow⟩ := List.append_inj' hsplit rfl
    rwa [← List.head_eq_of_cons_eq hrow]
  · have hshape : rows ++ [last] = (before ++ row :: rest) ++ [final] := by
      rw [hsplit, List.concat_eq_append, List.append_assoc, List.cons_append]
    exact heach before row rest (List.append_inj' hshape rfl).1

theorem EachRow.mono {other : List α → α → Prop} (heach : EachRow holds rows)
    (hweaker : ∀ before row, row ∈ rows → holds before row → other before row) :
    EachRow other rows := fun before row after hsplit =>
  hweaker before row (by rw [hsplit]; exact List.mem_append_right before List.mem_cons_self)
    (heach before row after hsplit)

/-- Where each row of a kind has a cause or follows an alike row of the kind, it is led
by an alike row with a cause. -/
theorem EachRow.exists_cause {kind cause : α → Prop} {alike : α → α → Prop}
    (hrefl : ∀ row, alike row row)
    (htrans : ∀ first second third, alike first second → alike second third → alike first third)
    (heach : EachRow (fun before row => kind row →
      cause row ∨ ∃ first ∈ before, kind first ∧ alike row first) rows)
    {row : α} (hrow : row ∈ rows) (hkind : kind row) :
    ∃ first ∈ rows, kind first ∧ alike row first ∧ cause first := by
  obtain ⟨before, after, hsplit⟩ := List.append_of_mem hrow
  induction hlength : before.length using Nat.strongRecOn generalizing before row after with
  | ind length ih =>
      rcases heach before row after hsplit hkind with hcause | ⟨first, hfirst, hfirstKind, halike⟩
      · exact ⟨row, hrow, hkind, hrefl row, hcause⟩
      · obtain ⟨front, back, rfl⟩ := List.append_of_mem hfirst
        have hearlier : rows = front ++ first :: (back ++ row :: after) := by
          rw [hsplit, List.append_assoc, List.cons_append]
        have hmem : first ∈ rows := by
          rw [hearlier]
          exact List.mem_append_right front List.mem_cons_self
        have hshorter : front.length < length := by
          rw [← hlength, List.length_append, List.length_cons]
          omega
        obtain ⟨origin, horigin, horiginKind, hleads, hcause⟩ :=
          ih front.length hshorter hmem hfirstKind front (back ++ row :: after) hearlier rfl
        exact ⟨origin, horigin, horiginKind, htrans _ _ _ halike hleads, hcause⟩

end MatchVet.Foundation.AppendOnly
