import Mathlib.Data.List.Basic

/-!
# Delimited texts

Parts joined by a delimiter can be read back when the delimiter occurs in at most
one of them.
-/

namespace MatchVet.Foundation.Delimited

/-- The delimiter does not occur in the text. -/
def Free (delimiter : Char) (text : String) : Prop := delimiter ∉ text.toList

instance (delimiter : Char) (text : String) : Decidable (Free delimiter text) :=
  inferInstanceAs (Decidable (_ ∉ _))

/-- The two sides of a delimiter. -/
def delimited (delimiter : Char) (left right : String) : String :=
  left ++ delimiter.toString ++ right

theorem delimited_toList (delimiter : Char) (left right : String) :
    (delimited delimiter left right).toList = left.toList ++ delimiter :: right.toList := by
  simp [delimited]

theorem append_delimiter_inj {delimiter : Char} : ∀ {left other right rest : List Char},
    delimiter ∉ left → delimiter ∉ other →
      left ++ delimiter :: right = other ++ delimiter :: rest → left = other ∧ right = rest
  | [], [], _, _, _, _, heq => ⟨rfl, (List.cons.inj heq).2⟩
  | [], char :: tail, _, _, _, hother, heq =>
      absurd ((List.cons.inj heq).1 ▸ List.mem_cons_self) hother
  | char :: tail, [], _, _, hleft, _, heq =>
      absurd ((List.cons.inj heq).1 ▸ List.mem_cons_self) hleft
  | char :: tail, found :: others, _, _, hleft, hother, heq => by
      obtain ⟨rfl, htail⟩ := List.cons.inj heq
      obtain ⟨rfl, hrest⟩ := append_delimiter_inj (List.not_mem_of_not_mem_cons hleft)
        (List.not_mem_of_not_mem_cons hother) htail
      exact ⟨rfl, hrest⟩

/-- The first part ends at the first delimiter. -/
theorem delimited_inj_left {delimiter : Char} {left other right rest : String}
    (hleft : Free delimiter left) (hother : Free delimiter other)
    (heq : delimited delimiter left right = delimited delimiter other rest) :
    left = other ∧ right = rest := by
  have hchars := congrArg String.toList heq
  rw [delimited_toList, delimited_toList] at hchars
  obtain ⟨hfirst, hlast⟩ := append_delimiter_inj hleft hother hchars
  exact ⟨String.toList_injective hfirst, String.toList_injective hlast⟩

/-- The last part starts after the last delimiter. -/
theorem delimited_inj_right {delimiter : Char} {left other right rest : String}
    (hright : Free delimiter right) (hrest : Free delimiter rest)
    (heq : delimited delimiter left right = delimited delimiter other rest) :
    left = other ∧ right = rest := by
  have hchars := congrArg (fun text => text.toList.reverse) heq
  simp only [delimited_toList, List.reverse_append, List.reverse_cons, List.append_assoc,
    List.singleton_append] at hchars
  have hright := mt List.mem_reverse.mp hright
  have hrest := mt List.mem_reverse.mp hrest
  obtain ⟨hlast, hfirst⟩ := append_delimiter_inj hright hrest hchars
  exact ⟨String.toList_injective (List.reverse_injective hfirst),
    String.toList_injective (List.reverse_injective hlast)⟩

end MatchVet.Foundation.Delimited
