import Mathlib.Data.List.Sort
import Mathlib.Data.List.Nodup

/-!
# Sorting by a three-way comparator

A comparator returns a negative integer when its first argument goes before
its second.  A sorter is any stable permutation that is correct on the lists
its comparator orders weakly; nothing is promised on other lists.  The
question answered here is when such a sort is a ranking: independent of the
order of its input, with every entry placed before all later ones.
-/

namespace MatchVet.Foundation.ComparatorSort

open List

variable {α : Type*} {compare : α → α → Int} {entries : List α}

/-- `left` is placed strictly before `right`. -/
def Before (compare : α → α → Int) (left right : α) : Prop :=
  compare left right < 0

instance (compare : α → α → Int) : DecidableRel (Before compare) :=
  fun left right => inferInstanceAs (Decidable (compare left right < 0))

/-- Neither entry is placed before the other. -/
def Tied (compare : α → α → Int) (left right : α) : Prop :=
  ¬ Before compare left right ∧ ¬ Before compare right left

/-- The comparator is a strict weak order on the listed entries. -/
structure WeakOrderOn (compare : α → α → Int) (entries : List α) : Prop where
  irrefl : ∀ a ∈ entries, ¬ Before compare a a
  trans : ∀ a ∈ entries, ∀ b ∈ entries, ∀ c ∈ entries,
    Before compare a b → Before compare b c → Before compare a c
  tied_trans : ∀ a ∈ entries, ∀ b ∈ entries, ∀ c ∈ entries,
    Tied compare a b → Tied compare b c → Tied compare a c

/-- The comparator never places two listed entries both ways. -/
structure StrictOn (compare : α → α → Int) (entries : List α) : Prop where
  irrefl : ∀ a ∈ entries, ¬ Before compare a a
  asymm : ∀ a ∈ entries, ∀ b ∈ entries, Before compare a b → ¬ Before compare b a

/-- Any two different listed entries are placed one way. -/
def DecidedOn (compare : α → α → Int) (entries : List α) : Prop :=
  ∀ a ∈ entries, ∀ b ∈ entries, a ≠ b → Before compare a b ∨ Before compare b a

/-- No three listed entries break transitivity. -/
def TransitiveOn (compare : α → α → Int) (entries : List α) : Prop :=
  ∀ a ∈ entries, ∀ b ∈ entries, ∀ c ∈ entries,
    Before compare a b → Before compare b c → Before compare a c

instance (compare : α → α → Int) (entries : List α) :
    Decidable (TransitiveOn compare entries) :=
  inferInstanceAs (Decidable (∀ a ∈ entries, ∀ b ∈ entries, ∀ c ∈ entries,
    Before compare a b → Before compare b c → Before compare a c))

/-- A stable comparison sort, correct whenever its comparator is a strict weak
order on the list. -/
structure Sorter (α : Type*) where
  sort : (α → α → Int) → List α → List α
  perm : ∀ compare entries, sort compare entries ~ entries
  ordered : ∀ compare entries, WeakOrderOn compare entries →
    (sort compare entries).Pairwise fun a b => ¬ Before compare b a
  stable : ∀ compare entries, WeakOrderOn compare entries →
    ∀ a b, Tied compare a b → [a, b] <+ entries → [a, b] <+ sort compare entries

/-- The output does not depend on the order of the input and every entry is
before all later ones. -/
def Ranks (sorter : Sorter α) (compare : α → α → Int) (entries : List α) : Prop :=
  (∀ reordered, reordered ~ entries →
    sorter.sort compare reordered = sorter.sort compare entries) ∧
  (sorter.sort compare entries).Pairwise (Before compare)

/-! ## A transitive comparator ranks -/

theorem TransitiveOn.perm {reordered : List α}
    (htrans : TransitiveOn compare entries) (hperm : reordered ~ entries) :
    TransitiveOn compare reordered :=
  fun a ha b hb c hc =>
    htrans a (hperm.mem_iff.mp ha) b (hperm.mem_iff.mp hb) c (hperm.mem_iff.mp hc)

theorem StrictOn.perm {reordered : List α}
    (hstrict : StrictOn compare entries) (hperm : reordered ~ entries) :
    StrictOn compare reordered where
  irrefl a ha := hstrict.irrefl a (hperm.mem_iff.mp ha)
  asymm a ha b hb := hstrict.asymm a (hperm.mem_iff.mp ha) b (hperm.mem_iff.mp hb)

theorem DecidedOn.perm {reordered : List α}
    (hdecided : DecidedOn compare entries) (hperm : reordered ~ entries) :
    DecidedOn compare reordered :=
  fun a ha b hb => hdecided a (hperm.mem_iff.mp ha) b (hperm.mem_iff.mp hb)

theorem DecidedOn.eq_of_tied (hdecided : DecidedOn compare entries) {a b : α}
    (ha : a ∈ entries) (hb : b ∈ entries) (htied : Tied compare a b) : a = b := by
  by_contra hne
  rcases hdecided a ha b hb hne with hab | hba
  · exact htied.1 hab
  · exact htied.2 hba

/-- Ties of a deciding comparator are equalities, so transitivity is all that a
strict weak order still needs. -/
theorem DecidedOn.weakOrderOn (hdecided : DecidedOn compare entries)
    (hstrict : StrictOn compare entries) (htrans : TransitiveOn compare entries) :
    WeakOrderOn compare entries where
  irrefl := hstrict.irrefl
  trans := htrans
  tied_trans a ha b hb c hc hab hbc := by
    have hab' := hdecided.eq_of_tied ha hb hab
    have hbc' := hdecided.eq_of_tied hb hc hbc
    subst hab' hbc'
    exact hab

theorem Sorter.mem_sort (sorter : Sorter α) (a : α) :
    a ∈ sorter.sort compare entries ↔ a ∈ entries :=
  (sorter.perm compare entries).mem_iff

/-- Under a deciding transitive comparator every entry of the output is before
all later ones. -/
theorem Sorter.pairwise_before (sorter : Sorter α) (hnodup : entries.Nodup)
    (hstrict : StrictOn compare entries) (hdecided : DecidedOn compare entries)
    (htrans : TransitiveOn compare entries) :
    (sorter.sort compare entries).Pairwise (Before compare) := by
  have hordered := sorter.ordered compare entries (hdecided.weakOrderOn hstrict htrans)
  have hdistinct : (sorter.sort compare entries).Pairwise (· ≠ ·) :=
    (sorter.perm compare entries).nodup_iff.mpr hnodup
  refine (hordered.and hdistinct).imp_of_mem ?_
  intro a b ha hb hab
  rw [sorter.mem_sort] at ha hb
  exact (hdecided a ha b hb hab.2).resolve_right hab.1

/-- Two rankings of the same entries are the same list. -/
theorem eq_of_perm_of_pairwise_before {first second : List α} (hperm : first ~ second)
    (hstrict : StrictOn compare first) (hfirst : first.Pairwise (Before compare))
    (hsecond : second.Pairwise (Before compare)) : first = second :=
  hperm.eq_of_pairwise
    (fun a b ha hb hab hba =>
      absurd hba (hstrict.asymm a ha b (hperm.mem_iff.mpr hb) hab))
    hfirst hsecond

theorem TransitiveOn.ranks (sorter : Sorter α) (hnodup : entries.Nodup)
    (hstrict : StrictOn compare entries) (hdecided : DecidedOn compare entries)
    (htrans : TransitiveOn compare entries) : Ranks sorter compare entries := by
  refine ⟨fun reordered hperm => ?_, sorter.pairwise_before hnodup hstrict hdecided htrans⟩
  have hsame : sorter.sort compare reordered ~ sorter.sort compare entries :=
    (sorter.perm compare reordered).trans (hperm.trans (sorter.perm compare entries).symm)
  refine eq_of_perm_of_pairwise_before hsame
    (hstrict.perm ((sorter.perm compare reordered).trans hperm)) ?_
    (sorter.pairwise_before hnodup hstrict hdecided htrans)
  exact sorter.pairwise_before (hperm.nodup_iff.mpr hnodup) (hstrict.perm hperm)
    (hdecided.perm hperm) (htrans.perm hperm)

/-! ## A ranking comes from a deciding transitive comparator -/

/-- In a ranking, an entry placed before another stands at an earlier position. -/
theorem position_lt_of_before {ranked : List α} (hstrict : StrictOn compare ranked)
    (hranked : ranked.Pairwise (Before compare)) {i j : Nat} (hi : i < ranked.length)
    (hj : j < ranked.length) (hbefore : Before compare ranked[i] ranked[j]) : i < j := by
  rcases Nat.lt_trichotomy i j with hlt | heq | hgt
  · exact hlt
  · subst heq
    exact absurd hbefore (hstrict.irrefl _ (getElem_mem hi))
  · have hback := pairwise_iff_getElem.mp hranked j i hj hi hgt
    exact absurd hback
      (hstrict.asymm _ (getElem_mem hi) _ (getElem_mem hj) hbefore)

theorem transitiveOn_of_pairwise_before {ranked : List α}
    (hstrict : StrictOn compare ranked) (hranked : ranked.Pairwise (Before compare)) :
    TransitiveOn compare ranked := by
  intro a ha b hb c hc hab hbc
  obtain ⟨i, hi, rfl⟩ := mem_iff_getElem.mp ha
  obtain ⟨j, hj, rfl⟩ := mem_iff_getElem.mp hb
  obtain ⟨k, hk, rfl⟩ := mem_iff_getElem.mp hc
  have hij := position_lt_of_before hstrict hranked hi hj hab
  have hjk := position_lt_of_before hstrict hranked hj hk hbc
  exact pairwise_iff_getElem.mp hranked i k hi hk (hij.trans hjk)

theorem decidedOn_of_pairwise_before {ranked : List α}
    (hranked : ranked.Pairwise (Before compare)) : DecidedOn compare ranked := by
  intro a ha b hb hne
  obtain ⟨i, hi, rfl⟩ := mem_iff_getElem.mp ha
  obtain ⟨j, hj, rfl⟩ := mem_iff_getElem.mp hb
  rcases Nat.lt_trichotomy i j with hlt | heq | hgt
  · exact Or.inl (pairwise_iff_getElem.mp hranked i j hi hj hlt)
  · subst heq
    exact absurd rfl hne
  · exact Or.inr (pairwise_iff_getElem.mp hranked j i hj hi hgt)

/-- An output in which every entry is before all later ones shows that the
comparator decides every pair of the input and is transitive on it. -/
theorem Sorter.conditions_of_pairwise_before (sorter : Sorter α)
    (hstrict : StrictOn compare entries)
    (hranked : (sorter.sort compare entries).Pairwise (Before compare)) :
    DecidedOn compare entries ∧ TransitiveOn compare entries := by
  have hperm := sorter.perm compare entries
  exact ⟨(decidedOn_of_pairwise_before hranked).perm hperm.symm,
    (transitiveOn_of_pairwise_before (hstrict.perm hperm) hranked).perm hperm.symm⟩

/-! ## Insertion sort is a sorter -/

/-- The order an insertion sort works with: `left` may stay in front of `right`. -/
def Keeps (compare : α → α → Int) (left right : α) : Prop :=
  ¬ Before compare right left

instance (compare : α → α → Int) : DecidableRel (Keeps compare) :=
  fun left right => inferInstanceAs (Decidable (¬ Before compare right left))

/-- The comparator read on the members of one list. -/
def onMembers (compare : α → α → Int) (entries : List α) :
    {a // a ∈ entries} → {a // a ∈ entries} → Int :=
  fun left right => compare left.1 right.1

theorem WeakOrderOn.asymm (hweak : WeakOrderOn compare entries) {a b : α}
    (ha : a ∈ entries) (hb : b ∈ entries) (hab : Before compare a b) :
    ¬ Before compare b a :=
  fun hba => hweak.irrefl a ha (hweak.trans a ha b hb a ha hab hba)

theorem WeakOrderOn.keeps_total (hweak : WeakOrderOn compare entries) :
    Std.Total (Keeps (onMembers compare entries)) where
  total left right := by
    by_cases hback : Before compare right.1 left.1
    · exact Or.inr (hweak.asymm right.2 left.2 hback)
    · exact Or.inl hback

theorem WeakOrderOn.keeps_trans (hweak : WeakOrderOn compare entries) :
    IsTrans _ (Keeps (onMembers compare entries)) where
  trans a b c hab hbc hca := by
    change ¬ Before compare b.1 a.1 at hab
    change ¬ Before compare c.1 b.1 at hbc
    change Before compare c.1 a.1 at hca
    by_cases hab' : Before compare a.1 b.1
    · exact hbc (hweak.trans c.1 c.2 a.1 a.2 b.1 b.2 hca hab')
    · by_cases hbc' : Before compare b.1 c.1
      · exact hab (hweak.trans b.1 b.2 c.1 c.2 a.1 a.2 hbc' hca)
      · exact (hweak.tied_trans a.1 a.2 b.1 b.2 c.1 c.2 ⟨hab', hab⟩ ⟨hbc', hbc⟩).2 hca

theorem map_insertionSort_attach (compare : α → α → Int) (entries : List α) :
    (entries.attach.insertionSort (Keeps (onMembers compare entries))).map Subtype.val =
      entries.insertionSort (Keeps compare) := by
  rw [map_insertionSort (Keeps (onMembers compare entries)) (Keeps compare) Subtype.val
    entries.attach (fun _ _ _ _ => Iff.rfl), attach_map_subtype_val]

/-- Insertion sort by a comparator. -/
def insertionSorter (α : Type*) : Sorter α where
  sort compare entries := entries.insertionSort (Keeps compare)
  perm compare entries := perm_insertionSort (Keeps compare) entries
  ordered compare entries hweak := by
    have := hweak.keeps_total
    have := hweak.keeps_trans
    rw [← map_insertionSort_attach, pairwise_map]
    exact pairwise_insertionSort (Keeps (onMembers compare entries)) entries.attach
  stable compare entries hweak a b htied hsub := by
    have := hweak.keeps_total
    have := hweak.keeps_trans
    rw [← attach_map_subtype_val entries, sublist_map_iff] at hsub
    obtain ⟨pair, hpair, heq⟩ := hsub
    obtain ⟨first, rest, rfl, rfl, hrest⟩ := map_eq_cons_iff.mp heq.symm
    obtain ⟨second, tail, rfl, rfl, htail⟩ := map_eq_cons_iff.mp hrest
    rw [map_eq_nil_iff] at htail
    subst htail
    have hkeeps : Keeps (onMembers compare entries) first second := htied.2
    rw [← map_insertionSort_attach]
    exact (pair_sublist_insertionSort hkeeps hpair).map Subtype.val

end MatchVet.Foundation.ComparatorSort
