import Mathlib.Data.List.Dedup
import Mathlib.Data.List.MinMax
import Mathlib.Data.List.Sort

/-!
# Sorting by a key

Sorting by a key does not depend on the order of its input when the key tells
the items apart, and neither does a lookup by such a key.
-/

namespace MatchVet.Foundation.KeySort

variable {α β : Type*}

section Sorting

variable [LinearOrder β] (key : α → β)

/-- `sorted(items, key=...)`. -/
def sortedOn (items : List α) : List α :=
  items.insertionSort fun first second => key first ≤ key second

theorem sortedOn_perm (items : List α) : (sortedOn key items).Perm items :=
  List.perm_insertionSort _ items

theorem sortedOn_pairwise (items : List α) :
    (sortedOn key items).Pairwise fun first second => key first ≤ key second := by
  have : IsTrans α fun first second => key first ≤ key second :=
    ⟨fun _ _ _ => le_trans⟩
  have : Std.Total fun first second : α => key first ≤ key second :=
    ⟨fun _ _ => le_total _ _⟩
  exact List.pairwise_insertionSort _ items

theorem sortedOn_of_pairwise {items : List α}
    (hsorted : items.Pairwise fun first second => key first ≤ key second) :
    sortedOn key items = items :=
  hsorted.insertionSort_eq

/-- The first of the sorted items is a least one. -/
theorem least_of_head?_sortedOn {items : List α} {item : α}
    (hhead : (sortedOn key items).head? = some item) :
    item ∈ items ∧ ∀ other ∈ items, key item ≤ key other := by
  obtain ⟨rest, hsort⟩ := List.head?_eq_some_iff.mp hhead
  have hpairwise := sortedOn_pairwise key items
  rw [hsort] at hpairwise
  have hmem (other : α) : other ∈ item :: rest ↔ other ∈ items := by
    rw [← hsort, (sortedOn_perm key items).mem_iff]
  refine ⟨(hmem item).mp List.mem_cons_self, fun other hother => ?_⟩
  rcases List.mem_cons.mp ((hmem other).mpr hother) with rfl | hrest
  · exact le_rfl
  · exact (List.pairwise_cons.mp hpairwise).1 other hrest

theorem exists_head?_sortedOn {items : List α} (hitems : items ≠ []) :
    ∃ item, (sortedOn key items).head? = some item := by
  refine Option.ne_none_iff_exists'.mp fun hnone => hitems ?_
  have hlength := (sortedOn_perm key items).length_eq
  rw [List.head?_eq_none_iff.mp hnone] at hlength
  exact List.length_eq_zero_iff.mp hlength.symm

/-- Two orders of the same items sort alike when the key tells them apart. -/
theorem sortedOn_eq_of_perm {first second : List α} (hperm : first.Perm second)
    (hkey : ∀ left ∈ first, ∀ right ∈ first, key left = key right → left = right) :
    sortedOn key first = sortedOn key second := by
  refine List.Perm.eq_of_pairwise ?_ (sortedOn_pairwise key first) (sortedOn_pairwise key second)
    (((sortedOn_perm key first).trans hperm).trans (sortedOn_perm key second).symm)
  intro left right hleft hright hle hge
  have hleft := (sortedOn_perm key first).mem_iff.mp hleft
  have hright := hperm.mem_iff.mpr ((sortedOn_perm key second).mem_iff.mp hright)
  exact hkey left hleft right hright (le_antisymm hle hge)

theorem orderedInsert_eq_cons {item : α} {items : List α}
    (hle : ∀ other ∈ items, key item ≤ key other) :
    items.orderedInsert (fun first second => key first ≤ key second) item = item :: items := by
  cases items with
  | nil => rfl
  | cons first rest => exact if_pos (hle first List.mem_cons_self)

theorem filter_orderedInsert (keep : α → Bool) (item : α) {items : List α}
    (hsorted : items.Pairwise fun first second => key first ≤ key second) :
    (items.orderedInsert (fun first second => key first ≤ key second) item).filter keep =
      if keep item then
        (items.filter keep).orderedInsert (fun first second => key first ≤ key second) item
      else items.filter keep := by
  induction items with
  | nil =>
      rw [List.orderedInsert_nil, List.filter_cons]
      rfl
  | cons first rest ih =>
      obtain ⟨hfirst, hrest⟩ := List.pairwise_cons.mp hsorted
      by_cases hle : key item ≤ key first
      · have hall : ∀ other ∈ first :: rest, key item ≤ key other :=
          List.forall_mem_cons.mpr ⟨hle, fun other hmem => hle.trans (hfirst other hmem)⟩
        rw [orderedInsert_eq_cons key hall, List.filter_cons, orderedInsert_eq_cons key
          fun other hmem => hall other (List.mem_of_mem_filter hmem)]
      · have hinsert (others : List α) :
            (first :: others).orderedInsert (fun left right => key left ≤ key right) item =
              first :: others.orderedInsert (fun left right => key left ≤ key right) item :=
          if_neg hle
        rw [hinsert, List.filter_cons, ih hrest, List.filter_cons]
        split
        · rw [hinsert]
          split
          · rfl
          · rfl
        · rfl

/-- Keeping some of the sorted items sorts those. -/
theorem filter_sortedOn (keep : α → Bool) (items : List α) :
    (sortedOn key items).filter keep = sortedOn key (items.filter keep) := by
  induction items with
  | nil => rfl
  | cons first rest ih =>
      change ((sortedOn key rest).orderedInsert _ first).filter keep = _
      rw [filter_orderedInsert key keep first (sortedOn_pairwise key rest), ih, List.filter_cons]
      split
      · rfl
      · rfl

/-- The keys of sorted items are their sorted keys. -/
theorem map_sortedOn (items : List α) :
    (sortedOn key items).map key = (items.map key).insertionSort (· ≤ ·) := by
  refine List.Perm.eq_of_pairwise (fun _ _ _ _ => le_antisymm)
    (List.pairwise_map.mpr (sortedOn_pairwise key items)) (List.pairwise_insertionSort _ _) ?_
  exact ((sortedOn_perm key items).map key).trans (List.perm_insertionSort _ _).symm

/-- Sorting the images sorts the items by the key of their images. -/
theorem sortedOn_map {γ : Type*} (convert : γ → α) (items : List γ) :
    sortedOn key (items.map convert) =
      (sortedOn (fun item => key (convert item)) items).map convert := by
  symm
  exact List.map_insertionSort _ (fun first second => key first ≤ key second) convert items
    fun _ _ _ _ => Iff.rfl

end Sorting

theorem insertionSort_eq_of_perm [LinearOrder β] {first second : List β}
    (hperm : first.Perm second) :
    first.insertionSort (· ≤ ·) = second.insertionSort (· ≤ ·) :=
  sortedOn_eq_of_perm id hperm fun _ _ _ _ heq => heq

/-! ## Greatest and least items -/

section Greatest

variable {γ : Type*} [LinearOrder β] {key : α → β}

/-- The greatest item by a key that a map carries. -/
theorem argmax_map (convert : γ → α) (items : List γ) :
    (items.map convert).argmax key = (items.argmax (key ∘ convert)).map convert := by
  induction items with
  | nil => rfl
  | cons first rest ih =>
      rw [List.map_cons, List.argmax_cons, List.argmax_cons, ih]
      cases rest.argmax (key ∘ convert) with
      | none => rfl
      | some greatest =>
          change (if key (convert first) < key (convert greatest) then _ else _) =
            Option.map convert (if key (convert first) < key (convert greatest) then _ else _)
          split
          · rfl
          · rfl

/-- The last item is the greatest only when it is greater than all before. -/
theorem argmax_concat_cases {items : List α} {last greatest : α}
    (hgreatest : greatest ∈ (items ++ [last]).argmax key) :
    greatest ∈ items ∨ greatest = last ∧ ∀ item ∈ items, key item < key last := by
  rw [List.argmax_concat] at hgreatest
  cases hitems : items.argmax key with
  | none =>
      rw [hitems] at hgreatest
      cases hgreatest
      refine Or.inr ⟨rfl, fun item hitem => ?_⟩
      rw [List.argmax_eq_none.mp hitems] at hitem
      cases hitem
  | some other =>
      rw [hitems] at hgreatest
      dsimp only at hgreatest
      split at hgreatest
      next hless =>
        cases hgreatest
        exact Or.inr ⟨rfl, fun item hitem =>
          (List.le_of_mem_argmax hitem hitems).trans_lt hless⟩
      next hless =>
        cases hgreatest
        exact Or.inl (List.argmax_mem hitems)

/-- The least item by a key that a map carries. -/
theorem argmin_map (convert : γ → α) (items : List γ) :
    (items.map convert).argmin key = (items.argmin (key ∘ convert)).map convert := by
  induction items with
  | nil => rfl
  | cons first rest ih =>
      rw [List.map_cons, List.argmin_cons, List.argmin_cons, ih]
      cases rest.argmin (key ∘ convert) with
      | none => rfl
      | some least =>
          change (if key (convert least) < key (convert first) then _ else _) =
            Option.map convert (if key (convert least) < key (convert first) then _ else _)
          split
          · rfl
          · rfl

/-- Lists whose items have the same ranks have the same least rank, whatever keys
that refine the rank they are searched by. -/
theorem map_argmin_eq {δ ρ : Type*} [LinearOrder δ] [LinearOrder ρ] {rank : α → ρ} {other : γ → δ}
    {otherRank : γ → ρ} {items : List α} {others : List γ}
    (hkey : ∀ left right, key left ≤ key right → rank left ≤ rank right)
    (hother : ∀ left right, other left ≤ other right → otherRank left ≤ otherRank right)
    (hsame : ∀ value, value ∈ items.map rank ↔ value ∈ others.map otherRank) :
    (items.argmin key).map rank = (others.argmin other).map otherRank := by
  cases hitems : items.argmin key with
  | none =>
      cases hothers : others.argmin other with
      | none => rfl
      | some least =>
          have hmem := (hsame _).mpr (List.mem_map_of_mem (List.argmin_mem hothers))
          rw [List.argmin_eq_none.mp hitems] at hmem
          cases hmem
  | some first =>
      have hfirst := (hsame _).mp (List.mem_map_of_mem (List.argmin_mem hitems))
      cases hothers : others.argmin other with
      | none =>
          rw [List.argmin_eq_none.mp hothers] at hfirst
          cases hfirst
      | some least =>
          obtain ⟨item, hitem, hrank⟩ := List.mem_map.mp hfirst
          obtain ⟨twin, htwin, hleast⟩ := List.mem_map.mp
            ((hsame _).mpr (List.mem_map_of_mem (List.argmin_mem hothers)))
          have hbelow : otherRank least ≤ rank first := by
            rw [← hrank]
            exact hother _ _ (List.le_of_mem_argmin hitem hothers)
          have habove : rank first ≤ otherRank least := by
            rw [← hleast]
            exact hkey _ _ (List.le_of_mem_argmin htwin hitems)
          exact congrArg some (le_antisymm habove hbelow)

end Greatest

/-! ## Distinct items -/

theorem nodup_eraseDups [BEq α] [LawfulBEq α] (items : List α) : items.eraseDups.Nodup := by
  induction hlength : items.length using Nat.strong_induction_on generalizing items with
  | _ length ih =>
      cases items with
      | nil => exact List.nodup_nil
      | cons first rest =>
          rw [List.eraseDups_cons, List.nodup_cons, List.mem_eraseDups, List.mem_filter]
          refine ⟨fun hmem => by simp at hmem, ih _ ?_ _ rfl⟩
          rw [← hlength]
          exact Nat.lt_succ_of_le (List.length_filter_le _ rest)

/-- Lists with the same items have the same distinct items in key order. -/
theorem sortedOn_eraseDups [BEq α] [LawfulBEq α] [LinearOrder β] {key : α → β}
    (hkey : Function.Injective key) {first second : List α}
    (hsame : ∀ item, item ∈ first ↔ item ∈ second) :
    sortedOn key first.eraseDups = sortedOn key second.eraseDups := by
  refine sortedOn_eq_of_perm key ?_ fun _ _ _ _ heq => hkey heq
  refine (List.perm_ext_iff_of_nodup (nodup_eraseDups first) (nodup_eraseDups second)).mpr
    fun item => ?_
  rw [List.mem_eraseDups, List.mem_eraseDups]
  exact hsame item

/-! ## Lookups -/

section Lookup

variable [DecidableEq β] {key : α → β}

theorem find?_key_iff {items : List α} (hnodup : (items.map key).Nodup) {name : β} {item : α} :
    items.find? (fun other => key other = name) = some item ↔ item ∈ items ∧ key item = name := by
  constructor
  · intro hfind
    exact ⟨List.mem_of_find?_eq_some hfind, by simpa using List.find?_some hfind⟩
  · rintro ⟨hmem, rfl⟩
    cases hfind : items.find? fun other => key other = key item with
    | none =>
        have hnone := List.find?_eq_none.mp hfind item hmem
        simp at hnone
    | some found =>
        have hfound := List.mem_of_find?_eq_some hfind
        have hkey : key found = key item := by simpa using List.find?_some hfind
        rw [List.inj_on_of_nodup_map hnodup hfound hmem hkey]

/-- A lookup by a distinct key does not depend on the order of the items. -/
theorem find?_key_eq_of_perm {first second : List α} (hperm : first.Perm second)
    (hnodup : (first.map key).Nodup) (name : β) :
    first.find? (fun other => key other = name) = second.find? fun other => key other = name := by
  refine Option.ext fun item => ?_
  have hother : (second.map key).Nodup := (hperm.map key).nodup_iff.mp hnodup
  rw [find?_key_iff hnodup, find?_key_iff hother, hperm.mem_iff]

end Lookup

/-! ## Folds that collect -/

/-- What a fold collects in order, when each step appends something of its own. -/
theorem read_foldl {σ : Type*} {step : σ → α → σ} {read : σ → List β} {gives : α → List β}
    (hstep : ∀ state item, read (step state item) = read state ++ gives item)
    (items : List α) (state : σ) :
    read (items.foldl step state) = read state ++ items.flatMap gives := by
  induction items generalizing state with
  | nil => simp
  | cons item rest ih =>
      rw [List.foldl_cons, ih, hstep, List.flatMap_cons, List.append_assoc]

/-- Such a fold collects the same from every order of its items. -/
theorem read_foldl_perm {σ : Type*} {step : σ → α → σ} {read : σ → List β} {gives : α → List β}
    (hstep : ∀ state item, read (step state item) = read state ++ gives item)
    {first second : List α} (hperm : first.Perm second) (state : σ) :
    (read (first.foldl step state)).Perm (read (second.foldl step state)) := by
  rw [read_foldl hstep, read_foldl hstep]
  exact (hperm.flatMap_right gives).append_left _

end MatchVet.Foundation.KeySort
