import Mathlib.Data.List.Sort
import Mathlib.Data.List.Nodup
import Mathlib.Data.String.Basic

/-!
# Insertion-ordered dictionaries with string keys

A dictionary is the list of its entries in insertion order together with the
proof that no key occurs twice.  A dictionary comprehension is a left fold of
insertions: a repeated key keeps its first position and its last value.
-/

namespace MatchVet.Foundation.Dictionary

open List

/-- A dictionary: its entries in insertion order, one for each key. -/
structure PyDict (α : Type*) where
  entries : List (String × α)
  nodup : (entries.map Prod.fst).Nodup
  deriving DecidableEq

/-- Under pairwise different keys, looking a key up finds its value. -/
theorem lookup_of_mem {α : Type*} {entries : List (String × α)} {key : String} {value : α}
    (hnodup : (entries.map Prod.fst).Nodup) (hmem : (key, value) ∈ entries) :
    entries.lookup key = some value := by
  induction entries with
  | nil => exact absurd hmem not_mem_nil
  | cons entry rest ih =>
      rw [map_cons, nodup_cons] at hnodup
      rcases mem_cons.mp hmem with rfl | hrest
      · exact lookup_cons_self
      · have hne : (key == entry.1) = false := by
          rw [beq_eq_false_iff_ne]
          intro hkey
          exact hnodup.1 (mem_map.mpr ⟨(key, value), hrest, hkey⟩)
        rw [lookup_cons, hne]
        exact ih hnodup.2 hrest

namespace PyDict

variable {α β : Type*}

@[ext]
theorem ext {first second : PyDict α} (heq : first.entries = second.entries) :
    first = second := by
  cases first
  cases second
  cases heq
  rfl

def empty : PyDict α := ⟨[], nodup_nil⟩

instance : Inhabited (PyDict α) := ⟨empty⟩

@[simp]
theorem entries_empty : (empty : PyDict α).entries = [] := rfl

def get? (dict : PyDict α) (key : String) : Option α := dict.entries.lookup key

def keys (dict : PyDict α) : List String := dict.entries.map Prod.fst

def values (dict : PyDict α) : List α := dict.entries.map Prod.snd

/-- The entries after `dict[key] = value`. -/
def insertEntry (key : String) (value : α) : List (String × α) → List (String × α)
  | [] => [(key, value)]
  | entry :: rest =>
      if entry.1 = key then (key, value) :: rest
      else entry :: insertEntry key value rest

theorem mem_keys_insertEntry (key : String) (value : α) (entries : List (String × α))
    (other : String) :
    other ∈ (insertEntry key value entries).map Prod.fst ↔
      other = key ∨ other ∈ entries.map Prod.fst := by
  induction entries with
  | nil => simp [insertEntry]
  | cons entry rest ih =>
      by_cases hkey : entry.1 = key
      · simp only [insertEntry, hkey, if_true, map_cons, mem_cons]
        tauto
      · simp only [insertEntry, hkey, if_false, map_cons, mem_cons, ih]
        tauto

theorem nodup_insertEntry (key : String) (value : α) {entries : List (String × α)}
    (hnodup : (entries.map Prod.fst).Nodup) :
    ((insertEntry key value entries).map Prod.fst).Nodup := by
  induction entries with
  | nil => simp [insertEntry]
  | cons entry rest ih =>
      rw [map_cons, nodup_cons] at hnodup
      by_cases hkey : entry.1 = key
      · subst hkey
        simpa [insertEntry] using hnodup
      · simp only [insertEntry, hkey, if_false, map_cons, nodup_cons]
        refine ⟨fun hmem => ?_, ih hnodup.2⟩
        rcases (mem_keys_insertEntry key value rest entry.1).mp hmem with heq | hold
        · exact hkey heq
        · exact hnodup.1 hold

theorem insertEntry_of_not_mem {key : String} (value : α) {entries : List (String × α)}
    (hfresh : key ∉ entries.map Prod.fst) :
    insertEntry key value entries = entries ++ [(key, value)] := by
  induction entries with
  | nil => rfl
  | cons entry rest ih =>
      rw [map_cons, mem_cons, not_or] at hfresh
      simp [insertEntry, Ne.symm hfresh.1, ih hfresh.2]

def insert (dict : PyDict α) (key : String) (value : α) : PyDict α :=
  ⟨insertEntry key value dict.entries, nodup_insertEntry key value dict.nodup⟩

/-- A dictionary comprehension over key and value pairs. -/
def ofPairs (pairs : List (String × α)) : PyDict α :=
  pairs.foldl (fun dict pair => dict.insert pair.1 pair.2) empty

theorem foldl_insert_entries (pairs : List (String × α)) (dict : PyDict α)
    (hnodup : ((dict.entries ++ pairs).map Prod.fst).Nodup) :
    (pairs.foldl (fun dict pair => dict.insert pair.1 pair.2) dict).entries =
      dict.entries ++ pairs := by
  induction pairs generalizing dict with
  | nil => simp
  | cons pair rest ih =>
      have hfresh : pair.1 ∉ dict.entries.map Prod.fst := by
        rw [map_append, map_cons, nodup_append] at hnodup
        exact fun hmem => hnodup.2.2 _ hmem _ mem_cons_self rfl
      have hentries : (dict.insert pair.1 pair.2).entries = dict.entries ++ [pair] :=
        insertEntry_of_not_mem pair.2 hfresh
      rw [foldl_cons, ih, hentries, append_assoc, singleton_append]
      rw [hentries, append_assoc, singleton_append]
      exact hnodup

/-- A comprehension over pairs with different keys keeps them all in order. -/
theorem entries_ofPairs {pairs : List (String × α)} (hnodup : (pairs.map Prod.fst).Nodup) :
    (ofPairs pairs).entries = pairs :=
  foldl_insert_entries pairs empty hnodup

@[simp]
theorem ofPairs_entries (dict : PyDict α) : ofPairs dict.entries = dict :=
  ext (entries_ofPairs dict.nodup)

theorem mem_of_mem_insertEntry {key : String} {value : α} {entries : List (String × α)}
    {entry : String × α} (hmem : entry ∈ insertEntry key value entries) :
    entry = (key, value) ∨ entry ∈ entries := by
  induction entries with
  | nil => exact Or.inl (mem_singleton.mp hmem)
  | cons head rest ih =>
      by_cases hkey : head.1 = key
      · rw [insertEntry, if_pos hkey] at hmem
        exact (mem_cons.mp hmem).imp_right (mem_cons_of_mem head)
      · rw [insertEntry, if_neg hkey] at hmem
        rcases mem_cons.mp hmem with rfl | hmem
        · exact Or.inr mem_cons_self
        · exact (ih hmem).imp_right (mem_cons_of_mem head)

theorem mem_foldl_insert {pairs : List (String × α)} {dict : PyDict α} {entry : String × α}
    (hmem : entry ∈ (pairs.foldl (fun dict pair => dict.insert pair.1 pair.2) dict).entries) :
    entry ∈ dict.entries ∨ entry ∈ pairs := by
  induction pairs generalizing dict with
  | nil => exact Or.inl hmem
  | cons pair rest ih =>
      rw [foldl_cons] at hmem
      rcases ih hmem with hinsert | hrest
      · rcases mem_of_mem_insertEntry hinsert with rfl | hold
        · exact Or.inr mem_cons_self
        · exact Or.inl hold
      · exact Or.inr (mem_cons_of_mem pair hrest)

/-- A comprehension makes no entry of its own. -/
theorem mem_of_mem_ofPairs {pairs : List (String × α)} {entry : String × α}
    (hmem : entry ∈ (ofPairs pairs).entries) : entry ∈ pairs :=
  (mem_foldl_insert hmem).resolve_left (not_mem_nil)

/-- A comprehension has the keys of its pairs. -/
theorem mem_keys_ofPairs {pairs : List (String × α)} {key : String} :
    key ∈ (ofPairs pairs).keys ↔ key ∈ pairs.map Prod.fst := by
  have hfold (rest : List (String × α)) (dict : PyDict α) :
      key ∈ (rest.foldl (fun dict pair => dict.insert pair.1 pair.2) dict).keys ↔
        key ∈ dict.keys ∨ key ∈ rest.map Prod.fst := by
    induction rest generalizing dict with
    | nil => simp
    | cons pair rest ih =>
        rw [foldl_cons, ih, map_cons, mem_cons, keys, insert, mem_keys_insertEntry, keys]
        tauto
  rw [ofPairs, hfold, keys, entries_empty, map_nil]
  simp

theorem value_eq_of_mem (dict : PyDict α) {key : String} {first second : α}
    (hfirst : (key, first) ∈ dict.entries) (hsecond : (key, second) ∈ dict.entries) :
    first = second :=
  congrArg Prod.snd (inj_on_of_nodup_map dict.nodup hfirst hsecond rfl)

def mapValues (f : α → β) (dict : PyDict α) : PyDict β where
  entries := dict.entries.map fun entry => (entry.1, f entry.2)
  nodup := by
    rw [map_map]
    exact dict.nodup

theorem entries_mapValues (f : α → β) (dict : PyDict α) :
    (dict.mapValues f).entries = dict.entries.map fun entry => (entry.1, f entry.2) := rfl

theorem mapValues_eq_self {f : α → α} {dict : PyDict α}
    (hfixed : ∀ entry ∈ dict.entries, f entry.2 = entry.2) : dict.mapValues f = dict := by
  apply ext
  calc
    dict.entries.map (fun entry => (entry.1, f entry.2)) = dict.entries.map id :=
      map_congr_left fun entry hmem => Prod.ext rfl (hfixed entry hmem)
    _ = dict.entries := map_id _

/-! ## Dictionaries in key order -/

def KeyLE (first second : String × α) : Prop := first.1 ≤ second.1

instance : DecidableRel (KeyLE (α := α)) :=
  fun first second => inferInstanceAs (Decidable (first.1 ≤ second.1))

instance : Std.Total (KeyLE (α := α)) where
  total first second := le_total first.1 second.1

instance : IsTrans (String × α) KeyLE where
  trans _ _ _ hab hbc := le_trans hab hbc

/-- `dict(sorted(items))`. -/
def sorted (dict : PyDict α) : PyDict α where
  entries := dict.entries.insertionSort KeyLE
  nodup := ((perm_insertionSort KeyLE dict.entries).map Prod.fst).nodup_iff.mpr dict.nodup

/-- The entries stand in key order. -/
def KeySorted (dict : PyDict α) : Prop := dict.entries.Pairwise KeyLE

theorem sorted_keySorted (dict : PyDict α) : dict.sorted.KeySorted :=
  pairwise_insertionSort KeyLE dict.entries

theorem KeySorted.sorted_eq {dict : PyDict α} (hsorted : dict.KeySorted) :
    dict.sorted = dict :=
  ext hsorted.insertionSort_eq

/-- Two dictionaries in key order with the same entries are equal. -/
theorem KeySorted.ext {first second : PyDict α} (hfirst : first.KeySorted)
    (hsecond : second.KeySorted)
    (hmem : ∀ entry, entry ∈ first.entries ↔ entry ∈ second.entries) : first = second := by
  have hperm : first.entries ~ second.entries :=
    (perm_ext_iff_of_nodup first.nodup.of_map second.nodup.of_map).mpr hmem
  refine PyDict.ext (hperm.eq_of_pairwise ?_ hfirst hsecond)
  intro a b ha hb hab hba
  have hkey : a.1 = b.1 := le_antisymm hab hba
  exact inj_on_of_nodup_map first.nodup ha ((hmem b).mpr hb) hkey

theorem KeySorted.mapValues {dict : PyDict α} (hsorted : dict.KeySorted) (f : α → β) :
    (dict.mapValues f).KeySorted :=
  pairwise_map.mpr hsorted

theorem mem_entries_sorted (dict : PyDict α) (entry : String × α) :
    entry ∈ dict.sorted.entries ↔ entry ∈ dict.entries :=
  mem_insertionSort KeyLE

end PyDict

end MatchVet.Foundation.Dictionary
