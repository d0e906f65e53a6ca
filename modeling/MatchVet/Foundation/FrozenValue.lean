import MatchVet.Foundation.CanonicalJson
import MatchVet.Foundation.KeySort

/-!
# Frozen values

Freezing a value puts the entries of its mappings into key order, at every level.
A value and its frozen copy have the same canonical text, and what is read back
from the text of a value is its frozen copy.
-/

namespace MatchVet.Foundation.FrozenValue

open MatchVet.Foundation.CanonicalJson
open MatchVet.Foundation.Dictionary
open MatchVet.Foundation.KeySort
open MatchVet.Foundation.Runtime

mutual

/-- The copy of a value with its mappings in key order. -/
def freeze : PyValue → PyValue
  | .array items => .array (freezeItems items)
  | .mapping entries => .mapping (sortedOn Prod.fst (freezeEntries entries))
  | value => value

def freezeItems : List PyValue → List PyValue
  | [] => []
  | item :: rest => freeze item :: freezeItems rest

def freezeEntries : List (String × PyValue) → List (String × PyValue)
  | [] => []
  | (key, value) :: rest => (key, freeze value) :: freezeEntries rest

end

theorem freezeItems_eq_map (items : List PyValue) : freezeItems items = items.map freeze := by
  induction items with
  | nil => rfl
  | cons item rest ih => rw [freezeItems, ih, List.map_cons]

theorem freezeEntries_eq_map (entries : List (String × PyValue)) :
    freezeEntries entries = entries.map fun entry => (entry.1, freeze entry.2) := by
  induction entries with
  | nil => rfl
  | cons entry rest ih => rw [freezeEntries, ih, List.map_cons]

theorem freezeItems_append (items others : List PyValue) :
    freezeItems (items ++ others) = freezeItems items ++ freezeItems others := by
  rw [freezeItems_eq_map, freezeItems_eq_map, freezeItems_eq_map, List.map_append]

theorem plainItems_iff (items : List PyValue) :
    plainItems items = true ↔ ∀ item ∈ items, plain item = true := by
  induction items with
  | nil => simp [plainItems]
  | cons item rest ih => rw [plainItems, Bool.and_eq_true, ih, List.forall_mem_cons]

/-! ## The canonical text of a frozen value -/

theorem canonicalEntries_eq_some {entries : List (String × PyValue)}
    {members : List (String × Json)} :
    canonicalEntries entries = some members ↔
      List.Forall₂ (fun entry member => entry.1 = member.1 ∧ canonical entry.2 = some member.2)
        entries members := by
  induction entries generalizing members with
  | nil =>
      rw [canonicalEntries, Option.some.injEq, List.forall₂_nil_left_iff, eq_comm]
  | cons entry rest ih =>
      obtain ⟨key, value⟩ := entry
      rw [List.forall₂_cons_left_iff, canonicalEntries]
      cases hvalue : canonical value with
      | none =>
          refine ⟨nofun, ?_⟩
          rintro ⟨member, others, ⟨-, hmember⟩, -⟩
          cases hmember
      | some tree =>
          cases hrest : canonicalEntries rest with
          | none =>
              refine ⟨nofun, ?_⟩
              rintro ⟨member, others, -, hothers, -⟩
              cases hrest.symm.trans (ih.mpr hothers)
          | some found =>
              constructor
              · rintro ⟨⟩
                exact ⟨(key, tree), found, ⟨rfl, rfl⟩, ih.mp hrest, rfl⟩
              · rintro ⟨⟨name, other⟩, others, ⟨rfl, hother⟩, hothers, rfl⟩
                cases hother
                cases hrest.symm.trans (ih.mpr hothers)
                rfl

theorem memberLE_sortedOn (members : List (String × Json)) :
    members.insertionSort MemberLE = sortedOn Prod.fst members := rfl

/-- Sorting related rows by their common keys keeps them related. -/
theorem forall₂_sortedOn {α β γ : Type*} [LinearOrder γ] {left : α → γ} {right : β → γ}
    {related : α → β → Prop} (hkey : ∀ first second, related first second →
      left first = right second) {firsts : List α} {seconds : List β}
    (hrelated : List.Forall₂ related firsts seconds) :
    List.Forall₂ related (sortedOn left firsts) (sortedOn right seconds) := by
  have hinsert {first : α} {second : β} (hhead : related first second) {firsts : List α}
      {seconds : List β} (hrest : List.Forall₂ related firsts seconds) :
      List.Forall₂ related (firsts.orderedInsert (fun a b => left a ≤ left b) first)
        (seconds.orderedInsert (fun a b => right a ≤ right b) second) := by
    induction hrest with
    | nil => exact .cons hhead .nil
    | @cons other twin others twins hother hothers ih =>
        rw [List.orderedInsert_cons, List.orderedInsert_cons, ← hkey _ _ hhead, ← hkey _ _ hother]
        split
        · exact .cons hhead (.cons hother hothers)
        · exact .cons hother ih
  induction hrelated with
  | nil => exact .nil
  | cons hhead hrest ih => exact hinsert hhead ih

mutual

theorem canonical_freeze : ∀ value : PyValue, canonical (freeze value) = canonical value
  | .array items => by
      rw [freeze, canonical, canonical, canonicalItems_freeze items]
  | .mapping entries => by
      rw [freeze, canonical, canonical]
      have hentries := canonicalEntries_freeze entries
      cases hmembers : canonicalEntries entries with
      | none =>
          rw [hmembers] at hentries
          have hnone : canonicalEntries (sortedOn Prod.fst (freezeEntries entries)) = none := by
            rw [← Option.not_isSome_iff_eq_none, canonicalEntries_isSome]
            intro hall
            have hsome : (canonicalEntries (freezeEntries entries)).isSome := by
              rw [canonicalEntries_isSome]
              exact fun entry hentry =>
                hall entry ((sortedOn_perm Prod.fst _).mem_iff.mpr hentry)
            rw [hentries] at hsome
            cases hsome
          rw [hnone]
      | some members =>
          rw [hmembers] at hentries
          have hsorted : canonicalEntries (sortedOn Prod.fst (freezeEntries entries)) =
              some (sortedOn Prod.fst members) :=
            canonicalEntries_eq_some.mpr (forall₂_sortedOn (fun _ _ hsame => hsame.1)
              (canonicalEntries_eq_some.mp hentries))
          rw [hsorted, Option.map_some, Option.map_some, memberLE_sortedOn, memberLE_sortedOn,
            sortedOn_of_pairwise _ (sortedOn_pairwise Prod.fst members)]
  | .none => rfl
  | .bool _ => rfl
  | .int _ => rfl
  | .float _ => rfl
  | .str _ => rfl
  | .object _ _ _ => rfl

theorem canonicalItems_freeze : ∀ items : List PyValue,
    canonicalItems (freezeItems items) = canonicalItems items
  | [] => rfl
  | item :: rest => by
      rw [freezeItems, canonicalItems, canonicalItems, canonical_freeze item,
        canonicalItems_freeze rest]

theorem canonicalEntries_freeze : ∀ entries : List (String × PyValue),
    canonicalEntries (freezeEntries entries) = canonicalEntries entries
  | [] => rfl
  | (key, value) :: rest => by
      rw [freezeEntries, canonicalEntries, canonicalEntries, canonical_freeze value,
        canonicalEntries_freeze rest]

end

/-- Values with the same frozen copy have the same canonical form. -/
theorem canonical_eq_of_freeze_eq {first second : PyValue} (heq : freeze first = freeze second) :
    canonical first = canonical second := by
  rw [← canonical_freeze first, heq, canonical_freeze]

/-! ## Reading a text back -/

theorem memberValues_eq_map (members : List (String × Json)) :
    memberValues members = members.map fun member => (member.1, member.2.toValue) := by
  induction members with
  | nil => rfl
  | cons member rest ih => rw [memberValues, ih, List.map_cons]

mutual

/-- What is read from the canonical text of a plain value is its frozen copy. -/
theorem toValue_canonical : ∀ (value : PyValue) {tree : Json}, plain value = true →
    canonical value = some tree → tree.toValue = freeze value
  | .none, _, _, htree => by cases htree; rfl
  | .bool _, _, _, htree => by cases htree; rfl
  | .int _, _, _, htree => by cases htree; rfl
  | .float (.finite _), _, _, htree => by cases htree; rfl
  | .float (.infinite _), _, hplain, _ => by cases hplain
  | .float .nan, _, hplain, _ => by cases hplain
  | .str _, _, _, htree => by cases htree; rfl
  | .object _ _ _, _, hplain, _ => by cases hplain
  | .array items, tree, hplain, htree => by
      rw [canonical, Option.map_eq_some_iff] at htree
      obtain ⟨trees, htrees, rfl⟩ := htree
      rw [Json.toValue, freeze, toValue_canonicalItems items (by rwa [plain] at hplain) htrees]
  | .mapping entries, tree, hplain, htree => by
      obtain ⟨members, hmembers, rfl⟩ := canonical_mapping_eq_some htree
      rw [Json.toValue, freeze, memberValues_eq_map, memberLE_sortedOn,
        ← toValue_canonicalEntries entries (by rwa [plain] at hplain) hmembers,
        memberValues_eq_map, sortedOn_map]

theorem toValue_canonicalItems : ∀ (items : List PyValue) {trees : List Json},
    plainItems items = true → canonicalItems items = some trees →
      itemValues trees = freezeItems items
  | [], _, _, htrees => by cases htrees; rfl
  | item :: rest, trees, hplain, htrees => by
      rw [plainItems, Bool.and_eq_true] at hplain
      rw [canonicalItems] at htrees
      cases hitem : canonical item with
      | none =>
          rw [hitem] at htrees
          cases htrees
      | some tree =>
          cases hrest : canonicalItems rest with
          | none =>
              rw [hitem, hrest] at htrees
              cases htrees
          | some others =>
              rw [hitem, hrest] at htrees
              cases htrees
              rw [itemValues, freezeItems, toValue_canonical item hplain.1 hitem,
                toValue_canonicalItems rest hplain.2 hrest]

theorem toValue_canonicalEntries : ∀ (entries : List (String × PyValue))
    {members : List (String × Json)}, plainEntries entries = true →
      canonicalEntries entries = some members → memberValues members = freezeEntries entries
  | [], _, _, hmembers => by cases hmembers; rfl
  | (key, value) :: rest, members, hplain, hmembers => by
      rw [plainEntries, Bool.and_eq_true] at hplain
      rw [canonicalEntries] at hmembers
      cases hvalue : canonical value with
      | none =>
          rw [hvalue] at hmembers
          cases hmembers
      | some tree =>
          cases hrest : canonicalEntries rest with
          | none =>
              rw [hvalue, hrest] at hmembers
              cases hmembers
          | some others =>
              rw [hvalue, hrest] at hmembers
              cases hmembers
              rw [memberValues, freezeEntries, toValue_canonical value hplain.1 hvalue,
                toValue_canonicalEntries rest hplain.2 hrest]

end

/-! ## Frozen copies of frozen copies -/

mutual

theorem freeze_freeze : ∀ value : PyValue, freeze (freeze value) = freeze value
  | .array items => by
      rw [freeze, freeze, freezeItems_freezeItems items]
  | .mapping entries => by
      rw [freeze, freeze, freezeEntries_eq_map (sortedOn _ _),
        ← sortedOn_map (γ := String × PyValue) Prod.fst
          (fun entry : String × PyValue => (entry.1, freeze entry.2)),
        ← freezeEntries_eq_map, freezeEntries_freezeEntries entries]
      exact congrArg PyValue.mapping
        (sortedOn_of_pairwise _ (sortedOn_pairwise Prod.fst (freezeEntries entries)))
  | .none => rfl
  | .bool _ => rfl
  | .int _ => rfl
  | .float _ => rfl
  | .str _ => rfl
  | .object _ _ _ => rfl

theorem freezeItems_freezeItems : ∀ items : List PyValue,
    freezeItems (freezeItems items) = freezeItems items
  | [] => rfl
  | item :: rest => by
      rw [freezeItems, freezeItems, freeze_freeze item, freezeItems_freezeItems rest]

theorem freezeEntries_freezeEntries : ∀ entries : List (String × PyValue),
    freezeEntries (freezeEntries entries) = freezeEntries entries
  | [] => rfl
  | (key, value) :: rest => by
      rw [freezeEntries, freezeEntries, freeze_freeze value, freezeEntries_freezeEntries rest]

end

mutual

theorem plain_freeze : ∀ value : PyValue, plain (freeze value) = plain value
  | .array items => by rw [freeze, plain, plain, plainItems_freeze items]
  | .mapping entries => by
      rw [freeze, plain, plain, ← plainEntries_freeze entries, Bool.eq_iff_iff, plainEntries_iff,
        plainEntries_iff]
      exact forall_congr' fun entry => imp_congr_left (sortedOn_perm Prod.fst _).mem_iff
  | .none => rfl
  | .bool _ => rfl
  | .int _ => rfl
  | .float _ => rfl
  | .str _ => rfl
  | .object _ _ _ => rfl

theorem plainItems_freeze : ∀ items : List PyValue, plainItems (freezeItems items) = plainItems items
  | [] => rfl
  | item :: rest => by
      rw [freezeItems, plainItems, plainItems, plain_freeze item, plainItems_freeze rest]

theorem plainEntries_freeze : ∀ entries : List (String × PyValue),
    plainEntries (freezeEntries entries) = plainEntries entries
  | [] => rfl
  | (key, value) :: rest => by
      rw [freezeEntries, plainEntries, plainEntries, plain_freeze value, plainEntries_freeze rest]

end

/-! ## Entries -/

/-- `value[key]` of a mapping. -/
def get? (value : PyValue) (key : String) : Option PyValue :=
  match value with
  | .mapping entries => entries.lookup key
  | _ => none

theorem lookup_eq_of_perm {α : Type*} {first second : List (String × α)}
    (hperm : first.Perm second) (hnodup : (first.map Prod.fst).Nodup) (key : String) :
    first.lookup key = second.lookup key := by
  have hiff (entries : List (String × α)) (hdistinct : (entries.map Prod.fst).Nodup) (value : α) :
      entries.lookup key = some value ↔ (key, value) ∈ entries := by
    refine ⟨fun hlookup => ?_, lookup_of_mem hdistinct⟩
    obtain ⟨before, after, rfl, -⟩ := List.lookup_eq_some_iff.mp hlookup
    exact List.mem_append_right _ List.mem_cons_self
  refine Option.ext fun value => ?_
  rw [hiff first hnodup, hiff second ((hperm.map Prod.fst).nodup_iff.mp hnodup), hperm.mem_iff]

theorem lookup_freezeEntries (entries : List (String × PyValue)) (key : String) :
    (freezeEntries entries).lookup key = (entries.lookup key).map freeze := by
  induction entries with
  | nil => rfl
  | cons entry rest ih =>
      obtain ⟨name, value⟩ := entry
      rw [freezeEntries, List.lookup_cons, List.lookup_cons, ih]
      cases key == name with
      | true => rfl
      | false => rfl

theorem freezeEntries_keys (entries : List (String × PyValue)) :
    (freezeEntries entries).map Prod.fst = entries.map Prod.fst := by
  rw [freezeEntries_eq_map, List.map_map]
  rfl

/-- An entry of the frozen copy is the frozen copy of the entry. -/
theorem get?_freeze {entries : List (String × PyValue)} (hnodup : (entries.map Prod.fst).Nodup)
    (key : String) :
    get? (freeze (.mapping entries)) key = (entries.lookup key).map freeze := by
  rw [freeze, get?, ← lookup_freezeEntries]
  refine lookup_eq_of_perm (sortedOn_perm Prod.fst _) ?_ key
  rw [((sortedOn_perm Prod.fst (freezeEntries entries)).map Prod.fst).nodup_iff,
    freezeEntries_keys]
  exact hnodup

/-! ## Sealed entries -/

/-- The entries of the frozen copy. -/
def frozenEntries (entries : List (String × PyValue)) : List (String × PyValue) :=
  sortedOn Prod.fst (freezeEntries entries)

theorem freeze_mapping (entries : List (String × PyValue)) :
    freeze (.mapping entries) = .mapping (frozenEntries entries) := by
  rw [freeze, frozenEntries]

theorem lookup_frozenEntries {entries : List (String × PyValue)}
    (hnodup : (entries.map Prod.fst).Nodup) (key : String) :
    (frozenEntries entries).lookup key = (entries.lookup key).map freeze := by
  have hget := get?_freeze hnodup key
  rwa [freeze_mapping, get?] at hget

theorem frozenEntries_frozenEntries (entries : List (String × PyValue)) :
    frozenEntries (frozenEntries entries) = frozenEntries entries := by
  have htwice := freeze_freeze (.mapping entries)
  rw [freeze_mapping, freeze_mapping] at htwice
  exact PyValue.mapping.inj htwice

/-- Without its seal a list of entries is what was sealed. -/
theorem filter_concat {α : Type*} {core : List (String × α)} {name : String} {mark : α}
    (hfresh : name ∉ core.map Prod.fst) :
    (core ++ [(name, mark)]).filter (fun entry => entry.1 ≠ name) = core := by
  have hkept : ∀ entry ∈ core, decide (entry.1 ≠ name) = true := by
    intro entry hentry
    have hmem : entry.1 ∈ core.map Prod.fst := List.mem_map_of_mem hentry
    rw [decide_eq_true_eq]
    rintro rfl
    exact hfresh hmem
  rw [List.filter_append, List.filter_eq_self.mpr hkept]
  simp

/-- Without its seal a frozen copy is the frozen copy of what was sealed. -/
theorem filter_frozenEntries {core : List (String × PyValue)} {name : String} {mark : PyValue}
    (hfresh : name ∉ core.map Prod.fst) :
    (frozenEntries (core ++ [(name, mark)])).filter (fun entry => entry.1 ≠ name) =
      frozenEntries core := by
  rw [frozenEntries, filter_sortedOn, frozenEntries, freezeEntries_eq_map, List.map_append,
    ← freezeEntries_eq_map]
  refine congrArg _ (filter_concat ?_)
  rwa [freezeEntries_keys]

end MatchVet.Foundation.FrozenValue
