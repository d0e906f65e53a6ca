import MatchVet.Foundation.CanonicalJson
import MatchVet.Foundation.JsonDocument

/-!
# Trees and documents

A JSON tree without fractional numbers is a document, and a document is a tree.  A
tree in canonical form is parsed back from its canonical bytes.
-/

namespace MatchVet.Foundation.JsonTree

open MatchVet.Foundation.CanonicalJson
open MatchVet.Foundation.JsonDocument

/-! ## Trees and documents -/

mutual

/-- A tree without fractional numbers as a document. -/
def document : Json → Document
  | .null => .null
  | .bool value => .bool value
  | .int value => .int value
  | .number _ => .null
  | .str text => .str text
  | .array items => .array (itemDocuments items)
  | .object members => .object (memberDocuments members)

def itemDocuments : List Json → List Document
  | [] => []
  | item :: rest => document item :: itemDocuments rest

def memberDocuments : List (String × Json) → List (String × Document)
  | [] => []
  | (key, value) :: rest => (key, document value) :: memberDocuments rest

end

mutual

/-- A document as a tree. -/
def tree : Document → Json
  | .null => .null
  | .bool value => .bool value
  | .int value => .int value
  | .str text => .str text
  | .array items => .array (itemTrees items)
  | .object members => .object (memberTrees members)

def itemTrees : List Document → List Json
  | [] => []
  | item :: rest => tree item :: itemTrees rest

def memberTrees : List (String × Document) → List (String × Json)
  | [] => []
  | (key, value) :: rest => (key, tree value) :: memberTrees rest

end

/-- `_canonical_json` of a tree. -/
def jsonBytes (value : Json) : ByteArray := (canonicalJson (document value)).toUTF8

/-- `json.loads` of bytes that are decoded as UTF-8. -/
def parse (data : ByteArray) : Option Json := do
  let text ← String.fromUTF8? data
  let found ← loads text
  some (tree found)

/-- A tree in canonical form: its document keeps it, with its members in key order. -/
structure Canonical (value : Json) : Prop where
  sorted : sortKeys (document value) = document value
  distinct : Distinct (document value)
  kept : tree (document value) = value

theorem canonical_null : Canonical .null := ⟨rfl, trivial, rfl⟩

theorem canonical_bool (value : Bool) : Canonical (.bool value) := ⟨rfl, trivial, rfl⟩

theorem canonical_int (value : ℤ) : Canonical (.int value) := ⟨rfl, trivial, rfl⟩

theorem canonical_str (text : String) : Canonical (.str text) := ⟨rfl, trivial, rfl⟩

theorem canonical_array {items : List Json} (hitems : ∀ item ∈ items, Canonical item) :
    Canonical (.array items) := by
  have hall : sortItems (itemDocuments items) = itemDocuments items ∧
      DistinctItems (itemDocuments items) ∧ itemTrees (itemDocuments items) = items := by
    induction items with
    | nil => exact ⟨rfl, trivial, rfl⟩
    | cons item rest ih =>
        obtain ⟨⟨hsorted, hdistinct, hkept⟩, hrest⟩ := List.forall_mem_cons.mp hitems
        obtain ⟨hsorted', hdistinct', hkept'⟩ := ih hrest
        refine ⟨?_, ⟨hdistinct, hdistinct'⟩, ?_⟩
        · rw [itemDocuments, sortItems, hsorted, hsorted']
        · rw [itemDocuments, itemTrees, hkept, hkept']
  obtain ⟨hsorted, hdistinct, hkept⟩ := hall
  refine ⟨?_, ?_, ?_⟩
  · rw [document, sortKeys, hsorted]
  · rw [document, Distinct]
    exact hdistinct
  · rw [document, tree, hkept]

theorem memberDocuments_keys (members : List (String × Json)) :
    (memberDocuments members).map Prod.fst = members.map Prod.fst := by
  induction members with
  | nil => rfl
  | cons member rest ih => rw [memberDocuments, List.map_cons, List.map_cons, ih]

theorem canonical_object {members : List (String × Json)} {keys : List String}
    (hmembers : members.map Prod.fst = keys) (hkeys : keys.Pairwise (· < ·))
    (hvalues : ∀ member ∈ members, Canonical member.2) : Canonical (.object members) := by
  have hall : sortValues (memberDocuments members) = memberDocuments members ∧
      DistinctValues (memberDocuments members) ∧
        memberTrees (memberDocuments members) = members := by
    clear hmembers hkeys
    induction members with
    | nil => exact ⟨rfl, trivial, rfl⟩
    | cons member rest ih =>
        obtain ⟨⟨hsorted, hdistinct, hkept⟩, hrest⟩ := List.forall_mem_cons.mp hvalues
        obtain ⟨hsorted', hdistinct', hkept'⟩ := ih hrest
        refine ⟨?_, ⟨hdistinct, hdistinct'⟩, ?_⟩
        · rw [memberDocuments, sortValues, hsorted, hsorted']
        · rw [memberDocuments, memberTrees, hkept, hkept']
  obtain ⟨hsorted, hdistinct, hkept⟩ := hall
  have horder : (memberDocuments members).Pairwise KeyLE := by
    rw [← hmembers, ← memberDocuments_keys, List.pairwise_map] at hkeys
    exact hkeys.imp le_of_lt
  have hnodup : ((memberDocuments members).map Prod.fst).Nodup := by
    rw [memberDocuments_keys, hmembers]
    exact hkeys.imp ne_of_lt
  refine ⟨?_, ?_, ?_⟩
  · rw [document, sortKeys, hsorted, horder.insertionSort_eq]
  · rw [document, Distinct]
    exact ⟨hnodup, hdistinct⟩
  · rw [document, tree, hkept]

/-- Canonical bytes are parsed to their tree. -/
theorem parse_jsonBytes {value : Json} (hvalue : Canonical value) :
    parse (jsonBytes value) = some value := by
  have hdecode : String.fromUTF8? (jsonBytes value) = some (canonicalJson (document value)) :=
    dif_pos (canonicalJson (document value)).isValidUTF8
  have hloads := loads_canonicalJson hvalue.distinct
  rw [hvalue.sorted] at hloads
  unfold parse
  rw [hdecode]
  change (loads (canonicalJson (document value))).bind (fun found => some (tree found)) = _
  rw [hloads]
  exact congrArg some hvalue.kept

/-! ## Integers -/

/-- An integer, or a boolean, which is one of Python's integers. -/
inductive PyInteger where
  | int (value : ℕ)
  | bool (value : Bool)
  deriving DecidableEq, Repr

namespace PyInteger

def value : PyInteger → ℕ
  | int value => value
  | bool value => value.toNat

def tree : PyInteger → Json
  | int value => .int value
  | bool value => .bool value

def plain : PyInteger → Bool
  | int _ => true
  | bool _ => false

/-- An integer is written with 4300 digits at most. -/
def printable : PyInteger → Bool
  | int value => (naturalChars value).length ≤ 4300
  | bool _ => true

end PyInteger

end MatchVet.Foundation.JsonTree
