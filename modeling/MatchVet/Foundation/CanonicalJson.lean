import Mathlib.Data.Rat.Denumerable
import Mathlib.Logic.Equiv.List
import MatchVet.Foundation.Runtime

/-!
# Canonical JSON

The canonical text of a value lists object members in key order without white
space.  It is modelled by its sequence of lexical tokens.  Every token sequence
determines the tree it was written from, so a collision-free digest of the
text determines the tree as well.
-/

namespace MatchVet.Foundation.CanonicalJson

open MatchVet.Foundation.Dictionary
open MatchVet.Foundation.Dictionary.PyDict
open MatchVet.Foundation.Runtime

inductive Json where
  | null
  | bool (value : Bool)
  | int (value : ℤ)
  | number (value : ℚ)
  | str (value : String)
  | array (items : List Json)
  | object (members : List (String × Json))

inductive Token where
  | null
  | bool (value : Bool)
  | int (value : ℤ)
  | number (value : ℚ)
  | str (value : String)
  | openArray
  | closeArray
  | openObject
  | closeObject
  deriving DecidableEq, Repr

/-! ## Writing a tree -/

mutual

def tokens : Json → List Token
  | .null => [.null]
  | .bool value => [.bool value]
  | .int value => [.int value]
  | .number value => [.number value]
  | .str value => [.str value]
  | .array items => .openArray :: (itemTokens items ++ [.closeArray])
  | .object members => .openObject :: (memberTokens members ++ [.closeObject])

def itemTokens : List Json → List Token
  | [] => []
  | item :: rest => tokens item ++ itemTokens rest

def memberTokens : List (String × Json) → List Token
  | [] => []
  | (key, value) :: rest => .str key :: (tokens value ++ memberTokens rest)

end

/-- A token that ends an array or an object. -/
def Token.closes : Token → Bool
  | .closeArray => true
  | .closeObject => true
  | _ => false

/-- A written tree starts with a token that closes nothing. -/
theorem tokens_eq_cons (tree : Json) :
    ∃ first rest, tokens tree = first :: rest ∧ first.closes = false := by
  cases tree <;> exact ⟨_, _, by rw [tokens], rfl⟩

theorem itemTokens_close_ne (item : Json) (rest : List Json) (tail other : List Token) :
    itemTokens (item :: rest) ++ .closeArray :: tail ≠ .closeArray :: other := by
  obtain ⟨first, more, heq, hopen⟩ := tokens_eq_cons item
  rw [itemTokens, heq]
  intro hbad
  rw [List.cons_append, List.cons_append] at hbad
  rw [(List.cons.inj hbad).1] at hopen
  exact Bool.noConfusion hopen

mutual

/-- A tree can be read back from any text that starts with it. -/
theorem tokens_append_inj : ∀ (first second : Json) (left right : List Token),
    tokens first ++ left = tokens second ++ right → first = second ∧ left = right
  | .array items, second, left, right, heq => by
      cases second <;> simp [tokens] at heq
      case array others =>
        have hitems := itemTokens_append_inj items others left right heq
        exact ⟨congrArg Json.array hitems.1, hitems.2⟩
  | .object members, second, left, right, heq => by
      cases second <;> simp [tokens] at heq
      case object others =>
        have hmembers := memberTokens_append_inj members others left right heq
        exact ⟨congrArg Json.object hmembers.1, hmembers.2⟩
  | .null, second, left, right, heq => by
      cases second <;> simp_all [tokens]
  | .bool value, second, left, right, heq => by
      cases second <;> simp_all [tokens]
  | .int value, second, left, right, heq => by
      cases second <;> simp_all [tokens]
  | .number value, second, left, right, heq => by
      cases second <;> simp_all [tokens]
  | .str value, second, left, right, heq => by
      cases second <;> simp_all [tokens]

theorem itemTokens_append_inj : ∀ (first second : List Json) (left right : List Token),
    itemTokens first ++ .closeArray :: left = itemTokens second ++ .closeArray :: right →
      first = second ∧ left = right
  | [], [], left, right, heq => ⟨rfl, (List.cons.inj heq).2⟩
  | [], other :: others, left, right, heq =>
      absurd heq.symm (itemTokens_close_ne other others right left)
  | item :: rest, [], left, right, heq =>
      absurd heq (itemTokens_close_ne item rest left right)
  | item :: rest, other :: others, left, right, heq => by
      rw [itemTokens, itemTokens, List.append_assoc, List.append_assoc] at heq
      have hhead := tokens_append_inj item other _ _ heq
      have htail := itemTokens_append_inj rest others left right hhead.2
      exact ⟨by rw [hhead.1, htail.1], htail.2⟩

theorem memberTokens_append_inj : ∀ (first second : List (String × Json))
    (left right : List Token),
    memberTokens first ++ .closeObject :: left = memberTokens second ++ .closeObject :: right →
      first = second ∧ left = right
  | [], [], left, right, heq => ⟨rfl, (List.cons.inj heq).2⟩
  | [], (key, value) :: others, left, right, heq => by
      simp [memberTokens] at heq
  | (key, value) :: rest, [], left, right, heq => by
      simp [memberTokens] at heq
  | (key, value) :: rest, (otherKey, other) :: others, left, right, heq => by
      rw [memberTokens, memberTokens, List.cons_append, List.cons_append,
        List.append_assoc, List.append_assoc] at heq
      have hkey := Token.str.inj (List.cons.inj heq).1
      have hhead := tokens_append_inj value other _ _ (List.cons.inj heq).2
      have htail := memberTokens_append_inj rest others left right hhead.2
      exact ⟨by rw [hkey, hhead.1, htail.1], htail.2⟩

end

theorem tokens_injective : Function.Injective tokens := by
  intro first second heq
  exact (tokens_append_inj first second [] [] (by rw [heq])).1

/-- Trees are compared by their texts. -/
instance : DecidableEq Json := fun first second =>
  decidable_of_iff (tokens first = tokens second) tokens_injective.eq_iff

/-! ## The tree of a value -/

def MemberLE (first second : String × Json) : Prop := first.1 ≤ second.1

instance : DecidableRel MemberLE :=
  fun first second => inferInstanceAs (Decidable (first.1 ≤ second.1))

mutual

/-- The tree written for a value; a float without a finite value has none. -/
def canonical : PyValue → Option Json
  | .none => some .null
  | .bool value => some (.bool value)
  | .int value => some (.int value)
  | .float (.finite value) => some (.number value)
  | .float (.infinite _) => none
  | .float .nan => none
  | .str value => some (.str value)
  | .array items => (canonicalItems items).map Json.array
  | .mapping entries =>
      (canonicalEntries entries).map fun members => .object (members.insertionSort MemberLE)
  | .object text _ none => some (.str text)
  | .object _ _ (some value) => canonical value

def canonicalItems : List PyValue → Option (List Json)
  | [] => some []
  | item :: rest =>
      match canonical item, canonicalItems rest with
      | some tree, some trees => some (tree :: trees)
      | _, _ => none

def canonicalEntries : List (String × PyValue) → Option (List (String × Json))
  | [] => some []
  | (key, value) :: rest =>
      match canonical value, canonicalEntries rest with
      | some tree, some members => some ((key, tree) :: members)
      | _, _ => none

end

/-- The canonical text of a value. -/
def canonicalText (value : PyValue) : Option (List Token) :=
  (canonical value).map tokens

theorem canonicalText_eq_iff (first second : PyValue) :
    canonicalText first = canonicalText second ↔ canonical first = canonical second :=
  ⟨fun heq => Option.map_injective tokens_injective heq, fun heq => by
    rw [canonicalText, heq, canonicalText]⟩

/-! ## Reading a tree -/

def Json.members : Json → List (String × Json)
  | .object members => members
  | _ => []

def Json.get? (tree : Json) (key : String) : Option Json := tree.members.lookup key

def Json.items : Json → List Json
  | .array items => items
  | _ => []

def Json.truthy : Json → Bool
  | .null => false
  | .bool value => value
  | .int value => value ≠ 0
  | .number value => value ≠ 0
  | .str value => value ≠ ""
  | .array items => !items.isEmpty
  | .object members => !members.isEmpty

mutual

/-- The value a parsed text stands for. -/
def Json.toValue : Json → PyValue
  | .null => .none
  | .bool value => .bool value
  | .int value => .int value
  | .number value => .float (.finite value)
  | .str value => .str value
  | .array items => .array (itemValues items)
  | .object members => .mapping (memberValues members)

def itemValues : List Json → List PyValue
  | [] => []
  | item :: rest => item.toValue :: itemValues rest

def memberValues : List (String × Json) → List (String × PyValue)
  | [] => []
  | (key, value) :: rest => (key, value.toValue) :: memberValues rest

end

/-! ## Plain values -/

mutual

/-- A value made of JSON data only, with finite floats. -/
def plain : PyValue → Bool
  | .float (.infinite _) => false
  | .float .nan => false
  | .object _ _ _ => false
  | .array items => plainItems items
  | .mapping entries => plainEntries entries
  | _ => true

def plainItems : List PyValue → Bool
  | [] => true
  | item :: rest => plain item && plainItems rest

def plainEntries : List (String × PyValue) → Bool
  | [] => true
  | (_, value) :: rest => plain value && plainEntries rest

end

mutual

theorem canonical_isSome_of_plain : ∀ value : PyValue, plain value = true →
    (canonical value).isSome
  | .none, _ => rfl
  | .bool _, _ => rfl
  | .int _, _ => rfl
  | .float (.finite _), _ => rfl
  | .str _, _ => rfl
  | .array items, hplain => by
      rw [canonical, Option.isSome_map]
      exact canonicalItems_isSome_of_plain items (by rwa [plain] at hplain)
  | .mapping entries, hplain => by
      rw [canonical, Option.isSome_map]
      exact canonicalEntries_isSome_of_plain entries (by rwa [plain] at hplain)

theorem canonicalItems_isSome_of_plain : ∀ items : List PyValue, plainItems items = true →
    (canonicalItems items).isSome
  | [], _ => rfl
  | item :: rest, hplain => by
      rw [plainItems, Bool.and_eq_true] at hplain
      obtain ⟨tree, htree⟩ :=
        Option.isSome_iff_exists.mp (canonical_isSome_of_plain item hplain.1)
      obtain ⟨trees, htrees⟩ :=
        Option.isSome_iff_exists.mp (canonicalItems_isSome_of_plain rest hplain.2)
      simp [canonicalItems, htree, htrees]

theorem canonicalEntries_isSome_of_plain : ∀ entries : List (String × PyValue),
    plainEntries entries = true → (canonicalEntries entries).isSome
  | [], _ => rfl
  | (key, value) :: rest, hplain => by
      rw [plainEntries, Bool.and_eq_true] at hplain
      obtain ⟨tree, htree⟩ :=
        Option.isSome_iff_exists.mp (canonical_isSome_of_plain value hplain.1)
      obtain ⟨members, hmembers⟩ :=
        Option.isSome_iff_exists.mp (canonicalEntries_isSome_of_plain rest hplain.2)
      simp [canonicalEntries, htree, hmembers]

end

theorem plainEntries_iff (entries : List (String × PyValue)) :
    plainEntries entries = true ↔ ∀ entry ∈ entries, plain entry.2 = true := by
  induction entries with
  | nil => simp [plainEntries]
  | cons entry rest ih => rw [plainEntries, Bool.and_eq_true, ih, List.forall_mem_cons]

@[simp]
theorem canonicalItems_str (texts : List String) :
    canonicalItems (texts.map PyValue.str) = some (texts.map Json.str) := by
  induction texts with
  | nil => rfl
  | cons content rest ih => simp [canonicalItems, canonical, ih]

@[simp]
theorem canonicalItems_float (numbers : List ℚ) :
    canonicalItems (numbers.map fun number => .float (.finite number)) =
      some (numbers.map Json.number) := by
  induction numbers with
  | nil => rfl
  | cons number rest ih => simp [canonicalItems, canonical, ih]

/-- A plain value written as a string is that string. -/
theorem eq_str_of_canonical {value : PyValue} {content : String} (hplain : plain value = true)
    (hvalue : canonical value = some (.str content)) : value = .str content := by
  cases value with
  | str found =>
      rw [canonical, Option.some.injEq, Json.str.injEq] at hvalue
      rw [hvalue]
  | float number => cases number <;> simp [canonical] at hvalue
  | object => simp [plain] at hplain
  | _ => simp [canonical] at hvalue

/-- A plain value written as a number is that float. -/
theorem eq_float_of_canonical {value : PyValue} {number : ℚ} (hplain : plain value = true)
    (hvalue : canonical value = some (.number number)) : value = .float (.finite number) := by
  cases value with
  | float found =>
      cases found with
      | finite found =>
          rw [canonical, Option.some.injEq, Json.number.injEq] at hvalue
          rw [hvalue]
      | infinite negative => simp [canonical] at hvalue
      | nan => simp [canonical] at hvalue
  | object => simp [plain] at hplain
  | _ => simp [canonical] at hvalue

theorem eq_none_of_canonical {value : PyValue} (hplain : plain value = true)
    (hvalue : canonical value = some .null) : value = .none := by
  cases value with
  | none => rfl
  | float number => cases number <;> simp [canonical] at hvalue
  | object => simp [plain] at hplain
  | _ => simp [canonical] at hvalue

/-! ## Members of canonical objects -/

theorem canonicalEntries_mem {entries : List (String × PyValue)}
    {members : List (String × Json)} (hmembers : canonicalEntries entries = some members)
    (key : String) (tree : Json) :
    (key, tree) ∈ members ↔ ∃ value, (key, value) ∈ entries ∧ canonical value = some tree := by
  induction entries generalizing members with
  | nil =>
      cases hmembers
      simp
  | cons entry rest ih =>
      obtain ⟨first, value⟩ := entry
      cases hvalue : canonical value with
      | none => simp [canonicalEntries, hvalue] at hmembers
      | some head =>
          cases hrest : canonicalEntries rest with
          | none => simp [canonicalEntries, hvalue, hrest] at hmembers
          | some tail =>
              simp only [canonicalEntries, hvalue, hrest, Option.some.injEq] at hmembers
              subst hmembers
              rw [List.mem_cons, ih hrest]
              constructor
              · rintro (heq | ⟨found, hmem, hfound⟩)
                · cases heq
                  exact ⟨value, List.mem_cons_self, hvalue⟩
                · exact ⟨found, List.mem_cons_of_mem _ hmem, hfound⟩
              · rintro ⟨found, hmem, hfound⟩
                rcases List.mem_cons.mp hmem with heq | hmem
                · cases heq
                  rw [hvalue] at hfound
                  exact Or.inl (by rw [Option.some.inj hfound])
                · exact Or.inr ⟨found, hmem, hfound⟩

/-- Entries have canonical members exactly when every value has a tree. -/
theorem canonicalEntries_isSome (entries : List (String × PyValue)) :
    (canonicalEntries entries).isSome ↔ ∀ entry ∈ entries, (canonical entry.2).isSome := by
  induction entries with
  | nil => simp [canonicalEntries]
  | cons entry rest ih =>
      obtain ⟨key, value⟩ := entry
      rw [List.forall_mem_cons, ← ih, canonicalEntries]
      cases canonical value <;> cases canonicalEntries rest <;> simp

theorem canonical_mapping_eq_some {entries : List (String × PyValue)} {tree : Json}
    (htree : canonical (.mapping entries) = some tree) :
    ∃ members, canonicalEntries entries = some members ∧
      tree = .object (members.insertionSort MemberLE) := by
  rw [canonical, Option.map_eq_some_iff] at htree
  obtain ⟨members, hmembers, htree⟩ := htree
  exact ⟨members, hmembers, htree.symm⟩

/-- Every member of one object has an equal counterpart in an object with the
same canonical form. -/
theorem mem_of_canonical_eq {first second : List (String × PyValue)} {tree : Json}
    (hfirst : canonical (.mapping first) = some tree)
    (hsecond : canonical (.mapping second) = some tree) {key : String} {value : PyValue}
    (hmem : (key, value) ∈ first) :
    ∃ other, (key, other) ∈ second ∧ canonical other = canonical value := by
  obtain ⟨members, hmembers, rfl⟩ := canonical_mapping_eq_some hfirst
  obtain ⟨others, hothers, htree⟩ := canonical_mapping_eq_some hsecond
  have hsorted := Json.object.inj htree
  have hall := (canonicalEntries_isSome first).mp (by rw [hmembers]; rfl)
  obtain ⟨head, hhead⟩ := Option.isSome_iff_exists.mp (hall _ hmem)
  have hin : (key, head) ∈ members := (canonicalEntries_mem hmembers key head).mpr
    ⟨value, hmem, hhead⟩
  rw [← List.mem_insertionSort MemberLE, hsorted, List.mem_insertionSort] at hin
  obtain ⟨other, hother, hcanonical⟩ := (canonicalEntries_mem hothers key head).mp hin
  exact ⟨other, hother, hcanonical.trans hhead.symm⟩

theorem canonicalEntries_keys {entries : List (String × PyValue)}
    {members : List (String × Json)} (hmembers : canonicalEntries entries = some members) :
    members.map Prod.fst = entries.map Prod.fst := by
  induction entries generalizing members with
  | nil =>
      cases hmembers
      rfl
  | cons entry rest ih =>
      obtain ⟨key, value⟩ := entry
      cases hvalue : canonical value with
      | none => simp [canonicalEntries, hvalue] at hmembers
      | some head =>
          cases hrest : canonicalEntries rest with
          | none => simp [canonicalEntries, hvalue, hrest] at hmembers
          | some tail =>
              simp only [canonicalEntries, hvalue, hrest, Option.some.injEq] at hmembers
              rw [← hmembers, List.map_cons, List.map_cons, ih hrest]

/-- A key of a canonical object finds the form of its value. -/
theorem exists_canonical_lookup {entries : List (String × PyValue)} {key : String}
    {value : PyValue} {tree : Json} (hplain : plain (.mapping entries) = true)
    (hnodup : (entries.map Prod.fst).Nodup) (hmem : (key, value) ∈ entries)
    (hvalue : canonical value = some tree) :
    ∃ members, canonical (.mapping entries) = some (.object members) ∧
      members.lookup key = some tree := by
  obtain ⟨found, hfound⟩ :=
    Option.isSome_iff_exists.mp (canonical_isSome_of_plain (.mapping entries) hplain)
  obtain ⟨members, hmembers, rfl⟩ := canonical_mapping_eq_some hfound
  refine ⟨members.insertionSort MemberLE, hfound, lookup_of_mem ?_ ?_⟩
  · rw [← canonicalEntries_keys hmembers] at hnodup
    exact ((List.perm_insertionSort MemberLE members).map Prod.fst).nodup_iff.mpr hnodup
  · rw [List.mem_insertionSort]
    exact (canonicalEntries_mem hmembers key tree).mpr ⟨value, hmem, hvalue⟩

theorem plainEntries_mapValues {α : Type*} (write : α → PyValue) {dict : PyDict α}
    (hplain : ∀ entry ∈ dict.entries, plain (write entry.2) = true) :
    plain (.mapping (dict.mapValues write).entries) = true := by
  rw [plain, plainEntries_iff, entries_mapValues]
  intro entry hmem
  obtain ⟨original, horiginal, rfl⟩ := List.mem_map.mp hmem
  exact hplain original horiginal

theorem plain_written_items {α : Type*} (write : α → String) (items : List α) :
    plainItems (items.map fun item => .str (write item)) = true := by
  induction items with
  | nil => rfl
  | cons item rest ih => exact ih

theorem plain_str_items (texts : List String) :
    plainItems (texts.map PyValue.str) = true :=
  plain_written_items id texts

theorem plain_float_items (numbers : List ℚ) :
    plainItems (numbers.map fun number => .float (.finite number)) = true := by
  induction numbers with
  | nil => rfl
  | cons number rest ih => exact ih

theorem exists_canonical {value : PyValue} (hplain : plain value = true) :
    ∃ tree, canonical value = some tree :=
  Option.isSome_iff_exists.mp (canonical_isSome_of_plain value hplain)

/-- The value under a key of one object and of another with the same form. -/
theorem canonical_member_eq {first second : List (String × PyValue)} {tree : Json}
    (hnodup : (second.map Prod.fst).Nodup) (hfirst : canonical (.mapping first) = some tree)
    (hsecond : canonical (.mapping second) = some tree) (key : String) {value other : PyValue}
    (hvalue : (key, value) ∈ first) (hother : (key, other) ∈ second) :
    canonical value = canonical other := by
  obtain ⟨found, hfound, hcanonical⟩ := mem_of_canonical_eq hfirst hsecond hvalue
  have hsame : found = other :=
    congrArg Prod.snd (List.inj_on_of_nodup_map hnodup hfound hother rfl)
  rw [← hcanonical, hsame]

/-- Two dictionaries in key order with the same canonical form are equal when
equal forms of their values come from equal values. -/
theorem eq_of_canonical_mapValues {α : Type*} {write : α → PyValue} {first second : PyDict α}
    {tree : Json} (hfirst : first.KeySorted) (hsecond : second.KeySorted)
    (hleft : canonical (.mapping (first.mapValues write).entries) = some tree)
    (hright : canonical (.mapping (second.mapValues write).entries) = some tree)
    (hinj : ∀ left ∈ first.entries, ∀ right ∈ second.entries,
      canonical (write left.2) = canonical (write right.2) → left.2 = right.2) :
    first = second := by
  refine PyDict.KeySorted.ext hfirst hsecond fun entry => ⟨fun hmem => ?_, fun hmem => ?_⟩
  · obtain ⟨written, hwritten, hcanonical⟩ := mem_of_canonical_eq hleft hright
      (List.mem_map_of_mem hmem)
    obtain ⟨other, hother, heq⟩ := List.mem_map.mp hwritten
    obtain ⟨hkey, rfl⟩ := Prod.mk.inj heq
    rwa [← Prod.ext hkey (hinj entry hmem other hother hcanonical.symm).symm]
  · obtain ⟨written, hwritten, hcanonical⟩ := mem_of_canonical_eq hright hleft
      (List.mem_map_of_mem hmem)
    obtain ⟨other, hother, heq⟩ := List.mem_map.mp hwritten
    obtain ⟨hkey, rfl⟩ := Prod.mk.inj heq
    rwa [← Prod.ext hkey (hinj other hother entry hmem hcanonical)]

/-- A digest of texts and a name derived from a text. -/
class Hashing where
  sha256 : List Token → String
  uuid5 : String → String
  uuid5_text : ∀ name, blank (uuid5 name) = false

export Hashing (sha256 uuid5)

/-- A name that is told by its own text. -/
def quotedName (name : String) : String := "(" ++ name ++ ")"

theorem quotedName_text (name : String) : blank (quotedName name) = false := by
  have hopen : Trimmed "(" := by decide +kernel
  have hclose : Trimmed ")" := by decide +kernel
  exact (hopen.append hclose name).not_blank

def Token.text : Token → String
  | .null => "null"
  | .bool true => "true"
  | .bool false => "false"
  | .int value => toString value
  | .number value => toString value.num ++ "/" ++ toString value.den
  | .str value => "\"" ++ value ++ "\""
  | .openArray => "["
  | .closeArray => "]"
  | .openObject => "\x7b"
  | .closeObject => "\x7d"

/-- For closed computations the text stands for its own digest. -/
@[reducible]
def textHashing : Hashing where
  sha256 written := ",".intercalate (written.map Token.text)
  uuid5 := quotedName
  uuid5_text := quotedName_text

/-- What a token adds to its place in a text. -/
def Token.weight : Token → ℕ
  | .int value => value.toNat + 2
  | .null => 1
  | _ => 0

/-- A short digest for closed computations.  It tells texts apart by their shape
and their counts. -/
@[reducible]
def shapeHashing : Hashing where
  sha256 written :=
    toString (written.foldl (fun digest token =>
      (digest * 7 + token.weight) % 2305843009213693951) 1)
  uuid5 := quotedName
  uuid5_text := quotedName_text

/-! ## A digest without collisions -/

/-- A token as numbers. -/
def Token.code : Token → ℕ × ℤ × ℚ × List ℕ
  | .null => (0, 0, 0, [])
  | .bool value => (1, value.toNat, 0, [])
  | .int value => (2, value, 0, [])
  | .number value => (3, 0, value, [])
  | .str value => (4, 0, 0, value.toList.map Char.toNat)
  | .openArray => (5, 0, 0, [])
  | .closeArray => (6, 0, 0, [])
  | .openObject => (7, 0, 0, [])
  | .closeObject => (8, 0, 0, [])

theorem toNat_injective : Function.Injective Char.toNat := fun _ _ heq =>
  Char.toNat_inj.mp heq

theorem Token.code_injective : Function.Injective Token.code := by
  intro first second heq
  cases first <;> cases second <;> simp [Token.code] at heq ⊢
  case bool.bool left right => cases left <;> cases right <;> simp_all
  case int.int => exact heq
  case number.number => exact heq
  case str.str =>
    exact String.toList_injective (List.map_injective_iff.mpr toNat_injective heq)

theorem exists_injective_hash : ∃ hash : List Token → String, Function.Injective hash := by
  have : Countable Token := Token.code_injective.countable
  obtain ⟨number, hnumber⟩ := exists_injective_nat (List Token)
  refine ⟨fun written => String.ofList (List.replicate (number written) '0'), ?_⟩
  intro first second heq
  have hlength := congrArg (fun content => content.toList.length) heq
  simp only [String.toList_ofList, List.length_replicate] at hlength
  exact hnumber hlength

/-- Some digest that never gives one text for two. -/
@[reducible]
noncomputable def injectiveHashing : Hashing where
  sha256 := exists_injective_hash.choose
  uuid5 := quotedName
  uuid5_text := quotedName_text

theorem injectiveHashing_injective : Function.Injective injectiveHashing.sha256 :=
  exists_injective_hash.choose_spec

end MatchVet.Foundation.CanonicalJson
