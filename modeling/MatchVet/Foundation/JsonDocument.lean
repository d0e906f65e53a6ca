import MatchVet.Foundation.Dictionary
import MatchVet.Foundation.Gregorian
import MatchVet.Foundation.JsonText
import Mathlib.Data.List.Sort
import Mathlib.Data.Nat.Log

/-!
# JSON documents

Documents without floating-point numbers, the canonical text that
`json.dumps(ensure_ascii=True, separators=(",", ":"), sort_keys=True)` writes for
them, and a reader of JSON text.  Every canonical text is read back as the
document with its members in key order.
-/

namespace MatchVet.Foundation.JsonDocument

open MatchVet.Foundation.Dictionary
open MatchVet.Foundation.Gregorian
open MatchVet.Foundation.JsonText

inductive Document where
  | null
  | bool (value : Bool)
  | int (value : ℤ)
  | str (text : String)
  | array (items : List Document)
  | object (members : List (String × Document))

namespace Document

def members : Document → List (String × Document)
  | object members => members
  | _ => []

def text? : Document → Option String
  | str text => some text
  | _ => none

/-- `document.get(key)` of an object. -/
def get? (document : Document) (key : String) : Option Document := document.members.lookup key

end Document

/-- An array of texts. -/
def texts (values : List String) : Document := .array (values.map .str)

/-- A text, or null. -/
def optionalText (value : Option String) : Document := value.elim .null .str

/-! ## Writing -/

def naturalChars (value : ℕ) : List Char := padded (Nat.log 10 value + 1) value

def integerChars : ℤ → List Char
  | .ofNat value => naturalChars value
  | .negSucc value => '-' :: naturalChars (value + 1)

def nullChars : List Char := ['n', 'u', 'l', 'l']

def trueChars : List Char := ['t', 'r', 'u', 'e']

def falseChars : List Char := ['f', 'a', 'l', 's', 'e']

def quoted (text : String) : List Char := '"' :: (text.toList.flatMap escaped ++ ['"'])

mutual

def write : Document → List Char
  | .null => nullChars
  | .bool true => trueChars
  | .bool false => falseChars
  | .int value => integerChars value
  | .str text => quoted text
  | .array [] => ['[', ']']
  | .array (item :: rest) => '[' :: (write item ++ writeItems rest)
  | .object [] => ['\x7b', '\x7d']
  | .object ((key, value) :: rest) =>
      '\x7b' :: (quoted key ++ ':' :: (write value ++ writeMembers rest))

/-- The further items of an array, to its end. -/
def writeItems : List Document → List Char
  | [] => [']']
  | item :: rest => ',' :: (write item ++ writeItems rest)

/-- The further members of an object, to its end. -/
def writeMembers : List (String × Document) → List Char
  | [] => ['\x7d']
  | (key, value) :: rest => ',' :: (quoted key ++ ':' :: (write value ++ writeMembers rest))

end

/-! ## Members in key order -/

def KeyLE (first second : String × Document) : Prop := first.1 ≤ second.1

instance : DecidableRel KeyLE :=
  fun first second => inferInstanceAs (Decidable (first.1 ≤ second.1))

instance : Std.Total KeyLE := ⟨fun first second => le_total first.1 second.1⟩

instance : IsTrans (String × Document) KeyLE := ⟨fun _ _ _ => le_trans⟩

mutual

/-- `sort_keys=True`, at every level. -/
def sortKeys : Document → Document
  | .null => .null
  | .bool value => .bool value
  | .int value => .int value
  | .str text => .str text
  | .array items => .array (sortItems items)
  | .object members => .object ((sortValues members).insertionSort KeyLE)

def sortItems : List Document → List Document
  | [] => []
  | item :: rest => sortKeys item :: sortItems rest

def sortValues : List (String × Document) → List (String × Document)
  | [] => []
  | (key, value) :: rest => (key, sortKeys value) :: sortValues rest

end

/-- `canonical_json`. -/
def canonicalJson (document : Document) : String := String.ofList (write (sortKeys document))

theorem sortItems_eq_map (items : List Document) : sortItems items = items.map sortKeys := by
  induction items with
  | nil => rfl
  | cons item rest ih => rw [sortItems, ih, List.map_cons]

theorem sortItems_map {α : Type} (write : α → Document) (values : List α) :
    sortItems (values.map write) = values.map fun value => sortKeys (write value) := by
  rw [sortItems_eq_map, List.map_map]
  rfl

theorem sortValues_eq_map (members : List (String × Document)) :
    sortValues members = members.map fun member => (member.1, sortKeys member.2) := by
  induction members with
  | nil => rfl
  | cons member rest ih => rw [sortValues, ih, List.map_cons]

theorem sortValues_keys (members : List (String × Document)) :
    (sortValues members).map Prod.fst = members.map Prod.fst := by
  rw [sortValues_eq_map, List.map_map]
  rfl

mutual

/-- No object of the document has a key twice. -/
def Distinct : Document → Prop
  | .array items => DistinctItems items
  | .object members => (members.map Prod.fst).Nodup ∧ DistinctValues members
  | _ => True

def DistinctItems : List Document → Prop
  | [] => True
  | item :: rest => Distinct item ∧ DistinctItems rest

def DistinctValues : List (String × Document) → Prop
  | [] => True
  | (_, value) :: rest => Distinct value ∧ DistinctValues rest

end

theorem distinctItems_iff {items : List Document} :
    DistinctItems items ↔ ∀ item ∈ items, Distinct item := by
  induction items with
  | nil => exact ⟨fun _ _ hmem => absurd hmem List.not_mem_nil, fun _ => trivial⟩
  | cons item rest ih => rw [DistinctItems, ih, List.forall_mem_cons]

theorem distinctValues_iff {members : List (String × Document)} :
    DistinctValues members ↔ ∀ member ∈ members, Distinct member.2 := by
  induction members with
  | nil => exact ⟨fun _ _ hmem => absurd hmem List.not_mem_nil, fun _ => trivial⟩
  | cons member rest ih => rw [DistinctValues, ih, List.forall_mem_cons]

@[simp]
theorem distinct_str (text : String) : Distinct (.str text) := trivial

@[simp]
theorem distinct_int (value : ℤ) : Distinct (.int value) := trivial

@[simp]
theorem distinct_object {members : List (String × Document)} :
    Distinct (.object members) ↔
      (members.map Prod.fst).Nodup ∧ ∀ member ∈ members, Distinct member.2 := by
  rw [Distinct, distinctValues_iff]

/-- An array of what an encoder writes. -/
theorem distinct_array {α : Type} {encode : α → Document}
    (hencode : ∀ value, Distinct (encode value)) (values : List α) :
    Distinct (.array (values.map encode)) := by
  rw [Distinct, distinctItems_iff]
  intro item hitem
  obtain ⟨value, -, rfl⟩ := List.mem_map.mp hitem
  exact hencode value

@[simp]
theorem distinct_texts (values : List String) : Distinct (texts values) :=
  distinct_array distinct_str values

@[simp]
theorem distinct_optionalText (value : Option String) : Distinct (optionalText value) := by
  cases value <;> trivial

mutual

theorem distinct_sortKeys : ∀ document : Document, Distinct document → Distinct (sortKeys document)
  | .null, _ | .bool _, _ | .int _, _ | .str _, _ => trivial
  | .array items, hdistinct => distinctItems_sortItems items hdistinct
  | .object members, hdistinct => by
      have hperm := List.perm_insertionSort KeyLE (sortValues members)
      refine ⟨?_, ?_⟩
      · rw [(hperm.map Prod.fst).nodup_iff, sortValues_keys]
        exact hdistinct.1
      · have hvalues := distinctValues_iff.mp (distinctValues_sortValues members hdistinct.2)
        exact distinctValues_iff.mpr fun member hmember =>
          hvalues member (hperm.mem_iff.mp hmember)

theorem distinctItems_sortItems : ∀ items : List Document, DistinctItems items →
    DistinctItems (sortItems items)
  | [], _ => trivial
  | item :: rest, hdistinct =>
      ⟨distinct_sortKeys item hdistinct.1, distinctItems_sortItems rest hdistinct.2⟩

theorem distinctValues_sortValues : ∀ members : List (String × Document), DistinctValues members →
    DistinctValues (sortValues members)
  | [], _ => trivial
  | (_, value) :: rest, hdistinct =>
      ⟨distinct_sortKeys value hdistinct.1, distinctValues_sortValues rest hdistinct.2⟩

end

mutual

/-- Sorting twice is sorting once. -/
theorem sortKeys_sortKeys : ∀ document : Document,
    sortKeys (sortKeys document) = sortKeys document
  | .null | .bool _ | .int _ | .str _ => rfl
  | .array items => congrArg Document.array (sortItems_sortItems items)
  | .object members => by
      have hmap : sortValues ((sortValues members).insertionSort KeyLE) =
          (sortValues (sortValues members)).insertionSort KeyLE := by
        rw [sortValues_eq_map ((sortValues members).insertionSort KeyLE),
          sortValues_eq_map (sortValues members)]
        exact List.map_insertionSort KeyLE KeyLE _ _ fun _ _ _ _ => Iff.rfl
      have hsorted := List.pairwise_insertionSort KeyLE (sortValues members)
      simp only [sortKeys]
      rw [hmap, sortValues_sortValues members, hsorted.insertionSort_eq]

theorem sortItems_sortItems : ∀ items : List Document, sortItems (sortItems items) = sortItems items
  | [] => rfl
  | item :: rest => congrArg₂ List.cons (sortKeys_sortKeys item) (sortItems_sortItems rest)

theorem sortValues_sortValues : ∀ members : List (String × Document),
    sortValues (sortValues members) = sortValues members
  | [] => rfl
  | (key, value) :: rest =>
      congrArg₂ List.cons (congrArg (Prod.mk key) (sortKeys_sortKeys value))
        (sortValues_sortValues rest)

end

theorem canonicalJson_sortKeys (document : Document) :
    canonicalJson (sortKeys document) = canonicalJson document := by
  rw [canonicalJson, canonicalJson, sortKeys_sortKeys]

theorem mem_of_lookup {members : List (String × Document)} {key : String} {value : Document}
    (hlookup : members.lookup key = some value) : (key, value) ∈ members := by
  induction members with
  | nil => cases hlookup
  | cons member rest ih =>
      rw [List.lookup_cons] at hlookup
      split at hlookup
      next hkey =>
        cases hlookup
        rw [eq_of_beq hkey]
        exact List.mem_cons_self
      · exact List.mem_cons_of_mem _ (ih hlookup)

theorem not_mem_of_lookup {members : List (String × Document)} {key : String}
    (hlookup : members.lookup key = none) : key ∉ members.map Prod.fst := by
  rw [List.lookup_eq_none_iff] at hlookup
  rintro hmem
  obtain ⟨member, hmember, rfl⟩ := List.mem_map.mp hmem
  exact absurd (hlookup member hmember) (by simp)

/-- Sorting keeps what is found under a key. -/
theorem get?_sortKeys {members : List (String × Document)} (key : String)
    (hdistinct : (members.map Prod.fst).Nodup) :
    (sortKeys (.object members)).get? key = (members.lookup key).map sortKeys := by
  have hperm := List.perm_insertionSort KeyLE (sortValues members)
  have hkeys : (((sortValues members).insertionSort KeyLE).map Prod.fst).Nodup := by
    rw [(hperm.map Prod.fst).nodup_iff, sortValues_keys]
    exact hdistinct
  change ((sortValues members).insertionSort KeyLE).lookup key = _
  cases hlookup : members.lookup key with
  | none =>
      rw [Option.map_none, List.lookup_eq_none_iff]
      intro member hmember
      have hmem := List.mem_map_of_mem (f := Prod.fst) (hperm.mem_iff.mp hmember)
      rw [sortValues_keys] at hmem
      have hne : key ≠ member.1 := fun heq => not_mem_of_lookup hlookup (heq ▸ hmem)
      simpa using hne
  | some value =>
      refine lookup_of_mem hkeys (hperm.mem_iff.mpr ?_)
      rw [sortValues_eq_map]
      exact List.mem_map.mpr ⟨(key, value), mem_of_lookup hlookup, rfl⟩

/-! ## Reading -/

def isBlank (char : Char) : Bool := char = ' ' || char = '\n' || char = '\r' || char = '\t'

def skipBlanks (chars : List Char) : List Char := chars.dropWhile isBlank

def hexValue? (char : Char) : Option ℕ :=
  if 48 ≤ char.toNat ∧ char.toNat ≤ 57 then some (char.toNat - 48)
  else if 97 ≤ char.toNat ∧ char.toNat ≤ 102 then some (char.toNat - 87)
  else if 65 ≤ char.toNat ∧ char.toNat ≤ 70 then some (char.toNat - 55)
  else none

/-- The four digits of a code unit. -/
def readUnit : List Char → Option (ℕ × List Char)
  | first :: second :: third :: fourth :: rest => do
      let first ← hexValue? first
      let second ← hexValue? second
      let third ← hexValue? third
      let fourth ← hexValue? fourth
      some (first * 4096 + second * 256 + third * 16 + fourth, rest)
  | _ => none

/-- The second half of a surrogate pair. -/
def readLow (high : ℕ) : List Char → Option (Char × List Char)
  | '\\' :: 'u' :: rest => do
      let (low, rest) ← readUnit rest
      if 56320 ≤ low ∧ low ≤ 57343 then
        some (Char.ofNat (65536 + (high - 55296) * 1024 + (low - 56320)), rest)
      else none
  | _ => none

/-- What follows a backslash.  A half of a surrogate pair alone is no character. -/
def readEscape : List Char → Option (Char × List Char)
  | [] => none
  | letter :: rest =>
      if letter = 'u' then do
        let (unit, rest) ← readUnit rest
        if unit < 55296 ∨ 57343 < unit then some (Char.ofNat unit, rest)
        else if unit ≤ 56319 then readLow unit rest
        else none
      else if letter ∈ ['"', '\\', '/', 'b', 'f', 'n', 'r', 't'] then
        some (letterChar letter, rest)
      else none

/-- The characters of a string, to its closing quotation mark. -/
def readBody : ℕ → List Char → Option (List Char × List Char)
  | 0, _ | _, [] => none
  | fuel + 1, char :: rest =>
      if char = '"' then some ([], rest)
      else if char = '\\' then do
        let (char, rest) ← readEscape rest
        let (chars, rest) ← readBody fuel rest
        some (char :: chars, rest)
      else if char.toNat < 32 then none
      else do
        let (chars, rest) ← readBody fuel rest
        some (char :: chars, rest)

def readString : List Char → Option (String × List Char)
  | [] => none
  | char :: rest =>
      if char = '"' then do
        let (chars, rest) ← readBody (rest.length + 1) rest
        some (String.ofList chars, rest)
      else none

def isDigit (char : Char) : Bool := (digitValue? char).isSome

/-- Does a fraction or an exponent follow? -/
def floating (chars : List Char) : Bool :=
  chars.head?.any fun char => char = '.' || char = 'e' || char = 'E'

/-- A number without a leading zero, a fraction or an exponent. -/
def readNatural (chars : List Char) : Option (ℕ × List Char) :=
  let digits := chars.takeWhile isDigit
  let rest := chars.dropWhile isDigit
  if digits = [] ∨ (1 < digits.length ∧ digits.head? = some '0') ∨ floating rest then none
  else (readDigits digits).map fun value => (value, rest)

def readInteger : List Char → Option (ℤ × List Char)
  | [] => none
  | char :: rest =>
      if char = '-' then (readNatural rest).map fun found => (-(found.1 : ℤ), found.2)
      else (readNatural (char :: rest)).map fun found => ((found.1 : ℤ), found.2)

/-- A keyword and the document it stands for. -/
def readWord (chars : List Char) : Option (Document × List Char) :=
  if nullChars <+: chars then some (.null, chars.drop 4)
  else if trueChars <+: chars then some (.bool true, chars.drop 4)
  else if falseChars <+: chars then some (.bool false, chars.drop 5)
  else (readInteger chars).map fun found => (.int found.1, found.2)

mutual

def readValue : ℕ → List Char → Option (Document × List Char)
  | 0, _ => none
  | fuel + 1, chars =>
      match skipBlanks chars with
      | [] => none
      | head :: rest =>
          if head = '"' then
            (readString (head :: rest)).map fun found => (.str found.1, found.2)
          else if head = '[' then
            if (skipBlanks rest).head? = some ']' then some (.array [], (skipBlanks rest).tail)
            else (readItems fuel rest).map fun found => (.array found.1, found.2)
          else if head = '\x7b' then
            if (skipBlanks rest).head? = some '\x7d' then
              some (.object [], (skipBlanks rest).tail)
            else (readMembers fuel rest).map fun found =>
              (.object (PyDict.ofPairs found.1).entries, found.2)
          else readWord (head :: rest)

/-- The items of an array, to its end. -/
def readItems : ℕ → List Char → Option (List Document × List Char)
  | 0, _ => none
  | fuel + 1, chars => do
      let (item, rest) ← readValue fuel chars
      match skipBlanks rest with
      | [] => none
      | separator :: rest =>
          if separator = ',' then
            (readItems fuel rest).map fun found => (item :: found.1, found.2)
          else if separator = ']' then some ([item], rest)
          else none

/-- The members of an object, to its end. -/
def readMembers : ℕ → List Char → Option (List (String × Document) × List Char)
  | 0, _ => none
  | fuel + 1, chars => do
      let (key, rest) ← readString (skipBlanks chars)
      let rest ← takeChar ':' (skipBlanks rest)
      let (value, rest) ← readValue fuel rest
      match skipBlanks rest with
      | [] => none
      | separator :: rest =>
          if separator = ',' then
            (readMembers fuel rest).map fun found => ((key, value) :: found.1, found.2)
          else if separator = '\x7d' then some ([(key, value)], rest)
          else none

end

/-- `json.loads`. -/
def loads (text : String) : Option Document :=
  match readValue (text.toList.length + 1) text.toList with
  | some (document, rest) => if skipBlanks rest = [] then some document else none
  | none => none

/-! ## Strings are read back -/

theorem hexValue?_digitChar {value : ℕ} (hvalue : value < 16) :
    hexValue? value.digitChar = some value := by
  have hall : ∀ value : Fin 16, hexValue? (value : ℕ).digitChar = some (value : ℕ) := by decide
  exact hall ⟨value, hvalue⟩

theorem readUnit_hexDigits {unit : ℕ} (hunit : unit < 65536) (rest : List Char) :
    readUnit (hexDigits unit ++ rest) = some (unit, rest) := by
  have hdigit : ∀ value : ℕ, hexValue? (value % 16).digitChar = some (value % 16) := fun value =>
    hexValue?_digitChar (Nat.mod_lt value (by decide))
  simp only [hexDigits, List.map_cons, List.map_nil, List.cons_append, List.nil_append, readUnit,
    hdigit, Option.bind_eq_bind, Option.bind_some]
  have htotal : unit / 4096 % 16 * 4096 + unit / 256 % 16 * 256 + unit / 16 % 16 * 16 +
      unit % 16 = unit := by omega
  rw [htotal]

theorem readEscape_codeUnit {char : Char} (hlow : char.toNat < 65536) (rest : List Char) :
    readEscape ('u' :: (hexDigits char.toNat ++ rest)) = some (char, rest) := by
  rw [readEscape, if_pos rfl, readUnit_hexDigits hlow]
  change (if _ then _ else _) = _
  rw [if_pos (not_surrogate char), Char.ofNat_toNat]

theorem readLow_codeUnit (high : ℕ) {low : ℕ} (hlow : 56320 ≤ low ∧ low ≤ 57343)
    (rest : List Char) :
    readLow high (codeUnit low ++ rest) =
      some (Char.ofNat (65536 + (high - 55296) * 1024 + (low - 56320)), rest) := by
  simp only [codeUnit, List.cons_append, readLow]
  rw [readUnit_hexDigits (by omega)]
  simp only [Option.bind_eq_bind, Option.bind_some]
  rw [if_pos hlow]

theorem readEscape_high {high : ℕ} (hhigh : 55296 ≤ high ∧ high ≤ 56319) (rest : List Char) :
    readEscape ('u' :: (hexDigits high ++ rest)) = readLow high rest := by
  rw [readEscape, if_pos rfl, readUnit_hexDigits (by omega)]
  simp only [Option.bind_eq_bind, Option.bind_some]
  rw [if_neg (by omega), if_pos hhigh.2]

theorem readEscape_pair {char : Char} (hhigh : 65536 ≤ char.toNat) (rest : List Char) :
    readEscape ('u' :: (hexDigits (55296 + (char.toNat - 65536) / 1024) ++
      (codeUnit (56320 + (char.toNat - 65536) % 1024) ++ rest))) = some (char, rest) := by
  have hlast : char.toNat < 1114112 := by
    rcases char.valid with hlow | ⟨-, hlast⟩
    · exact Nat.lt_trans hlow (by decide)
    · exact hlast
  have hcode : 65536 + (55296 + (char.toNat - 65536) / 1024 - 55296) * 1024 +
      (56320 + (char.toNat - 65536) % 1024 - 56320) = char.toNat := by omega
  rw [readEscape_high (by omega), readLow_codeUnit _ (by omega), hcode, Char.ofNat_toNat]

theorem readEscape_letter {char letter : Char} (hletter : escapeLetter? char = some letter)
    (rest : List Char) : readEscape (letter :: rest) = some (char, rest) := by
  obtain ⟨hchar, hunit⟩ := escapeLetter?_some hletter
  have hknown : letter ∈ ['"', '\\', '/', 'b', 'f', 'n', 'r', 't'] := by
    unfold escapeLetter? at hletter
    split_ifs at hletter <;> cases hletter <;> decide
  rw [readEscape, if_neg hunit, if_pos hknown, ← hchar]

/-- One written character is read off the front. -/
theorem readBody_escaped (char : Char) (fuel : ℕ) (rest : List Char) :
    readBody (fuel + 1) (escaped char ++ rest) =
      (readBody fuel rest).map fun found => (char :: found.1, found.2) := by
  have hslash : ∀ {tail remaining : List Char}, readEscape tail = some (char, remaining) →
      readBody (fuel + 1) ('\\' :: tail) =
        (readBody fuel remaining).map fun found => (char :: found.1, found.2) := by
    intro tail remaining hescape
    rw [readBody, if_neg (by decide), if_pos rfl, hescape]
    simp only [Option.bind_eq_bind, Option.bind_some]
    cases readBody fuel remaining <;> rfl
  unfold escaped
  cases hletter : escapeLetter? char with
  | some letter => exact hslash (readEscape_letter hletter rest)
  | none =>
      dsimp only
      split_ifs with hplain hlow
      · obtain ⟨hbackslash, hquote⟩ := escapeLetter?_none hletter
        rw [List.singleton_append, readBody, if_neg hquote, if_neg hbackslash, if_neg (by omega)]
        cases readBody fuel rest <;> rfl
      · exact hslash (readEscape_codeUnit hlow rest)
      · rw [List.append_assoc]
        exact hslash (readEscape_pair (by omega) rest)

theorem readBody_written (chars : List Char) {fuel : ℕ} (hfuel : chars.length < fuel)
    (rest : List Char) :
    readBody fuel (chars.flatMap escaped ++ '"' :: rest) = some (chars, rest) := by
  induction chars generalizing fuel with
  | nil =>
      obtain ⟨less, rfl⟩ : ∃ less, fuel = less + 1 := ⟨fuel - 1, by simp at hfuel; omega⟩
      rw [List.flatMap_nil, List.nil_append, readBody, if_pos rfl]
  | cons char chars ih =>
      obtain ⟨less, rfl⟩ : ∃ less, fuel = less + 1 := ⟨fuel - 1, by simp at hfuel; omega⟩
      rw [List.flatMap_cons, List.append_assoc, readBody_escaped,
        ih (by simpa using hfuel)]
      rfl

theorem escaped_ne_nil (char : Char) : escaped char ≠ [] := by
  unfold escaped
  split
  · exact List.cons_ne_nil _ _
  · split_ifs
    · exact List.cons_ne_nil _ _
    · exact List.cons_ne_nil _ _
    · exact List.cons_ne_nil _ _

theorem length_le_flatMap_escaped (chars : List Char) :
    chars.length ≤ (chars.flatMap escaped).length := by
  induction chars with
  | nil => exact Nat.zero_le _
  | cons char chars ih =>
      have hpositive := List.length_pos_iff.mpr (escaped_ne_nil char)
      rw [List.flatMap_cons, List.length_append, List.length_cons]
      omega

theorem readString_quoted (text : String) (rest : List Char) :
    readString (quoted text ++ rest) = some (text, rest) := by
  have hlength := length_le_flatMap_escaped text.toList
  have hfuel : text.toList.length < (text.toList.flatMap escaped ++ '"' :: rest).length + 1 := by
    rw [List.length_append]
    omega
  simp only [quoted, List.cons_append, List.append_assoc, List.nil_append, readString, if_true]
  rw [readBody_written text.toList hfuel]
  exact congrArg (fun text => some (text, rest)) String.ofList_toList

/-! ## Numbers are read back -/

/-- What may follow a number: no digit, fraction or exponent. -/
def Ends (rest : List Char) : Prop :=
  ∀ char ∈ rest.head?, isDigit char = false ∧ char ≠ '.' ∧ char ≠ 'e' ∧ char ≠ 'E'

theorem ends_cons {char : Char} (rest : List Char)
    (hchar : isDigit char = false ∧ char ≠ '.' ∧ char ≠ 'e' ∧ char ≠ 'E') : Ends (char :: rest) := by
  intro head hhead
  cases hhead
  exact hchar

theorem isDigit_digit (value : ℕ) : isDigit (digit value) = true := by
  rw [isDigit, digitValue?_digit]
  rfl

theorem padded_digits (width value : ℕ) : ∀ char ∈ padded width value, isDigit char = true := by
  induction width generalizing value with
  | zero => exact fun char hmem => absurd hmem List.not_mem_nil
  | succ width ih =>
      intro char hmem
      rw [padded, List.mem_append, List.mem_singleton] at hmem
      rcases hmem with hmem | rfl
      · exact ih (value / 10) char hmem
      · exact isDigit_digit value

theorem padded_head (width value : ℕ) :
    (padded (width + 1) value).head? = some (digit (value / 10 ^ width)) := by
  induction width generalizing value with
  | zero => simp [padded]
  | succ width ih =>
      rw [padded, List.head?_append, ih, Nat.div_div_eq_div_mul, ← pow_succ']
      rfl

theorem digit_ne_zero {value : ℕ} (hpositive : 0 < value) (hsmall : value < 10) :
    digit value ≠ '0' := by
  interval_cases value <;> decide

theorem naturalChars_head {value : ℕ} (hlong : 1 < (naturalChars value).length) :
    (naturalChars value).head? ≠ some '0' := by
  rw [naturalChars, padded_length] at hlong
  have hpositive : value ≠ 0 := by
    rintro rfl
    simp at hlong
  have hlow : 10 ^ Nat.log 10 value ≤ value := Nat.pow_log_le_self 10 hpositive
  have hhigh : value < 10 ^ (Nat.log 10 value + 1) := Nat.lt_pow_succ_log_self (by decide) value
  rw [naturalChars, padded_head]
  intro hzero
  refine digit_ne_zero ?_ ?_ (Option.some.inj hzero)
  · exact Nat.div_pos hlow (Nat.pow_pos (by decide))
  · rw [Nat.div_lt_iff_lt_mul (Nat.pow_pos (by decide)), mul_comm]
    rwa [pow_succ] at hhigh

theorem naturalChars_ne_nil (value : ℕ) : naturalChars value ≠ [] := by
  intro hnil
  have hlength := padded_length (Nat.log 10 value + 1) value
  rw [naturalChars] at hnil
  rw [hnil] at hlength
  cases hlength

theorem readNatural_written (value : ℕ) {rest : List Char} (hends : Ends rest) :
    readNatural (naturalChars value ++ rest) = some (value, rest) := by
  have hdigits : ∀ char ∈ naturalChars value, isDigit char = true :=
    padded_digits (Nat.log 10 value + 1) value
  have hstop : rest.takeWhile isDigit = [] ∧ rest.dropWhile isDigit = rest ∧
      floating rest = false := by
    cases rest with
    | nil => exact ⟨rfl, rfl, rfl⟩
    | cons char rest =>
        obtain ⟨hdigit, hpoint, hlower, hupper⟩ := hends char rfl
        refine ⟨?_, ?_, ?_⟩
        · rw [List.takeWhile_cons, hdigit]
          rfl
        · rw [List.dropWhile_cons, hdigit]
          rfl
        · simp [floating, hpoint, hlower, hupper]
  have htake : (naturalChars value ++ rest).takeWhile isDigit = naturalChars value := by
    rw [List.takeWhile_append_of_pos hdigits, hstop.1, List.append_nil]
  have hdrop : (naturalChars value ++ rest).dropWhile isDigit = rest := by
    rw [List.dropWhile_append_of_pos hdigits, hstop.2.1]
  unfold readNatural
  dsimp only
  rw [htake, hdrop, if_neg]
  · rw [naturalChars, readDigits_padded (Nat.lt_pow_succ_log_self (by decide) value)]
    rfl
  · rintro (hnil | hzero | hfloating)
    · exact naturalChars_ne_nil value hnil
    · exact naturalChars_head hzero.1 hzero.2
    · rw [hstop.2.2] at hfloating
      cases hfloating

theorem naturalChars_cons (value : ℕ) :
    ∃ head tail, naturalChars value = head :: tail ∧ isDigit head = true := by
  cases hchars : naturalChars value with
  | nil => exact absurd hchars (naturalChars_ne_nil value)
  | cons head tail =>
      refine ⟨head, tail, rfl, padded_digits (Nat.log 10 value + 1) value head ?_⟩
      change head ∈ naturalChars value
      rw [hchars]
      exact List.mem_cons_self

theorem readInteger_written (value : ℤ) {rest : List Char} (hends : Ends rest) :
    readInteger (integerChars value ++ rest) = some (value, rest) := by
  cases value with
  | ofNat value =>
      obtain ⟨head, tail, hchars, hdigit⟩ := naturalChars_cons value
      have hread := readNatural_written value hends
      rw [integerChars]
      rw [hchars, List.cons_append] at hread ⊢
      have hhead : head ≠ '-' := by
        rintro rfl
        exact absurd hdigit (by decide)
      rw [readInteger, if_neg hhead, hread]
      rfl
  | negSucc value =>
      rw [integerChars, List.cons_append, readInteger, if_pos rfl, readNatural_written _ hends]
      rfl

/-! ## Documents are read back -/

theorem not_digit_or_sign {head : Char} (hhead : isDigit head = true ∨ head = '-') :
    head ≠ '"' ∧ head ≠ '[' ∧ head ≠ '\x7b' ∧ head ≠ ']' ∧ head ≠ 'n' ∧ head ≠ 't' ∧ head ≠ 'f' ∧
      isBlank head = false := by
  have hne : ∀ other : Char, isDigit other = false → other ≠ '-' → head ≠ other := by
    rintro other hdigit hsign rfl
    rcases hhead with hhead | hhead
    · exact absurd (hhead.symm.trans hdigit) (by decide)
    · exact hsign hhead
  refine ⟨hne _ (by decide) (by decide), hne _ (by decide) (by decide), hne _ (by decide) (by decide),
    hne _ (by decide) (by decide), hne _ (by decide) (by decide), hne _ (by decide) (by decide),
    hne _ (by decide) (by decide), ?_⟩
  simp [isBlank, hne ' ' (by decide) (by decide), hne '\n' (by decide) (by decide),
    hne '\r' (by decide) (by decide), hne '\t' (by decide) (by decide)]

theorem integerChars_cons (value : ℤ) :
    ∃ head tail, integerChars value = head :: tail ∧ (isDigit head = true ∨ head = '-') := by
  cases value with
  | ofNat value =>
      obtain ⟨head, tail, hchars, hdigit⟩ := naturalChars_cons value
      exact ⟨head, tail, hchars, Or.inl hdigit⟩
  | negSucc value => exact ⟨'-', naturalChars (value + 1), rfl, Or.inr rfl⟩

/-- A document starts with no white space and with no closing bracket. -/
theorem write_cons (document : Document) :
    ∃ head tail, write document = head :: tail ∧ isBlank head = false ∧ head ≠ ']' := by
  cases document with
  | null => exact ⟨'n', _, rfl, rfl, by decide⟩
  | bool value => cases value <;> exact ⟨_, _, rfl, rfl, by decide⟩
  | int value =>
      obtain ⟨head, tail, hchars, hhead⟩ := integerChars_cons value
      obtain ⟨-, -, -, hclose, -, -, -, hblank⟩ := not_digit_or_sign hhead
      exact ⟨head, tail, hchars, hblank, hclose⟩
  | str text => exact ⟨'"', _, rfl, rfl, by decide⟩
  | array items => cases items <;> exact ⟨'[', _, rfl, rfl, by decide⟩
  | object members =>
      cases members with
      | nil => exact ⟨'\x7b', ['\x7d'], rfl, rfl, by decide⟩
      | cons member rest => exact ⟨'\x7b', _, rfl, rfl, by decide⟩

theorem skipBlanks_cons {head : Char} (tail : List Char) (hblank : isBlank head = false) :
    skipBlanks (head :: tail) = head :: tail := by
  rw [skipBlanks, List.dropWhile_cons, hblank]
  rfl

theorem skipBlanks_write (document : Document) (rest : List Char) :
    skipBlanks (write document ++ rest) = write document ++ rest := by
  obtain ⟨head, tail, hwrite, hblank, -⟩ := write_cons document
  rw [hwrite]
  exact skipBlanks_cons _ hblank

theorem skipBlanks_quoted (text : String) (rest : List Char) :
    skipBlanks (quoted text ++ rest) = quoted text ++ rest :=
  skipBlanks_cons _ rfl

mutual

/-- The number of nested calls that read a document. -/
def cost : Document → ℕ
  | .null | .bool _ | .int _ | .str _ => 1
  | .array items => 1 + itemsCost items
  | .object members => 1 + membersCost members

def itemsCost : List Document → ℕ
  | [] => 0
  | item :: rest => 1 + cost item + itemsCost rest

def membersCost : List (String × Document) → ℕ
  | [] => 0
  | (_, value) :: rest => 1 + cost value + membersCost rest

end

mutual

theorem cost_le_length : ∀ document : Document, cost document ≤ (write document).length
  | .null | .bool true | .bool false => by decide
  | .int value => by
      obtain ⟨head, tail, hchars, -⟩ := integerChars_cons value
      rw [cost, write, hchars, List.length_cons]
      omega
  | .str text => by
      rw [cost, write, quoted, List.length_cons]
      omega
  | .array [] => by decide
  | .array (item :: rest) => by
      have hitem := cost_le_length item
      have hrest := itemsCost_lt_length rest
      rw [cost, itemsCost, write, List.length_cons, List.length_append]
      omega
  | .object [] => by decide
  | .object ((key, value) :: rest) => by
      have hvalue := cost_le_length value
      have hrest := membersCost_lt_length rest
      rw [cost, membersCost, write, List.length_cons, List.length_append, List.length_cons,
        List.length_append]
      omega

theorem itemsCost_lt_length : ∀ items : List Document,
    itemsCost items < (writeItems items).length
  | [] => by decide
  | item :: rest => by
      have hitem := cost_le_length item
      have hrest := itemsCost_lt_length rest
      rw [itemsCost, writeItems, List.length_cons, List.length_append]
      omega

theorem membersCost_lt_length : ∀ members : List (String × Document),
    membersCost members < (writeMembers members).length
  | [] => by decide
  | (key, value) :: rest => by
      have hvalue := cost_le_length value
      have hrest := membersCost_lt_length rest
      rw [membersCost, writeMembers, List.length_cons, List.length_append, List.length_cons,
        List.length_append]
      omega

end

/-- With enough fuel the document is read off the front of its text. -/
def Reads (document : Document) : Prop :=
  ∀ fuel rest, cost document ≤ fuel → Ends rest →
    readValue fuel (write document ++ rest) = some (document, rest)

theorem readValue_cons {head : Char} (tail : List Char) (fuel : ℕ)
    (hblank : isBlank head = false) :
    readValue (fuel + 1) (head :: tail) =
      if head = '"' then (readString (head :: tail)).map fun found => (.str found.1, found.2)
      else if head = '[' then
        if (skipBlanks tail).head? = some ']' then some (.array [], (skipBlanks tail).tail)
        else (readItems fuel tail).map fun found => (.array found.1, found.2)
      else if head = '\x7b' then
        if (skipBlanks tail).head? = some '\x7d' then some (.object [], (skipBlanks tail).tail)
        else (readMembers fuel tail).map fun found =>
          (.object (PyDict.ofPairs found.1).entries, found.2)
      else readWord (head :: tail) := by
  rw [readValue, skipBlanks_cons tail hblank]

theorem reads_word {document : Document} (hcost : cost document = 1)
    (hhead : ∃ head tail, write document = head :: tail ∧ isBlank head = false ∧ head ≠ '"' ∧
      head ≠ '[' ∧ head ≠ '\x7b')
    (hword : ∀ rest, Ends rest → readWord (write document ++ rest) = some (document, rest)) :
    Reads document := by
  intro fuel rest hfuel hends
  obtain ⟨less, rfl⟩ : ∃ less, fuel = less + 1 := ⟨fuel - 1, by omega⟩
  obtain ⟨head, tail, hwrite, hblank, hquote, hbracket, hbrace⟩ := hhead
  have hread := hword rest hends
  rw [hwrite, List.cons_append] at hread ⊢
  rw [readValue_cons _ _ hblank, if_neg hquote, if_neg hbracket, if_neg hbrace, hread]

theorem reads_int (value : ℤ) : Reads (.int value) := by
  obtain ⟨head, tail, hchars, hhead⟩ := integerChars_cons value
  obtain ⟨hquote, hbracket, hbrace, -, hnull, htrue, hfalse, hblank⟩ := not_digit_or_sign hhead
  refine reads_word rfl ⟨head, tail, hchars, hblank, hquote, hbracket, hbrace⟩
    fun rest hends => ?_
  have hstarts : ∀ (first : Char) (word : List Char), head ≠ first →
      ¬first :: word <+: integerChars value ++ rest := by
    intro first word hne hword
    rw [hchars, List.cons_append, List.cons_prefix_cons] at hword
    exact hne hword.1.symm
  rw [write, readWord, nullChars, trueChars, falseChars, if_neg (hstarts 'n' _ hnull),
    if_neg (hstarts 't' _ htrue), if_neg (hstarts 'f' _ hfalse), readInteger_written value hends]
  rfl

theorem reads_str (text : String) : Reads (.str text) := by
  intro fuel rest hfuel _
  obtain ⟨less, rfl⟩ : ∃ less, fuel = less + 1 := ⟨fuel - 1, by simp [cost] at hfuel; omega⟩
  have hread := readString_quoted text rest
  rw [write]
  rw [quoted, List.cons_append] at hread ⊢
  rw [readValue_cons _ _ rfl, if_pos rfl, hread]
  rfl

/-- What follows the value of an item or a member. -/
theorem ends_writeItems (items : List Document) (rest : List Char) :
    Ends (writeItems items ++ rest) := by
  cases items <;> exact ends_cons _ (by decide)

theorem ends_writeMembers (members : List (String × Document)) (rest : List Char) :
    Ends (writeMembers members ++ rest) := by
  cases members <;> exact ends_cons _ (by decide)

mutual

theorem reads : ∀ document : Document, Distinct document → Reads document
  | .null, _ => reads_word rfl ⟨_, _, rfl, rfl, by decide⟩ fun _ _ => rfl
  | .bool true, _ => reads_word rfl ⟨_, _, rfl, rfl, by decide⟩ fun _ _ => rfl
  | .bool false, _ => reads_word rfl ⟨_, _, rfl, rfl, by decide⟩ fun _ _ => rfl
  | .int value, _ => reads_int value
  | .str text, _ => reads_str text
  | .array [], _ => by
      intro fuel rest hfuel _
      obtain ⟨less, rfl⟩ : ∃ less, fuel = less + 1 := ⟨fuel - 1, by simp [cost] at hfuel; omega⟩
      rw [write, List.cons_append, readValue_cons _ _ rfl, if_neg (by decide), if_pos rfl]
      rfl
  | .array (item :: items), hdistinct => by
      intro fuel rest hfuel _
      obtain ⟨less, rfl⟩ : ∃ less, fuel = less + 1 := ⟨fuel - 1, by simp [cost] at hfuel; omega⟩
      have hitems := readsItems items hdistinct.2 item (reads item hdistinct.1) less rest
        (by rw [cost] at hfuel; omega)
      obtain ⟨head, tail, hwrite, hblank, hclose⟩ := write_cons item
      have hopen : (skipBlanks (write item ++ (writeItems items ++ rest))).head? ≠ some ']' := by
        rw [skipBlanks_write, hwrite]
        exact fun heq => hclose (Option.some.inj heq)
      rw [write, List.cons_append, List.append_assoc, readValue_cons _ _ rfl,
        if_neg (by decide), if_pos rfl, if_neg hopen, hitems]
      rfl
  | .object [], _ => by
      intro fuel rest hfuel _
      obtain ⟨less, rfl⟩ : ∃ less, fuel = less + 1 := ⟨fuel - 1, by simp [cost] at hfuel; omega⟩
      rw [write, List.cons_append, readValue_cons _ _ rfl, if_neg (by decide), if_neg (by decide),
        if_pos rfl]
      rfl
  | .object ((key, value) :: members), hdistinct => by
      intro fuel rest hfuel _
      obtain ⟨less, rfl⟩ : ∃ less, fuel = less + 1 := ⟨fuel - 1, by simp [cost] at hfuel; omega⟩
      have hmembers := readsMembers members hdistinct.2.2 key value (reads value hdistinct.2.1) less
        rest (by rw [cost] at hfuel; omega)
      have hentries := PyDict.entries_ofPairs hdistinct.1
      have hopen : (skipBlanks (quoted key ++ ':' :: (write value ++
          (writeMembers members ++ rest)))).head? ≠ some '\x7d' := by
        rw [skipBlanks_quoted]
        exact fun heq => absurd (Option.some.inj heq) (by decide)
      rw [write]
      simp only [List.cons_append, List.append_assoc]
      rw [readValue_cons _ _ rfl, if_neg (by decide), if_neg (by decide), if_pos rfl,
        if_neg hopen, hmembers]
      rw [Option.map_some, hentries]

theorem readsItems : ∀ items : List Document, DistinctItems items → ∀ item, Reads item →
    ∀ fuel rest, itemsCost (item :: items) ≤ fuel →
      readItems fuel (write item ++ (writeItems items ++ rest)) = some (item :: items, rest)
  | [], _, item, hitem, fuel, rest, hfuel => by
      obtain ⟨less, rfl⟩ : ∃ less, fuel = less + 1 :=
        ⟨fuel - 1, by simp [itemsCost] at hfuel; omega⟩
      rw [readItems, hitem less _ (by rw [itemsCost] at hfuel; omega) (ends_writeItems [] rest)]
      rfl
  | next :: items, hdistinct, item, hitem, fuel, rest, hfuel => by
      obtain ⟨less, rfl⟩ : ∃ less, fuel = less + 1 :=
        ⟨fuel - 1, by simp [itemsCost] at hfuel; omega⟩
      have hitems := readsItems items hdistinct.2 next (reads next hdistinct.1) less rest
        (by rw [itemsCost] at hfuel; omega)
      rw [readItems, hitem less _ (by rw [itemsCost] at hfuel; omega)
        (ends_writeItems (next :: items) rest), writeItems]
      simp only [Option.bind_eq_bind, Option.bind_some, List.cons_append, List.append_assoc]
      rw [skipBlanks_cons _ rfl]
      dsimp only
      rw [if_pos rfl, hitems]
      rfl

theorem readsMembers : ∀ members : List (String × Document), DistinctValues members →
    ∀ key value, Reads value → ∀ fuel rest, membersCost ((key, value) :: members) ≤ fuel →
      readMembers fuel (quoted key ++ ':' :: (write value ++ (writeMembers members ++ rest))) =
        some ((key, value) :: members, rest)
  | [], _, key, value, hvalue, fuel, rest, hfuel => by
      obtain ⟨less, rfl⟩ : ∃ less, fuel = less + 1 :=
        ⟨fuel - 1, by simp [membersCost] at hfuel; omega⟩
      rw [readMembers, skipBlanks_quoted, readString_quoted]
      simp only [Option.bind_eq_bind, Option.bind_some]
      rw [skipBlanks_cons _ rfl, takeChar_cons, Option.bind_some,
        hvalue less _ (by rw [membersCost] at hfuel; omega) (ends_writeMembers [] rest)]
      rfl
  | (nextKey, next) :: members, hdistinct, key, value, hvalue, fuel, rest, hfuel => by
      obtain ⟨less, rfl⟩ : ∃ less, fuel = less + 1 :=
        ⟨fuel - 1, by simp [membersCost] at hfuel; omega⟩
      have hmembers := readsMembers members hdistinct.2 nextKey next (reads next hdistinct.1) less
        rest (by rw [membersCost] at hfuel; omega)
      rw [readMembers, skipBlanks_quoted, readString_quoted]
      simp only [Option.bind_eq_bind, Option.bind_some]
      rw [skipBlanks_cons _ rfl, takeChar_cons, Option.bind_some,
        hvalue less _ (by rw [membersCost] at hfuel; omega)
          (ends_writeMembers ((nextKey, next) :: members) rest), writeMembers]
      simp only [Option.bind_some, List.cons_append, List.append_assoc]
      rw [skipBlanks_cons _ rfl]
      dsimp only
      rw [if_pos rfl, hmembers]
      rfl

end

/-- A canonical text is read back with its members in key order. -/
theorem loads_canonicalJson {document : Document} (hdistinct : Distinct document) :
    loads (canonicalJson document) = some (sortKeys document) := by
  have hreads := reads (sortKeys document) (distinct_sortKeys document hdistinct)
    ((write (sortKeys document)).length + 1) [] (by
      have hcost := cost_le_length (sortKeys document)
      omega) nofun
  rw [List.append_nil] at hreads
  rw [loads, canonicalJson, String.toList_ofList, hreads]
  rfl

end MatchVet.Foundation.JsonDocument
