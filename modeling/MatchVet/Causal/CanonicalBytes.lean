import Mathlib
import MatchVet.Causal.TrustChain
import MatchVet.Foundation.KeySort

/-!
# Canonical bytes of signed metadata

The canonical text of a document escapes backslashes and quotes and nothing else,
so a string may hold the separators of the grammar.  A text is a sequence of code
points, surrogates among them.  Every canonical text is read off the front of a
longer one in one way only, so equal bytes come from equal documents.
-/

namespace MatchVet.Causal.CanonicalBytes

open MatchVet.Causal.OwnerHistory
open MatchVet.Causal.TrustChain (LoadError)
open MatchVet.Causal.TrustRoles (utf8)
open MatchVet.Foundation.CanonicalJson (Json toNat_injective)
open MatchVet.Foundation.JsonDocument (integerChars naturalChars isDigit padded_digits
  naturalChars_cons readInteger readInteger_written)
open MatchVet.Foundation.KeySort
open MatchVet.Foundation.Runtime (bind_eq_ok forall₂_of_mapM mapM_of_forall)

/-! ## Documents -/

abbrev CodePoint := Fin 0x110000

abbrev Text := List CodePoint

def point (char : Char) : CodePoint :=
  ⟨char.toNat, by rcases char.valid with h | h <;> (unfold Char.toNat; omega)⟩

def points (chars : List Char) : Text := chars.map point

/-- A value of the language as `json` makes it; a float is its 64 bits. -/
inductive Value where
  | null
  | bool (value : Bool)
  | int (value : ℤ)
  | float (bits : BitVec 64)
  | str (text : Text)
  | array (items : List Value)
  | object (members : List (Text × Value))

/-! ## Writing -/

/-- A character inside quotation marks. -/
def escaped (char : CodePoint) : Text :=
  if char = point '\\' then [point '\\', point '\\']
  else if char = point '"' then [point '\\', point '"']
  else [char]

/-- A string with its backslashes and then its quotes escaped. -/
def quote (text : Text) : Text := point '"' :: (text.flatMap escaped ++ [point '"'])

/-- The most digits that `str` writes of an integer. -/
def maxStrDigits : ℕ := 4300

/-- `str(item)` of an integer. -/
def integerText (value : ℤ) : Except OwnerError Text :=
  if (naturalChars value.natAbs).length ≤ maxStrDigits then .ok (points (integerChars value))
  else .error .unexpected

def comma : Text := [point ',']

mutual

/-- `encode` of `_tuf_canonical_bytes`. -/
def encode : Value → Except OwnerError Text
  | .null => .ok (points ['n', 'u', 'l', 'l'])
  | .bool true => .ok (points ['t', 'r', 'u', 'e'])
  | .bool false => .ok (points ['f', 'a', 'l', 's', 'e'])
  | .int value => integerText value
  | .str text => .ok (quote text)
  | .array items => do
      let parts ← encodeItems items
      .ok (point '[' :: (comma.intercalate parts ++ [point ']']))
  | .object members => do
      let fields ← (sortedOn Prod.fst (encodeMembers members)).mapM Prod.snd
      .ok (point '\x7b' :: (comma.intercalate fields ++ [point '\x7d']))
  | .float _ => refuse "TUF canonical JSON forbids floating-point and unsupported values."

def encodeItems : List Value → Except OwnerError (List Text)
  | [] => .ok []
  | item :: rest => do
      let first ← encode item
      let more ← encodeItems rest
      .ok (first :: more)

/-- The field of every key; the fields are joined in key order. -/
def encodeMembers : List (Text × Value) → List (Text × Except OwnerError Text)
  | [] => []
  | (key, value) :: rest =>
      (key, do
        let field ← encode value
        .ok (quote key ++ point ':' :: field)) :: encodeMembers rest

end

/-- A code point that is no surrogate. -/
def scalar? (code : CodePoint) : Option Char :=
  if h : code.val.isValidChar then some (Char.ofNatAux code.val h) else none

/-- `text.encode("utf-8")`; a surrogate has no encoding. -/
def encodeUtf8 (text : Text) : Except OwnerError Bytes :=
  match text.mapM scalar? with
  | some chars => .ok (utf8 (String.ofList chars))
  | none => .error .unexpected

/-- `_tuf_canonical_bytes`. -/
def tufCanonicalBytes (value : Value) : Except OwnerError Bytes := do
  let text ← encode value
  encodeUtf8 text

/-! ## Documents up to the order of their members -/

mutual

/-- The members of every object in key order. -/
def sortKeys : Value → Value
  | .null => .null
  | .bool value => .bool value
  | .int value => .int value
  | .float bits => .float bits
  | .str text => .str text
  | .array items => .array (sortItems items)
  | .object members => .object (sortedOn Prod.fst (sortValues members))

def sortItems : List Value → List Value
  | [] => []
  | item :: rest => sortKeys item :: sortItems rest

def sortValues : List (Text × Value) → List (Text × Value)
  | [] => []
  | (key, value) :: rest => (key, sortKeys value) :: sortValues rest

end

/-- Equal values: they differ at most in the order of their members. -/
def Same (first second : Value) : Prop := sortKeys first = sortKeys second

mutual

/-- No object of the value has a key twice. -/
def Distinct : Value → Prop
  | .array items => DistinctItems items
  | .object members => (members.map Prod.fst).Nodup ∧ DistinctValues members
  | _ => True

def DistinctItems : List Value → Prop
  | [] => True
  | item :: rest => Distinct item ∧ DistinctItems rest

def DistinctValues : List (Text × Value) → Prop
  | [] => True
  | (_, value) :: rest => Distinct value ∧ DistinctValues rest

end

mutual

/-- Is there a float anywhere in the value? -/
def hasFloat : Value → Bool
  | .float _ => true
  | .array items => itemsFloat items
  | .object members => valuesFloat members
  | _ => false

def itemsFloat : List Value → Bool
  | [] => false
  | item :: rest => hasFloat item || itemsFloat rest

def valuesFloat : List (Text × Value) → Bool
  | [] => false
  | (_, value) :: rest => hasFloat value || valuesFloat rest

end

theorem sortValues_eq_map (members : List (Text × Value)) :
    sortValues members = members.map fun member => (member.1, sortKeys member.2) := by
  induction members with
  | nil => rfl
  | cons member rest ih => rw [sortValues, ih, List.map_cons]

/-- The field of one member. -/
def encodeField (member : Text × Value) : Except OwnerError Text := do
  let field ← encode member.2
  .ok (quote member.1 ++ point ':' :: field)

theorem encodeMembers_eq_map (members : List (Text × Value)) :
    encodeMembers members = members.map fun member => (member.1, encodeField member) := by
  induction members with
  | nil => rfl
  | cons member rest ih => rw [encodeMembers, ih, List.map_cons]; rfl

/-- The fields of sorted members are the sorted fields. -/
theorem encodeMembers_sortedOn (members : List (Text × Value)) :
    encodeMembers (sortedOn Prod.fst members) = sortedOn Prod.fst (encodeMembers members) := by
  rw [encodeMembers_eq_map, encodeMembers_eq_map, sortedOn_map]

mutual

/-- The order of the members has no effect on the text. -/
theorem encode_sortKeys : ∀ value : Value, encode (sortKeys value) = encode value
  | .null | .bool _ | .int _ | .float _ | .str _ => rfl
  | .array items => by rw [sortKeys, encode, encode, encodeItems_sortItems items]
  | .object members => by
      rw [sortKeys, encode, encode, encodeMembers_sortedOn, encodeMembers_sortValues members,
        sortedOn_of_pairwise Prod.fst (sortedOn_pairwise Prod.fst (encodeMembers members))]

theorem encodeItems_sortItems : ∀ items : List Value,
    encodeItems (sortItems items) = encodeItems items
  | [] => rfl
  | item :: rest => by
      rw [sortItems, encodeItems, encodeItems, encode_sortKeys item, encodeItems_sortItems rest]

theorem encodeMembers_sortValues : ∀ members : List (Text × Value),
    encodeMembers (sortValues members) = encodeMembers members
  | [] => rfl
  | (key, value) :: rest => by
      rw [sortValues, encodeMembers, encodeMembers, encode_sortKeys value,
        encodeMembers_sortValues rest]

end

theorem tufCanonicalBytes_eq_of_same {first second : Value} (hsame : Same first second) :
    tufCanonicalBytes first = tufCanonicalBytes second := by
  rw [tufCanonicalBytes, ← encode_sortKeys first, hsame, encode_sortKeys, tufCanonicalBytes]

theorem sortedOn_fst_eq_of_perm {α : Type} {first second : List (Text × α)}
    (hperm : first.Perm second) (hkeys : (first.map Prod.fst).Nodup) :
    sortedOn Prod.fst first = sortedOn Prod.fst second :=
  sortedOn_eq_of_perm Prod.fst hperm fun _ hleft _ hright hkey =>
    List.inj_on_of_nodup_map hkeys hleft hright hkey

theorem sortValues_keys (members : List (Text × Value)) :
    (sortValues members).map Prod.fst = members.map Prod.fst := by
  rw [sortValues_eq_map, List.map_map]
  rfl

/-- An object with its members in another order is the same object. -/
theorem same_of_perm {members others : List (Text × Value)} (hperm : members.Perm others)
    (hkeys : (members.map Prod.fst).Nodup) : Same (.object members) (.object others) := by
  have hsorted : (sortValues members).Perm (sortValues others) := by
    rw [sortValues_eq_map, sortValues_eq_map]
    exact hperm.map _
  rw [Same, sortKeys, sortKeys,
    sortedOn_fst_eq_of_perm hsorted (by rw [sortValues_keys]; exact hkeys)]

/-! ## The text of a value in key order -/

mutual

def write : Value → Text
  | .null => points ['n', 'u', 'l', 'l']
  | .bool true => points ['t', 'r', 'u', 'e']
  | .bool false => points ['f', 'a', 'l', 's', 'e']
  | .int value => points (integerChars value)
  | .float _ => []
  | .str text => quote text
  | .array [] => [point '[', point ']']
  | .array (item :: rest) => point '[' :: (write item ++ writeItems rest)
  | .object [] => [point '\x7b', point '\x7d']
  | .object ((key, value) :: rest) =>
      point '\x7b' :: (quote key ++ point ':' :: (write value ++ writeMembers rest))

/-- The further items of an array, to its end. -/
def writeItems : List Value → Text
  | [] => [point ']']
  | item :: rest => point ',' :: (write item ++ writeItems rest)

/-- The further members of an object, to its end. -/
def writeMembers : List (Text × Value) → Text
  | [] => [point '\x7d']
  | (key, value) :: rest =>
      point ',' :: (quote key ++ point ':' :: (write value ++ writeMembers rest))

end

theorem intercalate_comma (first : Text) (rest : List Text) :
    comma.intercalate (first :: rest) = first ++ rest.flatMap fun part => point ',' :: part := by
  induction rest generalizing first with
  | nil => simp [List.intercalate]
  | cons second rest ih =>
      rw [List.intercalate_cons_cons, ih second, List.flatMap_cons, List.append_assoc]
      rfl

theorem writeItems_eq (items : List Value) :
    writeItems items = (items.map write).flatMap (fun part => point ',' :: part) ++ [point ']'] := by
  induction items with
  | nil => rfl
  | cons item rest ih => rw [writeItems, ih]; simp

/-- The text of one member. -/
def writeField (member : Text × Value) : Text := quote member.1 ++ point ':' :: write member.2

theorem writeMembers_eq (members : List (Text × Value)) :
    writeMembers members =
      (members.map writeField).flatMap (fun part => point ',' :: part) ++ [point '\x7d'] := by
  induction members with
  | nil => rfl
  | cons member rest ih => rw [writeMembers, ih]; simp [writeField]

theorem write_array (items : List Value) :
    write (.array items) =
      point '[' :: (comma.intercalate (items.map write) ++ [point ']']) := by
  cases items with
  | nil => rfl
  | cons item rest =>
      rw [write, writeItems_eq, List.map_cons, intercalate_comma, List.append_assoc]

theorem write_object (members : List (Text × Value)) :
    write (.object members) =
      point '\x7b' :: (comma.intercalate (members.map writeField) ++ [point '\x7d']) := by
  cases members with
  | nil => rfl
  | cons member rest =>
      rw [write, writeMembers_eq, List.map_cons, intercalate_comma]
      simp [writeField]

theorem encodeField_eq_ok {member : Text × Value} {field : Text}
    (hfield : encodeField member = .ok field) :
    ∃ text, encode member.2 = .ok text ∧ field = quote member.1 ++ point ':' :: text := by
  obtain ⟨text, htext, heq⟩ := bind_eq_ok.mp hfield
  exact ⟨text, htext, (Except.ok.inj heq).symm⟩

/-- The fields of an object, in key order. -/
theorem fields_eq_write {members : List (Text × Value)} {fields : List Text}
    (hvalues : ∀ member ∈ members, ∀ text, encode member.2 = .ok text →
      text = write (sortKeys member.2))
    (hfields : (sortedOn Prod.fst (encodeMembers members)).mapM Prod.snd = .ok fields) :
    fields = (sortedOn Prod.fst (sortValues members)).map writeField := by
  rw [← encodeMembers_sortedOn, encodeMembers_eq_map, List.mapM_map] at hfields
  rw [sortValues_eq_map, sortedOn_map, List.map_map]
  have hforall := forall₂_of_mapM hfields
  have hmem : ∀ member ∈ sortedOn Prod.fst members, member ∈ members :=
    fun member => (sortedOn_perm Prod.fst members).mem_iff.mp
  clear hfields
  change fields = (sortedOn Prod.fst members).map _
  generalize sortedOn Prod.fst members = sorted at hforall hmem
  induction hforall with
  | nil => rfl
  | cons hhead _ ih =>
      obtain ⟨text, htext, hfield⟩ := encodeField_eq_ok hhead
      have hwrite := hvalues _ (hmem _ List.mem_cons_self) text htext
      rw [List.map_cons, ← ih fun member hmember => hmem member (List.mem_cons_of_mem _ hmember),
        hfield, hwrite]
      rfl

mutual

/-- The text that is encoded is the text of the value with its members in key order. -/
theorem encode_eq_write : ∀ (value : Value) (text : Text), encode value = .ok text →
    text = write (sortKeys value)
  | .null, _, hencode | .bool true, _, hencode | .bool false, _, hencode | .str _, _, hencode =>
      (Except.ok.inj hencode).symm
  | .int value, text, hencode => by
      rw [encode, integerText] at hencode
      split at hencode
      · exact (Except.ok.inj hencode).symm
      · cases hencode
  | .float _, _, hencode => by cases hencode
  | .array items, text, hencode => by
      obtain ⟨parts, hparts, heq⟩ := bind_eq_ok.mp hencode
      rw [sortKeys, write_array, ← encodeItems_eq_write items parts hparts]
      exact (Except.ok.inj heq).symm
  | .object members, text, hencode => by
      obtain ⟨fields, hfields, heq⟩ := bind_eq_ok.mp hencode
      rw [sortKeys, write_object, ← fields_eq_write (encodeMembers_eq_write members) hfields]
      exact (Except.ok.inj heq).symm

theorem encodeItems_eq_write : ∀ (items : List Value) (parts : List Text),
    encodeItems items = .ok parts → parts = (sortItems items).map write
  | [], _, hencode => (Except.ok.inj hencode).symm
  | item :: rest, parts, hencode => by
      obtain ⟨first, hfirst, hencode⟩ := bind_eq_ok.mp hencode
      obtain ⟨more, hmore, heq⟩ := bind_eq_ok.mp hencode
      rw [sortItems, List.map_cons, ← encode_eq_write item first hfirst,
        ← encodeItems_eq_write rest more hmore]
      exact (Except.ok.inj heq).symm

theorem encodeMembers_eq_write : ∀ members : List (Text × Value), ∀ member ∈ members,
    ∀ text, encode member.2 = .ok text → text = write (sortKeys member.2)
  | [], _, hmember, _, _ => absurd hmember List.not_mem_nil
  | (key, value) :: rest, member, hmember, text, hencode => by
      rcases List.mem_cons.mp hmember with rfl | hmember
      · exact encode_eq_write value text hencode
      · exact encodeMembers_eq_write rest member hmember text hencode

end

/-- One field without a text refuses them all. -/
theorem mapM_error_of_mem {fields : List (Text × Except OwnerError Text)}
    {field : Text × Except OwnerError Text} {error : OwnerError} (hfield : field ∈ fields)
    (herror : field.2 = .error error) :
    ∃ other, fields.mapM Prod.snd = .error other := by
  induction fields with
  | nil => cases hfield
  | cons head rest ih =>
      rw [List.mapM_cons]
      cases hhead : head.2 with
      | error other => exact ⟨other, rfl⟩
      | ok first =>
          rcases List.mem_cons.mp hfield with rfl | hfield
          · rw [herror] at hhead
            cases hhead
          · obtain ⟨other, hother⟩ := ih hfield
            exact ⟨other, by rw [hother]; rfl⟩

mutual

/-- What has a float has no text. -/
theorem encode_of_hasFloat : ∀ value : Value, hasFloat value = true →
    ∃ error, encode value = .error error
  | .null, hfloat | .bool _, hfloat | .int _, hfloat | .str _, hfloat => by cases hfloat
  | .float _, _ => ⟨_, rfl⟩
  | .array items, hfloat => by
      obtain ⟨error, herror⟩ := encodeItems_of_itemsFloat items hfloat
      exact ⟨error, by rw [encode, herror]; rfl⟩
  | .object members, hfloat => by
      obtain ⟨field, hfield, error, herror⟩ := encodeMembers_of_valuesFloat members hfloat
      have hmem : field ∈ sortedOn Prod.fst (encodeMembers members) :=
        (sortedOn_perm Prod.fst _).mem_iff.mpr hfield
      obtain ⟨other, hother⟩ := mapM_error_of_mem hmem herror
      exact ⟨other, by rw [encode, hother]; rfl⟩

theorem encodeItems_of_itemsFloat : ∀ items : List Value, itemsFloat items = true →
    ∃ error, encodeItems items = .error error
  | [], hfloat => by cases hfloat
  | item :: rest, hfloat => by
      rw [encodeItems]
      cases hitem : encode item with
      | error error => exact ⟨error, rfl⟩
      | ok first =>
          rw [itemsFloat, Bool.or_eq_true] at hfloat
          rcases hfloat with hfloat | hfloat
          · obtain ⟨error, herror⟩ := encode_of_hasFloat item hfloat
            rw [herror] at hitem
            cases hitem
          · obtain ⟨error, herror⟩ := encodeItems_of_itemsFloat rest hfloat
            exact ⟨error, by rw [herror]; rfl⟩

theorem encodeMembers_of_valuesFloat : ∀ members : List (Text × Value),
    valuesFloat members = true →
      ∃ field ∈ encodeMembers members, ∃ error, field.2 = .error error
  | [], hfloat => by cases hfloat
  | (key, value) :: rest, hfloat => by
      rw [valuesFloat, Bool.or_eq_true] at hfloat
      rw [encodeMembers]
      rcases hfloat with hfloat | hfloat
      · obtain ⟨error, herror⟩ := encode_of_hasFloat value hfloat
        exact ⟨_, List.mem_cons_self, error, by rw [herror]; rfl⟩
      · obtain ⟨field, hfield, herror⟩ := encodeMembers_of_valuesFloat rest hfloat
        exact ⟨field, List.mem_cons_of_mem _ hfield, herror⟩

end

/-! ## Reading a string off the front -/

theorem point_injective : Function.Injective point := by
  intro first second heq
  have hval : first.toNat = second.toNat := Fin.mk.inj heq
  exact toNat_injective hval

theorem points_injective : Function.Injective points := List.map_injective_iff.mpr point_injective

theorem escaped_append_inj {first second : CodePoint} {left right : Text}
    (heq : escaped first ++ left = escaped second ++ right) : first = second ∧ left = right := by
  have hne : point '\\' ≠ point '"' := point_injective.ne (by decide)
  unfold escaped at heq
  split_ifs at heq <;> simp_all

theorem escaped_append_ne_quote (char : CodePoint) (left right : Text) :
    escaped char ++ left ≠ point '"' :: right := by
  have hne : point '\\' ≠ point '"' := point_injective.ne (by decide)
  unfold escaped
  split_ifs <;> simp_all

/-- The characters of a string are known once its closing quotation mark is. -/
theorem body_append_inj : ∀ {first second left right : Text},
    first.flatMap escaped ++ point '"' :: left = second.flatMap escaped ++ point '"' :: right →
      first = second ∧ left = right
  | [], [], _, _, heq => ⟨rfl, (List.cons.inj heq).2⟩
  | [], char :: rest, left, right, heq => by
      rw [List.flatMap_cons, List.append_assoc] at heq
      exact absurd heq.symm (escaped_append_ne_quote char _ left)
  | char :: rest, [], left, right, heq => by
      rw [List.flatMap_cons, List.append_assoc] at heq
      exact absurd heq (escaped_append_ne_quote char _ right)
  | char :: rest, other :: others, left, right, heq => by
      rw [List.flatMap_cons, List.flatMap_cons, List.append_assoc, List.append_assoc] at heq
      obtain ⟨rfl, hrest⟩ := escaped_append_inj heq
      obtain ⟨rfl, htail⟩ := body_append_inj hrest
      exact ⟨rfl, htail⟩

theorem quote_append_inj {first second left right : Text}
    (heq : quote first ++ left = quote second ++ right) : first = second ∧ left = right := by
  unfold quote at heq
  rw [List.cons_append, List.cons_append, List.append_assoc, List.append_assoc] at heq
  exact body_append_inj (List.cons.inj heq).2

/-! ## Reading an integer off the front -/

def numeral (code : CodePoint) : Bool := code = point '-' || (48 ≤ code.val && code.val ≤ 57)

/-- The text does not go on with a digit or a sign. -/
def Stops (text : Text) : Prop := ∀ code ∈ text.head?, numeral code = false

theorem stops_nil : Stops [] := fun _ hcode => by cases hcode

theorem stops_cons {code : CodePoint} {rest : Text} (hcode : numeral code = false) :
    Stops (code :: rest) := fun other hother => by
  obtain rfl := Option.some.inj hother
  exact hcode

theorem numeral_of_isDigit {char : Char} (hdigit : isDigit char = true) :
    numeral (point char) = true := by
  unfold isDigit MatchVet.Foundation.Gregorian.digitValue? at hdigit
  split at hdigit
  next hbounds => simp [numeral, point, hbounds]
  next => cases hdigit

theorem numeral_integer (value : ℤ) : ∀ code ∈ points (integerChars value), numeral code = true := by
  intro code hcode
  obtain ⟨char, hchar, rfl⟩ := List.mem_map.mp hcode
  cases value with
  | ofNat value => exact numeral_of_isDigit (padded_digits _ value char hchar)
  | negSucc value =>
      rcases List.mem_cons.mp hchar with rfl | hchar
      · rfl
      · exact numeral_of_isDigit (padded_digits _ _ char hchar)

theorem takeWhile_numeral (value : ℤ) {rest : Text} (hstops : Stops rest) :
    (points (integerChars value) ++ rest).takeWhile numeral = points (integerChars value) := by
  rw [List.takeWhile_append_of_pos (numeral_integer value)]
  cases rest with
  | nil => rw [List.takeWhile_nil, List.append_nil]
  | cons code rest =>
      rw [List.takeWhile_cons, hstops code rfl]
      exact List.append_nil _

theorem integerChars_injective : Function.Injective integerChars := by
  intro first second heq
  have hends : MatchVet.Foundation.JsonDocument.Ends [] := fun _ hchar => by cases hchar
  have hfirst := readInteger_written first hends
  have hsecond := readInteger_written second hends
  rw [heq, hsecond] at hfirst
  exact (Prod.mk.inj (Option.some.inj hfirst)).1.symm

theorem integer_append_inj {first second : ℤ} {left right : Text} (hleft : Stops left)
    (hright : Stops right)
    (heq : points (integerChars first) ++ left = points (integerChars second) ++ right) :
    first = second ∧ left = right := by
  have htake := congrArg (List.takeWhile numeral) heq
  rw [takeWhile_numeral first hleft, takeWhile_numeral second hright] at htake
  rw [htake] at heq
  exact ⟨integerChars_injective (points_injective htake), List.append_cancel_left heq⟩

/-! ## Reading a value off the front -/

/-- What a text is of, by its first code point. -/
inductive Lead where
  | null
  | yes
  | no
  | number
  | quotation
  | bracket
  | brace
  deriving DecidableEq

def lead (code : CodePoint) : Option Lead :=
  if numeral code then some .number
  else if code = point 'n' then some .null
  else if code = point 't' then some .yes
  else if code = point 'f' then some .no
  else if code = point '"' then some .quotation
  else if code = point '[' then some .bracket
  else if code = point '\x7b' then some .brace
  else none

def Value.lead : Value → Option Lead
  | .null => some .null
  | .bool true => some .yes
  | .bool false => some .no
  | .int _ => some .number
  | .float _ => none
  | .str _ => some .quotation
  | .array _ => some .bracket
  | .object _ => some .brace

/-- The first code point of a text tells the kind of the value. -/
theorem lead_write (value : Value) (hfloat : hasFloat value = false) :
    ∃ code rest, write value = code :: rest ∧ lead code = value.lead ∧ code ≠ point ']' := by
  cases value with
  | null => exact ⟨_, _, rfl, by decide, by decide⟩
  | bool value => cases value <;> exact ⟨_, _, rfl, by decide, by decide⟩
  | int value =>
      have hnumeral := numeral_integer value
      rw [write]
      cases hchars : points (integerChars value) with
      | nil =>
          have hnil : integerChars value = [] := List.map_eq_nil_iff.mp hchars
          cases value with
          | ofNat value =>
              obtain ⟨head, tail, hcons, -⟩ := naturalChars_cons value
              rw [integerChars, hcons] at hnil
              cases hnil
          | negSucc value => cases hnil
      | cons code rest =>
          have hcode := hnumeral code (by rw [hchars]; exact List.mem_cons_self)
          refine ⟨code, rest, rfl, by rw [lead, if_pos hcode]; rfl, ?_⟩
          rintro rfl
          exact absurd hcode (by decide)
  | float bits => cases hfloat
  | str text => exact ⟨_, _, rfl, rfl, by decide⟩
  | array items => exact ⟨_, _, write_array items, rfl, by decide⟩
  | object members => exact ⟨_, _, write_object members, rfl, by decide⟩

theorem lead_eq_of_append {first second : Value} {left right : Text}
    (hfirst : hasFloat first = false) (hsecond : hasFloat second = false)
    (heq : write first ++ left = write second ++ right) : first.lead = second.lead := by
  obtain ⟨code, rest, hwrite, hlead, -⟩ := lead_write first hfirst
  obtain ⟨other, others, hother, hlast, -⟩ := lead_write second hsecond
  rw [hwrite, hother, List.cons_append, List.cons_append] at heq
  rw [← hlead, ← hlast, (List.cons.inj heq).1]

theorem stops_writeItems (items : List Value) (rest : Text) : Stops (writeItems items ++ rest) := by
  cases items <;> exact stops_cons (by decide)

theorem stops_writeMembers (members : List (Text × Value)) (rest : Text) :
    Stops (writeMembers members ++ rest) := by
  rcases members with _ | ⟨⟨key, value⟩, members⟩ <;> exact stops_cons (by decide)

theorem write_append_ne_bracket {value : Value} (hfloat : hasFloat value = false)
    (left right : Text) : write value ++ left ≠ point ']' :: right := by
  obtain ⟨code, rest, hwrite, -, hcode⟩ := lead_write value hfloat
  rw [hwrite, List.cons_append]
  exact fun heq => hcode (List.cons.inj heq).1

theorem quote_append_ne_brace (text left right : Text) :
    quote text ++ left ≠ point '\x7d' :: right := by
  intro heq
  exact absurd (point_injective (List.cons.inj heq).1) (by decide)

mutual

/-- A value is read off the front of a text that does not go on with a digit. -/
theorem write_append_inj : ∀ (first second : Value) (left right : Text),
    hasFloat first = false → hasFloat second = false → Stops left → Stops right →
      write first ++ left = write second ++ right → first = second ∧ left = right
  | .float _, _, _, _, hfloat, _, _, _, _ => by cases hfloat
  | .null, second, left, right, hfirst, hsecond, _, _, heq => by
      have hlead := lead_eq_of_append hfirst hsecond heq
      cases second with
      | null => exact ⟨rfl, List.append_cancel_left heq⟩
      | bool value => cases value <;> cases hlead
      | _ => cases hlead
  | .bool value, second, left, right, hfirst, hsecond, _, _, heq => by
      have hlead := lead_eq_of_append hfirst hsecond heq
      cases second with
      | bool other =>
          cases value with
          | false =>
              cases other with
              | false => exact ⟨rfl, List.append_cancel_left heq⟩
              | true => cases hlead
          | true =>
              cases other with
              | false => cases hlead
              | true => exact ⟨rfl, List.append_cancel_left heq⟩
      | _ => cases value <;> cases hlead
  | .int value, second, left, right, hfirst, hsecond, hleft, hright, heq => by
      have hlead := lead_eq_of_append hfirst hsecond heq
      cases second with
      | int other =>
          obtain ⟨rfl, hrest⟩ := integer_append_inj hleft hright heq
          exact ⟨rfl, hrest⟩
      | bool value => cases value <;> cases hlead
      | _ => cases hlead
  | .str text, second, left, right, hfirst, hsecond, _, _, heq => by
      have hlead := lead_eq_of_append hfirst hsecond heq
      cases second with
      | str other =>
          obtain ⟨rfl, hrest⟩ := quote_append_inj heq
          exact ⟨rfl, hrest⟩
      | bool value => cases value <;> cases hlead
      | _ => cases hlead
  | .array items, second, left, right, hfirst, hsecond, _, _, heq => by
      have hlead := lead_eq_of_append hfirst hsecond heq
      cases second with
      | array others =>
          obtain ⟨rfl, hrest⟩ := array_append_inj items others left right hfirst hsecond heq
          exact ⟨rfl, hrest⟩
      | bool value => cases value <;> cases hlead
      | _ => cases hlead
  | .object members, second, left, right, hfirst, hsecond, _, _, heq => by
      have hlead := lead_eq_of_append hfirst hsecond heq
      cases second with
      | object others =>
          obtain ⟨rfl, hrest⟩ := object_append_inj members others left right hfirst hsecond heq
          exact ⟨rfl, hrest⟩
      | bool value => cases value <;> cases hlead
      | _ => cases hlead

theorem array_append_inj : ∀ (items others : List Value) (left right : Text),
    itemsFloat items = false → itemsFloat others = false →
      write (.array items) ++ left = write (.array others) ++ right →
        items = others ∧ left = right
  | [], [], left, right, _, _, heq => ⟨rfl, List.append_cancel_left heq⟩
  | [], other :: others, left, right, _, hothers, heq => by
      rw [itemsFloat, Bool.or_eq_false_iff] at hothers
      have htail : point ']' :: left = write other ++ (writeItems others ++ right) := by
        rw [← List.append_assoc]
        exact (List.cons.inj heq).2
      exact absurd htail.symm (write_append_ne_bracket hothers.1 _ left)
  | item :: rest, [], left, right, hitems, _, heq => by
      rw [itemsFloat, Bool.or_eq_false_iff] at hitems
      have htail : write item ++ (writeItems rest ++ left) = point ']' :: right := by
        rw [← List.append_assoc]
        exact (List.cons.inj heq).2
      exact absurd htail (write_append_ne_bracket hitems.1 _ right)
  | item :: rest, other :: others, left, right, hitems, hothers, heq => by
      rw [itemsFloat, Bool.or_eq_false_iff] at hitems hothers
      rw [write, write, List.cons_append, List.cons_append, List.append_assoc,
        List.append_assoc] at heq
      obtain ⟨rfl, hrest⟩ := write_append_inj item other _ _ hitems.1 hothers.1
        (stops_writeItems rest left) (stops_writeItems others right) (List.cons.inj heq).2
      obtain ⟨rfl, htail⟩ := writeItems_append_inj rest others left right hitems.2 hothers.2 hrest
      exact ⟨rfl, htail⟩

theorem writeItems_append_inj : ∀ (items others : List Value) (left right : Text),
    itemsFloat items = false → itemsFloat others = false →
      writeItems items ++ left = writeItems others ++ right → items = others ∧ left = right
  | [], [], left, right, _, _, heq => ⟨rfl, (List.cons.inj heq).2⟩
  | [], other :: others, left, right, _, _, heq =>
      absurd (point_injective (List.cons.inj heq).1) (by decide)
  | item :: rest, [], left, right, _, _, heq =>
      absurd (point_injective (List.cons.inj heq).1) (by decide)
  | item :: rest, other :: others, left, right, hitems, hothers, heq => by
      rw [itemsFloat, Bool.or_eq_false_iff] at hitems hothers
      rw [writeItems, writeItems, List.cons_append, List.cons_append, List.append_assoc,
        List.append_assoc] at heq
      obtain ⟨rfl, hrest⟩ := write_append_inj item other _ _ hitems.1 hothers.1
        (stops_writeItems rest left) (stops_writeItems others right) (List.cons.inj heq).2
      obtain ⟨rfl, htail⟩ := writeItems_append_inj rest others left right hitems.2 hothers.2 hrest
      exact ⟨rfl, htail⟩

theorem object_append_inj : ∀ (members others : List (Text × Value)) (left right : Text),
    valuesFloat members = false → valuesFloat others = false →
      write (.object members) ++ left = write (.object others) ++ right →
        members = others ∧ left = right
  | [], [], left, right, _, _, heq => ⟨rfl, List.append_cancel_left heq⟩
  | [], (key, value) :: others, left, right, _, _, heq => by
      have htail : point '\x7d' :: left =
          quote key ++ (point ':' :: (write value ++ writeMembers others) ++ right) := by
        rw [← List.append_assoc]
        exact (List.cons.inj heq).2
      exact absurd htail.symm (quote_append_ne_brace key _ left)
  | (key, value) :: rest, [], left, right, _, _, heq => by
      have htail : quote key ++ (point ':' :: (write value ++ writeMembers rest) ++ left) =
          point '\x7d' :: right := by
        rw [← List.append_assoc]
        exact (List.cons.inj heq).2
      exact absurd htail (quote_append_ne_brace key _ right)
  | (key, value) :: rest, (name, other) :: others, left, right, hmembers, hothers, heq => by
      rw [valuesFloat, Bool.or_eq_false_iff] at hmembers hothers
      rw [write, write, List.cons_append, List.cons_append, List.append_assoc, List.append_assoc,
        List.cons_append, List.cons_append, List.append_assoc, List.append_assoc] at heq
      obtain ⟨rfl, hfields⟩ := quote_append_inj (List.cons.inj heq).2
      obtain ⟨rfl, hrest⟩ := write_append_inj value other _ _ hmembers.1 hothers.1
        (stops_writeMembers rest left) (stops_writeMembers others right) (List.cons.inj hfields).2
      obtain ⟨rfl, htail⟩ :=
        writeMembers_append_inj rest others left right hmembers.2 hothers.2 hrest
      exact ⟨rfl, htail⟩

theorem writeMembers_append_inj : ∀ (members others : List (Text × Value)) (left right : Text),
    valuesFloat members = false → valuesFloat others = false →
      writeMembers members ++ left = writeMembers others ++ right →
        members = others ∧ left = right
  | [], [], left, right, _, _, heq => ⟨rfl, (List.cons.inj heq).2⟩
  | [], (key, value) :: others, left, right, _, _, heq =>
      absurd (point_injective (List.cons.inj heq).1) (by decide)
  | (key, value) :: rest, [], left, right, _, _, heq =>
      absurd (point_injective (List.cons.inj heq).1) (by decide)
  | (key, value) :: rest, (name, other) :: others, left, right, hmembers, hothers, heq => by
      rw [valuesFloat, Bool.or_eq_false_iff] at hmembers hothers
      rw [writeMembers, writeMembers, List.cons_append, List.cons_append, List.append_assoc,
        List.append_assoc, List.cons_append, List.cons_append, List.append_assoc,
        List.append_assoc] at heq
      obtain ⟨rfl, hfields⟩ := quote_append_inj (List.cons.inj heq).2
      obtain ⟨rfl, hrest⟩ := write_append_inj value other _ _ hmembers.1 hothers.1
        (stops_writeMembers rest left) (stops_writeMembers others right) (List.cons.inj hfields).2
      obtain ⟨rfl, htail⟩ :=
        writeMembers_append_inj rest others left right hmembers.2 hothers.2 hrest
      exact ⟨rfl, htail⟩

end

/-! ## Bytes -/

theorem scalar?_eq_some {code : CodePoint} {char : Char} (hscalar : scalar? code = some char) :
    code = point char := by
  unfold scalar? at hscalar
  split at hscalar
  next hvalid =>
    obtain rfl := Option.some.inj hscalar
    rfl
  next => cases hscalar

theorem eq_points_of_mapM : ∀ {text : Text} {chars : List Char},
    text.mapM scalar? = some chars → text = points chars
  | [], _, hchars => by
      obtain rfl := Option.some.inj hchars
      rfl
  | code :: rest, chars, hchars => by
      simp only [List.mapM_cons, Option.bind_eq_bind, Option.bind_eq_some_iff, Option.pure_def,
        Option.some.injEq] at hchars
      obtain ⟨char, hchar, others, hothers, rfl⟩ := hchars
      rw [scalar?_eq_some hchar, eq_points_of_mapM hothers]
      rfl

theorem utf8_injective : Function.Injective utf8 := by
  intro first second heq
  have hdata : first.toUTF8.data = second.toUTF8.data := Array.toList_inj.mp heq
  exact String.toByteArray_inj.mp (ByteArray.ext hdata)

theorem encodeUtf8_inj {first second : Text} {bytes : Bytes}
    (hfirst : encodeUtf8 first = .ok bytes) (hsecond : encodeUtf8 second = .ok bytes) :
    first = second := by
  unfold encodeUtf8 at hfirst hsecond
  split at hfirst
  next chars hchars =>
    split at hsecond
    next others hothers =>
      have hbytes := (Except.ok.inj hfirst).trans (Except.ok.inj hsecond).symm
      rw [eq_points_of_mapM hchars, eq_points_of_mapM hothers,
        String.ofList_injective (utf8_injective hbytes)]
    next => cases hsecond
  next => cases hfirst

/-- Bytes tell the value they were written for, up to the order of its members. -/
theorem same_of_bytes {first second : Value} {bytes : Bytes}
    (hfirst : tufCanonicalBytes first = .ok bytes)
    (hsecond : tufCanonicalBytes second = .ok bytes) : Same first second := by
  obtain ⟨text, htext, hbytes⟩ := bind_eq_ok.mp hfirst
  obtain ⟨other, hother, hothers⟩ := bind_eq_ok.mp hsecond
  obtain rfl := encodeUtf8_inj hbytes hothers
  have hfloat : ∀ value, encode value = .ok text → hasFloat (sortKeys value) = false := by
    intro value hvalue
    refine Bool.eq_false_iff.mpr fun htrue => ?_
    obtain ⟨error, herror⟩ := encode_of_hasFloat _ htrue
    rw [encode_sortKeys, hvalue] at herror
    cases herror
  have hwrite := (encode_eq_write first text htext).symm.trans (encode_eq_write second text hother)
  exact (write_append_inj _ _ [] [] (hfloat first htext) (hfloat second hother) stops_nil stops_nil
    (by rw [hwrite])).1

/-! ## Parsing -/

/-- A document as the scanner meets it, where an object may repeat a key. -/
inductive RawValue where
  | null
  | bool (value : Bool)
  | int (value : ℤ)
  | float (bits : BitVec 64)
  | constant (name : String)
  | str (text : Text)
  | array (items : List RawValue)
  | object (pairs : List (Text × RawValue))

/-- One round of the loop of `_unique_object`. -/
def addUnique (value : List (Text × Value)) (pair : Text × Value) :
    Except OwnerError (List (Text × Value)) :=
  if pair.1 ∈ value.map Prod.fst then refuse "Duplicate JSON key in Sigstore TUF metadata."
  else .ok (value ++ [pair])

/-- `_unique_object`. -/
def uniqueObject (pairs : List (Text × Value)) : Except OwnerError (List (Text × Value)) :=
  pairs.foldlM addUnique []

mutual

/-- A scanned document with `_unique_object` and `_bad_constant` as hooks. -/
def build : RawValue → Except OwnerError Value
  | .null => .ok .null
  | .bool value => .ok (.bool value)
  | .int value => .ok (.int value)
  | .float bits => .ok (.float bits)
  | .constant name => refuse ("Invalid non-finite TUF JSON number " ++ name ++ ".")
  | .str text => .ok (.str text)
  | .array items => do
      let built ← buildItems items
      .ok (.array built)
  | .object pairs => do
      let built ← buildPairs pairs
      let members ← uniqueObject built
      .ok (.object members)

def buildItems : List RawValue → Except OwnerError (List Value)
  | [] => .ok []
  | item :: rest => do
      let first ← build item
      let more ← buildItems rest
      .ok (first :: more)

def buildPairs : List (Text × RawValue) → Except OwnerError (List (Text × Value))
  | [] => .ok []
  | (key, item) :: rest => do
      let first ← build item
      let more ← buildPairs rest
      .ok ((key, first) :: more)

end

def textOf (text : String) : Text := points text.toList

namespace Value

/-- `value.get(key)` of an object. -/
def get? (value : Value) (key : String) : Option Value :=
  match value with
  | object members => members.lookup (textOf key)
  | _ => none

def isObject : Value → Bool
  | object _ => true
  | _ => false

end Value

section
variable (scan : Bytes → Except LoadError RawValue)

/-- `_parse_json_object`, where `scan` reads the grammar of JSON. -/
def parseJsonObject (content : Bytes) (label : String) : Except OwnerError Value :=
  match scan content with
  | .error .malformed => refuse ("Sigstore " ++ label ++ " is malformed JSON.")
  | .error .other => .error .unexpected
  | .ok raw =>
      match build raw with
      | .error _ => refuse ("Sigstore " ++ label ++ " is malformed JSON.")
      | .ok value =>
          if value.isObject then .ok value
          else refuse ("Sigstore " ++ label ++ " is not a JSON object.")

/-- `_parse_json`. -/
def parseJson (content : Bytes) (label : String) : Except OwnerError Value := do
  let value ← parseJsonObject scan content label
  if (value.get? "signed").any Value.isObject then .ok value
  else refuse ("Sigstore " ++ label ++ " is not signed TUF JSON.")

/-- The signature verifies under the key for the canonical bytes of the signed object. -/
def ValidSignature (verifyEcdsa : Bytes → Bytes → Bytes → Except OwnerError Bool)
    (key : Bytes) (signed : Value) (signature : Bytes) : Prop :=
  ∃ message, tufCanonicalBytes signed = .ok message ∧
    verifyEcdsa key message signature = .ok true

end

/-! ## Parsed documents repeat no key -/

theorem addUnique_eq_ok {value result : List (Text × Value)} {pair : Text × Value}
    (hadd : addUnique value pair = .ok result) :
    pair.1 ∉ value.map Prod.fst ∧ result = value ++ [pair] := by
  unfold addUnique at hadd
  split at hadd
  next => cases hadd
  next hfresh => exact ⟨hfresh, (Except.ok.inj hadd).symm⟩

theorem foldlM_addUnique : ∀ {pairs value result : List (Text × Value)},
    (value.map Prod.fst).Nodup → pairs.foldlM addUnique value = .ok result →
      (result.map Prod.fst).Nodup ∧ result = value ++ pairs
  | [], value, result, hvalue, hfold => by
      obtain rfl := Except.ok.inj hfold
      exact ⟨hvalue, (List.append_nil _).symm⟩
  | pair :: rest, value, result, hvalue, hfold => by
      rw [List.foldlM_cons] at hfold
      obtain ⟨next, hnext, hrest⟩ := bind_eq_ok.mp hfold
      obtain ⟨hfresh, rfl⟩ := addUnique_eq_ok hnext
      have hnodup : ((value ++ [pair]).map Prod.fst).Nodup := by
        rw [List.map_append, List.nodup_append]
        refine ⟨hvalue, List.nodup_singleton _, ?_⟩
        intro key hkey other hother heq
        rw [List.mem_singleton.mp hother] at heq
        exact hfresh (heq ▸ hkey)
      obtain ⟨hresult, heq⟩ := foldlM_addUnique hnodup hrest
      exact ⟨hresult, by rw [heq, List.append_assoc, List.singleton_append]⟩

theorem uniqueObject_eq_ok {pairs members : List (Text × Value)}
    (hunique : uniqueObject pairs = .ok members) :
    (members.map Prod.fst).Nodup ∧ members = pairs := by
  have hnil : (([] : List (Text × Value)).map Prod.fst).Nodup := List.nodup_nil
  exact foldlM_addUnique hnil hunique

mutual

/-- What the hooks return has no object with a key twice. -/
theorem distinct_build : ∀ (raw : RawValue) (value : Value), build raw = .ok value → Distinct value
  | .null, _, hbuild | .bool _, _, hbuild | .int _, _, hbuild | .float _, _, hbuild
  | .str _, _, hbuild => by
      obtain rfl := Except.ok.inj hbuild
      trivial
  | .constant _, _, hbuild => by cases hbuild
  | .array items, value, hbuild => by
      obtain ⟨built, hbuilt, heq⟩ := bind_eq_ok.mp hbuild
      obtain rfl := Except.ok.inj heq
      exact distinct_buildItems items built hbuilt
  | .object pairs, value, hbuild => by
      obtain ⟨built, hbuilt, hbuild⟩ := bind_eq_ok.mp hbuild
      obtain ⟨members, hmembers, heq⟩ := bind_eq_ok.mp hbuild
      obtain rfl := Except.ok.inj heq
      obtain ⟨hkeys, rfl⟩ := uniqueObject_eq_ok hmembers
      exact ⟨hkeys, distinct_buildPairs pairs members hbuilt⟩

theorem distinct_buildItems : ∀ (raws : List RawValue) (items : List Value),
    buildItems raws = .ok items → DistinctItems items
  | [], _, hbuild => by
      obtain rfl := Except.ok.inj hbuild
      trivial
  | raw :: rest, items, hbuild => by
      obtain ⟨first, hfirst, hbuild⟩ := bind_eq_ok.mp hbuild
      obtain ⟨more, hmore, heq⟩ := bind_eq_ok.mp hbuild
      obtain rfl := Except.ok.inj heq
      exact ⟨distinct_build raw first hfirst, distinct_buildItems rest more hmore⟩

theorem distinct_buildPairs : ∀ (raws : List (Text × RawValue)) (pairs : List (Text × Value)),
    buildPairs raws = .ok pairs → DistinctValues pairs
  | [], _, hbuild => by
      obtain rfl := Except.ok.inj hbuild
      trivial
  | (key, raw) :: rest, pairs, hbuild => by
      obtain ⟨first, hfirst, hbuild⟩ := bind_eq_ok.mp hbuild
      obtain ⟨more, hmore, heq⟩ := bind_eq_ok.mp hbuild
      obtain rfl := Except.ok.inj heq
      exact ⟨distinct_build raw first hfirst, distinct_buildPairs rest more hmore⟩

end

theorem distinct_parseJsonObject {scan : Bytes → Except LoadError RawValue} {content : Bytes}
    {label : String} {value : Value} (hparse : parseJsonObject scan content label = .ok value) :
    Distinct value := by
  unfold parseJsonObject at hparse
  split at hparse
  next => cases hparse
  next => cases hparse
  next raw _ =>
    split at hparse
    next => cases hparse
    next built hbuild =>
      split at hparse
      next =>
        obtain rfl := Except.ok.inj hparse
        exact distinct_build raw built hbuild
      next => cases hparse

theorem distinct_parseJson {scan : Bytes → Except LoadError RawValue} {content : Bytes}
    {label : String} {value : Value} (hparse : parseJson scan content label = .ok value) :
    Distinct value ∧ ∃ signed, value.get? "signed" = some signed ∧ signed.isObject = true := by
  obtain ⟨found, hfound, hsigned⟩ := bind_eq_ok.mp hparse
  split at hsigned
  next hobject =>
    obtain rfl := Except.ok.inj hsigned
    refine ⟨distinct_parseJsonObject hfound, ?_⟩
    cases hget : found.get? "signed" with
    | none =>
        rw [hget] at hobject
        cases hobject
    | some signed =>
        rw [hget] at hobject
        exact ⟨signed, rfl, hobject⟩
  next => cases hsigned

/-! ## The documents of the trust chain -/

section
variable (round : ℚ → BitVec 64)

mutual

/-- A document whose texts have no surrogates and whose numbers `round` reads. -/
def ofJson : Json → Value
  | .null => .null
  | .bool value => .bool value
  | .int value => .int value
  | .number value => .float (round value)
  | .str text => .str (textOf text)
  | .array items => .array (ofItems items)
  | .object members => .object (ofMembers members)

def ofItems : List Json → List Value
  | [] => []
  | item :: rest => ofJson item :: ofItems rest

def ofMembers : List (String × Json) → List (Text × Value)
  | [] => []
  | (key, value) :: rest => (textOf key, ofJson value) :: ofMembers rest

end

theorem points_strictMono : StrictMono points := by
  intro first second hlt
  change List.Lex (· < ·) first second at hlt
  change List.Lex (· < ·) (points first) (points second)
  induction hlt with
  | nil => exact .nil
  | cons _ ih => exact .cons ih
  | rel hchar => exact .rel hchar

theorem textOf_le_iff {first second : String} : textOf first ≤ textOf second ↔ first ≤ second := by
  rw [textOf, textOf, points_strictMono.le_iff_le, String.le_iff_toList_le]

theorem quote_textOf (text : String) : quote (textOf text) = points (TrustRoles.quote text) := by
  have hbody : ∀ chars : List Char, (points chars).flatMap escaped =
      points (chars.flatMap fun char =>
        if char = '\\' then ['\\', '\\'] else if char = '"' then ['\\', '"'] else [char]) := by
    intro chars
    induction chars with
    | nil => rfl
    | cons char rest ih =>
        have hrest : (points rest).flatMap escaped = _ := ih
        rw [points, List.map_cons, List.flatMap_cons, List.flatMap_cons, points, List.map_append]
        refine congrArg₂ (· ++ ·) ?_ hrest
        simp only [escaped, point_injective.eq_iff]
        split_ifs <;> rfl
  rw [quote, textOf, hbody, TrustRoles.quote]
  simp [points]

theorem comma_intercalate (parts : List (List Char)) :
    comma.intercalate (parts.map points) = points ([','].intercalate parts) := by
  induction parts with
  | nil => rfl
  | cons first rest ih =>
      cases rest with
      | nil => simp [List.intercalate]
      | cons second rest =>
          rw [List.map_cons, List.map_cons, List.intercalate_cons_cons,
            List.intercalate_cons_cons, ← List.map_cons, ih]
          simp [points, comma]

/-- A field that has a text, as the trust chain keeps it. -/
def written (entry : String × List Char) : Text × Except OwnerError Text :=
  (textOf entry.1, .ok (points entry.2))

theorem sortedOn_written (entries : List (String × List Char)) :
    (sortedOn Prod.fst (entries.map written)).mapM Prod.snd =
      .ok (((entries.insertionSort TrustRoles.KeyLE).map Prod.snd).map points) := by
  have hsorted : (entries.insertionSort TrustRoles.KeyLE).map written =
      sortedOn Prod.fst (entries.map written) :=
    List.map_insertionSort TrustRoles.KeyLE _ written entries fun _ _ _ _ => textOf_le_iff.symm
  rw [← hsorted, List.mapM_map, List.map_map]
  exact mapM_of_forall fun _ _ => rfl

/-- Every field of a list that is read has a text. -/
theorem exists_ok_of_mapM {fields : List (Text × Except OwnerError Text)} {texts : List Text}
    (hfields : (sortedOn Prod.fst fields).mapM Prod.snd = .ok texts) :
    ∀ field ∈ fields, ∃ text, field.2 = .ok text := by
  intro field hfield
  cases hcall : field.2 with
  | ok text => exact ⟨text, rfl⟩
  | error error =>
      have hmem := (sortedOn_perm Prod.fst fields).mem_iff.mpr hfield
      obtain ⟨other, hother⟩ := mapM_error_of_mem hmem hcall
      rw [hfields] at hother
      cases hother

mutual

theorem encode_ofJson : ∀ (json : Json) (text : Text), encode (ofJson round json) = .ok text →
    ∃ chars, TrustRoles.encode json = some chars ∧ text = points chars
  | .null, _, hencode | .bool true, _, hencode | .bool false, _, hencode =>
      ⟨_, rfl, (Except.ok.inj hencode).symm⟩
  | .int value, text, hencode => by
      rw [ofJson, encode, integerText] at hencode
      split at hencode
      · exact ⟨_, rfl, (Except.ok.inj hencode).symm⟩
      · cases hencode
  | .number _, _, hencode => by cases hencode
  | .str content, text, hencode =>
      ⟨_, rfl, (Except.ok.inj hencode).symm.trans (quote_textOf content)⟩
  | .array items, text, hencode => by
      obtain ⟨parts, hparts, heq⟩ := bind_eq_ok.mp hencode
      obtain ⟨chars, hchars, rfl⟩ := encodeItems_ofItems items parts hparts
      refine ⟨_, by rw [TrustRoles.encode, hchars]; rfl, ?_⟩
      rw [← Except.ok.inj heq, comma_intercalate]
      simp [points]
  | .object members, text, hencode => by
      obtain ⟨fields, hfields, heq⟩ := bind_eq_ok.mp hencode
      obtain ⟨entries, hentries, hwritten⟩ :=
        encodeMembers_ofMembers members (exists_ok_of_mapM hfields)
      refine ⟨_, by rw [TrustRoles.encode, hentries]; rfl, ?_⟩
      rw [hwritten, sortedOn_written] at hfields
      rw [← Except.ok.inj heq, ← Except.ok.inj hfields, comma_intercalate]
      simp [points]

theorem encodeItems_ofItems : ∀ (items : List Json) (parts : List Text),
    encodeItems (ofItems round items) = .ok parts →
      ∃ chars, TrustRoles.encodeItems items = some chars ∧ parts = chars.map points
  | [], _, hencode => ⟨[], rfl, (Except.ok.inj hencode).symm⟩
  | item :: rest, parts, hencode => by
      obtain ⟨first, hfirst, hencode⟩ := bind_eq_ok.mp hencode
      obtain ⟨more, hmore, heq⟩ := bind_eq_ok.mp hencode
      obtain ⟨chars, hchars, rfl⟩ := encode_ofJson item first hfirst
      obtain ⟨others, hothers, rfl⟩ := encodeItems_ofItems rest more hmore
      exact ⟨chars :: others, by rw [TrustRoles.encodeItems, hchars, hothers]; rfl,
        (Except.ok.inj heq).symm⟩

theorem encodeMembers_ofMembers : ∀ members : List (String × Json),
    (∀ field ∈ encodeMembers (ofMembers round members), ∃ text, field.2 = .ok text) →
      ∃ entries, TrustRoles.encodeMembers members = some entries ∧
        encodeMembers (ofMembers round members) = entries.map written
  | [], _ => ⟨[], rfl, rfl⟩
  | (key, value) :: rest, hfields => by
      rw [ofMembers, encodeMembers] at hfields ⊢
      obtain ⟨⟨text, htext⟩, hrest⟩ := List.forall_mem_cons.mp hfields
      obtain ⟨field, hfield, -⟩ := bind_eq_ok.mp htext
      obtain ⟨chars, hchars, rfl⟩ := encode_ofJson value field hfield
      obtain ⟨entries, hentries, hwritten⟩ := encodeMembers_ofMembers rest hrest
      refine ⟨(key, TrustRoles.quote key ++ ':' :: chars) :: entries,
        by rw [TrustRoles.encodeMembers, hchars, hentries]; rfl, ?_⟩
      rw [hwritten, hfield, quote_textOf]
      simp [written, points]
      rfl

end

theorem mapM_scalar?_points (chars : List Char) : (points chars).mapM scalar? = some chars := by
  induction chars with
  | nil => rfl
  | cons char rest ih =>
      have hchar : scalar? (point char) = some char := by
        rw [scalar?, dif_pos (show (point char).val.isValidChar from char.valid)]
        rfl
      rw [points, List.map_cons, List.mapM_cons, hchar]
      change (do let others ← (points rest).mapM scalar?; pure (char :: others)) = _
      rw [ih]
      rfl

/-- The bytes of a document are those that the trust chain verifies. -/
theorem tufCanonicalBytes_ofJson {json : Json} {bytes : Bytes}
    (hbytes : tufCanonicalBytes (ofJson round json) = .ok bytes) :
    TrustRoles.tufCanonicalBytes json = .ok bytes := by
  obtain ⟨text, htext, hencode⟩ := bind_eq_ok.mp hbytes
  obtain ⟨chars, hchars, rfl⟩ := encode_ofJson round json text htext
  rw [encodeUtf8, mapM_scalar?_points] at hencode
  rw [TrustRoles.tufCanonicalBytes, hchars]
  exact hencode

end

/-! ## Canonical bytes are injective -/

/-- A signature is valid under a key for one message only. -/
def Binding (verifyEcdsa : Bytes → Bytes → Bytes → Except OwnerError Bool) : Prop :=
  ∀ key first second signature, verifyEcdsa key first signature = .ok true →
    verifyEcdsa key second signature = .ok true → first = second

namespace Reordered

def name : Value := .str (textOf "a\",\"b")

def count : Value := .int (-12)

def members : List (Text × Value) := [(textOf "x", name), (textOf "y\\", count)]

def rawMembers : List (Text × RawValue) :=
  [(textOf "x", .str (textOf "a\",\"b")), (textOf "y\\", .int (-12))]

/-- The two orders of the members of one signed object. -/
def scan (content : Bytes) : Except LoadError RawValue :=
  .ok (.object [(textOf "signed",
    .object (if content = [] then rawMembers else rawMembers.reverse))])

/-- A message is its own signature. -/
def verifyEcdsa (_ message signature : Bytes) : Except OwnerError Bool :=
  .ok (message = signature)

def message : Bytes := utf8 "\x7b\"x\":\"a\\\",\\\"b\",\"y\\\\\":-12\x7d"

end Reordered

end MatchVet.Causal.CanonicalBytes
