import Mathlib.Data.List.Forall2
import MatchVet.Foundation.CanonicalJson

/-!
# Equality of parsed values

Parsed values are compared by the runtime's equality: numbers by value, whatever
their type, and the rest by structure.  Members are kept in key order, so equal
objects list equal members.
-/

namespace MatchVet.Foundation.JsonEquality

open MatchVet.Foundation.CanonicalJson

namespace Json

def numeric? : Json → Option ℚ
  | .bool value => some (if value then 1 else 0)
  | .int value => some value
  | .number value => some value
  | _ => none

mutual

/-- The runtime's `==` on parsed values. -/
def same : Json → Json → Bool
  | .null, .null => true
  | .str first, .str second => first = second
  | .array first, .array second => sameItems first second
  | .object first, .object second => sameMembers first second
  | .null, _ | .str _, _ | .array _, _ | .object _, _ => false
  | first, second => (numeric? second).isSome && numeric? first = numeric? second

def sameItems : List Json → List Json → Bool
  | [], [] => true
  | first :: rest, second :: others => same first second && sameItems rest others
  | _, _ => false

def sameMembers : List (String × Json) → List (String × Json) → Bool
  | [], [] => true
  | (name, first) :: rest, (other, second) :: others =>
      (name = other && same first second) && sameMembers rest others
  | _, _ => false

end

/-- `value[key]` of an object that has the key. -/
def field (value : Json) (key : String) : Json := (value.get? key).getD .null

def isObject : Json → Bool
  | .object _ => true
  | _ => false

def isNull : Json → Bool
  | .null => true
  | _ => false

/-- `set(value) == names` for an object. -/
def hasFields (value : Json) (names : List String) : Bool :=
  isObject value && (value.members.all fun member => names.contains member.1) &&
    names.all fun name => (value.get? name).isSome

end Json

open Json

attribute [local simp] same sameItems sameMembers

theorem isNull_eq_true {value : Json} : isNull value = true ↔ value = .null := by
  cases value <;> simp [isNull]

/-! ## Constants -/

theorem same_null {value : Json} (hsame : same .null value = true) : value = .null := by
  cases value <;> simp_all [same]

theorem same_str {content : String} {value : Json} (hsame : same (.str content) value = true) :
    value = .str content := by
  cases value <;> simp_all [same]

theorem same_str_right {content : String} {value : Json}
    (hsame : same value (.str content) = true) : value = .str content := by
  cases value <;> simp_all [same, numeric?]

theorem same_null_right {value : Json} (hsame : same value .null = true) : value = .null := by
  cases value <;> simp_all [same, numeric?]

theorem numeric?_of_same {first second : Json} {number : ℚ}
    (hnumber : numeric? second = some number) (hsame : same first second = true) :
    numeric? first = some number := by
  cases first <;> cases second <;> simp_all [same, numeric?]

mutual

theorem same_refl : ∀ value : Json, same value value = true
  | .null | .bool _ | .int _ | .number _ => by simp [numeric?]
  | .str content => by simp
  | .array items => by
      rw [same]
      exact sameItems_refl items
  | .object members => by
      rw [same]
      exact sameMembers_refl members

theorem sameItems_refl : ∀ items : List Json, sameItems items items = true
  | [] => rfl
  | item :: rest => by
      rw [sameItems, same_refl item, sameItems_refl rest]
      rfl

theorem sameMembers_refl : ∀ members : List (String × Json), sameMembers members members = true
  | [] => rfl
  | (name, value) :: rest => by
      rw [sameMembers, same_refl value, sameMembers_refl rest]
      simp

end

/-! ## Structures -/

theorem sameItems_iff {first second : List Json} :
    sameItems first second = true ↔
      List.Forall₂ (fun item other => same item other = true) first second := by
  induction first generalizing second with
  | nil => cases second <;> simp [sameItems]
  | cons item rest ih =>
      cases second with
      | nil => simp [sameItems]
      | cons other others => simp [sameItems, ih]

theorem same_array {first : List Json} {value : Json} (hsame : same (.array first) value = true) :
    ∃ second, value = .array second ∧
      List.Forall₂ (fun item other => same item other = true) first second := by
  cases value with
  | array second => exact ⟨second, rfl, sameItems_iff.mp (by simpa only [same] using hsame)⟩
  | null | bool _ | int _ | number _ | str _ | object _ => simp [same] at hsame

theorem same_array_right {second : List Json} {value : Json}
    (hsame : same value (.array second) = true) :
    ∃ first, value = .array first ∧
      List.Forall₂ (fun item other => same item other = true) first second := by
  cases value with
  | array first => exact ⟨first, rfl, sameItems_iff.mp (by simpa only [same] using hsame)⟩
  | null | bool _ | int _ | number _ | str _ | object _ => simp [same, numeric?] at hsame

theorem same_object {first : List (String × Json)} {value : Json}
    (hsame : same (.object first) value = true) :
    ∃ second, value = .object second ∧ sameMembers first second = true := by
  cases value with
  | object second => exact ⟨second, rfl, by simpa only [same] using hsame⟩
  | null | bool _ | int _ | number _ | str _ | array _ => simp [same] at hsame

theorem lookup_of_sameMembers {first second : List (String × Json)} {key : String}
    {value : Json} (hmembers : sameMembers first second = true)
    (hlookup : first.lookup key = some value) :
    ∃ other, second.lookup key = some other ∧ same value other = true := by
  induction first generalizing second with
  | nil => cases hlookup
  | cons member rest ih =>
      cases second with
      | nil => simp [sameMembers] at hmembers
      | cons entry others =>
          obtain ⟨name, item⟩ := member
          obtain ⟨other, answer⟩ := entry
          simp only [sameMembers, Bool.and_eq_true, decide_eq_true_eq] at hmembers
          obtain ⟨⟨rfl, hsame⟩, hrest⟩ := hmembers
          by_cases hkey : key = name
          · subst hkey
            rw [List.lookup_cons_self] at hlookup
            cases hlookup
            exact ⟨answer, List.lookup_cons_self, hsame⟩
          · have hfalse : (key == name) = false := beq_eq_false_iff_ne.mpr hkey
            rw [List.lookup_cons, hfalse] at hlookup
            obtain ⟨found, hfound, hagree⟩ := ih hrest hlookup
            refine ⟨found, ?_, hagree⟩
            rw [List.lookup_cons, hfalse]
            exact hfound

/-- Equal objects have equal fields. -/
theorem same_field {first second : Json} {key : String} {value : Json}
    (hsame : same first second = true) (hfield : first.get? key = some value) :
    ∃ other, second.get? key = some other ∧ same value other = true := by
  cases first with
  | object members =>
      obtain ⟨entries, rfl, hmembers⟩ := same_object hsame
      exact lookup_of_sameMembers hmembers hfield
  | null | bool _ | int _ | number _ | str _ | array _ => cases hfield

theorem field_of_get? {value answer : Json} {key : String} (hget : value.get? key = some answer) :
    field value key = answer := by
  rw [field, hget]
  rfl

/-- An object with exactly some fields has each of them. -/
theorem get?_of_hasFields {value : Json} {names : List String}
    (hfields : hasFields value names = true) {name : String} (hname : name ∈ names) :
    value.get? name = some (field value name) := by
  rw [hasFields, Bool.and_eq_true, List.all_eq_true] at hfields
  obtain ⟨answer, hanswer⟩ := Option.isSome_iff_exists.mp (hfields.2 name hname)
  rw [hanswer, field_of_get? hanswer]

theorem same_field_of_hasFields {first second : Json} {names : List String}
    (hfields : hasFields first names = true) (hsame : same first second = true) {name : String}
    (hname : name ∈ names) : same (field first name) (field second name) = true := by
  obtain ⟨other, hother, hagree⟩ := same_field hsame (get?_of_hasFields hfields hname)
  rw [field_of_get? hother]
  exact hagree

theorem keys_of_sameMembers {first second : List (String × Json)}
    (hmembers : sameMembers first second = true) :
    second.map Prod.fst = first.map Prod.fst := by
  induction first generalizing second with
  | nil =>
      cases second with
      | nil => rfl
      | cons => simp [sameMembers] at hmembers
  | cons member rest ih =>
      cases second with
      | nil => simp [sameMembers] at hmembers
      | cons entry others =>
          simp only [sameMembers, Bool.and_eq_true, decide_eq_true_eq] at hmembers
          rw [List.map_cons, List.map_cons, ih hmembers.2, hmembers.1.1]

/-- Equal objects have the same field names. -/
theorem hasFields_of_same {first second : Json} {names : List String}
    (hfields : hasFields first names = true) (hsame : same first second = true) :
    hasFields second names = true := by
  have hall := hfields
  rw [hasFields, Bool.and_eq_true, Bool.and_eq_true] at hfields
  obtain ⟨⟨hobject, hknown⟩, hnames⟩ := hfields
  cases first with
  | object members =>
      obtain ⟨entries, rfl, hmembers⟩ := same_object hsame
      rw [hasFields, Bool.and_eq_true, Bool.and_eq_true]
      refine ⟨⟨rfl, ?_⟩, ?_⟩
      · have hkeys := keys_of_sameMembers hmembers
        rw [List.all_eq_true] at hknown ⊢
        intro entry hentry
        have hkey : entry.1 ∈ members.map Prod.fst := by
          rw [← hkeys]
          exact List.mem_map_of_mem hentry
        obtain ⟨member, hmember, heq⟩ := List.mem_map.mp hkey
        rw [← heq]
        exact hknown member hmember
      · rw [List.all_eq_true]
        intro name hname
        obtain ⟨other, hother, -⟩ := same_field hsame (get?_of_hasFields hall hname)
        rw [hother]
        rfl
  | null | bool _ | int _ | number _ | str _ | array _ => cases hobject

end MatchVet.Foundation.JsonEquality
