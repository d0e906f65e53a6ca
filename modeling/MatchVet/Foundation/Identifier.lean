import MatchVet.Foundation.Delimited

/-!
# Identifiers and digests

Canonical UUIDs and SHA-256 digests by the form of their texts.
-/

namespace MatchVet.Foundation.Identifier

open MatchVet.Foundation.Delimited

def hexDigit (char : Char) : Bool := "0123456789abcdef".toList.contains char

/-- A UUID in canonical lower-case form. -/
def canonicalUuid (text : String) : Bool :=
  text.toList.length = 36 && text.toList.zipIdx.all fun place =>
    if place.2 ∈ [8, 13, 18, 23] then place.1 = '-' else hexDigit place.1

structure Uuid where
  text : String
  canonical : canonicalUuid text = true
  deriving DecidableEq

theorem canonicalUuid_zero : canonicalUuid "00000000-0000-0000-0000-000000000000" = true := by
  decide +kernel

theorem canonicalUuid_one : canonicalUuid "00000000-0000-0000-0000-000000000001" = true := by
  decide +kernel

theorem Uuid.ext_text {first second : Uuid} (htext : first.text = second.text) :
    first = second := by
  obtain ⟨text, hcanonical⟩ := first
  cases htext
  rfl

theorem Uuid.free (uuid : Uuid) : Free ':' uuid.text := by
  intro hmem
  have hall := (Bool.and_eq_true_iff.mp uuid.canonical).2
  obtain ⟨index, hindex, hchar⟩ := List.mem_iff_getElem.mp hmem
  have hplace := List.all_eq_true.mp hall (':', index) (by
    rw [List.mem_zipIdx_iff_getElem?]
    exact List.getElem?_eq_some_iff.mpr ⟨hindex, hchar⟩)
  change (if index ∈ [8, 13, 18, 23] then decide (':' = '-') else hexDigit ':') = true at hplace
  split at hplace
  · exact absurd hplace (by decide)
  · exact absurd hplace (by decide)

/-- The UUID that a text is. -/
def Uuid.ofText? (text : String) : Option Uuid :=
  if hcanonical : canonicalUuid text = true then some ⟨text, hcanonical⟩ else none

@[simp]
theorem Uuid.ofText?_text (uuid : Uuid) : Uuid.ofText? uuid.text = some uuid :=
  dif_pos uuid.canonical

/-- Sixty-four lower-case hexadecimal digits. -/
def isDigest (text : String) : Bool := text.toList.length = 64 && text.toList.all hexDigit

structure Digest where
  text : String
  form : isDigest text = true
  deriving DecidableEq

theorem isDigest_zeros : isDigest (String.ofList (List.replicate 64 '0')) = true := by
  decide +kernel

theorem isDigest_ones : isDigest (String.ofList (List.replicate 64 '1')) = true := by
  decide +kernel

theorem Digest.ext_text {first second : Digest} (htext : first.text = second.text) :
    first = second := by
  obtain ⟨text, hform⟩ := first
  cases htext
  rfl

/-- The digest that a text is. -/
def Digest.ofText? (text : String) : Option Digest :=
  if hform : isDigest text = true then some ⟨text, hform⟩ else none

@[simp]
theorem Digest.ofText?_text (digest : Digest) : Digest.ofText? digest.text = some digest :=
  dif_pos digest.form

end MatchVet.Foundation.Identifier
