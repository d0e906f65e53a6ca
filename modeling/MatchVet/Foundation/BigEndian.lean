import Mathlib.Data.List.Induction
import Mathlib.Data.Nat.Size
import Mathlib.Tactic.Linarith
import Mathlib.Tactic.Positivity
import Mathlib.Tactic.Ring

/-!
# Big-endian integers

Numbers as byte strings with the highest byte first: unsigned numbers of a given
width, the width that a number takes, and two's complement with its shortest
encodings.
-/

namespace MatchVet.Foundation.BigEndian

abbrev Bytes := List UInt8

/-! ## Unsigned numbers -/

/-- `int.from_bytes(raw, "big")`. -/
def fromBytes (raw : Bytes) : ℕ := raw.foldl (fun value byte => value * 256 + byte.toNat) 0

/-- `value.to_bytes(width, "big")` of a number that fits. -/
def toBytes : ℕ → ℕ → Bytes
  | 0, _ => []
  | width + 1, value => toBytes width (value / 256) ++ [UInt8.ofNat value]

/-- `(value.bit_length() + 7) // 8`. -/
def byteWidth (value : ℕ) : ℕ := (Nat.size value + 7) / 8

theorem fromBytes_concat (raw : Bytes) (byte : UInt8) :
    fromBytes (raw ++ [byte]) = fromBytes raw * 256 + byte.toNat := by
  unfold fromBytes
  rw [List.foldl_append]
  rfl

theorem toBytes_length (width value : ℕ) : (toBytes width value).length = width := by
  induction width generalizing value with
  | zero => rfl
  | succ width ih => rw [toBytes, List.length_append, ih, List.length_singleton]

theorem fromBytes_toBytes {width value : ℕ} (hvalue : value < 256 ^ width) :
    fromBytes (toBytes width value) = value := by
  induction width generalizing value with
  | zero =>
      rw [pow_zero] at hvalue
      obtain rfl : value = 0 := by omega
      rfl
  | succ width ih =>
      have hquotient : value / 256 < 256 ^ width := by
        rw [pow_succ] at hvalue
        omega
      rw [toBytes, fromBytes_concat, ih hquotient, UInt8.toNat_ofNat']
      omega

theorem toBytes_fromBytes (raw : Bytes) : toBytes raw.length (fromBytes raw) = raw := by
  induction raw using List.reverseRecOn with
  | nil => rfl
  | append_singleton raw byte ih =>
      have hbyte := byte.toNat_lt
      have hquotient : (fromBytes raw * 256 + byte.toNat) / 256 = fromBytes raw := by omega
      have hlast : UInt8.ofNat (fromBytes raw * 256 + byte.toNat) = byte := by
        refine UInt8.toNat_inj.mp ?_
        rw [UInt8.toNat_ofNat']
        omega
      rw [List.length_append, List.length_singleton, fromBytes_concat, toBytes, hquotient, ih,
        hlast]

theorem fromBytes_lt (raw : Bytes) : fromBytes raw < 256 ^ raw.length := by
  induction raw using List.reverseRecOn with
  | nil => decide
  | append_singleton raw byte ih =>
      have hbyte := byte.toNat_lt
      rw [fromBytes_concat, List.length_append, List.length_singleton, pow_succ]
      omega

theorem fromBytes_cons (byte : UInt8) (raw : Bytes) :
    fromBytes (byte :: raw) = byte.toNat * 256 ^ raw.length + fromBytes raw := by
  induction raw using List.reverseRecOn with
  | nil => simp [fromBytes]
  | append_singleton raw last ih =>
      rw [← List.cons_append, fromBytes_concat, ih, fromBytes_concat, List.length_append,
        List.length_singleton, pow_succ]
      ring

theorem two_pow_eight_mul (width : ℕ) : 2 ^ (8 * width) = 256 ^ width := pow_mul 2 8 width

theorem byteWidth_le {value width : ℕ} : byteWidth value ≤ width ↔ value < 256 ^ width := by
  have hbits : byteWidth value ≤ width ↔ Nat.size value ≤ 8 * width := by
    unfold byteWidth
    omega
  rw [hbits, Nat.size_le, two_pow_eight_mul]

theorem lt_byteWidth {value width : ℕ} : width < byteWidth value ↔ 256 ^ width ≤ value := by
  rw [← not_le, byteWidth_le, not_lt]

/-- Bytes that do not start with a zero byte are as many as their number takes. -/
theorem byteWidth_fromBytes {byte : UInt8} {raw : Bytes} (hbyte : byte ≠ 0) :
    byteWidth (fromBytes (byte :: raw)) = raw.length + 1 := by
  have hpositive : 0 < byte.toNat :=
    Nat.pos_of_ne_zero fun hzero => hbyte (UInt8.toNat_inj.mp hzero)
  refine le_antisymm (byteWidth_le.mpr (fromBytes_lt _)) (lt_byteWidth.mpr ?_)
  rw [fromBytes_cons]
  exact le_trans (Nat.le_mul_of_pos_left _ hpositive) (Nat.le_add_right _ _)

/-- The bytes of a positive number at its width do not start with a zero byte. -/
theorem toBytes_byteWidth {value : ℕ} (hvalue : 0 < value) :
    ∃ byte raw, toBytes (byteWidth value) value = byte :: raw ∧ byte ≠ 0 := by
  have hvalue' : fromBytes (toBytes (byteWidth value) value) = value :=
    fromBytes_toBytes (byteWidth_le.mp le_rfl)
  have hlength := toBytes_length (byteWidth value) value
  cases hraw : toBytes (byteWidth value) value with
  | nil =>
      rw [hraw] at hvalue'
      exact absurd hvalue' hvalue.ne
  | cons byte raw =>
      refine ⟨byte, raw, rfl, ?_⟩
      rintro rfl
      rw [hraw, List.length_cons] at hlength
      rw [hraw, fromBytes_cons, UInt8.toNat_zero, zero_mul, zero_add] at hvalue'
      have hshort : byteWidth value ≤ raw.length := byteWidth_le.mpr (hvalue' ▸ fromBytes_lt raw)
      omega

/-! ## Two's complement -/

/-- `int.from_bytes(raw, "big", signed=True)`. -/
def signed (raw : Bytes) : ℤ :=
  match raw with
  | [] => 0
  | first :: _ =>
      if 128 ≤ first.toNat then (fromBytes raw : ℤ) - 256 ^ raw.length else fromBytes raw

/-- The first byte repeats the sign of the second. -/
def redundant : Bytes → Bool
  | first :: second :: _ =>
      (first = 0 && second.toNat < 128) || (first = 255 && 128 ≤ second.toNat)
  | _ => false

/-- No other bytes of the same value are fewer. -/
def Shortest (raw : Bytes) : Prop :=
  raw ≠ [] ∧ ∀ other : Bytes, other ≠ [] → signed other = signed raw → raw.length ≤ other.length

/-- The signed value of the highest byte. -/
def signedByte (byte : UInt8) : ℤ :=
  if 128 ≤ byte.toNat then (byte.toNat : ℤ) - 256 else byte.toNat

theorem signedByte_bounds (byte : UInt8) : -128 ≤ signedByte byte ∧ signedByte byte ≤ 127 := by
  have hbyte := byte.toNat_lt
  unfold signedByte
  split
  · omega
  · omega

theorem signed_cons (first : UInt8) (rest : Bytes) :
    signed (first :: rest) = signedByte first * 256 ^ rest.length + fromBytes rest := by
  unfold signed signedByte
  dsimp only
  rw [fromBytes_cons, List.length_cons, pow_succ]
  push_cast
  split
  · ring
  · ring

theorem signed_bounds (first : UInt8) (rest : Bytes) :
    -(128 * 256 ^ rest.length : ℤ) ≤ signed (first :: rest) ∧
      signed (first :: rest) < 128 * 256 ^ rest.length := by
  obtain ⟨hlow, hhigh⟩ := signedByte_bounds first
  have hpower : (0 : ℤ) < 256 ^ rest.length := by positivity
  have hrest : (fromBytes rest : ℤ) < 256 ^ rest.length := by exact_mod_cast fromBytes_lt rest
  have hnonneg : (0 : ℤ) ≤ fromBytes rest := Int.natCast_nonneg _
  rw [signed_cons]
  constructor
  · nlinarith
  · nlinarith

theorem redundant_cons {first second : UInt8} {rest : Bytes} :
    redundant (first :: second :: rest) = true ↔
      first = 0 ∧ second.toNat < 128 ∨ first = 255 ∧ 128 ≤ second.toNat := by
  simp [redundant]

/-- A redundant first byte can be dropped. -/
theorem signed_redundant {first second : UInt8} {rest : Bytes}
    (hredundant : redundant (first :: second :: rest) = true) :
    signed (first :: second :: rest) = signed (second :: rest) := by
  have hsecond := signed_cons second rest
  rw [signed_cons, fromBytes_cons, List.length_cons, pow_succ]
  rcases redundant_cons.mp hredundant with ⟨rfl, hpositive⟩ | ⟨rfl, hnegative⟩
  · have hbyte : signedByte second = second.toNat := if_neg (by omega)
    have hzero : signedByte 0 = 0 := by decide
    rw [hsecond, hbyte, hzero]
    push_cast
    ring
  · have hbyte : signedByte second = second.toNat - 256 := if_pos hnegative
    have hminus : signedByte 255 = -1 := by decide
    rw [hsecond, hbyte, hminus]
    push_cast
    ring

/-- Without a redundant byte the value does not fit into one byte less. -/
theorem signed_large {first second : UInt8} {rest : Bytes}
    (hredundant : redundant (first :: second :: rest) = false) :
    signed (first :: second :: rest) < -(128 * 256 ^ rest.length) ∨
      128 * 256 ^ rest.length ≤ signed (first :: second :: rest) := by
  have hpower : (0 : ℤ) < 256 ^ rest.length := by positivity
  have hrest : (fromBytes rest : ℤ) < 256 ^ rest.length := by exact_mod_cast fromBytes_lt rest
  have hnonneg : (0 : ℤ) ≤ fromBytes rest := Int.natCast_nonneg _
  have hsecond : (second.toNat : ℤ) ≤ 255 := by
    exact_mod_cast Nat.le_of_lt_succ second.toNat_lt
  have hsecond' : (0 : ℤ) ≤ second.toNat := Int.natCast_nonneg _
  have hkept : ¬(first = 0 ∧ second.toNat < 128 ∨ first = 255 ∧ 128 ≤ second.toNat) := by
    rw [← redundant_cons, hredundant]
    exact Bool.false_ne_true
  have hvalue : signed (first :: second :: rest) =
      (signedByte first * 256 + second.toNat) * 256 ^ rest.length + fromBytes rest := by
    rw [signed_cons, fromBytes_cons, List.length_cons, pow_succ]
    push_cast
    ring
  have hhead : signedByte first * 256 + second.toNat < -128 ∨
      128 ≤ signedByte first * 256 + second.toNat := by
    have hfirst := first.toNat_lt
    have hzero : first = 0 ↔ first.toNat = 0 := UInt8.toNat_inj.symm
    have hminus : first = 255 ↔ first.toNat = 255 := UInt8.toNat_inj.symm
    rw [hzero, hminus] at hkept
    unfold signedByte
    split
    · omega
    · omega
  rw [hvalue]
  rcases hhead with hhead | hhead
  · have hbound : signedByte first * 256 + second.toNat ≤ -129 := by omega
    left
    nlinarith
  · right
    nlinarith

theorem shortest_iff {raw : Bytes} : Shortest raw ↔ raw ≠ [] ∧ redundant raw = false := by
  refine and_congr_right fun hraw => ?_
  constructor
  · intro hshort
    match raw with
    | [] => rfl
    | [first] => rfl
    | first :: second :: rest =>
        by_contra hredundant
        rw [Bool.not_eq_false] at hredundant
        have hlength := hshort (second :: rest) (List.cons_ne_nil _ _)
          (signed_redundant hredundant).symm
        rw [List.length_cons, List.length_cons] at hlength
        omega
  · intro hredundant other hother hvalue
    match raw, other with
    | [], _ => exact absurd rfl hraw
    | _, [] => exact absurd rfl hother
    | [first], head :: tail => exact Nat.le_add_left _ _
    | first :: second :: rest, head :: tail =>
        by_contra hshort
        rw [List.length_cons, List.length_cons, List.length_cons, not_le] at hshort
        obtain ⟨hlow, hhigh⟩ := signed_bounds head tail
        have hpower : (256 : ℤ) ^ tail.length ≤ 256 ^ rest.length :=
          pow_le_pow_right₀ (by decide) (by omega)
        rw [hvalue] at hlow hhigh
        rcases signed_large hredundant with hless | hmore
        · linarith
        · linarith

/-- Bytes below the sign bit are the value itself. -/
theorem signed_of_small {first : UInt8} {rest : Bytes} (hfirst : first.toNat < 128) :
    signed (first :: rest) = fromBytes (first :: rest) := if_neg (by omega)

end MatchVet.Foundation.BigEndian
