import Mathlib

/-!
# Rounding to binary64

The double nearest to a rational number, ties to even, as IEEE 754 prescribes it for
every operation.  Overflow is left out: the numbers rounded here are far below it.
Rounding is monotone, so it may merge numbers but never reorders them.
-/

namespace MatchVet.Foundation.Binary64

/-! ## The nearest integer -/

/-- The nearest integer; of two, the even one. -/
def nearestEven (value : ℚ) : ℤ :=
  if value - ⌊value⌋ < 1 / 2 then ⌊value⌋
  else if 1 / 2 < value - ⌊value⌋ then ⌊value⌋ + 1
  else if ⌊value⌋ % 2 = 0 then ⌊value⌋ else ⌊value⌋ + 1

theorem nearestEven_eq_or (value : ℚ) :
    nearestEven value = ⌊value⌋ ∨ nearestEven value = ⌊value⌋ + 1 := by
  unfold nearestEven
  split
  · exact Or.inl rfl
  · split
    · exact Or.inr rfl
    · split
      · exact Or.inl rfl
      · exact Or.inr rfl

@[simp]
theorem nearestEven_intCast (number : ℤ) : nearestEven number = number := by
  unfold nearestEven
  rw [Int.floor_intCast, sub_self, if_pos (by norm_num)]

theorem nearestEven_mono {first second : ℚ} (hle : first ≤ second) :
    nearestEven first ≤ nearestEven second := by
  have hfloor := Int.floor_mono hle
  rcases hfloor.lt_or_eq with hless | hsame
  · rcases nearestEven_eq_or first with hfirst | hfirst <;>
      rcases nearestEven_eq_or second with hsecond | hsecond <;> omega
  · unfold nearestEven
    rw [← hsame]
    have hpart : first - ⌊first⌋ ≤ second - ⌊first⌋ := sub_le_sub_right hle _
    by_cases hlow : second - ⌊first⌋ < 1 / 2
    · rw [if_pos hlow, if_pos (hpart.trans_lt hlow)]
    · rw [if_neg hlow]
      by_cases hhigh : 1 / 2 < second - ⌊first⌋
      · rw [if_pos hhigh]
        split
        · exact Int.le_add_one le_rfl
        · split
          · exact le_rfl
          · split
            · exact Int.le_add_one le_rfl
            · exact le_rfl
      · rw [if_neg hhigh, if_neg (not_lt.mpr (hpart.trans (not_lt.mp hhigh)))]
        split
        · split
          · exact le_rfl
          · exact Int.le_add_one le_rfl
        · exact le_rfl

theorem nearestEven_neg (value : ℚ) : nearestEven (-value) = -nearestEven value := by
  by_cases hwhole : (⌊value⌋ : ℚ) = value
  · rw [← hwhole, nearestEven_intCast, ← Int.cast_neg, nearestEven_intCast]
  · have hlow : (⌊value⌋ : ℚ) < value := lt_of_le_of_ne (Int.floor_le value) hwhole
    have hhigh := Int.lt_floor_add_one value
    have hfloor : ⌊-value⌋ = -⌊value⌋ - 1 := by
      rw [Int.floor_eq_iff]
      push_cast
      constructor
      · linarith
      · linarith
    unfold nearestEven
    rw [hfloor]
    push_cast
    by_cases hless : value - ⌊value⌋ < 1 / 2
    · rw [if_pos hless, if_neg (by linarith), if_pos (by linarith)]
      ring
    · by_cases hmore : 1 / 2 < value - ⌊value⌋
      · rw [if_neg hless, if_pos hmore, if_pos (by linarith)]
        ring
      · rw [if_neg hless, if_neg hmore, if_neg (by linarith), if_neg (by linarith)]
        split
        · rw [if_neg (by omega)]
          ring
        · rw [if_pos (by omega)]
          ring

/-! ## Doubles -/

/-- The exponent of a number's last place, no smaller than that of the subnormals. -/
def lastPlace (value : ℚ) : ℤ := max (Int.log 2 |value|) (-1022) - 52

/-- The nearest double. -/
def binary64 (value : ℚ) : ℚ :=
  2 ^ lastPlace value * nearestEven (value / 2 ^ lastPlace value)

theorem binary64_neg (value : ℚ) : binary64 (-value) = -binary64 value := by
  unfold binary64 lastPlace
  rw [abs_neg, neg_div, nearestEven_neg]
  push_cast
  ring

theorem binary64_zero : binary64 0 = 0 := by
  have hzero : nearestEven 0 = 0 := nearestEven_intCast 0
  unfold binary64
  rw [zero_div, hzero, Int.cast_zero, mul_zero]

theorem binary64_nonneg {value : ℚ} (hvalue : 0 ≤ value) : 0 ≤ binary64 value := by
  have hnearest : nearestEven 0 ≤ nearestEven (value / 2 ^ lastPlace value) :=
    nearestEven_mono (by positivity)
  rw [show nearestEven 0 = 0 from nearestEven_intCast 0] at hnearest
  have hcast : (0 : ℚ) ≤ nearestEven (value / 2 ^ lastPlace value) := by exact_mod_cast hnearest
  unfold binary64
  positivity

theorem lastPlace_mono {first second : ℚ} (hpositive : 0 < first) (hle : first ≤ second) :
    lastPlace first ≤ lastPlace second := by
  unfold lastPlace
  rw [abs_of_pos hpositive, abs_of_pos (hpositive.trans_le hle)]
  have hlog := Int.log_mono_right (b := 2) hpositive hle
  omega

/-- A positive number below a power of two is not rounded above it. -/
theorem binary64_le {value : ℚ} (hpositive : 0 < value) :
    binary64 value ≤ 2 ^ (lastPlace value + 53) := by
  have hbelow : value ≤ 2 ^ (lastPlace value + 53) := by
    have hlog := Int.lt_zpow_succ_log_self (b := 2) (by norm_num) value
    refine hlog.le.trans ?_
    push_cast
    refine zpow_le_zpow_right₀ (by norm_num) ?_
    unfold lastPlace
    rw [abs_of_pos hpositive]
    omega
  have hscaled : value / 2 ^ lastPlace value ≤ ((2 ^ 53 : ℤ) : ℚ) := by
    rw [div_le_iff₀ (by positivity)]
    refine hbelow.trans_eq ?_
    rw [zpow_add₀ (by norm_num)]
    push_cast
    ring
  have hnearest := nearestEven_mono hscaled
  rw [nearestEven_intCast] at hnearest
  have hcast : (nearestEven (value / 2 ^ lastPlace value) : ℚ) ≤ 2 ^ 53 := by
    exact_mod_cast hnearest
  unfold binary64
  rw [zpow_add₀ (by norm_num)]
  exact mul_le_mul_of_nonneg_left hcast (by positivity)

/-- A number that is at least a power of two is not rounded below it. -/
theorem le_binary64 {value : ℚ} {exponent : ℤ} (hplace : lastPlace value = exponent - 52)
    (hle : 2 ^ exponent ≤ value) : 2 ^ exponent ≤ binary64 value := by
  have hscaled : ((2 ^ 52 : ℤ) : ℚ) ≤ value / 2 ^ lastPlace value := by
    rw [le_div_iff₀ (by positivity), hplace]
    refine le_of_eq_of_le ?_ hle
    rw [zpow_sub₀ (by norm_num)]
    push_cast
    ring
  have hnearest := nearestEven_mono hscaled
  rw [nearestEven_intCast] at hnearest
  have hcast : (2 ^ 52 : ℚ) ≤ nearestEven (value / 2 ^ lastPlace value) := by
    exact_mod_cast hnearest
  have hpower : (2 : ℚ) ^ exponent = 2 ^ lastPlace value * 2 ^ 52 := by
    rw [hplace, zpow_sub₀ (by norm_num)]
    norm_num
  unfold binary64
  rw [hpower]
  exact mul_le_mul_of_nonneg_left hcast (by positivity)

theorem binary64_mono_of_pos {first second : ℚ} (hpositive : 0 < first) (hle : first ≤ second) :
    binary64 first ≤ binary64 second := by
  rcases (lastPlace_mono hpositive hle).lt_or_eq with hless | hsame
  · have hexact : lastPlace second = Int.log 2 second - 52 := by
      unfold lastPlace at hless ⊢
      rw [abs_of_pos (hpositive.trans_le hle)] at hless ⊢
      omega
    have hsecond : (2 : ℚ) ^ Int.log 2 second ≤ second := by
      exact_mod_cast Int.zpow_log_le_self (b := 2) (by norm_num) (hpositive.trans_le hle)
    refine (binary64_le hpositive).trans (le_trans ?_ (le_binary64 hexact hsecond))
    refine zpow_le_zpow_right₀ (by norm_num) ?_
    omega
  · unfold binary64
    rw [← hsame]
    have hnearest : nearestEven (first / 2 ^ lastPlace first) ≤
        nearestEven (second / 2 ^ lastPlace first) :=
      nearestEven_mono (div_le_div_of_nonneg_right hle (by positivity))
    exact mul_le_mul_of_nonneg_left (by exact_mod_cast hnearest) (by positivity)

/-- Rounding never reorders numbers. -/
theorem binary64_mono : Monotone binary64 := by
  intro first second hle
  rcases lt_trichotomy first 0 with hfirst | rfl | hfirst
  · rcases lt_or_ge second 0 with hsecond | hsecond
    · have hneg := binary64_mono_of_pos (neg_pos.mpr hsecond) (neg_le_neg hle)
      rw [binary64_neg, binary64_neg] at hneg
      exact neg_le_neg_iff.mp hneg
    · have hneg := binary64_nonneg (neg_nonneg.mpr hfirst.le)
      rw [binary64_neg] at hneg
      exact (neg_nonneg.mp hneg).trans (binary64_nonneg hsecond)
  · rw [binary64_zero]
    exact binary64_nonneg hle
  · exact binary64_mono_of_pos hfirst hle

/-! ## Truncation -/

/-- `int` of a float. -/
def truncate (value : ℚ) : ℤ := if 0 ≤ value then ⌊value⌋ else ⌈value⌉

theorem truncate_mono : Monotone truncate := by
  intro first second hle
  unfold truncate
  by_cases hfirst : 0 ≤ first
  · rw [if_pos hfirst, if_pos (hfirst.trans hle)]
    exact Int.floor_mono hle
  · rw [if_neg hfirst]
    by_cases hsecond : 0 ≤ second
    · rw [if_pos hsecond]
      have hceil : ⌈first⌉ ≤ 0 := Int.ceil_le.mpr (by exact_mod_cast (not_le.mp hfirst).le)
      exact hceil.trans (Int.floor_nonneg.mpr hsecond)
    · rw [if_neg hsecond]
      exact Int.ceil_mono hle

example : binary64 (1 / 10) = 3602879701896397 / 2 ^ 55 := by decide +kernel

end MatchVet.Foundation.Binary64
