import Mathlib.Data.List.Induction
import Mathlib.Data.Rat.Floor
import Mathlib.Order.Bounds.Basic
import MatchVet.Foundation.Gregorian
import MatchVet.Foundation.Runtime

/-!
# The interval of a witnessed event

A time-stamp authority signs a GeneralizedTime and an accuracy.  The interval of
the event is rounded outwards to whole microseconds and stays within one UTC day.
-/

namespace MatchVet.Causal.EventInterval

open MatchVet.Foundation.Gregorian
open MatchVet.Foundation.Runtime (bind_eq_ok)
open MatchVet.Foundation.Timestamp

/-! ## Reading the time -/

def isDigit (char : Char) : Bool := (digitValue? char).isSome

/-- `([0-9]{14})(?:\.([0-9]{1,18}))?Z`: the stamp and the digits of the fraction. -/
def timePattern (generalized : String) : Option (List Char × List Char) :=
  let stamp := generalized.toList.take 14
  if stamp.length = 14 ∧ stamp.all isDigit = true then
    match generalized.toList.drop 14 with
    | ['Z'] => some (stamp, [])
    | '.' :: tail =>
        let fraction := tail.dropLast
        if tail.getLast? = some 'Z' ∧ fraction ≠ [] ∧ fraction.length ≤ 18 ∧
            fraction.all isDigit = true then
          some (stamp, fraction)
        else none
    | _ => none
  else none

/-- `strptime(stamp, "%Y%m%d%H%M%S")`, which takes fourteen digits at their full widths. -/
def strptime (stamp : List Char) : Option Instant := do
  let (year, stamp) ← takeNumber 4 stamp
  let (month, stamp) ← takeNumber 2 stamp
  let (day, stamp) ← takeNumber 2 stamp
  let (hour, stamp) ← takeNumber 2 stamp
  let (minute, stamp) ← takeNumber 2 stamp
  let (second, _) ← takeNumber 2 stamp
  let date : Civil := ⟨year, month, day⟩
  let time : DayTime := ⟨hour, minute, second, 0⟩
  if validClock date time then
    some (daysOfCivil date * microsecondsPerDay + time.microseconds)
  else none

/-- `Fraction(int(digits), 10 ** len(digits))`. -/
def fractionOf (digits : List Char) : ℚ := ((readDigits digits).getD 0 : ℚ) / 10 ^ digits.length

/-! ## The signed accuracy -/

/-- An integer, or a boolean, which is one of Python's integers. -/
inductive AccuracyValue where
  | int (value : ℤ)
  | bool (value : Bool)
  deriving DecidableEq, Repr

/-- The fields of an accuracy by their tags: seconds, milliseconds and microseconds. -/
structure Accuracy where
  entries : List (ℤ × AccuracyValue)
  distinct : (entries.map Prod.fst).Nodup

/-- `type(value) is int and value >= 0`. -/
def natural : AccuracyValue → Bool
  | .int value => 0 ≤ value
  | .bool _ => false

/-- `accuracy.get(tag, 0)`. -/
def Accuracy.field (accuracy : Accuracy) (tag : ℤ) : ℤ :=
  match accuracy.entries.lookup tag with
  | some (.int value) => value
  | some (.bool true) => 1
  | _ => 0

/-- A part of a second is from 1 to 999 where it is given. -/
def fractional (accuracy : Accuracy) (tag : ℤ) : Bool :=
  !(accuracy.entries.map Prod.fst).contains tag ||
    (1 ≤ accuracy.field tag && accuracy.field tag ≤ 999)

def signedRadius (accuracy : Option Accuracy) : Except String ℤ :=
  match accuracy with
  | none => .error "Signed Accuracy is missing, empty or unsupported."
  | some accuracy =>
      let radius := accuracy.field 2 * 1000000 + accuracy.field 128 * 1000 + accuracy.field 129
      if accuracy.entries.isEmpty || accuracy.entries.any fun entry =>
          !([2, 128, 129] : List ℤ).contains entry.1 then
        .error "Signed Accuracy is missing, empty or unsupported."
      else if accuracy.entries.any fun entry => !natural entry.2 then
        .error "Signed Accuracy is negative or unsupported."
      else if !(fractional accuracy 128 && fractional accuracy 129) then
        .error "Signed Accuracy fractional component is invalid."
      else if 0 < radius ∧ radius ≤ 1000000 then .ok radius
      else .error "Signed Accuracy must be positive and at most one second."

/-! ## The interval -/

/-- The lower and upper bound around the fraction of a second after a base. -/
def boundsAround (base : Instant) (fraction : ℚ) (radius : ℤ) : Instant × Instant :=
  (base + ⌊fraction * 1000000 - radius⌋, base + ⌈fraction * 1000000 + radius⌉)

/-- `_event_interval`. -/
def eventInterval (generalized : String) (accuracy : Option Accuracy) :
    Except String (String × String) :=
  match timePattern generalized with
  | none => .error "Unsupported UTC GeneralizedTime or precision."
  | some (stamp, fraction) =>
      if fraction.getLast? = some '0' then
        .error "Unsupported UTC GeneralizedTime or precision."
      else
        match strptime stamp with
        | none => .error "Unsupported UTC/leap encoding."
        | some base => do
            let radius ← signedRadius accuracy
            let (lower, upper) := boundsAround base (fractionOf fraction) radius
            if ¬(InRange lower ∧ InRange upper) then
              .error "Unsupported signed UTC interval overflow."
            else if lower / microsecondsPerDay ≠ upper / microsecondsPerDay then
              .error "The witnessed interval crosses a UTC day boundary."
            else .ok (gregorianText lower, gregorianText upper)

/-! ## What a GeneralizedTime denotes -/

/-- The fields of a time: a second and the digits of its decimal fraction. -/
structure TimeFields where
  year : ℕ
  month : ℕ
  day : ℕ
  hour : ℕ
  minute : ℕ
  second : ℕ
  fraction : List ℕ

/-- The value of decimal digits after the point. -/
def decimalValue : List ℕ → ℚ
  | [] => 0
  | value :: rest => (value + decimalValue rest) / 10

namespace TimeFields

def date (fields : TimeFields) : Civil := ⟨fields.year, fields.month, fields.day⟩

def clock (fields : TimeFields) : DayTime := ⟨fields.hour, fields.minute, fields.second, 0⟩

def stamp (fields : TimeFields) : List Char :=
  padded 4 fields.year ++ (padded 2 fields.month ++ (padded 2 fields.day ++
    (padded 2 fields.hour ++ (padded 2 fields.minute ++ padded 2 fields.second))))

def text (fields : TimeFields) : String :=
  String.ofList (fields.stamp ++
    (if fields.fraction = [] then ['Z'] else '.' :: (fields.fraction.map digit ++ ['Z'])))

/-- The microseconds since the start of the day, exactly. -/
def offset (fields : TimeFields) : ℚ :=
  fields.clock.microseconds + decimalValue fields.fraction * 1000000

end TimeFields

/-- A second that is not a leap second, of a day of the years 1 to 9999, with a decimal
fraction that does not end in zero. -/
structure UtcTime extends TimeFields where
  year_short : year ≤ 9999
  real : validClock ⟨year, month, day⟩ ⟨hour, minute, second, 0⟩ = true
  decimal : ∀ value ∈ fraction, value < 10
  short : fraction.length ≤ 18
  reduced : fraction.getLast? ≠ some 0

namespace UtcTime

/-- The start of the second. -/
def base (time : UtcTime) : Instant :=
  daysOfCivil time.date * microsecondsPerDay + time.clock.microseconds

/-- The instant in microseconds, exactly. -/
def instant (time : UtcTime) : ℚ := time.base + decimalValue time.fraction * 1000000

end UtcTime

/-! ## Digits -/

theorem digitValue?_eq_some {char : Char} {value : ℕ} (hvalue : digitValue? char = some value) :
    char = digit value ∧ value < 10 := by
  unfold digitValue? at hvalue
  split at hvalue
  next hrange =>
    obtain rfl := Option.some.inj hvalue
    refine ⟨Char.ext (UInt32.toNat_inj.mp ?_), by omega⟩
    have hmod : (char.toNat - 48) % 10 = char.toNat - 48 := Nat.mod_eq_of_lt (by omega)
    have hchar : 48 + (char.toNat - 48) = char.toNat := by omega
    unfold digit
    rw [hmod, hchar, Char.ofNat_toNat]
  next => cases hvalue

theorem isDigit_digit (value : ℕ) : isDigit (digit value) = true := by
  unfold isDigit
  rw [digitValue?_digit]
  rfl

theorem digit_mod (value : ℕ) : digit (value % 10) = digit value := by
  unfold digit
  rw [Nat.mod_mod]

/-- Decimal digits are the digits of their values. -/
theorem exists_digits {chars : List Char} (hchars : chars.all isDigit = true) :
    ∃ values : List ℕ, (∀ value ∈ values, value < 10) ∧ values.map digit = chars := by
  induction chars with
  | nil => exact ⟨[], by simp, rfl⟩
  | cons char rest ih =>
      rw [List.all_cons, Bool.and_eq_true] at hchars
      obtain ⟨value, hvalue⟩ := Option.isSome_iff_exists.mp hchars.1
      obtain ⟨hchar, hlt⟩ := digitValue?_eq_some hvalue
      obtain ⟨values, hvalues, hrest⟩ := ih hchars.2
      exact ⟨value :: values, List.forall_mem_cons.mpr ⟨hlt, hvalues⟩, by
        rw [List.map_cons, hrest, ← hchar]⟩

theorem readDigits_eq_some {chars : List Char} {value : ℕ} (hread : readDigits chars = some value) :
    chars = padded chars.length value ∧ value < 10 ^ chars.length := by
  induction chars using List.reverseRecOn generalizing value with
  | nil =>
      obtain rfl := Option.some.inj hread
      exact ⟨rfl, by decide⟩
  | append_singleton chars char ih =>
      unfold readDigits at hread ih
      rw [List.foldlM_append] at hread
      obtain ⟨quotient, hquotient, hlast⟩ := Option.bind_eq_some_iff.mp hread
      rw [List.foldlM_cons] at hlast
      obtain ⟨total, htotal, hdone⟩ := Option.bind_eq_some_iff.mp hlast
      obtain rfl := Option.some.inj hdone
      obtain ⟨last, hvalue, rfl⟩ := Option.map_eq_some_iff.mp htotal
      obtain ⟨hchar, hlt⟩ := digitValue?_eq_some hvalue
      obtain ⟨hchars, hbound⟩ := ih hquotient
      rw [List.length_append, List.length_singleton, padded, pow_succ]
      have hdiv : (10 * quotient + last) / 10 = quotient := by omega
      have hmod : digit (10 * quotient + last) = digit last := by
        rw [← digit_mod, Nat.mul_add_mod, digit_mod]
      rw [hdiv, hmod, ← hchars, ← hchar]
      exact ⟨rfl, by omega⟩

theorem takeNumber_eq_some {width value : ℕ} {chars rest : List Char}
    (htake : takeNumber width chars = some (value, rest)) :
    chars = padded width value ++ rest ∧ value < 10 ^ width := by
  unfold takeNumber at htake
  split at htake
  next hlength =>
    obtain ⟨found, hread, heq⟩ := Option.map_eq_some_iff.mp htake
    obtain ⟨rfl, rfl⟩ := Prod.mk.inj heq
    obtain ⟨hchars, hbound⟩ := readDigits_eq_some hread
    rw [hlength] at hchars hbound
    exact ⟨by rw [← hchars, List.take_append_drop], hbound⟩
  next => cases htake

/-- The value of digits after those that were read. -/
theorem readDigits_digits {values : List ℕ} (hvalues : ∀ value ∈ values, value < 10) :
    readDigits (values.map digit) = some (values.foldl (fun total value => 10 * total + value) 0) := by
  induction values using List.reverseRecOn with
  | nil => rfl
  | append_singleton values last ih =>
      have hread := ih fun value hvalue => hvalues value (List.mem_append_left _ hvalue)
      have hlast : last % 10 = last := Nat.mod_eq_of_lt (hvalues last (by simp))
      unfold readDigits at hread ⊢
      rw [List.map_append, List.foldlM_append, hread, List.foldl_append]
      simp [digitValue?_digit, hlast]

theorem foldl_decimalValue (values : List ℕ) (total : ℕ) :
    ((values.foldl (fun total value => 10 * total + value) total : ℕ) : ℚ) / 10 ^ values.length =
      total + decimalValue values := by
  induction values generalizing total with
  | nil => simp [decimalValue]
  | cons value rest ih =>
      rw [List.foldl_cons, List.length_cons, pow_succ, ← div_div, ih, decimalValue]
      push_cast
      ring

theorem fractionOf_digits {values : List ℕ} (hvalues : ∀ value ∈ values, value < 10) :
    fractionOf (values.map digit) = decimalValue values := by
  have hvalue := foldl_decimalValue values 0
  unfold fractionOf
  rw [readDigits_digits hvalues, Option.getD_some, List.length_map, hvalue]
  push_cast
  rw [zero_add]

/-! ## The text of a time -/

theorem validClock_iff {date : Civil} {time : DayTime} :
    validClock date time = true ↔ 1 ≤ date.year ∧ civilOfDays (daysOfCivil date) = date ∧
      time.hour < 24 ∧ time.minute < 60 ∧ time.second < 60 := by
  simp [validClock, and_assoc]

namespace UtcTime

theorem fields (time : UtcTime) : time.year < 10 ^ 4 ∧ time.month < 10 ^ 2 ∧ time.day < 10 ^ 2 ∧
    time.hour < 10 ^ 2 ∧ time.minute < 10 ^ 2 ∧ time.second < 10 ^ 2 := by
  obtain ⟨-, hdate, hhour, hminute, hsecond⟩ := validClock_iff.mp time.real
  have hcalendar := civilOfDays_inCalendar (daysOfCivil ⟨time.year, time.month, time.day⟩)
  rw [hdate] at hcalendar
  obtain ⟨hmonth, hday⟩ := hcalendar
  have hyear := time.year_short
  dsimp only at hmonth hday hhour hminute hsecond
  omega

theorem stamp_length (time : UtcTime) : time.stamp.length = 14 := by
  unfold TimeFields.stamp
  simp only [List.length_append, padded_length]

theorem all_padded (width value : ℕ) : (padded width value).all isDigit = true := by
  induction width generalizing value with
  | zero => rfl
  | succ width ih =>
      rw [padded, List.all_append, ih]
      simp [isDigit_digit]

theorem stamp_digits (time : UtcTime) : time.stamp.all isDigit = true := by
  unfold TimeFields.stamp
  simp only [List.all_append, all_padded, Bool.and_self]

theorem strptime_stamp (time : UtcTime) : strptime time.stamp = some time.base := by
  obtain ⟨hyear, hmonth, hday, hhour, hminute, hsecond⟩ := time.fields
  have hlast := takeNumber_padded hsecond []
  rw [List.append_nil] at hlast
  unfold strptime TimeFields.stamp
  rw [takeNumber_padded hyear]
  dsimp only [Option.bind_eq_bind, Option.bind_some]
  rw [takeNumber_padded hmonth]
  dsimp only [Option.bind_eq_bind, Option.bind_some]
  rw [takeNumber_padded hday]
  dsimp only [Option.bind_eq_bind, Option.bind_some]
  rw [takeNumber_padded hhour]
  dsimp only [Option.bind_eq_bind, Option.bind_some]
  rw [takeNumber_padded hminute]
  dsimp only [Option.bind_eq_bind, Option.bind_some]
  rw [hlast]
  dsimp only [Option.bind_eq_bind, Option.bind_some]
  exact if_pos time.real

theorem fraction_digits (time : UtcTime) : (time.fraction.map digit).all isDigit = true := by
  rw [List.all_map, List.all_eq_true]
  exact fun value _ => isDigit_digit value

theorem timePattern_text (time : UtcTime) :
    timePattern time.text = some (time.stamp, time.fraction.map digit) := by
  have hlength := time.stamp_length
  unfold timePattern TimeFields.text
  dsimp only
  rw [String.toList_ofList, List.take_left' hlength, List.drop_left' hlength,
    if_pos ⟨hlength, time.stamp_digits⟩]
  by_cases hempty : time.fraction = []
  · rw [if_pos hempty, hempty]
    rfl
  · rw [if_neg hempty]
    split
    next heq => simp at heq
    next tail heq =>
      obtain ⟨-, rfl⟩ := List.cons.inj heq
      have hsome : time.fraction.map digit ≠ [] := mt List.map_eq_nil_iff.mp hempty
      have hshort : (time.fraction.map digit).length ≤ 18 := by
        rw [List.length_map]
        exact time.short
      rw [List.dropLast_concat, List.getLast?_concat]
      exact if_pos ⟨rfl, hsome, hshort, time.fraction_digits⟩
    next hother => exact absurd rfl (hother _)

theorem getLast?_ne (time : UtcTime) : (time.fraction.map digit).getLast? ≠ some '0' := by
  rw [List.getLast?_map]
  intro hzero
  obtain ⟨value, hvalue, hdigit⟩ := Option.map_eq_some_iff.mp hzero
  have hlt := time.decimal value (List.mem_of_getLast? hvalue)
  have hread := digitValue?_digit value
  rw [hdigit, Nat.mod_eq_of_lt hlt] at hread
  obtain rfl : 0 = value := Option.some.inj hread
  exact time.reduced hvalue

end UtcTime

/-- The digits that the pattern takes are the text. -/
theorem timePattern_eq_some {generalized : String} {stamp fraction : List Char}
    (hpattern : timePattern generalized = some (stamp, fraction)) :
    stamp.length = 14 ∧ fraction.length ≤ 18 ∧ fraction.all isDigit = true ∧
      generalized.toList = stamp ++
        if fraction = [] then ['Z'] else '.' :: (fraction ++ ['Z']) := by
  unfold timePattern at hpattern
  dsimp only at hpattern
  split at hpattern
  next hstamp =>
    have hwhole := List.take_append_drop 14 generalized.toList
    split at hpattern
    next hrest =>
      obtain ⟨rfl, rfl⟩ := Prod.mk.inj (Option.some.inj hpattern)
      rw [hrest] at hwhole
      exact ⟨hstamp.1, by decide, rfl, hwhole.symm⟩
    next tail hrest =>
      split at hpattern
      next hfraction =>
        obtain ⟨rfl, rfl⟩ := Prod.mk.inj (Option.some.inj hpattern)
        obtain ⟨hlast, hsome, hshort, hdigits⟩ := hfraction
        refine ⟨hstamp.1, hshort, hdigits, ?_⟩
        rw [if_neg hsome, List.dropLast_append_getLast? 'Z' hlast, ← hrest]
        exact hwhole.symm
      next => cases hpattern
    next => cases hpattern
  next => cases hpattern

/-- A stamp that is read is the stamp of a time with any fraction. -/
theorem exists_time {stamp fraction : List Char} {base : Instant}
    (hlength : stamp.length = 14) (hshort : fraction.length ≤ 18)
    (hdigits : fraction.all isDigit = true) (hreduced : fraction.getLast? ≠ some '0')
    (hbase : strptime stamp = some base) :
    ∃ time : UtcTime, time.stamp = stamp ∧ time.fraction.map digit = fraction ∧
      time.base = base := by
  obtain ⟨values, hvalues, rfl⟩ := exists_digits hdigits
  unfold strptime at hbase
  obtain ⟨⟨year, afterYear⟩, hyear, hmonths⟩ := Option.bind_eq_some_iff.mp hbase
  obtain ⟨⟨month, afterMonth⟩, hmonth, hdays⟩ := Option.bind_eq_some_iff.mp hmonths
  obtain ⟨⟨day, afterDay⟩, hday, hhours⟩ := Option.bind_eq_some_iff.mp hdays
  obtain ⟨⟨hour, afterHour⟩, hhour, hminutes⟩ := Option.bind_eq_some_iff.mp hhours
  obtain ⟨⟨minute, afterMinute⟩, hminute, hseconds⟩ := Option.bind_eq_some_iff.mp hminutes
  obtain ⟨⟨second, afterSecond⟩, hsecond, hvalid⟩ := Option.bind_eq_some_iff.mp hseconds
  dsimp only at hmonth hday hhour hminute hsecond hvalid
  split at hvalid
  next hreal =>
    obtain ⟨hyearText, hyearBound⟩ := takeNumber_eq_some hyear
    obtain ⟨hmonthText, -⟩ := takeNumber_eq_some hmonth
    obtain ⟨hdayText, -⟩ := takeNumber_eq_some hday
    obtain ⟨hhourText, -⟩ := takeNumber_eq_some hhour
    obtain ⟨hminuteText, -⟩ := takeNumber_eq_some hminute
    obtain ⟨hsecondText, -⟩ := takeNumber_eq_some hsecond
    have hstamp : stamp = padded 4 year ++ (padded 2 month ++ (padded 2 day ++ (padded 2 hour ++
        (padded 2 minute ++ (padded 2 second ++ afterSecond))))) := by
      rw [hyearText, hmonthText, hdayText, hhourText, hminuteText, hsecondText]
    rw [hstamp] at hlength
    simp only [List.length_append, padded_length] at hlength
    obtain rfl : afterSecond = [] := List.eq_nil_of_length_eq_zero (by omega)
    have hfour : year ≤ 9999 := by omega
    refine ⟨⟨⟨year, month, day, hour, minute, second, values⟩, hfour, hreal, hvalues, ?_, ?_⟩, ?_,
      rfl, Option.some.inj hvalid⟩
    · rwa [List.length_map] at hshort
    · intro hzero
      refine hreduced ?_
      rw [List.getLast?_map, hzero]
      rfl
    · rw [hstamp, List.append_nil]
      rfl
  next => cases hvalid

/-! ## Rounding outwards -/

/-- The fields of a valid accuracy, and its radius in microseconds. -/
structure Accuracy.Denotes (accuracy : Accuracy) (radius : ℤ) : Prop where
  given : accuracy.entries ≠ []
  tags : ∀ entry ∈ accuracy.entries, entry.1 = 2 ∨ entry.1 = 128 ∨ entry.1 = 129
  natural : ∀ entry ∈ accuracy.entries, ∃ value : ℤ, entry.2 = .int value ∧ 0 ≤ value
  millis : (128 : ℤ) ∈ accuracy.entries.map Prod.fst →
    1 ≤ accuracy.field 128 ∧ accuracy.field 128 ≤ 999
  micros : (129 : ℤ) ∈ accuracy.entries.map Prod.fst →
    1 ≤ accuracy.field 129 ∧ accuracy.field 129 ≤ 999
  radius_eq : radius =
    accuracy.field 2 * 1000000 + accuracy.field 128 * 1000 + accuracy.field 129
  positive : 0 < radius
  within_second : radius ≤ 1000000

theorem natural_eq_true {value : AccuracyValue} :
    natural value = true ↔ ∃ number : ℤ, value = .int number ∧ 0 ≤ number := by
  cases value with
  | int number => simp [natural]
  | bool flag => simp [natural]

theorem fractional_eq_true {accuracy : Accuracy} {tag : ℤ} :
    fractional accuracy tag = true ↔ (tag ∈ accuracy.entries.map Prod.fst →
      1 ≤ accuracy.field tag ∧ accuracy.field tag ≤ 999) := by
  unfold fractional
  rw [Bool.or_eq_true, Bool.not_eq_true', Bool.and_eq_true, decide_eq_true_eq, decide_eq_true_eq,
    ← Bool.not_eq_true, List.contains_iff_mem, ← imp_iff_not_or]

/-- The radius is computed exactly for the valid accuracies. -/
theorem signedRadius_eq_ok {accuracy : Option Accuracy} {radius : ℤ} :
    signedRadius accuracy = .ok radius ↔ ∃ given ∈ accuracy, given.Denotes radius := by
  cases accuracy with
  | none => exact iff_of_false (by simp [signedRadius]) (by simp)
  | some given =>
      have hgiven : (∃ found ∈ some given, found.Denotes radius) ↔ given.Denotes radius := by simp
      have htags : (given.entries.isEmpty || given.entries.any fun entry =>
          !([2, 128, 129] : List ℤ).contains entry.1) = false ↔ given.entries ≠ [] ∧
            ∀ entry ∈ given.entries, entry.1 = 2 ∨ entry.1 = 128 ∨ entry.1 = 129 := by
        rw [Bool.or_eq_false_iff, List.isEmpty_eq_false_iff]
        refine and_congr_right fun _ => ?_
        simp only [List.any_eq_false, Bool.not_eq_true', Bool.not_eq_false,
          List.contains_iff_mem, List.mem_cons, List.not_mem_nil, or_false]
      have hnatural : (given.entries.any fun entry => !natural entry.2) = false ↔
          ∀ entry ∈ given.entries, ∃ value : ℤ, entry.2 = .int value ∧ 0 ≤ value := by
        simp only [List.any_eq_false, Bool.not_eq_true', Bool.not_eq_false, natural_eq_true]
      have hfractional : (!(fractional given 128 && fractional given 129)) = false ↔
          fractional given 128 = true ∧ fractional given 129 = true := by
        rw [Bool.not_eq_false', Bool.and_eq_true]
      rw [hgiven]
      unfold signedRadius
      dsimp only
      constructor
      · intro hradius
        split at hradius
        next => cases hradius
        next hmissing =>
          split at hradius
          next => cases hradius
          next hnegative =>
            split at hradius
            next => cases hradius
            next hparts =>
              split at hradius
              next hrange =>
                obtain rfl := Except.ok.inj hradius
                obtain ⟨hsome, hkeys⟩ := htags.mp (Bool.eq_false_iff.mpr hmissing)
                obtain ⟨hmillis, hmicros⟩ := hfractional.mp (Bool.eq_false_iff.mpr hparts)
                exact ⟨hsome, hkeys, hnatural.mp (Bool.eq_false_iff.mpr hnegative),
                  fractional_eq_true.mp hmillis, fractional_eq_true.mp hmicros, rfl, hrange.1,
                  hrange.2⟩
              next => cases hradius
      · rintro ⟨hsome, hkeys, hvalues, hmillis, hmicros, rfl, hpositive, hwithin⟩
        have hknown := htags.mpr ⟨hsome, hkeys⟩
        have hparts := hfractional.mpr
          ⟨fractional_eq_true.mpr hmillis, fractional_eq_true.mpr hmicros⟩
        have hrange : 0 < given.field 2 * 1000000 + given.field 128 * 1000 + given.field 129 ∧
            given.field 2 * 1000000 + given.field 128 * 1000 + given.field 129 ≤ 1000000 :=
          ⟨hpositive, hwithin⟩
        rw [hknown, if_neg Bool.false_ne_true, hnatural.mpr hvalues, if_neg Bool.false_ne_true,
          hparts, if_neg Bool.false_ne_true, if_pos hrange]

/-- The bounds of a time with an accuracy: the whole microseconds next to it outwards, on
one UTC day. -/
structure Bounds (time : UtcTime) (radius : ℤ) (lower upper : Instant) : Prop where
  greatest : IsGreatest {whole : ℤ | (whole : ℚ) ≤ time.instant - radius} lower
  least : IsLeast {whole : ℤ | time.instant + radius ≤ (whole : ℚ)} upper
  sameDay : lower / microsecondsPerDay = upper / microsecondsPerDay

theorem floor_isGreatest (value : ℚ) : IsGreatest {whole : ℤ | (whole : ℚ) ≤ value} ⌊value⌋ :=
  ⟨Int.floor_le value, fun _ hwhole => Int.le_floor.mpr hwhole⟩

theorem ceil_isLeast (value : ℚ) : IsLeast {whole : ℤ | value ≤ (whole : ℚ)} ⌈value⌉ :=
  ⟨Int.le_ceil value, fun _ hwhole => Int.ceil_le.mpr hwhole⟩

theorem bounds_iff {time : UtcTime} {radius : ℤ} {lower upper : Instant} :
    Bounds time radius lower upper ↔ ⌊time.instant - radius⌋ = lower ∧
      ⌈time.instant + radius⌉ = upper ∧
      lower / microsecondsPerDay = upper / microsecondsPerDay := by
  constructor
  · rintro ⟨hgreatest, hleast, hday⟩
    exact ⟨(floor_isGreatest _).unique hgreatest, (ceil_isLeast _).unique hleast, hday⟩
  · rintro ⟨rfl, rfl, hday⟩
    exact ⟨floor_isGreatest _, ceil_isLeast _, hday⟩

theorem boundsAround_eq (time : UtcTime) (radius : ℤ) :
    boundsAround time.base (fractionOf (time.fraction.map digit)) radius =
      (⌊time.instant - radius⌋, ⌈time.instant + radius⌉) := by
  have hlower : time.instant - radius =
      time.base + (decimalValue time.fraction * 1000000 - radius) := by
    unfold UtcTime.instant
    ring
  have hupper : time.instant + radius =
      time.base + (decimalValue time.fraction * 1000000 + radius) := by
    unfold UtcTime.instant
    ring
  unfold boundsAround
  rw [fractionOf_digits time.decimal, hlower, hupper, Int.floor_intCast_add, Int.ceil_intCast_add]

theorem decimalValue_bounds {values : List ℕ} (hvalues : ∀ value ∈ values, value < 10) :
    0 ≤ decimalValue values ∧ decimalValue values < 1 := by
  induction values with
  | nil => exact ⟨le_rfl, by decide⟩
  | cons value rest ih =>
      obtain ⟨hvalue, hrest⟩ := List.forall_mem_cons.mp hvalues
      obtain ⟨hlow, hhigh⟩ := ih hrest
      have hdigit : (value : ℚ) ≤ 9 := by exact_mod_cast Nat.le_of_lt_succ hvalue
      have hnonneg : (0 : ℚ) ≤ value := Nat.cast_nonneg value
      unfold decimalValue
      constructor
      · linarith
      · linarith

theorem daysOfCivil_bounds {date : Civil} (hyear : 1 ≤ date.year ∧ date.year ≤ 9999)
    (hdate : InCalendar date) : -719162 ≤ daysOfCivil date ∧ daysOfCivil date ≤ 2932896 := by
  obtain ⟨hmonth, hday⟩ := hdate
  unfold daysOfCivil
  dsimp only
  split
  · rw [if_neg (by omega)]
    omega
  · rw [if_pos (by omega)]
    omega

/-- A real UTC second of a year with four digits is on a day of the range of instants. -/
theorem base_day (time : UtcTime) : ∃ days clock : ℤ, -719162 ≤ days ∧ days ≤ 2932896 ∧
    0 ≤ clock ∧ clock ≤ 86399000000 ∧ time.base = days * 86400000000 + clock := by
  obtain ⟨hyear, hdate, hhour, hminute, hsecond⟩ := validClock_iff.mp time.real
  have hcalendar := civilOfDays_inCalendar (daysOfCivil ⟨time.year, time.month, time.day⟩)
  rw [hdate] at hcalendar
  have hshort : (time.year : ℤ) ≤ 9999 := by exact_mod_cast time.year_short
  have hclock : time.clock.microseconds ≤ 86399000000 := by
    unfold TimeFields.clock DayTime.microseconds
    dsimp only at hhour hminute hsecond ⊢
    omega
  obtain ⟨hlow, hhigh⟩ := daysOfCivil_bounds ⟨hyear, hshort⟩ hcalendar
  exact ⟨_, _, hlow, hhigh, Int.natCast_nonneg _, by exact_mod_cast hclock, rfl⟩

/-- Bounds around a second that share a day are on the day of the second. -/
theorem inRange_of_day {days clock lower upper : ℤ} (hdays : -719162 ≤ days ∧ days ≤ 2932896)
    (hclock : 0 ≤ clock ∧ clock ≤ 86399000000)
    (hlower : lower < days * 86400000000 + clock + 1000000)
    (hupper : days * 86400000000 + clock < upper)
    (hday : lower / microsecondsPerDay = upper / microsecondsPerDay) :
    InRange lower ∧ InRange upper := by
  unfold microsecondsPerDay at hday
  rw [inRange_iff, inRange_iff]
  omega

/-- The bounds enclose the start of the microsecond of a time. -/
theorem Bounds.around {time : UtcTime} {radius : ℤ} {lower upper : Instant} (hradius : 0 < radius)
    (hbounds : Bounds time radius lower upper) :
    (lower : ℚ) < time.instant ∧ time.instant < upper := by
  have hlower := hbounds.greatest.1
  have hupper := hbounds.least.1
  have hpositive : (0 : ℚ) < radius := by exact_mod_cast hradius
  rw [Set.mem_ofPred_eq] at hlower hupper
  exact ⟨by linarith, by linarith⟩

/-- Bounds on one day are on the day of their time, so they are in the range of instants. -/
theorem Bounds.inRange {time : UtcTime} {radius : ℤ} {lower upper : Instant} (hradius : 0 < radius)
    (hbounds : Bounds time radius lower upper) : InRange lower ∧ InRange upper := by
  obtain ⟨hlower, hupper⟩ := hbounds.around hradius
  obtain ⟨days, clock, hlow, hhigh, hstart, hend, hbase⟩ := base_day time
  obtain ⟨hnonneg, hone⟩ := decimalValue_bounds time.decimal
  unfold UtcTime.instant at hlower hupper
  have hbefore : lower < time.base + 1000000 := by
    have hcast : (lower : ℚ) < ((time.base + 1000000 : ℤ) : ℚ) := by
      push_cast
      linarith
    exact_mod_cast hcast
  have hafter : time.base < upper := by
    have hcast : ((time.base : ℤ) : ℚ) < upper := by linarith
    exact_mod_cast hcast
  rw [hbase] at hbefore hafter
  exact inRange_of_day ⟨hlow, hhigh⟩ ⟨hstart, hend⟩ hbefore hafter hbounds.sameDay

/-! ## The accepted inputs -/

/-- A time with an accuracy is accepted exactly when its bounds share a day. -/
theorem eventInterval_text {time : UtcTime} {accuracy : Option Accuracy} {lower upper : String} :
    eventInterval time.text accuracy = .ok (lower, upper) ↔
      ∃ given ∈ accuracy, ∃ radius first last, given.Denotes radius ∧
        Bounds time radius first last ∧ lower = gregorianText first ∧
          upper = gregorianText last := by
  unfold eventInterval
  rw [time.timePattern_text]
  dsimp only
  rw [if_neg time.getLast?_ne, time.strptime_stamp]
  dsimp only
  constructor
  · intro haccepted
    obtain ⟨radius, hradius, hbounds⟩ := bind_eq_ok.mp haccepted
    obtain ⟨given, hgiven, hdenotes⟩ := signedRadius_eq_ok.mp hradius
    rw [boundsAround_eq] at hbounds
    dsimp only at hbounds
    split at hbounds
    next => cases hbounds
    next =>
      split at hbounds
      next => cases hbounds
      next hday =>
        obtain ⟨rfl, rfl⟩ := Prod.mk.inj (Except.ok.inj hbounds)
        exact ⟨given, hgiven, radius, _, _, hdenotes,
          bounds_iff.mpr ⟨rfl, rfl, not_not.mp hday⟩, rfl, rfl⟩
  · rintro ⟨given, hgiven, radius, first, last, hdenotes, hbounds, rfl, rfl⟩
    have hrange := hbounds.inRange hdenotes.positive
    obtain ⟨hfirst, hlast, hday⟩ := bounds_iff.mp hbounds
    rw [signedRadius_eq_ok.mpr ⟨given, hgiven, hdenotes⟩]
    change (if ¬(InRange (boundsAround _ _ _).1 ∧ InRange (boundsAround _ _ _).2) then _
      else _) = _
    rw [boundsAround_eq, hfirst, hlast, if_neg (not_not.mpr hrange), if_neg (not_not.mpr hday)]

/-- An accepted text is the text of a time. -/
theorem exists_text {generalized lower upper : String} {accuracy : Option Accuracy}
    (haccepted : eventInterval generalized accuracy = .ok (lower, upper)) :
    ∃ time : UtcTime, time.text = generalized := by
  unfold eventInterval at haccepted
  split at haccepted
  next => cases haccepted
  next stamp fraction hpattern =>
    split at haccepted
    next => cases haccepted
    next hreduced =>
      split at haccepted
      next => cases haccepted
      next base hbase =>
        obtain ⟨hlength, hshort, hdigits, htext⟩ := timePattern_eq_some hpattern
        obtain ⟨time, hstamp, hfraction, -⟩ :=
          exists_time hlength hshort hdigits hreduced hbase
        refine ⟨time, String.toList_inj.mp ?_⟩
        have hempty : time.fraction = [] ↔ fraction = [] := by
          rw [← hfraction, List.map_eq_nil_iff]
        unfold TimeFields.text
        rw [String.toList_ofList, htext, hstamp, hfraction]
        exact congrArg (stamp ++ ·) (if_congr hempty rfl rfl)

/-- A text denotes one instant. -/
theorem UtcTime.instant_congr {first second : UtcTime} (htext : first.text = second.text) :
    first.instant = second.instant := by
  have hpattern := first.timePattern_text
  rw [htext, second.timePattern_text] at hpattern
  obtain ⟨hstamp, hfraction⟩ := Prod.mk.inj (Option.some.inj hpattern)
  have hbase := first.strptime_stamp
  rw [← hstamp, second.strptime_stamp] at hbase
  have hvalue := fractionOf_digits first.decimal
  rw [← hfraction, fractionOf_digits second.decimal] at hvalue
  unfold UtcTime.instant
  rw [Option.some.inj hbase, hvalue]

/-- The text and the accuracy are accepted with these bounds. -/
structure Returns (time : UtcTime) (accuracy : Accuracy) (first last : Instant) : Prop where
  lower_inRange : InRange first
  upper_inRange : InRange last
  returned : eventInterval time.text (some accuracy) = .ok (gregorianText first, gregorianText last)

theorem returns_iff {time : UtcTime} {accuracy : Accuracy} {first last : Instant} :
    Returns time accuracy first last ↔
      ∃ radius, accuracy.Denotes radius ∧ Bounds time radius first last := by
  constructor
  · rintro ⟨hlower, hupper, hreturned⟩
    obtain ⟨given, hgiven, radius, lower, upper, hdenotes, hbounds, hfirst, hlast⟩ :=
      eventInterval_text.mp hreturned
    obtain rfl := Option.some.inj hgiven
    obtain ⟨hlowerRange, hupperRange⟩ := hbounds.inRange hdenotes.positive
    obtain rfl := gregorianText_injOn hlower hlowerRange hfirst
    obtain rfl := gregorianText_injOn hupper hupperRange hlast
    exact ⟨radius, hdenotes, hbounds⟩
  · rintro ⟨radius, hdenotes, hbounds⟩
    obtain ⟨hlower, hupper⟩ := hbounds.inRange hdenotes.positive
    exact ⟨hlower, hupper, eventInterval_text.mpr
      ⟨accuracy, rfl, radius, first, last, hdenotes, hbounds, rfl, rfl⟩⟩

theorem Accuracy.Denotes.unique {accuracy : Accuracy} {first second : ℤ}
    (hfirst : accuracy.Denotes first) (hsecond : accuracy.Denotes second) : first = second := by
  rw [hfirst.radius_eq, hsecond.radius_eq]

theorem Bounds.lt {time : UtcTime} {radius : ℤ} {lower upper : Instant} (hradius : 0 < radius)
    (hbounds : Bounds time radius lower upper) : lower < upper := by
  obtain ⟨hlower, hupper⟩ := hbounds.around hradius
  exact_mod_cast hlower.trans hupper

/-- An earlier end gives an earlier lower bound. -/
theorem Bounds.lower_le {time later : UtcTime} {radius wide : ℤ} {lower upper first last : Instant}
    (hbounds : Bounds time radius lower upper) (hlater : Bounds later wide first last)
    (hends : time.instant - radius ≤ later.instant - wide) : lower ≤ first :=
  hlater.greatest.2 (le_trans hbounds.greatest.1 hends)

/-- A later end gives a later upper bound. -/
theorem Bounds.upper_le {time later : UtcTime} {radius wide : ℤ} {lower upper first last : Instant}
    (hbounds : Bounds time radius lower upper) (hlater : Bounds later wide first last)
    (hends : time.instant + radius ≤ later.instant + wide) : upper ≤ last :=
  hbounds.least.2 (le_trans hends hlater.least.1)

theorem Returns.widen {time : UtcTime} {narrow wide : Accuracy} {radius radius' : ℤ}
    {first last first' last' : Instant} (hnarrow : Returns time narrow first last)
    (hwide : Returns time wide first' last') (hradius : narrow.Denotes radius)
    (hradius' : wide.Denotes radius') (hle : radius ≤ radius') :
    first' ≤ first ∧ last ≤ last' := by
  obtain ⟨found, hfound, hbounds⟩ := returns_iff.mp hnarrow
  obtain ⟨found', hfound', hbounds'⟩ := returns_iff.mp hwide
  obtain rfl := hfound.unique hradius
  obtain rfl := hfound'.unique hradius'
  have hcast : (found : ℚ) ≤ found' := by exact_mod_cast hle
  exact ⟨hbounds'.lower_le hbounds (by linarith), hbounds.upper_le hbounds' (by linarith)⟩

theorem Returns.later {time later : UtcTime} {accuracy : Accuracy}
    {first last first' last' : Instant} (htime : Returns time accuracy first last)
    (hlater : Returns later accuracy first' last') (hle : time.instant ≤ later.instant) :
    first ≤ first' ∧ last ≤ last' := by
  obtain ⟨radius, hradius, hbounds⟩ := returns_iff.mp htime
  obtain ⟨found, hfound, hbounds'⟩ := returns_iff.mp hlater
  obtain rfl := hradius.unique hfound
  exact ⟨hbounds.lower_le hbounds' (by linarith), hbounds.upper_le hbounds' (by linarith)⟩

/-- Intervals are sound and tight: the bounds are the whole microseconds next to the accuracy
outwards, on one day; a wider accuracy and a later time move them outwards and later; and
every real second with an accuracy whose bounds share a day is accepted. -/
theorem eventInterval_exact :
    (∀ generalized accuracy lower upper,
      eventInterval generalized accuracy = .ok (lower, upper) →
        ∃ (time : UtcTime) (given : Accuracy) (radius : ℤ) (first last : Instant),
          time.text = generalized ∧
          (∀ other : UtcTime, other.text = generalized → other.instant = time.instant) ∧
          accuracy = some given ∧ given.Denotes radius ∧ Bounds time radius first last ∧
          first < last ∧ lower = gregorianText first ∧ upper = gregorianText last) ∧
    (∀ time narrow wide radius radius' first last first' last',
      Returns time narrow first last → Returns time wide first' last' →
        narrow.Denotes radius → wide.Denotes radius' → radius ≤ radius' →
          first' ≤ first ∧ last ≤ last') ∧
    (∀ time later accuracy first last first' last',
      Returns time accuracy first last → Returns later accuracy first' last' →
        time.instant ≤ later.instant → first ≤ first' ∧ last ≤ last') ∧
    (∀ (time : UtcTime) (accuracy : Accuracy) (radius : ℤ) (first last : Instant),
      accuracy.Denotes radius → Bounds time radius first last →
        eventInterval time.text (some accuracy) =
          .ok (gregorianText first, gregorianText last)) := by
  refine ⟨?_, ?_, ?_, ?_⟩
  · intro generalized accuracy lower upper haccepted
    obtain ⟨time, rfl⟩ := exists_text haccepted
    obtain ⟨given, hgiven, radius, first, last, hdenotes, hbounds, hlower, hupper⟩ :=
      eventInterval_text.mp haccepted
    exact ⟨time, given, radius, first, last, rfl, fun other htext => UtcTime.instant_congr htext,
      hgiven, hdenotes, hbounds, hbounds.lt hdenotes.positive, hlower, hupper⟩
  · intro time narrow wide radius radius' first last first' last' hnarrow hwide hradius hradius' hle
    exact hnarrow.widen hwide hradius hradius' hle
  · intro time later accuracy first last first' last' htime hlater hle
    exact htime.later hlater hle
  · intro time accuracy radius first last hdenotes hbounds
    exact (returns_iff.mpr ⟨radius, hdenotes, hbounds⟩).returned

/-! ## The ends of days -/

/-- The days of UTC that end with a leap second. -/
def leapDays : List Civil :=
  [⟨1972, 6, 30⟩, ⟨1972, 12, 31⟩, ⟨1973, 12, 31⟩, ⟨1974, 12, 31⟩, ⟨1975, 12, 31⟩,
    ⟨1976, 12, 31⟩, ⟨1977, 12, 31⟩, ⟨1978, 12, 31⟩, ⟨1979, 12, 31⟩, ⟨1981, 6, 30⟩,
    ⟨1982, 6, 30⟩, ⟨1983, 6, 30⟩, ⟨1985, 6, 30⟩, ⟨1987, 12, 31⟩, ⟨1989, 12, 31⟩,
    ⟨1990, 12, 31⟩, ⟨1992, 6, 30⟩, ⟨1993, 6, 30⟩, ⟨1994, 6, 30⟩, ⟨1995, 12, 31⟩,
    ⟨1997, 6, 30⟩, ⟨1998, 12, 31⟩, ⟨2005, 12, 31⟩, ⟨2008, 12, 31⟩, ⟨2012, 6, 30⟩,
    ⟨2015, 6, 30⟩, ⟨2016, 12, 31⟩]

def dayLength (date : Civil) : ℚ := if date ∈ leapDays then 86401000000 else 86400000000

/-- A second of UTC, which may be a leap second. -/
structure RealSecond (fields : TimeFields) : Prop where
  year : 1 ≤ fields.year ∧ fields.year ≤ 9999
  date : civilOfDays (daysOfCivil fields.date) = fields.date
  hour : fields.hour < 24
  minute : fields.minute < 60
  second : fields.second < 60 ∨
    fields.second = 60 ∧ fields.hour = 23 ∧ fields.minute = 59 ∧ fields.date ∈ leapDays
  decimal : ∀ value ∈ fields.fraction, value < 10
  short : fields.fraction.length ≤ 18
  reduced : fields.fraction.getLast? ≠ some 0

/-- The exact interval of a time with an accuracy stays within the day. -/
def WithinDay (fields : TimeFields) (radius : ℤ) : Prop :=
  0 ≤ fields.offset - radius ∧ fields.offset + radius < dayLength fields.date

def oneMicrosecond : Accuracy := ⟨[(129, .int 1)], by decide⟩

theorem oneMicrosecond_denotes : oneMicrosecond.Denotes 1 :=
  ⟨by decide, by decide, by
    intro entry hentry
    obtain rfl := List.mem_singleton.mp hentry
    exact ⟨1, rfl, by decide⟩, by decide, by decide, by decide, by decide, by decide⟩

/-- Half a second into the leap second of 2016. -/
def leapSecond : TimeFields := ⟨2016, 12, 31, 23, 59, 60, [5]⟩

/-- A microsecond and a half before the end of a day. -/
def beforeMidnight : TimeFields := ⟨2025, 1, 1, 23, 59, 59, [9, 9, 9, 9, 9, 8, 5]⟩

/-- Leap seconds are refused, and so is an interval inside a day that is rounded to its end. -/
theorem realSecond_refused :
    (RealSecond leapSecond ∧ WithinDay leapSecond 1 ∧ leapSecond.text = "20161231235960.5Z" ∧
      eventInterval leapSecond.text (some oneMicrosecond) =
        .error "Unsupported UTC/leap encoding.") ∧
    (RealSecond beforeMidnight ∧ WithinDay beforeMidnight 1 ∧
      beforeMidnight.text = "20250101235959.9999985Z" ∧
      eventInterval beforeMidnight.text (some oneMicrosecond) =
        .error "The witnessed interval crosses a UTC day boundary.") ∧
    ¬ ∀ (fields : TimeFields) (accuracy : Accuracy) (radius : ℤ), RealSecond fields →
      accuracy.Denotes radius → WithinDay fields radius →
        ∃ bounds, eventInterval fields.text (some accuracy) = .ok bounds := by
  have hreal : RealSecond leapSecond :=
    ⟨by decide, by decide, by decide, by decide, by decide, by decide, by decide, by decide⟩
  have hwithin : WithinDay leapSecond 1 := by
    unfold WithinDay
    decide +kernel
  have hrefused : eventInterval leapSecond.text (some oneMicrosecond) =
      .error "Unsupported UTC/leap encoding." := by decide +kernel
  refine ⟨⟨hreal, hwithin, by decide +kernel, hrefused⟩,
    ⟨⟨by decide, by decide, by decide, by decide, by decide, by decide, by decide, by decide⟩, ?_,
      by decide +kernel, by decide +kernel⟩, ?_⟩
  · unfold WithinDay
    decide +kernel
  · intro haccepted
    obtain ⟨bounds, hbounds⟩ := haccepted leapSecond oneMicrosecond 1 hreal
      oneMicrosecond_denotes hwithin
    rw [hrefused] at hbounds
    cases hbounds

end MatchVet.Causal.EventInterval
