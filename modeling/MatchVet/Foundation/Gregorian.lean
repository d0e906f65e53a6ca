import Mathlib.Tactic.IntervalCases
import Mathlib.Tactic.Linarith
import Mathlib.Tactic.Ring
import MatchVet.Foundation.Timestamp

/-!
# The Gregorian calendar

Civil dates are counted in eras of 400 years that start in March, so a leap day
is the last day of its year.  Written instants have six fractional digits and
the offset of UTC; reading one gives the instant back.
-/

namespace MatchVet.Foundation.Gregorian

open MatchVet.Foundation.Timestamp

structure Civil where
  year : ℤ
  month : ℤ
  day : ℤ
  deriving DecidableEq, Repr

/-- Days since the start of 1970. -/
def daysOfCivil (date : Civil) : ℤ :=
  let year := if date.month ≤ 2 then date.year - 1 else date.year
  let shifted := if 2 < date.month then date.month - 3 else date.month + 9
  let yearOfEra := year % 400
  year / 400 * 146097 +
    (yearOfEra * 365 + yearOfEra / 4 - yearOfEra / 100 +
      ((153 * shifted + 2) / 5 + date.day - 1)) - 719468

def yearOfEra (dayOfEra : ℤ) : ℤ :=
  (dayOfEra - dayOfEra / 1460 + dayOfEra / 36524 - dayOfEra / 146096) / 365

def dayOfYear (dayOfEra : ℤ) : ℤ :=
  dayOfEra - (365 * yearOfEra dayOfEra + yearOfEra dayOfEra / 4 - yearOfEra dayOfEra / 100)

/-- The civil date of a day of a March year. -/
def civilOf (era year day : ℤ) : Civil :=
  let shifted := (5 * day + 2) / 153
  if shifted < 10 then ⟨year + era * 400, shifted + 3, day - (153 * shifted + 2) / 5 + 1⟩
  else ⟨year + era * 400 + 1, shifted - 9, day - (153 * shifted + 2) / 5 + 1⟩

def civilOfDays (days : ℤ) : Civil :=
  let dayOfEra := (days + 719468) % 146097
  civilOf ((days + 719468) / 146097) (yearOfEra dayOfEra) (dayOfYear dayOfEra)

theorem yearOfEra_bounds {dayOfEra : ℤ} (hlow : 0 ≤ dayOfEra) (hhigh : dayOfEra < 146097) :
    0 ≤ yearOfEra dayOfEra ∧ yearOfEra dayOfEra < 400 := by
  unfold yearOfEra
  omega

/-- The quotients of a day of an era, by the era's short cycles. -/
theorem dayOfYear_of_quotients {day year fours hundreds cycles centuries last : ℤ}
    (hday : 0 ≤ day ∧ day ≤ 146096)
    (hfours : 0 ≤ year - 4 * fours ∧ year - 4 * fours ≤ 3)
    (hhundreds : 0 ≤ year - 100 * hundreds ∧ year - 100 * hundreds ≤ 99)
    (hyear : 0 ≤ day - 365 * year - cycles + centuries - last ∧
      day - 365 * year - cycles + centuries - last ≤ 364)
    (hcycles : 0 ≤ day - 1460 * cycles ∧ day - 1460 * cycles ≤ 1459)
    (hcenturies : 0 ≤ day - 36524 * centuries ∧ day - 36524 * centuries ≤ 36523)
    (hlast : 0 ≤ day - 146096 * last ∧ day - 146096 * last ≤ 146095) :
    0 ≤ day - (365 * year + fours - hundreds) ∧
      day - (365 * year + fours - hundreds) ≤ 365 := by
  have hcentury : centuries = 0 ∨ centuries = 1 ∨ centuries = 2 ∨ centuries = 3 ∨
      centuries = 4 := by omega
  have hend : last = 0 ∨ last = 1 := by omega
  have hhundred : hundreds = 0 ∨ hundreds = 1 ∨ hundreds = 2 ∨ hundreds = 3 := by omega
  rcases hcentury with rfl | rfl | rfl | rfl | rfl <;>
    rcases hhundred with rfl | rfl | rfl | rfl <;> rcases hend with rfl | rfl <;> omega

theorem dayOfYear_bounds {dayOfEra : ℤ} (hlow : 0 ≤ dayOfEra) (hhigh : dayOfEra < 146097) :
    0 ≤ dayOfYear dayOfEra ∧ dayOfYear dayOfEra ≤ 365 := by
  unfold dayOfYear
  have hyear : 0 ≤ dayOfEra - 365 * yearOfEra dayOfEra - dayOfEra / 1460 + dayOfEra / 36524 -
      dayOfEra / 146096 ∧ dayOfEra - 365 * yearOfEra dayOfEra - dayOfEra / 1460 +
        dayOfEra / 36524 - dayOfEra / 146096 ≤ 364 := by
    unfold yearOfEra
    omega
  exact dayOfYear_of_quotients (by omega) (by omega) (by omega) hyear (by omega) (by omega)
    (by omega)

theorem daysOfCivil_civilOf {era year day : ℤ} (hyear : 0 ≤ year ∧ year < 400)
    (hday : 0 ≤ day ∧ day ≤ 365) :
    daysOfCivil (civilOf era year day) =
      era * 146097 + (365 * year + year / 4 - year / 100) + day - 719468 := by
  have hera : (year + era * 400) / 400 = era := by omega
  have hyearBack : (year + era * 400) % 400 = year := by omega
  unfold civilOf
  dsimp only
  split
  next hlate =>
    have hmonth : ¬(5 * day + 2) / 153 + 3 ≤ 2 := by omega
    have hmonth' : 2 < (5 * day + 2) / 153 + 3 := by omega
    simp only [daysOfCivil, if_neg hmonth, if_pos hmonth', hera, hyearBack,
      add_sub_cancel_right]
    ring
  next hearly =>
    have hmonth : (5 * day + 2) / 153 - 9 ≤ 2 := by omega
    have hmonth' : ¬2 < (5 * day + 2) / 153 - 9 := by omega
    simp only [daysOfCivil, if_pos hmonth, if_neg hmonth', hera, hyearBack,
      add_sub_cancel_right, sub_add_cancel]
    ring

/-- Every day has a civil date, which counts back to it. -/
theorem daysOfCivil_civilOfDays (days : ℤ) : daysOfCivil (civilOfDays days) = days := by
  have hlow : 0 ≤ (days + 719468) % 146097 := by omega
  have hhigh : (days + 719468) % 146097 < 146097 := by omega
  have hsplit : (days + 719468) / 146097 * 146097 + (days + 719468) % 146097 = days + 719468 := by
    omega
  rw [civilOfDays, daysOfCivil_civilOf (yearOfEra_bounds hlow hhigh)
    (dayOfYear_bounds hlow hhigh), dayOfYear]
  linarith

/-- The ranges of the month and the day of a civil date. -/
structure InCalendar (date : Civil) : Prop where
  month : 1 ≤ date.month ∧ date.month ≤ 12
  day : 1 ≤ date.day ∧ date.day ≤ 31

theorem civilOf_inCalendar {era year day : ℤ} (hday : 0 ≤ day ∧ day ≤ 365) :
    InCalendar (civilOf era year day) := by
  unfold civilOf
  dsimp only
  split
  · exact ⟨by dsimp only; omega, by dsimp only; omega⟩
  · exact ⟨by dsimp only; omega, by dsimp only; omega⟩

theorem civilOfDays_inCalendar (days : ℤ) : InCalendar (civilOfDays days) :=
  civilOf_inCalendar (dayOfYear_bounds (by omega) (by omega))

/-- The parts of a date of our era are natural numbers. -/
theorem civil_toNat {date : Civil} (hyear : 1 ≤ date.year) (hcalendar : InCalendar date) :
    (⟨(date.year.toNat : ℤ), (date.month.toNat : ℤ), (date.day.toNat : ℤ)⟩ : Civil) = date := by
  obtain ⟨year, month, day⟩ := date
  obtain ⟨hmonth, hday⟩ := hcalendar
  dsimp only at hyear hmonth hday ⊢
  rw [Int.toNat_of_nonneg (by omega), Int.toNat_of_nonneg (by omega),
    Int.toNat_of_nonneg (by omega)]

/-! ## Digits -/

def digit (value : ℕ) : Char := Char.ofNat (48 + value % 10)

def digitValue? (char : Char) : Option ℕ :=
  if 48 ≤ char.toNat ∧ char.toNat ≤ 57 then some (char.toNat - 48) else none

theorem digitValue?_digit (value : ℕ) : digitValue? (digit value) = some (value % 10) := by
  have hlt : value % 10 < 10 := Nat.mod_lt _ (by decide)
  unfold digit
  interval_cases value % 10 <;> rfl

/-- The decimal digits of a value, to a fixed width. -/
def padded : ℕ → ℕ → List Char
  | 0, _ => []
  | width + 1, value => padded width (value / 10) ++ [digit value]

theorem padded_length (width value : ℕ) : (padded width value).length = width := by
  induction width generalizing value with
  | zero => rfl
  | succ width ih => rw [padded, List.length_append, ih, List.length_singleton]

def readDigits (chars : List Char) : Option ℕ :=
  chars.foldlM (fun total char => (digitValue? char).map (10 * total + ·)) 0

theorem readDigits_padded {width value : ℕ} (hvalue : value < 10 ^ width) :
    readDigits (padded width value) = some value := by
  induction width generalizing value with
  | zero =>
      have hzero : value = 0 := by omega
      subst hzero
      rfl
  | succ width ih =>
      have hquotient : value / 10 < 10 ^ width := by
        rw [Nat.div_lt_iff_lt_mul (by decide)]
        rwa [pow_succ] at hvalue
      have hread := ih hquotient
      unfold readDigits at hread ⊢
      rw [padded, List.foldlM_append, hread]
      simp only [Option.bind_eq_bind, Option.bind_some, List.foldlM_cons, List.foldlM_nil,
        digitValue?_digit, Option.map_some]
      exact congrArg some (Nat.div_add_mod value 10)

/-! ## Written instants -/

/-- A number of a fixed width at the start of a text. -/
def takeNumber (width : ℕ) (chars : List Char) : Option (ℕ × List Char) :=
  if (chars.take width).length = width then
    (readDigits (chars.take width)).map fun value => (value, chars.drop width)
  else none

def takeChar (char : Char) : List Char → Option (List Char)
  | [] => none
  | head :: rest => if head = char then some rest else none

theorem takeNumber_padded {width value : ℕ} (hvalue : value < 10 ^ width) (rest : List Char) :
    takeNumber width (padded width value ++ rest) = some (value, rest) := by
  have hlength := padded_length width value
  rw [takeNumber, List.take_left' hlength, List.drop_left' hlength, if_pos hlength,
    readDigits_padded hvalue]
  rfl

@[simp]
theorem takeChar_cons (char : Char) (rest : List Char) :
    takeChar char (char :: rest) = some rest := if_pos rfl

def microsecondsPerDay : ℤ := 86400000000

/-- The hours, minutes, seconds and microseconds of a time of day. -/
structure DayTime where
  hour : ℕ
  minute : ℕ
  second : ℕ
  microsecond : ℕ

def DayTime.ofMicroseconds (value : ℕ) : DayTime :=
  ⟨value / 3600000000, value / 60000000 % 60, value / 1000000 % 60, value % 1000000⟩

def DayTime.microseconds (time : DayTime) : ℕ :=
  ((time.hour * 60 + time.minute) * 60 + time.second) * 1000000 + time.microsecond

structure DayTime.Valid (time : DayTime) : Prop where
  hour : time.hour < 24
  minute : time.minute < 60
  second : time.second < 60
  microsecond : time.microsecond < 1000000

theorem DayTime.microseconds_ofMicroseconds (value : ℕ) :
    (DayTime.ofMicroseconds value).microseconds = value := by
  unfold ofMicroseconds microseconds
  dsimp only
  omega

theorem DayTime.valid_ofMicroseconds {value : ℕ} (hvalue : value < 86400000000) :
    (DayTime.ofMicroseconds value).Valid := by
  refine ⟨?_, ?_, ?_, ?_⟩ <;> dsimp only [ofMicroseconds] <;> omega

/-- Three numbers with a separator, the first of its own width. -/
def writeTriple (width : ℕ) (separator : Char) (first second third : ℕ) : List Char :=
  padded width first ++ separator :: (padded 2 second ++ separator :: padded 2 third)

def readTriple (width : ℕ) (separator : Char) (chars : List Char) :
    Option ((ℕ × ℕ × ℕ) × List Char) := do
  let (first, chars) ← takeNumber width chars
  let chars ← takeChar separator chars
  let (second, chars) ← takeNumber 2 chars
  let chars ← takeChar separator chars
  let (third, chars) ← takeNumber 2 chars
  some ((first, second, third), chars)

theorem readTriple_writeTriple {width first second third : ℕ} (separator : Char)
    (hfirst : first < 10 ^ width) (hsecond : second < 10 ^ 2) (hthird : third < 10 ^ 2)
    (rest : List Char) :
    readTriple width separator (writeTriple width separator first second third ++ rest) =
      some ((first, second, third), rest) := by
  unfold readTriple writeTriple
  rw [List.append_assoc, List.cons_append, List.append_assoc, List.cons_append,
    takeNumber_padded hfirst]
  dsimp only [Option.bind_eq_bind, Option.bind_some]
  rw [takeChar_cons]
  dsimp only [Option.bind_eq_bind, Option.bind_some]
  rw [takeNumber_padded hsecond]
  dsimp only [Option.bind_eq_bind, Option.bind_some]
  rw [takeChar_cons]
  dsimp only [Option.bind_eq_bind, Option.bind_some]
  rw [takeNumber_padded hthird]
  rfl

def isoChars (date : Civil) (time : DayTime) (zone : List Char) : List Char :=
  writeTriple 4 '-' date.year.toNat date.month.toNat date.day.toNat ++ 'T' ::
    (writeTriple 2 ':' time.hour time.minute time.second ++ '.' ::
      (padded 6 time.microsecond ++ zone))

/-- `isoformat(timespec="microseconds")` of a UTC instant. -/
def gregorianText (instant : Instant) : String :=
  String.ofList (isoChars (civilOfDays (instant / microsecondsPerDay))
    (DayTime.ofMicroseconds (instant % microsecondsPerDay).toNat) "+00:00".toList)

/-- A UTC offset, or nothing. -/
def readZone : List Char → Option (Option ℤ)
  | [] => some none
  | sign :: rest => do
      let (hour, rest) ← takeNumber 2 rest
      let rest ← takeChar ':' rest
      let (minute, rest) ← takeNumber 2 rest
      if rest.isEmpty && hour < 24 && minute < 60 && (sign = '+' || sign = '-') then
        some (some ((if sign = '+' then 1 else -1) * ((hour * 60 + minute : ℕ) : ℤ) * 60000000))
      else none

/-- The fraction of a second, of six digits, or none at all. -/
def readFraction : List Char → Option (ℕ × List Char)
  | '.' :: rest => takeNumber 6 rest
  | chars => some (0, chars)

def validClock (date : Civil) (time : DayTime) : Bool :=
  1 ≤ date.year && civilOfDays (daysOfCivil date) = date && time.hour < 24 && time.minute < 60 &&
    time.second < 60

/-- `fromisoformat` of a date and a time with the usual separators. -/
def gregorianReading (text : String) : Option Reading := do
  let ((year, month, day), chars) ← readTriple 4 '-' text.toList
  let chars ← takeChar 'T' chars
  let ((hour, minute, second), chars) ← readTriple 2 ':' chars
  let (microsecond, chars) ← readFraction chars
  let offset ← readZone chars
  let date : Civil := ⟨year, month, day⟩
  let time : DayTime := ⟨hour, minute, second, microsecond⟩
  if validClock date time then
    some ⟨daysOfCivil date * microsecondsPerDay + time.microseconds, offset⟩
  else none

theorem readZone_utc : readZone "+00:00".toList = some (some 0) := by
  decide +kernel

/-- The year of every representable instant has at most four digits. -/
theorem civilOfDays_year {days : ℤ} (hlow : -719162 ≤ days) (hhigh : days ≤ 2932896) :
    1 ≤ (civilOfDays days).year ∧ (civilOfDays days).year ≤ 9999 := by
  have hera : 0 ≤ (days + 719468) % 146097 ∧ (days + 719468) % 146097 < 146097 := by omega
  have hyear := yearOfEra_bounds hera.1 hera.2
  have hday := dayOfYear_bounds hera.1 hera.2
  have hdefinition : dayOfYear ((days + 719468) % 146097) =
      (days + 719468) % 146097 - (365 * yearOfEra ((days + 719468) % 146097) +
        yearOfEra ((days + 719468) % 146097) / 4 -
          yearOfEra ((days + 719468) % 146097) / 100) := rfl
  rw [civilOfDays]
  generalize dayOfYear ((days + 719468) % 146097) = day at hday hdefinition ⊢
  generalize yearOfEra ((days + 719468) % 146097) = year at hyear hdefinition ⊢
  unfold civilOf
  dsimp only
  split <;> dsimp only <;> omega

theorem gregorianReading_gregorianText {instant : ℤ} (hrange : InRange instant) :
    gregorianReading (gregorianText instant) = some ⟨instant, some 0⟩ := by
  have hbounds : -719162 ≤ instant / microsecondsPerDay ∧
      instant / microsecondsPerDay ≤ 2932896 := by
    rw [inRange_iff] at hrange
    unfold microsecondsPerDay
    omega
  have hwithin : (instant % microsecondsPerDay).toNat < 86400000000 := by
    unfold microsecondsPerDay
    omega
  have hinstant : instant / microsecondsPerDay * microsecondsPerDay +
      ((instant % microsecondsPerDay).toNat : ℤ) = instant := by
    unfold microsecondsPerDay
    omega
  have hyear := civilOfDays_year hbounds.1 hbounds.2
  have hcalendar := civilOfDays_inCalendar (instant / microsecondsPerDay)
  have hcount := daysOfCivil_civilOfDays (instant / microsecondsPerDay)
  have htime := DayTime.valid_ofMicroseconds hwithin
  have hvalue := DayTime.microseconds_ofMicroseconds (instant % microsecondsPerDay).toNat
  have hfixed : civilOfDays (daysOfCivil (civilOfDays (instant / microsecondsPerDay))) =
      civilOfDays (instant / microsecondsPerDay) := by rw [hcount]
  unfold gregorianReading gregorianText
  rw [String.toList_ofList, isoChars]
  generalize civilOfDays (instant / microsecondsPerDay) = date at *
  generalize DayTime.ofMicroseconds (instant % microsecondsPerDay).toNat = time at *
  obtain ⟨hmonth, hday⟩ := hcalendar
  have hyearText : date.year.toNat < 10 ^ 4 := by omega
  have hmonthText : date.month.toNat < 10 ^ 2 := by omega
  have hdayText : date.day.toNat < 10 ^ 2 := by omega
  have hhourText : time.hour < 10 ^ 2 := htime.hour.trans (by decide)
  have hminuteText : time.minute < 10 ^ 2 := htime.minute.trans (by decide)
  have hsecondText : time.second < 10 ^ 2 := htime.second.trans (by decide)
  have hmicrosecondText : time.microsecond < 10 ^ 6 := htime.microsecond
  have hdate := civil_toNat hyear.1 ⟨hmonth, hday⟩
  have hvalid : validClock date time = true := by
    simp [validClock, hyear.1, hfixed, htime.hour, htime.minute, htime.second]
  rw [readTriple_writeTriple '-' hyearText hmonthText hdayText]
  dsimp only [Option.bind_eq_bind, Option.bind_some]
  rw [takeChar_cons]
  dsimp only [Option.bind_eq_bind, Option.bind_some]
  rw [readTriple_writeTriple ':' hhourText hminuteText hsecondText]
  dsimp only [Option.bind_eq_bind, Option.bind_some]
  rw [readFraction, takeNumber_padded hmicrosecondText]
  dsimp only [Option.bind_eq_bind, Option.bind_some]
  rw [readZone_utc]
  dsimp only [Option.bind_eq_bind, Option.bind_some]
  rw [hdate, if_pos hvalid, hcount, hvalue, hinstant]

/-- A day from 1 January 1 to 31 December 9999. -/
def DateInRange (days : ℤ) : Prop := -719162 ≤ days ∧ days ≤ 2932896

instance (days : ℤ) : Decidable (DateInRange days) := inferInstanceAs (Decidable (_ ∧ _))

/-- `date.isoformat` of a day. -/
def dateText (days : ℤ) : String :=
  let date := civilOfDays days
  String.ofList (padded 4 date.year.toNat ++ '-' :: (padded 2 date.month.toNat ++ '-' ::
    padded 2 date.day.toNat))

/-- `date.fromisoformat` of the extended form. -/
def readDate (text : String) : Option ℤ :=
  match readTriple 4 '-' text.toList with
  | some ((year, month, day), []) =>
      let date : Civil := ⟨year, month, day⟩
      if civilOfDays (daysOfCivil date) = date then some (daysOfCivil date) else none
  | _ => none

theorem readDate_dateText {days : ℤ} (hrange : DateInRange days) :
    readDate (dateText days) = some days := by
  have hyear := civilOfDays_year hrange.1 hrange.2
  have hcalendar := civilOfDays_inCalendar days
  have hcount := daysOfCivil_civilOfDays days
  have hfixed : civilOfDays (daysOfCivil (civilOfDays days)) = civilOfDays days := by rw [hcount]
  have htext : (dateText days).toList = writeTriple 4 '-' (civilOfDays days).year.toNat
      (civilOfDays days).month.toNat (civilOfDays days).day.toNat ++ [] := by
    rw [dateText, String.toList_ofList, List.append_nil]
    rfl
  rw [readDate, htext]
  generalize civilOfDays days = date at *
  obtain ⟨hmonth, hday⟩ := hcalendar
  have hdate := civil_toNat hyear.1 ⟨hmonth, hday⟩
  rw [readTriple_writeTriple '-' (by omega) (by omega) (by omega)]
  dsimp only
  rw [hdate, if_pos hfixed, hcount]

/-- `date.weekday`, where Monday is 0. -/
def weekday (days : ℤ) : ℤ := (days + 3) % 7

/-- The proleptic Gregorian calendar. -/
@[reducible]
def gregorianCalendar : Calendar where
  fromIsoFormat := gregorianReading
  isoFormat := gregorianText
  fromIsoFormat_isoFormat _ := gregorianReading_gregorianText

/-- Different instants of the calendar have different texts. -/
theorem gregorianText_injOn {first second : ℤ} (hfirst : InRange first)
    (hsecond : InRange second) (htext : gregorianText first = gregorianText second) :
    first = second :=
  @isoFormat_injOn gregorianCalendar _ _ hfirst hsecond htext

example : gregorianText 1790942400000000 = "2026-10-02T12:00:00.000000+00:00" := by
  decide +kernel

example : gregorianReading "2026-10-02T14:00:00+02:00" =
    some ⟨1790949600000000, some 7200000000⟩ := by
  decide +kernel

end MatchVet.Foundation.Gregorian
