import Mathlib.Data.Int.Order.Basic

/-!
# Timestamps

An instant is a number of microseconds since the start of 1970 in UTC.  Reading
and writing ISO 8601 text is the runtime's; what the program relies on is that a
written instant reads back as itself.
-/

namespace MatchVet.Foundation.Timestamp

/-- Microseconds since the start of 1970 in UTC. -/
abbrev Instant := ℤ

def microsecondsPerSecond : ℤ := 1000000

/-- `datetime.min` and `datetime.max`. -/
def earliest : Instant := -62135596800 * microsecondsPerSecond

def latest : Instant := 253402300800 * microsecondsPerSecond - 1

def InRange (instant : Instant) : Prop := earliest ≤ instant ∧ instant ≤ latest

instance (instant : Instant) : Decidable (InRange instant) :=
  inferInstanceAs (Decidable (_ ∧ _))

theorem inRange_iff (instant : ℤ) :
    InRange instant ↔ -62135596800000000 ≤ instant ∧ instant ≤ 253402300799999999 :=
  Iff.rfl

theorem inRange_zero : InRange 0 := by decide

/-- What `datetime.fromisoformat` reads: a wall clock and its UTC offset, if the
text has one. -/
structure Reading where
  clock : ℤ
  offset : Option ℤ
  deriving DecidableEq, Repr

/-- `fromisoformat`, and `isoformat(timespec="microseconds")` of a UTC instant. -/
class Calendar where
  fromIsoFormat : String → Option Reading
  isoFormat : Instant → String
  fromIsoFormat_isoFormat : ∀ instant, InRange instant →
    fromIsoFormat (isoFormat instant) = some ⟨instant, some 0⟩

export Calendar (fromIsoFormat isoFormat)

/-- Different instants have different texts. -/
theorem isoFormat_injOn [Calendar] {first second : Instant} (hfirst : InRange first)
    (hsecond : InRange second) (htext : isoFormat first = isoFormat second) : first = second := by
  have hread := Calendar.fromIsoFormat_isoFormat first hfirst
  rw [htext, Calendar.fromIsoFormat_isoFormat second hsecond] at hread
  cases hread
  rfl

end MatchVet.Foundation.Timestamp
