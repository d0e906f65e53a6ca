import Mathlib.Data.Nat.Basic
import Mathlib.Tactic.Common

/-!
# Bounded search of a fixed point

A partial step is repeated from a start until it gives a value back, meets a value
it has seen, or has been taken a bounded number of times.  A value that the search
returns and that the step gives back is the one fixed value of the orbit, and the
search returns it exactly when the orbit reaches it in time.
-/

namespace MatchVet.Foundation.FixedPoint

variable {α : Type}

/-! ## Orbits -/

/-- The value after some steps, while the step answers. -/
def orbit (step : α → Option α) : ℕ → α → Option α
  | 0, value => some value
  | count + 1, value => (step value).bind (orbit step count)

/-- A value that the step gives back. -/
def Fixed (step : α → Option α) (value : α) : Prop := step value = some value

variable {step : α → Option α}

theorem orbit_add (first second : ℕ) (value : α) :
    orbit step (first + second) value = (orbit step first value).bind (orbit step second) := by
  induction first generalizing value with
  | zero => rw [Nat.zero_add, orbit, Option.bind_some]
  | succ first ih =>
      rw [Nat.succ_add, orbit, orbit]
      cases step value with
      | none => rfl
      | some next => exact ih next

theorem Fixed.orbit_eq {value : α} (hfixed : Fixed step value) (count : ℕ) :
    orbit step count value = some value := by
  induction count with
  | zero => rfl
  | succ count ih =>
      rw [orbit, show step value = some value from hfixed]
      exact ih

/-- An orbit has one fixed value. -/
theorem Fixed.unique {start first second : α} {early late : ℕ} (hfirst : Fixed step first)
    (hsecond : Fixed step second) (hearly : orbit step early start = some first)
    (hlate : orbit step late start = some second) : first = second := by
  have hboth : orbit step (early + late) start = some first := by
    rw [orbit_add, hearly]
    exact hfirst.orbit_eq late
  rw [Nat.add_comm, orbit_add, hlate] at hboth
  exact (Option.some.inj ((hsecond.orbit_eq early).symm.trans hboth)).symm

theorem orbit_cycle {value : α} {length : ℕ} (hcycle : orbit step length value = some value)
    (count : ℕ) : orbit step (length * count) value = some value := by
  induction count with
  | zero => rfl
  | succ count ih =>
      rw [Nat.mul_succ, orbit_add, ih]
      exact hcycle

/-- A value that comes back without being fixed leads to no fixed value. -/
theorem fixed_of_cycle {value last : α} {length count : ℕ} (hlength : 0 < length)
    (hcycle : orbit step length value = some value) (hfixed : Fixed step last)
    (hlast : orbit step count value = some last) : Fixed step value := by
  have hlate : orbit step (length * count) value = some last := by
    obtain ⟨rest, hrest⟩ := Nat.exists_eq_add_of_le (Nat.le_mul_of_pos_left count hlength)
    rw [hrest, orbit_add, hlast]
    exact hfixed.orbit_eq rest
  have heq : value = last := Option.some.inj ((orbit_cycle hcycle count).symm.trans hlate)
  rwa [heq]

/-! ## The search -/

variable [DecidableEq α]

/-- Repeat the step, remembering the values it left. -/
def search (step : α → Option α) : ℕ → List α → α → Option α
  | 0, _, value => some value
  | fuel + 1, seen, value =>
      match step value with
      | none => none
      | some next =>
          if next = value then some value
          else if value ∈ seen then some value
          else search step fuel (value :: seen) next

/-- Two steps that agree on the values met find the same. -/
theorem search_congr {other : α → Option α} {inside : α → Prop}
    (hsame : ∀ value, inside value → step value = other value)
    (hstep : ∀ value, inside value → ∀ next, step value = some next → inside next)
    {fuel : ℕ} {seen : List α} {start : α} (hstart : inside start) :
    search step fuel seen start = search other fuel seen start := by
  induction fuel generalizing seen start with
  | zero => rfl
  | succ fuel ih =>
      rw [search, search, ← hsame start hstart]
      cases hnext : step start with
      | none => rfl
      | some next =>
          dsimp only
          rw [ih (hstep start hstart next hnext)]

/-- What the search returns lies on the orbit. -/
theorem search_orbit {fuel : ℕ} {seen : List α} {start last : α}
    (hsearch : search step fuel seen start = some last) :
    ∃ count ≤ fuel, orbit step count start = some last := by
  induction fuel generalizing seen start with
  | zero => exact ⟨0, le_rfl, hsearch⟩
  | succ fuel ih =>
      rw [search] at hsearch
      cases hstep : step start with
      | none =>
          rw [hstep] at hsearch
          cases hsearch
      | some next =>
          rw [hstep] at hsearch
          dsimp only at hsearch
          split at hsearch
          · exact ⟨0, Nat.zero_le _, hsearch⟩
          · split at hsearch
            · exact ⟨0, Nat.zero_le _, hsearch⟩
            · obtain ⟨count, hcount, horbit⟩ := ih hsearch
              refine ⟨count + 1, Nat.succ_le_succ hcount, ?_⟩
              rw [orbit, hstep]
              exact horbit

/-- A fixed value of the orbit is found, as long as the values seen before lead to
the start. -/
theorem search_of_orbit {fuel count : ℕ} {seen : List α} {start last : α} (hcount : count ≤ fuel)
    (hseen : ∀ value ∈ seen, ∃ length, 0 < length ∧ orbit step length value = some start)
    (horbit : orbit step count start = some last) (hfixed : Fixed step last) :
    search step fuel seen start = some last := by
  induction fuel generalizing count seen start with
  | zero =>
      obtain rfl := Nat.le_zero.mp hcount
      exact horbit
  | succ fuel ih =>
      cases hstep : step start with
      | none =>
          cases count with
          | zero =>
              obtain rfl := Option.some.inj horbit
              rw [Fixed, hstep] at hfixed
              cases hfixed
          | succ count =>
              rw [orbit, hstep] at horbit
              cases horbit
      | some next =>
          rw [search, hstep]
          dsimp only
          by_cases hnext : next = start
          · have hstart : Fixed step start := hstep.trans (congrArg some hnext)
            rw [if_pos hnext, ← horbit]
            exact (hstart.orbit_eq count).symm
          · have hmoves : ¬Fixed step start := fun hstart =>
              hnext (Option.some.inj (hstep.symm.trans hstart))
            have hfresh : start ∉ seen := fun hmem => by
              obtain ⟨length, hlength, hcycle⟩ := hseen start hmem
              exact hmoves (fixed_of_cycle hlength hcycle hfixed horbit)
            rw [if_neg hnext, if_neg hfresh]
            cases count with
            | zero =>
                obtain rfl := Option.some.inj horbit
                exact absurd hfixed hmoves
            | succ count =>
                rw [orbit, hstep] at horbit
                refine ih (Nat.succ_le_succ_iff.mp hcount) (fun value hvalue => ?_) horbit
                rcases List.mem_cons.mp hvalue with rfl | hold
                · exact ⟨1, Nat.one_pos, by rw [orbit, hstep]; rfl⟩
                · obtain ⟨length, hlength, hleads⟩ := hseen value hold
                  exact ⟨length + 1, Nat.succ_pos length, by
                    rw [orbit_add, hleads, Option.bind_some, orbit, hstep]; rfl⟩

/-- The search returns a fixed value exactly when the orbit reaches it in time. -/
theorem search_fixed_iff {fuel : ℕ} {start last : α} :
    (search step fuel [] start = some last ∧ Fixed step last) ↔
      ∃ count ≤ fuel, orbit step count start = some last ∧ Fixed step last := by
  constructor
  · rintro ⟨hsearch, hfixed⟩
    obtain ⟨count, hcount, horbit⟩ := search_orbit hsearch
    exact ⟨count, hcount, horbit, hfixed⟩
  · rintro ⟨count, hcount, horbit, hfixed⟩
    refine ⟨search_of_orbit hcount (fun value hvalue => ?_) horbit hfixed, hfixed⟩
    cases hvalue

end MatchVet.Foundation.FixedPoint
