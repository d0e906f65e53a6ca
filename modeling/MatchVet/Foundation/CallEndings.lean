import MatchVet.Foundation.CrashLogic

/-!
# How a call ends

The rules of calls where the error of a call that raises is told, the outside world
answers in turn, and only some faults may happen.
-/

namespace MatchVet.Foundation.CrashLogic

variable {ρ σ ε α β : Type}

namespace Call

/-- The outside world answers, and may answer with an error. -/
def ask (answer : σ → Except ε α × σ) : Call ρ σ ε α := fun _ clock state =>
  match answer state with
  | (.ok value, next) => (next, clock, .ok value)
  | (.error error, next) => (next, clock, .error (.raised error))

def look (read : σ → α) : Call ρ σ ε α := ask fun state => (.ok (read state), state)

/-- An effect whose fault tells the error.  What it leaves behind is its residue. -/
def disturbed (failure : ρ → ε) (residue : ρ → σ → σ) (update : σ → Except ε α × σ) :
    Call ρ σ ε α := fun fates clock state =>
  match fates clock with
  | .proceed =>
      match update state with
      | (.ok value, next) => (next, clock + 1, .ok value)
      | (.error error, next) => (next, clock + 1, .error (.raised error))
  | .fail left => (residue left state, clock + 1, .error (.raised (failure left)))
  | .crash left => (residue left state, clock + 1, .error .crashed)

/-- `try: ...`, where every error is told to what follows. -/
def attempt (body : Call ρ σ ε α) : Call ρ σ ε (Except ε α) := fun fates clock state =>
  match body fates clock state with
  | (next, later, .ok value) => (next, later, .ok (.ok value))
  | (next, later, .error (.raised error)) => (next, later, .ok (.error error))
  | (next, later, .error .crashed) => (next, later, .error .crashed)

end Call

open Call

/-! ## Rules -/

/-- From the precondition, where only the given faults happen, the call returns in the
postcondition or stops as the last condition tells. -/
def Ends (faults : Fate ρ → Prop) (before : σ → Prop) (call : Call ρ σ ε α)
    (after : α → σ → Prop) (stopped : Stop ε → σ → Prop) : Prop :=
  ∀ fates clock state, (∀ time, faults (fates time)) → before state →
    match call fates clock state with
    | (next, _, .ok value) => after value next
    | (next, _, .error stop) => stopped stop next

variable {faults : Fate ρ → Prop} {before : σ → Prop} {after : α → σ → Prop}
  {stopped : Stop ε → σ → Prop}

theorem Ends.weaken {call : Call ρ σ ε α} {early : σ → Prop} {late : α → σ → Prop}
    {halted : Stop ε → σ → Prop} (hcall : Ends faults before call after stopped)
    (hbefore : ∀ state, early state → before state)
    (hafter : ∀ value state, after value state → late value state)
    (hstopped : ∀ stop state, stopped stop state → halted stop state) :
    Ends faults early call late halted := by
  intro fates clock state hfaults hearly
  have hend := hcall fates clock state hfaults (hbefore state hearly)
  rcases hresult : call fates clock state with ⟨next, later, stop | value⟩
  · rw [hresult] at hend
    exact hstopped stop next hend
  · rw [hresult] at hend
    exact hafter value next hend

theorem Ends.from {call : Call ρ σ ε α} {early : σ → Prop}
    (hcall : Ends faults before call after stopped)
    (hbefore : ∀ state, early state → before state) : Ends faults early call after stopped :=
  hcall.weaken hbefore (fun _ _ => id) fun _ _ => id

theorem Ends.to {call : Call ρ σ ε α} {late : α → σ → Prop}
    (hcall : Ends faults before call after stopped)
    (hafter : ∀ value state, after value state → late value state) :
    Ends faults before call late stopped :=
  hcall.weaken (fun _ => id) hafter fun _ _ => id

/-- A call from each state of the precondition. -/
theorem Ends.fixing {call : Call ρ σ ε α}
    (hcall : ∀ origin, before origin →
      Ends faults (fun state => state = origin) call after stopped) :
    Ends faults before call after stopped :=
  fun fates clock state hfaults hbefore => hcall state hbefore fates clock state hfaults rfl

/-- A precondition that some value meets. -/
theorem Ends.among {γ : Type} {call : Call ρ σ ε α} {among : γ → σ → Prop}
    (hcall : ∀ value, Ends faults (among value) call after stopped) :
    Ends faults (fun state => ∃ value, among value state) call after stopped :=
  fun fates clock state hfaults ⟨value, hbefore⟩ =>
    hcall value fates clock state hfaults hbefore

/-- A fact of the precondition that is not about the state. -/
theorem Ends.given {call : Call ρ σ ε α} {fact : Prop}
    (hcall : fact → Ends faults before call after stopped) :
    Ends faults (fun state => before state ∧ fact) call after stopped :=
  fun fates clock state hfaults hbefore => hcall hbefore.2 fates clock state hfaults hbefore.1

/-- A fact that the precondition implies. -/
theorem Ends.knowing {call : Call ρ σ ε α} {fact : Prop} (hfact : ∀ state, before state → fact)
    (hcall : fact → Ends faults before call after stopped) :
    Ends faults before call after stopped :=
  fun fates clock state hfaults hbefore =>
    hcall (hfact state hbefore) fates clock state hfaults hbefore

theorem Ends.ret {value : α} (hafter : ∀ state, before state → after value state) :
    Ends faults before (Call.ret value : Call ρ σ ε α) after stopped :=
  fun _ _ state _ hbefore => hafter state hbefore

theorem Ends.raise {error : ε} (hstopped : ∀ state, before state → stopped (.raised error) state) :
    Ends faults before (Call.raise error : Call ρ σ ε α) after stopped :=
  fun _ _ state _ hbefore => hstopped state hbefore

theorem Ends.lift {result : Except ε α}
    (hafter : ∀ value, result = .ok value → ∀ state, before state → after value state)
    (hstopped : ∀ error, result = .error error → ∀ state, before state →
      stopped (.raised error) state) :
    Ends faults before (Call.lift result : Call ρ σ ε α) after stopped := by
  cases result with
  | ok value => exact Ends.ret (hafter value rfl)
  | error error => exact Ends.raise (hstopped error rfl)

theorem Ends.bind {first : Call ρ σ ε α} {next : α → Call ρ σ ε β} {last : β → σ → Prop}
    (hfirst : Ends faults before first after stopped)
    (hnext : ∀ value, Ends faults (after value) (next value) last stopped) :
    Ends faults before (first >>= next) last stopped := by
  intro fates clock state hfaults hbefore
  have hend := hfirst fates clock state hfaults hbefore
  change match andThen first next fates clock state with
    | (next, _, .ok value) => last value next
    | (next, _, .error stop) => stopped stop next
  unfold andThen
  rcases hresult : first fates clock state with ⟨middle, later, stop | value⟩
  · rw [hresult] at hend
    exact hend
  · rw [hresult] at hend
    exact hnext value fates later middle hfaults hend

theorem Ends.map {call : Call ρ σ ε α} {convert : α → β} {last : β → σ → Prop}
    (hcall : Ends faults before call (fun value => last (convert value)) stopped) :
    Ends faults before (convert <$> call) last stopped :=
  Ends.bind hcall fun _ => Ends.ret fun _ => id

theorem Ends.branch {condition : Prop} [Decidable condition] {first second : Call ρ σ ε α}
    (hfirst : condition → Ends faults before first after stopped)
    (hsecond : ¬ condition → Ends faults before second after stopped) :
    Ends faults before (if condition then first else second) after stopped := by
  by_cases hcondition : condition
  · rw [if_pos hcondition]
    exact hfirst hcondition
  · rw [if_neg hcondition]
    exact hsecond hcondition

theorem Ends.ask {answer : σ → Except ε α × σ}
    (hafter : ∀ state value next, before state → answer state = (.ok value, next) →
      after value next)
    (hstopped : ∀ state error next, before state → answer state = (.error error, next) →
      stopped (.raised error) next) :
    Ends faults before (Call.ask answer : Call ρ σ ε α) after stopped := by
  intro fates clock state _ hbefore
  unfold Call.ask
  rcases hanswer : answer state with ⟨error | value, next⟩
  · exact hstopped state error next hbefore hanswer
  · exact hafter state value next hbefore hanswer

theorem Ends.look {read : σ → α} (hafter : ∀ state, before state → after (read state) state) :
    Ends faults before (Call.look read : Call ρ σ ε α) after stopped := by
  refine Ends.ask (fun state value next hbefore hanswer => ?_) fun state error next _ hanswer => ?_
  · cases hanswer
    exact hafter state hbefore
  · cases hanswer

theorem Ends.seen {read : σ → α} :
    Ends faults before (Call.look read : Call ρ σ ε α)
      (fun value state => before state ∧ value = read state) stopped :=
  Ends.look fun _ hbefore => ⟨hbefore, rfl⟩

/-- A look at something that does not matter. -/
theorem Ends.glance {read : σ → α} :
    Ends faults before (Call.look read : Call ρ σ ε α) (fun _ => before) stopped :=
  Ends.look fun _ => id

theorem Ends.disturbed {failure : ρ → ε} {residue : ρ → σ → σ} {update : σ → Except ε α × σ}
    (hafter : ∀ state value next, before state → update state = (.ok value, next) →
      after value next)
    (hstopped : ∀ state error next, before state → update state = (.error error, next) →
      stopped (.raised error) next)
    (hfail : ∀ left state, faults (.fail left) → before state →
      stopped (.raised (failure left)) (residue left state))
    (hcrash : ∀ left state, faults (.crash left) → before state →
      stopped .crashed (residue left state)) :
    Ends faults before (Call.disturbed failure residue update) after stopped := by
  intro fates clock state hfaults hbefore
  have hfault := hfaults clock
  unfold Call.disturbed
  cases hfate : fates clock with
  | proceed =>
      rcases hupdate : update state with ⟨error | value, next⟩
      · exact hstopped state error next hbefore hupdate
      · exact hafter state value next hbefore hupdate
  | fail left =>
      rw [hfate] at hfault
      exact hfail left state hfault hbefore
  | crash left =>
      rw [hfate] at hfault
      exact hcrash left state hfault hbefore

/-- What holds where a call stops: with an error, or with the process. -/
def Stopping (raised : ε → σ → Prop) (crashed : σ → Prop) : Stop ε → σ → Prop
  | .raised error => raised error
  | .crashed => crashed

/-- What holds where an attempt ends: with a value, or with an error that was told. -/
def Outcome (after : α → σ → Prop) (raised : ε → σ → Prop) : Except ε α → σ → Prop
  | .ok value => after value
  | .error error => raised error

theorem Ends.attempt {body : Call ρ σ ε α} (raised : ε → σ → Prop)
    (hbody : Ends faults before body after (Stopping raised (stopped .crashed))) :
    Ends faults before (Call.attempt body) (Outcome after raised) stopped := by
  intro fates clock state hfaults hbefore
  have hend := hbody fates clock state hfaults hbefore
  unfold Call.attempt
  rcases hresult : body fates clock state with ⟨next, later, (error | _) | value⟩
  all_goals
    rw [hresult] at hend
    exact hend

theorem Ends.assign {update : σ → σ} {late : Unit → σ → Prop}
    (hafter : ∀ state, before state → late () (update state)) :
    Ends faults before (Call.assign update : Call ρ σ ε Unit) late stopped :=
  fun _ _ state _ hbefore => hafter state hbefore

/-- Whichever way a call ends, it leaves a state that meets the condition of its end. -/
theorem Ends.leaves {call : Call ρ σ ε α} {condition : σ → Prop} {state : σ}
    (hcall : Ends faults before call (fun _ => condition) fun _ => condition)
    (hbefore : before state) {fates : ℕ → Fate ρ} (hfaults : ∀ time, faults (fates time)) :
    condition (call.leaves fates state) := by
  have hend := hcall fates 0 state hfaults hbefore
  unfold Call.leaves
  rcases hresult : call fates 0 state with ⟨next, later, stop | value⟩
  all_goals
    rw [hresult] at hend
    exact hend

end MatchVet.Foundation.CrashLogic
