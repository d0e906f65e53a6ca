import Mathlib.Data.List.Basic
import Mathlib.Data.Nat.Notation

/-!
# Calls that may stop at any effect

A call acts on the state by effects.  At each effect it goes on, raises, or the
process ends; a stopped effect may leave something behind.  What holds when a call
returns and what holds wherever it stops are proved together, rule by rule.
-/

namespace MatchVet.Foundation.CrashLogic

variable {ρ σ ε α β : Type}

/-- What happens at one effect. -/
inductive Fate (ρ : Type) where
  | proceed
  | fail (left : ρ)
  | crash (left : ρ)

/-- How a call ends without returning. -/
inductive Stop (ε : Type) where
  | raised (error : ε)
  | crashed

/-- A call reads the fates of its effects in turn. -/
def Call (ρ σ ε α : Type) : Type := (ℕ → Fate ρ) → ℕ → σ → σ × ℕ × Except (Stop ε) α

namespace Call

def ret (value : α) : Call ρ σ ε α := fun _ clock state => (state, clock, .ok value)

def raise (error : ε) : Call ρ σ ε α := fun _ clock state =>
  (state, clock, .error (.raised error))

def andThen (first : Call ρ σ ε α) (next : α → Call ρ σ ε β) : Call ρ σ ε β :=
  fun fates clock state =>
    match first fates clock state with
    | (middle, later, .ok value) => next value fates later middle
    | (middle, later, .error stop) => (middle, later, .error stop)

instance : Monad (Call ρ σ ε) where
  pure := ret
  bind := andThen

theorem andThen_ret (call : Call ρ σ ε α) : andThen call ret = call := by
  funext fates clock state
  unfold andThen
  rcases call fates clock state with ⟨next, later, stop | value⟩ <;> rfl

theorem andThen_assoc {γ : Type} (call : Call ρ σ ε α) (next : α → Call ρ σ ε β)
    (last : β → Call ρ σ ε γ) :
    andThen (andThen call next) last = andThen call fun value => andThen (next value) last := by
  funext fates clock state
  unfold andThen
  rcases call fates clock state with ⟨middle, later, stop | value⟩ <;> rfl

instance : LawfulMonad (Call ρ σ ε) :=
  LawfulMonad.mk' _ andThen_ret (fun _ _ => rfl) andThen_assoc

/-- A computation that may raise and touches nothing. -/
def lift : Except ε α → Call ρ σ ε α
  | .ok value => ret value
  | .error error => raise error

/-- One effect: an update that may be refused.  When the effect fails it raises the
given error; what it leaves behind then is its residue. -/
def effect (failure : ε) (residue : ρ → σ → σ) (update : σ → Except ε (σ × α)) :
    Call ρ σ ε α := fun fates clock state =>
  match fates clock with
  | .proceed =>
      match update state with
      | .ok (next, value) => (next, clock + 1, .ok value)
      | .error error => (state, clock + 1, .error (.raised error))
  | .fail left => (residue left state, clock + 1, .error (.raised failure))
  | .crash left => (residue left state, clock + 1, .error .crashed)

/-- An effect that leaves nothing behind when it stops. -/
def atomic (failure : ε) (update : σ → Except ε (σ × α)) : Call ρ σ ε α :=
  effect failure (fun _ state => state) update

/-- An effect that only reads. -/
def reading (failure : ε) (read : σ → Except ε α) : Call ρ σ ε α :=
  atomic failure fun state => (read state).map fun value => (state, value)

/-- An effect that changes nothing the state records. -/
def touch (failure : ε) : Call ρ σ ε Unit := reading failure fun _ => .ok ()

/-- An effect whose error the fate tells.  It leaves nothing behind when it stops. -/
def risky (update : σ → Except ε (σ × α)) : Call ε σ ε α := fun fates clock state =>
  match fates clock with
  | .proceed =>
      match update state with
      | .ok (next, value) => (next, clock + 1, .ok value)
      | .error error => (state, clock + 1, .error (.raised error))
  | .fail error => (state, clock + 1, .error (.raised error))
  | .crash _ => (state, clock + 1, .error .crashed)

/-- A reading that may raise anything. -/
def consult (read : σ → Except ε α) : Call ε σ ε α :=
  risky fun state => (read state).map fun value => (state, value)

/-- An effect that may raise anything and changes nothing the state records. -/
def hazard : Call ε σ ε Unit := consult fun _ => .ok ()

/-- `try: ... except error: handler`. -/
def catching (body : Call ρ σ ε α) (handler : ε → Call ρ σ ε α) : Call ρ σ ε α :=
  fun fates clock state =>
    match body fates clock state with
    | (next, later, .ok value) => (next, later, .ok value)
    | (next, later, .error .crashed) => (next, later, .error .crashed)
    | (next, later, .error (.raised error)) => handler error fates later next

/-- `try: ... except: cleanup; raise`.  After a crash there is no cleanup. -/
def recover (body : Call ρ σ ε α) (cleanup : Call ρ σ ε Unit) : Call ρ σ ε α :=
  fun fates clock state =>
    match body fates clock state with
    | (next, later, .ok value) => (next, later, .ok value)
    | (next, later, .error .crashed) => (next, later, .error .crashed)
    | (next, later, .error (.raised error)) =>
        match cleanup fates later next with
        | (last, final, .ok _) => (last, final, .error (.raised error))
        | (last, final, .error stop) => (last, final, .error stop)

/-- An assignment, which cannot fail. -/
def assign (update : σ → σ) : Call ρ σ ε Unit := fun _ clock state =>
  (update state, clock, .ok ())

/-- `try: ... finally: cleanup`. -/
def ensure (body : Call ρ σ ε α) (cleanup : Call ρ σ ε Unit) : Call ρ σ ε α :=
  andThen (recover body cleanup) fun value => andThen cleanup fun _ => ret value

/-- A loop over some items. -/
def each (body : β → Call ρ σ ε Unit) : List β → Call ρ σ ε Unit
  | [] => ret ()
  | item :: rest => andThen (body item) fun _ => each body rest

/-- The state a call leaves, however it ends. -/
def leaves (call : Call ρ σ ε α) (fates : ℕ → Fate ρ) (state : σ) : σ := (call fates 0 state).1

end Call

open Call

/-! ## Rules for every ending -/

/-- From the precondition the call returns in the postcondition, or stops in the
condition for stops. -/
def Meets (before : σ → Prop) (call : Call ρ σ ε α) (after : α → σ → Prop) (stopped : σ → Prop) :
    Prop :=
  ∀ fates clock state, before state →
    (∀ next later value, call fates clock state = (next, later, .ok value) → after value next) ∧
      ∀ next later stop, call fates clock state = (next, later, .error stop) → stopped next

variable {before stopped : σ → Prop} {after : α → σ → Prop}

theorem Meets.weaken {call : Call ρ σ ε α} {early halted : σ → Prop} {late : α → σ → Prop}
    (hcall : Meets before call after stopped) (hbefore : ∀ state, early state → before state)
    (hafter : ∀ value state, after value state → late value state)
    (hstopped : ∀ state, stopped state → halted state) : Meets early call late halted := by
  intro fates clock state hearly
  obtain ⟨hreturn, hstop⟩ := hcall fates clock state (hbefore state hearly)
  exact ⟨fun next later value hnext => hafter value next (hreturn next later value hnext),
    fun next later stop hnext => hstopped next (hstop next later stop hnext)⟩

theorem Meets.stopsIn {call : Call ρ σ ε α} {halted : σ → Prop}
    (hcall : Meets before call after stopped)
    (hstopped : ∀ state, stopped state → halted state) : Meets before call after halted :=
  hcall.weaken (fun _ => id) (fun _ _ => id) hstopped

/-- A fact of the precondition that is not about the state. -/
theorem Meets.given {call : Call ρ σ ε α} {fact : Prop}
    (hcall : fact → Meets before call after stopped) :
    Meets (fun state => before state ∧ fact) call after stopped :=
  fun fates clock state hbefore => hcall hbefore.2 fates clock state hbefore.1

/-- A call from each state of the precondition. -/
theorem Meets.fixing {call : Call ρ σ ε α}
    (hcall : ∀ origin, before origin → Meets (fun state => state = origin) call after stopped) :
    Meets before call after stopped :=
  fun fates clock state hbefore => hcall state hbefore fates clock state rfl

/-- A precondition that some object meets. -/
theorem Meets.exists {γ : Type} {call : Call ρ σ ε α} {condition : γ → σ → Prop}
    (hcall : ∀ object, Meets (condition object) call after stopped) :
    Meets (fun state => ∃ object, condition object state) call after stopped := by
  rintro fates clock state ⟨object, hcondition⟩
  exact hcall object fates clock state hcondition

theorem Meets.ret {value : α} (hafter : ∀ state, before state → after value state) :
    Meets before (Call.ret value : Call ρ σ ε α) after stopped := by
  intro fates clock state hbefore
  refine ⟨?_, nofun⟩
  rintro next later found ⟨⟩
  exact hafter state hbefore

theorem Meets.keep (value : α) :
    Meets before (Call.ret value : Call ρ σ ε α) (fun _ => before) stopped :=
  Meets.ret fun _ => id

theorem Meets.raise {error : ε} (hstopped : ∀ state, before state → stopped state) :
    Meets before (Call.raise error : Call ρ σ ε α) after stopped := by
  intro fates clock state hbefore
  refine ⟨nofun, ?_⟩
  rintro next later stop ⟨⟩
  exact hstopped state hbefore

theorem Meets.bind {first : Call ρ σ ε α} {next : α → Call ρ σ ε β} {last : β → σ → Prop}
    (hfirst : Meets before first after stopped)
    (hnext : ∀ value, Meets (after value) (next value) last stopped) :
    Meets before (first >>= next) last stopped := by
  intro fates clock state hbefore
  obtain ⟨hreturn, hstop⟩ := hfirst fates clock state hbefore
  change (∀ _ _ _, andThen first next fates clock state = _ → _) ∧
    ∀ _ _ _, andThen first next fates clock state = _ → _
  unfold andThen
  rcases hcall : first fates clock state with ⟨middle, later, stop | value⟩
  · refine ⟨nofun, ?_⟩
    rintro _ _ _ ⟨⟩
    exact hstop middle later stop hcall
  · exact hnext value fates later middle (hreturn middle later value hcall)

theorem Meets.lift {result : Except ε α}
    (hafter : ∀ value, result = .ok value → ∀ state, before state → after value state)
    (hstopped : ∀ state, before state → stopped state) :
    Meets before (Call.lift result : Call ρ σ ε α) after stopped := by
  cases result with
  | ok value => exact Meets.ret (hafter value rfl)
  | error error => exact Meets.raise hstopped

/-- A computation that is about something else. -/
theorem Meets.checked {result : Except ε α} (hstopped : ∀ state, before state → stopped state) :
    Meets before (Call.lift result : Call ρ σ ε α) (fun _ => before) stopped :=
  Meets.lift (fun _ _ _ => id) hstopped

/-- A computation that may raise, and what it returned. -/
theorem Meets.computed {result : Except ε α} (hstopped : ∀ state, before state → stopped state) :
    Meets before (Call.lift result : Call ρ σ ε α)
      (fun value state => before state ∧ result = .ok value) stopped :=
  Meets.lift (fun _ hvalue _ hbefore => ⟨hbefore, hvalue⟩) hstopped

theorem Meets.effect {failure : ε} {residue : ρ → σ → σ} {update : σ → Except ε (σ × α)}
    (hupdate : ∀ state next value, before state → update state = .ok (next, value) →
      after value next)
    (hstopped : ∀ state, before state → stopped state)
    (hresidue : ∀ left state, before state → stopped (residue left state)) :
    Meets before (Call.effect failure residue update) after stopped := by
  intro fates clock state hbefore
  unfold Call.effect
  cases fates clock with
  | proceed =>
      rcases hresult : update state with error | ⟨next, value⟩
      · refine ⟨nofun, ?_⟩
        rintro _ _ _ ⟨⟩
        exact hstopped state hbefore
      · refine ⟨?_, nofun⟩
        rintro _ _ _ ⟨⟩
        exact hupdate state next value hbefore hresult
  | fail left =>
      refine ⟨nofun, ?_⟩
      rintro _ _ _ ⟨⟩
      exact hresidue left state hbefore
  | crash left =>
      refine ⟨nofun, ?_⟩
      rintro _ _ _ ⟨⟩
      exact hresidue left state hbefore

theorem Meets.atomic {failure : ε} {update : σ → Except ε (σ × α)}
    (hupdate : ∀ state next value, before state → update state = .ok (next, value) →
      after value next)
    (hstopped : ∀ state, before state → stopped state) :
    Meets before (Call.atomic failure update : Call ρ σ ε α) after stopped :=
  Meets.effect hupdate hstopped fun _ => hstopped

theorem Meets.reading {failure : ε} {read : σ → Except ε α}
    (hread : ∀ state value, before state → read state = .ok value → after value state)
    (hstopped : ∀ state, before state → stopped state) :
    Meets before (Call.reading failure read : Call ρ σ ε α) after stopped := by
  refine Meets.atomic (fun state next value hbefore hupdate => ?_) hstopped
  cases hresult : read state with
  | error error =>
      rw [hresult] at hupdate
      cases hupdate
  | ok found =>
      rw [hresult] at hupdate
      cases hupdate
      exact hread _ _ hbefore hresult

theorem Meets.touch {failure : ε} {late : Unit → σ → Prop}
    (hafter : ∀ state, before state → late () state)
    (hstopped : ∀ state, before state → stopped state) :
    Meets before (Call.touch failure : Call ρ σ ε Unit) late stopped :=
  Meets.reading (fun state _ hbefore _ => hafter state hbefore) hstopped

/-- A reading that is about something else. -/
theorem Meets.observe {failure : ε} {read : σ → Except ε α}
    (hstopped : ∀ state, before state → stopped state) :
    Meets before (Call.reading failure read : Call ρ σ ε α) (fun _ => before) stopped :=
  Meets.reading (fun _ _ hbefore _ => hbefore) hstopped

theorem Meets.pass {failure : ε} (hstopped : ∀ state, before state → stopped state) :
    Meets before (Call.touch failure : Call ρ σ ε Unit) (fun _ => before) stopped :=
  Meets.observe hstopped

theorem Meets.risky {update : σ → Except ε (σ × α)}
    (hupdate : ∀ state next value, before state → update state = .ok (next, value) →
      after value next)
    (hstopped : ∀ state, before state → stopped state) :
    Meets before (Call.risky update) after stopped := by
  intro fates clock state hbefore
  unfold Call.risky
  cases fates clock with
  | proceed =>
      rcases hresult : update state with error | ⟨next, value⟩
      · refine ⟨nofun, ?_⟩
        rintro _ _ _ ⟨⟩
        exact hstopped state hbefore
      · refine ⟨?_, nofun⟩
        rintro _ _ _ ⟨⟩
        exact hupdate state next value hbefore hresult
  | fail error =>
      refine ⟨nofun, ?_⟩
      rintro _ _ _ ⟨⟩
      exact hstopped state hbefore
  | crash error =>
      refine ⟨nofun, ?_⟩
      rintro _ _ _ ⟨⟩
      exact hstopped state hbefore

theorem Meets.consult {read : σ → Except ε α}
    (hread : ∀ state value, before state → read state = .ok value → after value state)
    (hstopped : ∀ state, before state → stopped state) :
    Meets before (Call.consult read) after stopped := by
  refine Meets.risky (fun state next value hbefore hupdate => ?_) hstopped
  cases hresult : read state with
  | error error =>
      rw [hresult] at hupdate
      cases hupdate
  | ok found =>
      rw [hresult] at hupdate
      cases hupdate
      exact hread _ _ hbefore hresult

theorem Meets.hazard (hstopped : ∀ state, before state → stopped state) :
    Meets before (Call.hazard : Call ε σ ε Unit) (fun _ => before) stopped :=
  Meets.consult (fun _ _ hbefore _ => hbefore) hstopped

theorem Meets.catching {body : Call ρ σ ε α} {handler : ε → Call ρ σ ε α}
    (hbody : Meets before body after stopped)
    (hhandler : ∀ error, Meets stopped (handler error) after stopped) :
    Meets before (Call.catching body handler) after stopped := by
  intro fates clock state hbefore
  obtain ⟨hreturn, hstop⟩ := hbody fates clock state hbefore
  unfold Call.catching
  rcases hcall : body fates clock state with ⟨next, later, (error | _) | value⟩
  · exact hhandler error fates later next (hstop next later _ hcall)
  · refine ⟨nofun, ?_⟩
    rintro _ _ _ ⟨⟩
    exact hstop next later _ hcall
  · refine ⟨?_, nofun⟩
    rintro _ _ _ ⟨⟩
    exact hreturn next later value hcall

theorem Meets.recover {body : Call ρ σ ε α} {cleanup : Call ρ σ ε Unit}
    (hbody : Meets before body after stopped)
    (hcleanup : Meets stopped cleanup (fun _ => stopped) stopped) :
    Meets before (Call.recover body cleanup) after stopped := by
  intro fates clock state hbefore
  obtain ⟨hreturn, hstop⟩ := hbody fates clock state hbefore
  unfold Call.recover
  rcases hcall : body fates clock state with ⟨next, later, (error | _) | value⟩
  · have hnext := hstop next later _ hcall
    obtain ⟨hdone, hhalt⟩ := hcleanup fates later next hnext
    dsimp only
    rcases hclean : cleanup fates later next with ⟨last, final, stop | _⟩
    · refine ⟨nofun, ?_⟩
      rintro _ _ _ ⟨⟩
      exact hhalt last final stop hclean
    · refine ⟨nofun, ?_⟩
      rintro _ _ _ ⟨⟩
      exact hdone last final _ hclean
  · refine ⟨nofun, ?_⟩
    rintro _ _ _ ⟨⟩
    exact hstop next later _ hcall
  · refine ⟨?_, nofun⟩
    rintro _ _ _ ⟨⟩
    exact hreturn next later value hcall

theorem Meets.assign {update : σ → σ} {late : Unit → σ → Prop}
    (hafter : ∀ state, before state → late () (update state)) :
    Meets before (Call.assign update : Call ρ σ ε Unit) late stopped := by
  intro fates clock state hbefore
  refine ⟨?_, nofun⟩
  rintro _ _ _ ⟨⟩
  exact hafter state hbefore

theorem Meets.ensure {body : Call ρ σ ε α} {cleanup : Call ρ σ ε Unit} {last : α → σ → Prop}
    (hbody : Meets before body after stopped)
    (hcleanup : Meets stopped cleanup (fun _ => stopped) stopped)
    (hlast : ∀ value, Meets (after value) cleanup (fun _ => last value) stopped) :
    Meets before (Call.ensure body cleanup) last stopped :=
  Meets.bind (Meets.recover hbody hcleanup) fun value =>
    Meets.bind (hlast value) fun _ => Meets.ret fun _ => id

/-- A call that relates its end to its beginning keeps what the relation keeps. -/
theorem Meets.along {call : Call ρ σ ε α} {related : σ → σ → Prop}
    (hcall : ∀ origin, Meets (fun state => state = origin) call (fun _ => related origin)
      (related origin))
    (hkeep : ∀ origin state, before origin → related origin state → before state) :
    Meets before call (fun _ => before) before := by
  intro fates clock state hbefore
  obtain ⟨hreturn, hstop⟩ := hcall state fates clock state rfl
  exact ⟨fun next later value hnext => hkeep state next hbefore (hreturn next later value hnext),
    fun next later stop hnext => hkeep state next hbefore (hstop next later stop hnext)⟩

/-- A loop keeps what its body keeps. -/
theorem Meets.each {body : β → Call ρ σ ε Unit} {items : List β}
    (hbody : ∀ item ∈ items, Meets before (body item) (fun _ => before) stopped) :
    Meets before (Call.each body items) (fun _ => before) stopped := by
  induction items with
  | nil => exact Meets.ret fun _ hbefore => hbefore
  | cons item rest ih =>
      obtain ⟨hitem, hrest⟩ := List.forall_mem_cons.mp hbody
      exact Meets.bind hitem fun _ => ih hrest

/-- A call that keeps a condition however it ends leaves a state that meets it. -/
theorem Meets.leaves {call : Call ρ σ ε α} {state : σ}
    (hcall : Meets before call (fun _ => stopped) stopped) (hbefore : before state)
    (fates : ℕ → Fate ρ) : stopped (call.leaves fates state) := by
  obtain ⟨hreturn, hstop⟩ := hcall fates 0 state hbefore
  unfold Call.leaves
  rcases hresult : call fates 0 state with ⟨next, later, stop | value⟩
  · exact hstop next later stop hresult
  · exact hreturn next later value hresult

/-! ## Calls that meet no fault -/

/-- From the precondition and without faults the call returns. -/
def Completes (before : σ → Prop) (call : Call ρ σ ε α) : Prop :=
  ∀ clock state, before state →
    ∃ next later value, call (fun _ => .proceed) clock state = (next, later, .ok value)

theorem Completes.ret (value : α) : Completes before (Call.ret value : Call ρ σ ε α) :=
  fun clock state _ => ⟨state, clock, value, rfl⟩

theorem Completes.weaken {call : Call ρ σ ε α} {early : σ → Prop} (hcall : Completes before call)
    (hbefore : ∀ state, early state → before state) : Completes early call :=
  fun clock state hearly => hcall clock state (hbefore state hearly)

theorem Completes.given {call : Call ρ σ ε α} {fact : Prop}
    (hcall : fact → Completes before call) : Completes (fun state => before state ∧ fact) call :=
  fun clock state hbefore => hcall hbefore.2 clock state hbefore.1

theorem Completes.exists {γ : Type} {call : Call ρ σ ε α} {condition : γ → σ → Prop}
    (hcall : ∀ object, Completes (condition object) call) :
    Completes (fun state => ∃ object, condition object state) call := by
  rintro clock state ⟨object, hcondition⟩
  exact hcall object clock state hcondition

theorem Completes.bind {first : Call ρ σ ε α} {next : α → Call ρ σ ε β}
    (hfirst : Completes before first) (hmeets : Meets before first after stopped)
    (hnext : ∀ value, Completes (after value) (next value)) :
    Completes before (first >>= next) := by
  intro clock state hbefore
  obtain ⟨middle, later, value, hcall⟩ := hfirst clock state hbefore
  have hafter := (hmeets _ clock state hbefore).1 middle later value hcall
  obtain ⟨last, final, result, hresult⟩ := hnext value later middle hafter
  refine ⟨last, final, result, ?_⟩
  change andThen first next _ clock state = _
  rw [andThen, hcall]
  exact hresult

theorem Completes.lift {result : Except ε α} {value : α} (hresult : result = .ok value) :
    Completes before (Call.lift result : Call ρ σ ε α) := by
  rw [hresult]
  exact Completes.ret value

theorem Completes.risky {update : σ → Except ε (σ × α)}
    (hupdate : ∀ state, before state → ∃ outcome, update state = .ok outcome) :
    Completes before (Call.risky update) := by
  intro clock state hbefore
  obtain ⟨⟨next, value⟩, houtcome⟩ := hupdate state hbefore
  refine ⟨next, clock + 1, value, ?_⟩
  rw [Call.risky, houtcome]

theorem Completes.consult {read : σ → Except ε α}
    (hread : ∀ state, before state → ∃ value, read state = .ok value) :
    Completes before (Call.consult read) := by
  refine Completes.risky fun state hbefore => ?_
  obtain ⟨value, hvalue⟩ := hread state hbefore
  exact ⟨(state, value), by rw [hvalue]; rfl⟩

theorem Completes.hazard : Completes before (Call.hazard : Call ε σ ε Unit) :=
  Completes.consult fun _ _ => ⟨(), rfl⟩

theorem Completes.catching {body : Call ρ σ ε α} {handler : ε → Call ρ σ ε α}
    (hbody : Completes before body) : Completes before (Call.catching body handler) := by
  intro clock state hbefore
  obtain ⟨next, later, value, hcall⟩ := hbody clock state hbefore
  exact ⟨next, later, value, by rw [Call.catching, hcall]⟩

theorem Completes.each {body : β → Call ρ σ ε Unit} {items : List β}
    (hbody : ∀ item ∈ items, Completes before (body item))
    (hmeets : ∀ item ∈ items, Meets before (body item) (fun _ => before) stopped) :
    Completes before (Call.each body items) := by
  induction items with
  | nil => exact Completes.ret ()
  | cons item rest ih =>
      obtain ⟨hitem, hrest⟩ := List.forall_mem_cons.mp hbody
      obtain ⟨hfirst, hothers⟩ := List.forall_mem_cons.mp hmeets
      exact Completes.bind hitem hfirst fun _ => ih hrest hothers

end MatchVet.Foundation.CrashLogic
