import Mathlib.Data.List.Basic

/-!
# Runs of a store

A store changes by calls.  A call that raises leaves the store as it was, and a
batch is a sequence of parts inside one transaction.  What every part preserves
is preserved by every run.
-/

namespace MatchVet.Foundation.Transition

variable {σ α β γ ε : Type}

/-! ## All-or-nothing calls -/

/-- The store after a call, which is the old one when the call raises. -/
def commit (call : σ → α → Except ε (σ × β)) (store : σ) (request : α) : σ :=
  match call store request with
  | .ok outcome => outcome.1
  | .error _ => store

theorem commit_ok {call : σ → α → Except ε (σ × β)} {store next : σ} {request : α} {answer : β}
    (hcall : call store request = .ok (next, answer)) : commit call store request = next := by
  rw [commit, hcall]

theorem commit_error {call : σ → α → Except ε (σ × β)} {store : σ} {request : α} {error : ε}
    (hcall : call store request = .error error) : commit call store request = store := by
  rw [commit, hcall]

/-- What holds before a call and after a successful one holds after every call. -/
theorem commit_preserves (holds : σ → Prop) {call : σ → α → Except ε (σ × β)} {store : σ}
    {request : α} (hbefore : holds store)
    (hafter : ∀ next answer, call store request = .ok (next, answer) → holds next) :
    holds (commit call store request) := by
  cases hcall : call store request with
  | error error =>
      rw [commit_error hcall]
      exact hbefore
  | ok outcome =>
      rw [commit_ok hcall]
      exact hafter outcome.1 outcome.2 hcall

/-- What a successful call relates, any call relates. -/
theorem commit_relates {related : σ → σ → Prop} (hrefl : ∀ store, related store store)
    {call : σ → α → Except ε (σ × β)} {store : σ} {request : α}
    (hcall : ∀ next answer, call store request = .ok (next, answer) → related store next) :
    related store (commit call store request) :=
  commit_preserves (related store) (hrefl store) hcall

/-! ## Batches -/

/-- The parts of one transaction in order; the first error ends it. -/
def batch (part : σ → α → Except ε (σ × β)) (store : σ) : List α → Except ε (σ × List β)
  | [] => .ok (store, [])
  | request :: rest =>
      match part store request with
      | .error error => .error error
      | .ok (next, answer) =>
          match batch part next rest with
          | .error error => .error error
          | .ok (last, answers) => .ok (last, answer :: answers)

theorem batch_cons_ok {part : σ → α → Except ε (σ × β)} {store last : σ} {request : α}
    {rest : List α} {answers : List β}
    (hbatch : batch part store (request :: rest) = .ok (last, answers)) :
    ∃ next answer others, part store request = .ok (next, answer) ∧
      batch part next rest = .ok (last, others) ∧ answers = answer :: others := by
  cases hpart : part store request with
  | error error => simp [batch, hpart] at hbatch
  | ok outcome =>
      cases hrest : batch part outcome.1 rest with
      | error error => simp [batch, hpart, hrest] at hbatch
      | ok final =>
          simp only [batch, hpart, hrest, Except.ok.injEq, Prod.mk.injEq] at hbatch
          exact ⟨outcome.1, outcome.2, final.2, rfl, by rw [← hbatch.1, hrest], hbatch.2.symm⟩

/-- Every part is requested under the condition. -/
def BatchMeets (part : σ → α → Except ε (σ × β)) (condition : σ → α → Prop) (store : σ) :
    List α → Prop
  | [] => True
  | request :: rest =>
      condition store request ∧
        ∀ next answer, part store request = .ok (next, answer) →
          BatchMeets part condition next rest

/-- A condition that no store affects is met by every batch of such parts. -/
theorem BatchMeets.of_forall {part : σ → α → Except ε (σ × β)} {condition : α → Prop}
    {requests : List α} (hrequests : ∀ request ∈ requests, condition request) (store : σ) :
    BatchMeets part (fun _ request => condition request) store requests := by
  induction requests generalizing store with
  | nil => trivial
  | cons request rest ih =>
      obtain ⟨hrequest, hrest⟩ := List.forall_mem_cons.mp hrequests
      exact ⟨hrequest, fun next _ _ => ih hrest next⟩

/-- What every part preserves is preserved by the batch. -/
theorem batch_preserves (holds : σ → Prop) {part : σ → α → Except ε (σ × β)}
    {condition : σ → α → Prop}
    (hpart : ∀ store request next answer, holds store → condition store request →
      part store request = .ok (next, answer) → holds next)
    {store last : σ} {requests : List α} {answers : List β}
    (hmeets : BatchMeets part condition store requests) (hstore : holds store)
    (hbatch : batch part store requests = .ok (last, answers)) : holds last := by
  induction requests generalizing store answers with
  | nil =>
      cases hbatch
      exact hstore
  | cons request rest ih =>
      obtain ⟨next, answer, others, hnext, hrest, -⟩ := batch_cons_ok hbatch
      exact ih (hmeets.2 next answer hnext)
        (hpart store request next answer hstore hmeets.1 hnext) hrest

/-- What every part relates, however it is requested, the batch relates. -/
theorem batch_relates {part : σ → α → Except ε (σ × β)} {related : σ → σ → Prop}
    (hrefl : ∀ store, related store store)
    (htrans : ∀ first second third, related first second → related second third →
      related first third)
    (hpart : ∀ store request next answer, part store request = .ok (next, answer) →
      related store next)
    {store last : σ} {requests : List α} {answers : List β}
    (hbatch : batch part store requests = .ok (last, answers)) : related store last := by
  induction requests generalizing store answers with
  | nil =>
      cases hbatch
      exact hrefl _
  | cons request rest ih =>
      obtain ⟨next, answer, others, hnext, hrest, -⟩ := batch_cons_ok hbatch
      exact htrans store next last (hpart store request next answer hnext) (ih hrest)

/-- What every part adds to a log the batch adds, in the order of its answers. -/
theorem batch_accumulates (holds : List γ → σ → Prop) (gives : β → List γ)
    {part : σ → α → Except ε (σ × β)}
    (hpart : ∀ log store request next answer, holds log store →
      part store request = .ok (next, answer) → holds (log ++ gives answer) next)
    {log : List γ} {store last : σ} {requests : List α} {answers : List β}
    (hstore : holds log store) (hbatch : batch part store requests = .ok (last, answers)) :
    holds (log ++ answers.flatMap gives) last := by
  induction requests generalizing log store answers with
  | nil =>
      cases hbatch
      rwa [List.flatMap_nil, List.append_nil]
  | cons request rest ih =>
      obtain ⟨next, answer, others, hnext, hrest, rfl⟩ := batch_cons_ok hbatch
      have hlast := ih (hpart log store request next answer hstore hnext) hrest
      rwa [List.flatMap_cons, ← List.append_assoc]

/-! ## Runs -/

def run (step : σ → α → σ) (store : σ) (requests : List α) : σ := requests.foldl step store

/-- Every call of the run is made under the condition. -/
def RunMeets (step : σ → α → σ) (condition : σ → α → Prop) (store : σ) : List α → Prop
  | [] => True
  | request :: rest => condition store request ∧ RunMeets step condition (step store request) rest

theorem RunMeets.of_forall {step : σ → α → σ} {condition : α → Prop} {requests : List α}
    (hrequests : ∀ request ∈ requests, condition request) (store : σ) :
    RunMeets step (fun _ request => condition request) store requests := by
  induction requests generalizing store with
  | nil => trivial
  | cons request rest ih =>
      obtain ⟨hrequest, hrest⟩ := List.forall_mem_cons.mp hrequests
      exact ⟨hrequest, ih hrest (step store request)⟩

/-- What every step preserves holds after every run. -/
theorem run_preserves (holds : σ → Prop) {step : σ → α → σ} {condition : σ → α → Prop}
    (hstep : ∀ store request, holds store → condition store request → holds (step store request))
    {store : σ} {requests : List α} (hmeets : RunMeets step condition store requests)
    (hstore : holds store) : holds (run step store requests) := by
  induction requests generalizing store with
  | nil => exact hstore
  | cons request rest ih =>
      exact ih hmeets.2 (hstep store request hstore hmeets.1)

/-- What every step relates the run relates. -/
theorem run_relates {step : σ → α → σ} {related : σ → σ → Prop}
    (hrefl : ∀ store, related store store)
    (htrans : ∀ first second third, related first second → related second third →
      related first third)
    (hstep : ∀ store request, related store (step store request))
    (store : σ) (requests : List α) : related store (run step store requests) := by
  induction requests generalizing store with
  | nil => exact hrefl store
  | cons request rest ih =>
      exact htrans store (step store request) _ (hstep store request) (ih (step store request))

/-! ## Logs -/

/-- What the successful calls of a run give, in order. -/
def collected (call : σ → α → Except ε (σ × β)) (gives : α → β → List γ) (store : σ) :
    List α → List γ
  | [] => []
  | request :: rest =>
      match call store request with
      | .ok (next, answer) => gives request answer ++ collected call gives next rest
      | .error _ => collected call gives store rest

/-- What every successful call adds to a log the run adds. -/
theorem run_accumulates (holds : List γ → σ → Prop) (gives : α → β → List γ)
    {call : σ → α → Except ε (σ × β)}
    (hcall : ∀ log store request next answer, holds log store →
      call store request = .ok (next, answer) → holds (log ++ gives request answer) next)
    {log : List γ} {store : σ} (requests : List α) (hstore : holds log store) :
    holds (log ++ collected call gives store requests) (run (commit call) store requests) := by
  induction requests generalizing log store with
  | nil =>
      rw [collected, List.append_nil]
      exact hstore
  | cons request rest ih =>
      rw [run, List.foldl_cons, ← run]
      cases hnext : call store request with
      | error error =>
          rw [collected, hnext, commit_error hnext]
          exact ih hstore
      | ok outcome =>
          rw [collected, hnext, commit_ok hnext, ← List.append_assoc]
          exact ih (hcall log store request outcome.1 outcome.2 hstore hnext)

end MatchVet.Foundation.Transition
