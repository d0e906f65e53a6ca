import MatchVet.Ingestion.Downloader

/-!
# The audit of a transport log

An auditor who reads the log of a downloader knows what each fetch has spent, under which
limits, and how late it was.
-/

namespace MatchVet.Ingestion.Audit

open MatchVet.Ingestion.Fetch
open MatchVet.Ingestion.Transport

variable {ω : Type}

/-- What the log tells: of the fetch that runs, and of all fetches. -/
structure Ledger where
  start : Option ℚ
  now : ℚ
  limits : Option Limits
  checked : Option Limits
  visited : List String
  requests : ℕ
  bytes : ℕ
  redirects : ℕ
  retries : ℕ
  totalRequests : ℕ
  totalBytes : ℕ

namespace Ledger

def blank : Ledger := ⟨none, 0, none, none, [], 0, 0, 0, 0, 0, 0⟩

def next (ledger : Ledger) : Event ω → Ledger
  | .began url =>
      { blank with
        visited := [url], totalRequests := ledger.totalRequests, totalBytes := ledger.totalBytes }
  | .clock now => { ledger with start := ledger.start <|> some now, now }
  | .authorized limits => { ledger with limits := some limits }
  | .checked limits => { ledger with checked := some limits }
  | .dispatched _ _ _ =>
      { ledger with
        requests := ledger.requests + 1, totalRequests := ledger.totalRequests + 1 }
  | .received count =>
      { ledger with bytes := ledger.bytes + count, totalBytes := ledger.totalBytes + count }
  | .redirected url =>
      { ledger with redirects := ledger.redirects + 1, visited := ledger.visited ++ [url] }
  | .retried => { ledger with retries := ledger.retries + 1 }
  | .slept _ | .stored _ | .dataReplaced | .metadataReplaced => ledger

end Ledger

def audit (log : List (Event ω)) : Ledger := log.foldl Ledger.next Ledger.blank

@[simp]
theorem audit_snoc (log : List (Event ω)) (event : Event ω) :
    audit (log ++ [event]) = (audit log).next event := by
  simp only [audit, List.foldl_append, List.foldl_cons, List.foldl_nil]

/-! ## Limits -/

/-- What every event of a law-abiding log meets, given what was known before it. -/
def Throughout (law : Ledger → Event ω → Prop) (log : List (Event ω)) : Prop :=
  ∀ before event after, log = before ++ event :: after → law (audit before) event

variable {law : Ledger → Event ω → Prop}

theorem throughout_nil : Throughout law ([] : List (Event ω)) := by
  intro before event after hlog
  cases before <;> cases hlog

theorem throughout_snoc {log : List (Event ω)} {event : Event ω} :
    Throughout law (log ++ [event]) ↔ Throughout law log ∧ law (audit log) event := by
  constructor
  · intro hlaw
    refine ⟨fun before other after hlog => hlaw before other (after ++ [event]) ?_,
      hlaw log event [] rfl⟩
    rw [hlog, List.append_assoc, List.cons_append]
  · rintro ⟨hlog, hevent⟩ before other after hsplit
    rcases List.eq_nil_or_concat after with rfl | ⟨initial, last, rfl⟩
    · obtain ⟨rfl, hlast⟩ := List.append_inj' hsplit rfl
      cases hlast
      exact hevent
    · refine hlog before other initial ?_
      have hinit := congrArg List.dropLast hsplit
      rw [List.dropLast_concat, List.concat_eq_append, ← List.cons_append, ← List.append_assoc,
        List.dropLast_concat] at hinit
      exact hinit

theorem throughout_getElem {log : List (Event ω)} (hlog : Throughout law log) {index : ℕ}
    {event : Event ω} (hevent : log[index]? = some event) : law (audit (log.take index)) event := by
  obtain ⟨hindex, hget⟩ := List.getElem?_eq_some_iff.mp hevent
  refine hlog _ event (log.drop (index + 1)) ?_
  rw [← hget, ← List.drop_eq_getElem_cons hindex, List.take_append_drop]

theorem Throughout.imp {other : Ledger → Event ω → Prop} {log : List (Event ω)}
    (hlog : Throughout law log) (himp : ∀ ledger event, law ledger event → other ledger event) :
    Throughout other log :=
  fun before event after hsplit => himp _ _ (hlog before event after hsplit)

section Bounds

variable [TransportServices] (downloader : Downloader)

/-- The limits of the policy and of the downloader, and the authorized bytes: what may be
sent, received, followed, repeated, waited and stored. -/
def Bounds (ledger : Ledger) : Event ω → Prop
  | .dispatched request _ _ =>
      ledger.totalRequests < downloader.policy.maxRequestCount ∧
        validUrl downloader.policy request.url = true ∧ request.url ∈ ledger.visited
  | .received count =>
      ledger.totalBytes + count ≤
          min downloader.networkCapBytes downloader.policy.maxTotalBytes ∧
        ∃ limits ∈ ledger.limits, ledger.bytes + count ≤ limits.bytes
  | .redirected url =>
      ledger.redirects < downloader.policy.redirectCount ∧
        validUrl downloader.policy url = true ∧ url ∉ ledger.visited
  | .retried => ledger.retries < downloader.policy.retryCount
  | .slept delay => ∃ start ∈ ledger.start,
      delay < downloader.policy.totalElapsedBudgetSeconds - (ledger.now - start)
  | .stored size => size ≤ downloader.maxSourceBytes
  | _ => True

/-- A request is sent under an authorization for one request more. -/
def Authorized (ledger : Ledger) : Event ω → Prop
  | .dispatched _ _ _ => ∃ limits ∈ ledger.limits, ledger.requests < limits.requests
  | _ => True

/-- A request is sent after a budget check that allowed one request more. -/
def Checked (ledger : Ledger) : Event ω → Prop
  | .dispatched _ _ _ => (∃ limits, ledger.limits = some limits) ∧
      ∃ checked ∈ ledger.checked, ledger.requests < checked.requests
  | _ => True

/-- A request is sent though, since its budget check, the authorization was lowered to the
requests that had already been sent, or below. -/
def Lowered (ledger : Ledger) : Event ω → Prop
  | .dispatched _ _ _ => ∃ limits ∈ ledger.limits, ∃ checked ∈ ledger.checked,
      limits.requests < checked.requests ∧ limits.requests ≤ ledger.requests
  | _ => False

/-- All budgets are kept. -/
def Within (ledger : Ledger) (event : Event ω) : Prop :=
  Bounds downloader ledger event ∧ Authorized ledger event

omit [TransportServices] in
theorem authorized_iff_of_checked {ledger : Ledger} {event : Event ω}
    (hchecked : Checked ledger event) : Authorized ledger event ↔ ¬ Lowered ledger event := by
  cases event with
  | dispatched request env disk =>
      obtain ⟨⟨limits, hlimits⟩, checked, hcheck, hrequests⟩ := hchecked
      constructor
      · rintro ⟨_, hfound, hbelow⟩ ⟨_, hother, _, -, -, habove⟩
        cases hlimits.symm.trans hfound
        cases hlimits.symm.trans hother
        omega
      · intro hkept
        refine ⟨limits, hlimits, ?_⟩
        by_contra hspent
        exact hkept ⟨limits, hlimits, checked, hcheck, by omega, by omega⟩
  | _ => exact ⟨fun _ hlowered => hlowered, fun _ => trivial⟩

/-- Where every request was checked and the other bounds are kept, all budgets are kept
exactly when no request is sent under a lowered authorization. -/
theorem within_iff_of_checked {log : List (Event ω)}
    (hlog : Throughout (fun ledger event => Bounds downloader ledger event ∧
      Checked ledger event) log) :
    Throughout (Within downloader) log ↔
      Throughout (fun ledger event => ¬ Lowered ledger event) log := by
  constructor
  · intro hwithin before event after hsplit
    exact (authorized_iff_of_checked (hlog before event after hsplit).2).mp
      (hwithin before event after hsplit).2
  · intro hkept before event after hsplit
    have hevent := hlog before event after hsplit
    exact ⟨hevent.1, (authorized_iff_of_checked hevent.2).mpr
      (hkept before event after hsplit)⟩

end Bounds

end MatchVet.Ingestion.Audit
