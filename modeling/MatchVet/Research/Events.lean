import MatchVet.Research.Selection

/-!
# Events of the selection authority

What happens in a run is told by its events.  An invariant ties the phase of every
operation to the events so far.
-/

namespace MatchVet.Research.Events

open MatchVet.Artifacts.Manifest
open MatchVet.Artifacts.Store
open MatchVet.Artifacts.Tables
open MatchVet.Foundation.CrashLogic
open MatchVet.Foundation.Identifier
open MatchVet.Foundation.Runtime
open MatchVet.Foundation.Timestamp
open MatchVet.Research.Selection

/-! ## Calls -/

inductive Request where
  | openOperation (matchweekId : String)
  | publish (index : ℕ) (role : String) (manifest : SnapshotManifest) (now : UtcTime)
      (nonce : String)
  | start (index : ℕ) (role : String)
  | publishStarted (index : ℕ) (manifest : SnapshotManifest) (now : UtcTime) (nonce : String)
  | configureCausal (index : ℕ) (graph : CausalGraph) (approval bundle : ℕ)
  | beginWitness (index : ℕ) (graph : CausalGraph) (approval bundle : ℕ) (entropy : Entropy)
  | obtain (attempt : ℕ) (answer : Answer)
  | post (attempt chunks : ℕ)
  | acceptWitness (index attempt : ℕ) (event : VerifiedEvent) (now : UtcTime)
  | acknowledge (index : ℕ) (upper cutoff : String)
  | revoke (index : ℕ)

section Calls

variable [ContentAddressing] [Calendar]

/-- The call of a request, with the digest of the witness profile. -/
def Request.call (profileDigest : Digest) : Request → ResearchCall Unit
  | .openOperation matchweekId => Selection.openOperation matchweekId
  | .publish index role manifest now nonce =>
      publishResearchManifest index role manifest now nonce
  | .start index role => Selection.start index role
  | .publishStarted index manifest now nonce =>
      Selection.publishStarted index manifest now nonce
  | .configureCausal index graph approval bundle =>
      Selection.configureCausal index graph approval bundle
  | .beginWitness index graph approval bundle entropy => do
      let _ ← Selection.beginWitness index graph approval bundle entropy
      Call.ret ()
  | .obtain attempt answer => Selection.obtain attempt answer
  | .post attempt chunks => Selection.post attempt chunks
  | .acceptWitness index attempt event now =>
      Selection.acceptWitness profileDigest index attempt event now
  | .acknowledge index upper cutoff => Selection.acknowledge index upper cutoff
  | .revoke index => Selection.revoke index

end Calls

/-! ## Events -/

inductive Event where
  | inserted (operation : ℕ) (role : Role) (row : ManifestRow)
  | acknowledged (operation : ℕ) (upper cutoff : String)
  | accepted (operation attempt : ℕ) (event : VerifiedEvent) (graph : CausalGraph)
  | revoked (operation : ℕ)
  deriving DecidableEq

def Event.operation : Event → ℕ
  | .inserted operation _ _ => operation
  | .acknowledged operation _ _ => operation
  | .accepted operation _ _ _ => operation
  | .revoked operation => operation

def Event.row? : Event → Option ManifestRow
  | .inserted _ _ row => some row
  | _ => none

/-- The event is an insertion by an operation in a role. -/
def Event.inserts (operation : ℕ) (role : Role) : Event → Bool
  | .inserted other found _ => other = operation && found = role
  | _ => false

/-- The role in which a phase publishes. -/
def roleOf (phase : Phase) : Role := if phase = .receiptAttempt then .receipt else .selection

def phaseAt (world : ResearchWorld) (index : ℕ) : Phase :=
  (world.authority.operations[index]?.map Operation.phase).getD .fresh

/-- The role in which a request publishes. -/
def Request.role? (before : ResearchWorld) : Request → Option (ℕ × Role)
  | .publish index role _ _ _ => (Role.ofText? role).map fun role => (index, role)
  | .publishStarted index _ _ _ => some (index, roleOf (phaseAt before index))
  | _ => none

/-- The rows that were inserted between two states. -/
def newRows (before after : ResearchWorld) : List ManifestRow :=
  after.catalog.manifests.drop before.catalog.manifests.length

def insertions (before after : ResearchWorld) : Option (ℕ × Role) → List Event
  | some (index, role) => (newRows before after).map (Event.inserted index role)
  | none => []

/-- The confirmation that a call gave when it returned. -/
def Request.confirmation (before : ResearchWorld) : Request → List Event
  | .acknowledge index upper cutoff => [.acknowledged index upper cutoff]
  | .acceptWitness index attempt event _ =>
      ((before.authority.operations[index]?.bind Operation.causalGraph).map
        (Event.accepted index attempt event)).toList
  | _ => []

/-- The operations that were revoked between two states. -/
def newlyRevoked (before after : ResearchWorld) : List Event :=
  ((List.range after.authority.operations.length).filter fun index =>
    phaseAt after index = .revoked && phaseAt before index ≠ .revoked).map Event.revoked

/-- What is seen of a call. -/
def observe (before after : ResearchWorld) (returned : Bool) (request : Request) : List Event :=
  insertions before after (request.role? before) ++
    (if returned then request.confirmation before else []) ++ newlyRevoked before after

/-- A call and what happens at each of its effects. -/
structure Step where
  request : Request
  fates : ℕ → Fate Leftover

section Runs

variable [ContentAddressing] [Calendar] (profileDigest : Digest)

/-- A step extends the events. -/
def Step.run (state : List Event × ResearchWorld) (step : Step) : List Event × ResearchWorld :=
  let outcome := step.request.call profileDigest step.fates 0 state.2
  (state.1 ++ observe state.2 outcome.1 outcome.2.2.isOk step.request, outcome.1)

/-- The events and the final state of a run. -/
def run (start : ResearchWorld) (steps : List Step) : List Event × ResearchWorld :=
  steps.foldl (Step.run profileDigest) ([], start)

end Runs

/-! ## The invariant -/

/-- How often an operation inserted in a role. -/
def inserted (index : ℕ) (role : Role) (history : List Event) : ℕ :=
  history.countP (Event.inserts index role)

theorem inserted_append_inserted (index other : ℕ) (role found : Role) (history : List Event)
    (row : ManifestRow) :
    inserted index role (history ++ [.inserted other found row]) =
      inserted index role history + if other = index ∧ found = role then 1 else 0 := by
  simp [inserted, Event.inserts]

theorem inserted_append_other (index : ℕ) (role : Role) (history : List Event) {event : Event}
    (hevent : event.row? = none) :
    inserted index role (history ++ [event]) = inserted index role history := by
  cases event with
  | inserted operation role row => cases hevent
  | acknowledged operation upper cutoff => simp [inserted, Event.inserts]
  | accepted operation attempt event graph => simp [inserted, Event.inserts]
  | revoked operation => simp [inserted, Event.inserts]

/-- An operation that no event is about inserted nothing. -/
theorem inserted_eq_zero {index : ℕ} {history : List Event} (role : Role)
    (huntouched : ∀ event ∈ history, event.operation ≠ index) :
    inserted index role history = 0 := by
  refine List.countP_eq_zero.mpr fun event hmem hinserts => ?_
  cases event with
  | inserted operation role row =>
      simp only [Event.inserts, Bool.and_eq_true, decide_eq_true_eq] at hinserts
      exact huntouched _ hmem hinserts.1
  | acknowledged operation upper cutoff => cases hinserts
  | accepted operation attempt event graph => cases hinserts
  | revoked operation => cases hinserts

def pastSelection : Phase → Bool
  | .selectionCommitted | .witnessAttempt | .acknowledged | .receiptAttempt | .finished => true
  | _ => false

def pastAcknowledgement : Phase → Bool
  | .acknowledged | .receiptAttempt | .finished => true
  | _ => false

def beforeReceipt : Phase → Bool
  | .fresh | .selectionAttempt | .selectionCommitted | .witnessAttempt | .acknowledged => true
  | _ => false

/-- Attempts and requests.  An attempt is the one of its operation, and a request is sent
only when the transport of an attempt has started. -/
structure TransportKept (authority : Authority) : Prop where
  owned : ∀ (index : ℕ) (state : Attempt), authority.attempts[index]? = some state →
    ∃ operation, authority.operations[state.operation]? = some operation ∧
      operation.attempt = some index
  made : ∀ (index : ℕ) (operation : Operation) (number : ℕ),
    authority.operations[index]? = some operation → operation.attempt = some number →
      number < authority.attempts.length
  unasked : ∀ (index : ℕ) (operation : Operation),
    authority.operations[index]? = some operation → operation.attempt = none →
      authority.dispatched.count index = 0
  unstarted : ∀ (index : ℕ) (state : Attempt), authority.attempts[index]? = some state →
    state.transportStarted = false → authority.dispatched.count state.operation = 0
  once : ∀ index, authority.dispatched.count index ≤ 1
  absent : ∀ index, authority.operations[index]? = none → authority.dispatched.count index = 0

/-- The operation exists and meets a condition. -/
def At (authority : Authority) (index : ℕ) (condition : Operation → Prop) : Prop :=
  ∃ operation, authority.operations[index]? = some operation ∧ condition operation

theorem At.and {authority : Authority} {index : ℕ} {first second : Operation → Prop}
    (hfirst : At authority index first) (hsecond : At authority index second) :
    At authority index fun operation => first operation ∧ second operation := by
  obtain ⟨operation, hget, hfirst⟩ := hfirst
  obtain ⟨other, hother, hsecond⟩ := hsecond
  rw [hget, Option.some.injEq] at hother
  subst hother
  exact ⟨operation, hget, hfirst, hsecond⟩

theorem At.imp {authority : Authority} {index : ℕ} {first second : Operation → Prop}
    (hfirst : At authority index first)
    (himp : ∀ operation, first operation → second operation) : At authority index second := by
  obtain ⟨operation, hget, hfirst⟩ := hfirst
  exact ⟨operation, hget, himp operation hfirst⟩

section Invariant

variable [Calendar]

/-- The bounds of an event precede the cutoff of a graph. -/
def BoundedBy (event : VerifiedEvent) (cutoff : String) : Prop :=
  ∃ upper limit, bound event.upper = .ok upper ∧ bound cutoff = .ok limit ∧ upper < limit

/-- The selection of an operation was acknowledged, or witnessed, before its cutoff. -/
def Confirmed (index : ℕ) (history : List Event) : Prop :=
  (∃ upper cutoff, .acknowledged index upper cutoff ∈ history ∧
      strictlyBefore upper cutoff = some true) ∨
    ∃ attempt event graph, .accepted index attempt event graph ∈ history ∧
      BoundedBy event graph.cutoff

theorem Confirmed.append {index : ℕ} {history : List Event} (hconfirmed : Confirmed index history)
    (more : List Event) : Confirmed index (history ++ more) := by
  rcases hconfirmed with ⟨upper, cutoff, hmem, hbefore⟩ | ⟨attempt, event, graph, hmem, hbefore⟩
  · exact Or.inl ⟨upper, cutoff, List.mem_append_left _ hmem, hbefore⟩
  · exact Or.inr ⟨attempt, event, graph, List.mem_append_left _ hmem, hbefore⟩

/-- The phase of an operation and the events so far. -/
structure OperationKept (history : List Event) (index : ℕ) (operation : Operation) : Prop where
  untouched : operation.phase = .fresh → ∀ event ∈ history, event.operation ≠ index
  selectionOnce : inserted index .selection history ≤ 1
  selectionOpen : operation.phase = .selectionAttempt → operation.inserted = false →
    inserted index .selection history = 0
  selectionDone : pastSelection operation.phase = true → inserted index .selection history = 1
  receiptOnce : inserted index .receipt history ≤ 1
  receiptClosed : beforeReceipt operation.phase = true → inserted index .receipt history = 0
  receiptOpen : operation.phase = .receiptAttempt → operation.inserted = false →
    inserted index .receipt history = 0
  confirmed : pastAcknowledgement operation.phase = true → Confirmed index history
  revoked : .revoked index ∈ history → operation.phase = .revoked

/-- What the events say in their order. -/
def Ordered (history : List Event) : Prop :=
  ∀ before after index role row, history = before ++ .inserted index role row :: after →
    .revoked index ∉ before ∧
      (role = .receipt → inserted index .selection before = 1 ∧ Confirmed index before)

variable [ContentAddressing]

/-- The slot of a role. -/
def slotOf (matchweekId : String) : Role → Uuid
  | .selection => selectionSlot matchweekId
  | .receipt => completionSlot matchweekId

/-- An event is about an operation as it is. -/
def Event.Suits (operation : Operation) : Event → Prop
  | .inserted _ role row => row.matchweekId.text = operation.matchweekId ∧
      row.snapshotId = slotOf operation.matchweekId role
  | .accepted _ attempt _ graph => operation.attempt = some attempt ∧
      operation.causalGraph = some graph
  | .acknowledged _ _ _ => operation.causalGraph = none
  | .revoked _ => True

/-- What the events say about the operations and the attempts. -/
structure Standing (history : List Event) (authority : Authority) : Prop where
  ordered : Ordered history
  operations : ∀ (index : ℕ) (operation : Operation),
    authority.operations[index]? = some operation → OperationKept history index operation
  suits : ∀ event ∈ history, At authority event.operation fun operation => event.Suits operation
  transport : TransportKept authority

/-- The catalog has the rows that the events tell of. -/
def Recorded (rows : List ManifestRow) (history : List Event) (catalog : Catalog) : Prop :=
  catalog.manifests = rows ++ history.filterMap Event.row? ∧
    (catalog.manifests.map ManifestRow.snapshotId).Nodup

end Invariant

/-! ## Lists of operations and attempts -/

theorem getElem?_concat {α : Type} {items : List α} {index : ℕ} {last item : α}
    (hget : (items ++ [last])[index]? = some item) :
    items[index]? = some item ∨ index = items.length ∧ item = last := by
  rw [List.getElem?_append] at hget
  split at hget
  · exact Or.inl hget
  · rename_i hlength
    obtain ⟨hzero, hlast⟩ := List.getElem?_eq_some_iff.mp hget
    have hindex : index = items.length := by
      rw [List.length_singleton] at hzero
      omega
    rw [List.getElem_singleton] at hlast
    exact Or.inr ⟨hindex, hlast.symm⟩

theorem getElem?_modified {α : Type} {items : List α} {index other : ℕ} {change : α → α} {item : α}
    (hget : (items.modify index change)[other]? = some item) :
    ∃ old, items[other]? = some old ∧ item = if index = other then change old else old := by
  rw [List.getElem?_modify] at hget
  obtain ⟨old, hold, hitem⟩ := Option.map_eq_some_iff.mp hget
  exact ⟨old, hold, hitem.symm⟩

theorem getElem?_modify_some {α : Type} {items : List α} {index other : ℕ} {item : α}
    (hget : items[other]? = some item) (change : α → α) :
    (items.modify index change)[other]? = some (if index = other then change item else item) := by
  rw [List.getElem?_modify, hget]
  rfl

theorem getElem?_modify_none {α : Type} {items : List α} {index other : ℕ} {change : α → α}
    (hget : (items.modify index change)[other]? = none) : items[other]? = none := by
  rw [List.getElem?_modify] at hget
  exact Option.map_eq_none_iff.mp hget

/-! ## Events of an operation -/

section Events

variable [Calendar] {index : ℕ} {operation : Operation} {history : List Event}

/-- An event that is no insertion. -/
theorem OperationKept.note {event : Event} (hkept : OperationKept history index operation)
    (hrow : event.row? = none)
    (hfresh : event.operation = index → operation.phase ≠ .fresh)
    (hrevoked : event = .revoked index → operation.phase = .revoked) :
    OperationKept (history ++ [event]) index operation where
  untouched hphase other hmem := by
    rcases List.mem_append.mp hmem with hmem | hmem
    · exact hkept.untouched hphase other hmem
    · rw [List.mem_singleton.mp hmem]
      exact fun hsame => hfresh hsame hphase
  selectionOnce := (inserted_append_other index .selection history hrow).trans_le
    hkept.selectionOnce
  selectionOpen hphase hinserted := (inserted_append_other index .selection history hrow).trans
    (hkept.selectionOpen hphase hinserted)
  selectionDone hphase := (inserted_append_other index .selection history hrow).trans
    (hkept.selectionDone hphase)
  receiptOnce := (inserted_append_other index .receipt history hrow).trans_le hkept.receiptOnce
  receiptClosed hphase := (inserted_append_other index .receipt history hrow).trans
    (hkept.receiptClosed hphase)
  receiptOpen hphase hinserted := (inserted_append_other index .receipt history hrow).trans
    (hkept.receiptOpen hphase hinserted)
  confirmed hphase := (hkept.confirmed hphase).append [event]
  revoked hmem := by
    rcases List.mem_append.mp hmem with hmem | hmem
    · exact hkept.revoked hmem
    · exact hrevoked (List.mem_singleton.mp hmem).symm

/-- An insertion by another operation. -/
theorem OperationKept.other {other : ℕ} (hkept : OperationKept history index operation)
    (hother : other ≠ index) (role : Role) (row : ManifestRow) :
    OperationKept (history ++ [.inserted other role row]) index operation := by
  have hcount (found : Role) :
      inserted index found (history ++ [.inserted other role row]) =
        inserted index found history := by
    rw [inserted_append_inserted, if_neg fun hsame => hother hsame.1, Nat.add_zero]
  constructor
  · intro hphase event hmem
    rcases List.mem_append.mp hmem with hmem | hmem
    · exact hkept.untouched hphase event hmem
    · rw [List.mem_singleton.mp hmem]
      exact hother
  · exact (hcount .selection).trans_le hkept.selectionOnce
  · exact fun hphase hopen => (hcount .selection).trans (hkept.selectionOpen hphase hopen)
  · exact fun hphase => (hcount .selection).trans (hkept.selectionDone hphase)
  · exact (hcount .receipt).trans_le hkept.receiptOnce
  · exact fun hphase => (hcount .receipt).trans (hkept.receiptClosed hphase)
  · exact fun hphase hopen => (hcount .receipt).trans (hkept.receiptOpen hphase hopen)
  · exact fun hphase => (hkept.confirmed hphase).append _
  · intro hmem
    rcases List.mem_append.mp hmem with hmem | hmem
    · exact hkept.revoked hmem
    · cases List.mem_singleton.mp hmem

/-- An operation that publishes in a role, with its insertion authorized. -/
def Inserting (role : Role) (operation : Operation) : Prop :=
  operation.phase = role.attempt ∧ operation.inserted = true

/-- The insertion of an operation that made none in its role. -/
theorem OperationKept.insert {role : Role} (hkept : OperationKept history index operation)
    (hinserting : Inserting role operation) (hnone : inserted index role history = 0)
    (row : ManifestRow) :
    OperationKept (history ++ [.inserted index role row]) index operation := by
  obtain ⟨hphase, hinserted⟩ := hinserting
  have hmember : .revoked index ∈ history ++ [.inserted index role row] →
      operation.phase = .revoked := by
    intro hmem
    rcases List.mem_append.mp hmem with hmem | hmem
    · exact hkept.revoked hmem
    · cases List.mem_singleton.mp hmem
  have hcount (found : Role) :
      inserted index found (history ++ [.inserted index role row]) =
        inserted index found history + if role = found then 1 else 0 := by
    simp [inserted_append_inserted]
  cases role with
  | selection =>
      constructor
      · simp [hphase, Role.attempt]
      · simp [hcount, hnone]
      · simp [hinserted]
      · simp [hphase, Role.attempt, pastSelection]
      · simpa [hcount] using hkept.receiptOnce
      · simpa [hcount] using hkept.receiptClosed
      · simp [hinserted]
      · exact fun hpast => (hkept.confirmed hpast).append _
      · exact hmember
  | receipt =>
      constructor
      · simp [hphase, Role.attempt]
      · simpa [hcount] using hkept.selectionOnce
      · simp [hinserted]
      · simpa [hcount] using hkept.selectionDone
      · simp [hcount, hnone]
      · simp [hphase, Role.attempt, beforeReceipt]
      · simp [hinserted]
      · exact fun hpast => (hkept.confirmed hpast).append _
      · exact hmember

theorem Ordered.append {event : Event} (hordered : Ordered history)
    (hevent : ∀ index role row, event = .inserted index role row →
      .revoked index ∉ history ∧
        (role = .receipt → inserted index .selection history = 1 ∧ Confirmed index history)) :
    Ordered (history ++ [event]) := by
  intro before after other role row hsplit
  rcases List.eq_nil_or_concat' after with rfl | ⟨rest, last, rfl⟩
  · obtain ⟨rfl, hlast⟩ := List.append_inj' hsplit rfl
    exact hevent other role row (List.singleton_inj.mp hlast)
  · rw [← List.cons_append, ← List.append_assoc] at hsplit
    exact hordered before rest other role row (List.append_inj' hsplit rfl).1

/-- An operation that no event is about. -/
theorem OperationKept.unknown (hphase : operation.phase = .fresh)
    (huntouched : ∀ event ∈ history, event.operation ≠ index) :
    OperationKept history index operation where
  untouched _ := huntouched
  selectionOnce := (inserted_eq_zero .selection huntouched).trans_le (Nat.zero_le 1)
  selectionOpen _ _ := inserted_eq_zero .selection huntouched
  selectionDone hpast := by
    rw [hphase] at hpast
    cases hpast
  receiptOnce := (inserted_eq_zero .receipt huntouched).trans_le (Nat.zero_le 1)
  receiptClosed _ := inserted_eq_zero .receipt huntouched
  receiptOpen _ _ := inserted_eq_zero .receipt huntouched
  confirmed hpast := by
    rw [hphase] at hpast
    cases hpast
  revoked hmem := absurd rfl (huntouched _ hmem)

variable [ContentAddressing] {authority : Authority}

/-- An event that is no insertion, about an operation that it suits. -/
theorem Standing.note {event : Event} (hstanding : Standing history authority)
    (hrow : event.row? = none)
    (hat : At authority event.operation fun operation => event.Suits operation ∧
      operation.phase ≠ .fresh ∧ (event = .revoked event.operation → operation.phase = .revoked)) :
    Standing (history ++ [event]) authority where
  ordered := hstanding.ordered.append fun _ _ _ hinserted => by rw [hinserted] at hrow; cases hrow
  operations number found hget := by
    obtain ⟨operation, hoperation, -, hfresh, hrevoked⟩ := hat
    refine (hstanding.operations number found hget).note hrow ?_ ?_
    · rintro rfl
      rw [hget, Option.some.injEq] at hoperation
      exact hoperation ▸ hfresh
    · rintro rfl
      rw [Event.operation, hget, Option.some.injEq] at hoperation
      exact hoperation ▸ hrevoked rfl
  suits other hmem := by
    rcases List.mem_append.mp hmem with hmem | hmem
    · exact hstanding.suits other hmem
    · rw [List.mem_singleton.mp hmem]
      exact hat.imp fun _ => And.left
  transport := hstanding.transport

/-- The insertion of the row of an operation in its slot. -/
theorem Standing.insert {role : Role} {row : ManifestRow} (hstanding : Standing history authority)
    (hat : At authority index fun operation => Inserting role operation ∧
      (Event.inserted index role row).Suits operation)
    (hnone : inserted index role history = 0) :
    Standing (history ++ [.inserted index role row]) authority := by
  obtain ⟨operation, hget, hinserting, hsuits⟩ := hat
  have hkept := hstanding.operations index operation hget
  constructor
  · refine hstanding.ordered.append ?_
    rintro _ _ _ ⟨⟩
    refine ⟨fun hmem => ?_, ?_⟩
    · have hphase := hkept.revoked hmem
      rw [hinserting.1] at hphase
      cases role with
      | selection => cases hphase
      | receipt => cases hphase
    · rintro rfl
      exact ⟨hkept.selectionDone (by rw [hinserting.1]; rfl),
        hkept.confirmed (by rw [hinserting.1]; rfl)⟩
  · intro number found hfound
    by_cases hsame : index = number
    · subst hsame
      rw [hget, Option.some.injEq] at hfound
      subst hfound
      exact hkept.insert hinserting hnone row
    · exact (hstanding.operations number found hfound).other hsame role row
  · intro event hmem
    rcases List.mem_append.mp hmem with hmem | hmem
    · exact hstanding.suits event hmem
    · rw [List.mem_singleton.mp hmem]
      exact ⟨operation, hget, hsuits⟩
  · exact hstanding.transport

/-- The owner of the store does not matter. -/
theorem Standing.owned (hstanding : Standing history authority) (owner : Option ℕ) :
    Standing history { authority with owner } where
  ordered := hstanding.ordered
  operations := hstanding.operations
  suits := hstanding.suits
  transport :=
    { owned := hstanding.transport.owned
      made := hstanding.transport.made
      unasked := hstanding.transport.unasked
      unstarted := hstanding.transport.unstarted
      once := hstanding.transport.once
      absent := hstanding.transport.absent }

/-- A new operation. -/
theorem Standing.append {opened : Authority} {matchweekId : String}
    (hstanding : Standing history authority)
    (hoperations : opened.operations = authority.operations ++ [Operation.opened matchweekId])
    (hattempts : opened.attempts = authority.attempts)
    (hdispatched : opened.dispatched = authority.dispatched) : Standing history opened := by
  have hnew : authority.operations[authority.operations.length]? = none :=
    List.getElem?_eq_none le_rfl
  have hold {number : ℕ} {operation : Operation}
      (hget : authority.operations[number]? = some operation) :
      opened.operations[number]? = some operation := by
    rw [hoperations, List.getElem?_append_left (List.getElem?_eq_some_iff.mp hget).1, hget]
  have hcases {number : ℕ} {operation : Operation}
      (hget : opened.operations[number]? = some operation) :
      authority.operations[number]? = some operation ∨
        number = authority.operations.length ∧ operation = Operation.opened matchweekId := by
    rw [hoperations] at hget
    exact getElem?_concat hget
  constructor
  · exact hstanding.ordered
  · intro number operation hget
    rcases hcases hget with hget | ⟨rfl, rfl⟩
    · exact hstanding.operations number operation hget
    · refine OperationKept.unknown rfl fun event hmem hindex => ?_
      obtain ⟨other, hother, -⟩ := hstanding.suits event hmem
      rw [hindex, hnew] at hother
      cases hother
  · intro event hmem
    obtain ⟨operation, hget, hsuits⟩ := hstanding.suits event hmem
    exact ⟨operation, hold hget, hsuits⟩
  · have htransport := hstanding.transport
    constructor
    · intro number state hstate
      rw [hattempts] at hstate
      obtain ⟨operation, hget, hown⟩ := htransport.owned number state hstate
      exact ⟨operation, hold hget, hown⟩
    · intro number operation attempt hget hown
      rw [hattempts]
      rcases hcases hget with hget | ⟨rfl, rfl⟩
      · exact htransport.made number operation attempt hget hown
      · cases hown
    · intro number operation hget hunasked
      rw [hdispatched]
      rcases hcases hget with hget | ⟨rfl, rfl⟩
      · exact htransport.unasked number operation hget hunasked
      · exact htransport.absent _ hnew
    · intro number state hstate hunstarted
      rw [hattempts] at hstate
      rw [hdispatched]
      exact htransport.unstarted number state hstate hunstarted
    · rw [hdispatched]
      exact htransport.once
    · intro number hget
      rw [hdispatched]
      refine htransport.absent number (Option.eq_none_iff_forall_ne_some.mpr fun operation hsome => ?_)
      rw [hold hsome] at hget
      cases hget

end Events

/-! ## Updates of operations and attempts -/

section Updates

variable {world : ResearchWorld} {index : ℕ}

theorem At.update {first second : Operation → Prop} {change : Operation → Operation}
    (hat : At world.authority index first)
    (hchange : ∀ operation, first operation → second (change operation)) :
    At (withOperation world index change).authority index second := by
  obtain ⟨operation, hget, hfirst⟩ := hat
  refine ⟨change operation, ?_, hchange operation hfirst⟩
  have hmodify := @getElem?_modify_some _ _ index _ _ hget change
  rwa [if_pos rfl] at hmodify

/-- An update that leaves the attempt of its operation. -/
theorem TransportKept.update {change : Operation → Operation}
    (htransport : TransportKept world.authority)
    (hsame : ∀ operation, world.authority.operations[index]? = some operation →
      (change operation).attempt = operation.attempt) :
    TransportKept (withOperation world index change).authority := by
  have hattempt {number : ℕ} {old : Operation}
      (hold : world.authority.operations[number]? = some old) :
      (if index = number then change old else old).attempt = old.attempt := by
    split
    · rename_i hnumber
      subst hnumber
      exact hsame old hold
    · rfl
  constructor
  · intro number state hstate
    obtain ⟨operation, hget, hown⟩ := htransport.owned number state hstate
    exact ⟨_, getElem?_modify_some hget change, (hattempt hget).trans hown⟩
  · intro number operation attempt hget hown
    obtain ⟨old, hold, rfl⟩ := getElem?_modified hget
    exact htransport.made number old attempt hold ((hattempt hold).symm.trans hown)
  · intro number operation hget hown
    obtain ⟨old, hold, rfl⟩ := getElem?_modified hget
    exact htransport.unasked number old hold ((hattempt hold).symm.trans hown)
  · exact htransport.unstarted
  · exact htransport.once
  · exact fun number hget => htransport.absent number (getElem?_modify_none hget)

/-- An update that leaves the operation of its attempt and does not take its start back. -/
theorem TransportKept.updateAttempt {change : Attempt → Attempt}
    (htransport : TransportKept world.authority)
    (hsame : ∀ state, (change state).operation = state.operation ∧
      (state.transportStarted = true → (change state).transportStarted = true)) :
    TransportKept (withAttempt world index change).authority := by
  constructor
  · intro number state hstate
    obtain ⟨old, hold, rfl⟩ := getElem?_modified hstate
    have howned := htransport.owned number old hold
    split
    · rw [(hsame old).1]
      exact howned
    · exact howned
  · intro number operation attempt hget hown
    have hmade := htransport.made number operation attempt hget hown
    change attempt < (world.authority.attempts.modify index change).length
    rwa [List.length_modify]
  · exact htransport.unasked
  · intro number state hstate hstarted
    obtain ⟨old, hold, rfl⟩ := getElem?_modified hstate
    have hunstarted := htransport.unstarted number old hold
    split at hstarted
    · rename_i hnumber
      rw [if_pos hnumber, (hsame old).1]
      refine hunstarted (Bool.eq_false_iff.mpr fun hold => ?_)
      rw [(hsame old).2 hold] at hstarted
      cases hstarted
    · rename_i hnumber
      rw [if_neg hnumber]
      exact hunstarted hstarted
  · exact htransport.once
  · exact htransport.absent

/-- The request of an attempt whose transport has started. -/
theorem TransportKept.dispatch {number : ℕ} {state : Attempt}
    (htransport : TransportKept world.authority)
    (hstate : world.authority.attempts[number]? = some state)
    (hstarted : state.transportStarted = true)
    (hnone : world.authority.dispatched.count state.operation = 0) :
    TransportKept (recordDispatch state.operation world).authority := by
  obtain ⟨owner, howner, hown⟩ := htransport.owned number state hstate
  have hcount (other : ℕ) :
      (recordDispatch state.operation world).authority.dispatched.count other =
        world.authority.dispatched.count other + if state.operation = other then 1 else 0 := by
    change (world.authority.dispatched ++ [state.operation]).count other = _
    simp [List.count_append, List.count_singleton]
  have hcount_other {other : ℕ} (hother : state.operation ≠ other) :
      (recordDispatch state.operation world).authority.dispatched.count other =
        world.authority.dispatched.count other := by
    rw [hcount, if_neg hother, Nat.add_zero]
  constructor
  · exact htransport.owned
  · exact htransport.made
  · intro other operation hget hunasked
    rw [hcount_other, htransport.unasked other operation hget hunasked]
    rintro rfl
    rw [show world.authority.operations[state.operation]? = some operation from hget,
      Option.some.injEq] at howner
    rw [← howner, hunasked] at hown
    cases hown
  · intro other found hfound hunstarted
    rw [hcount_other, htransport.unstarted other found hfound hunstarted]
    intro hsame
    obtain ⟨operation, hget, hattempt⟩ := htransport.owned other found hfound
    rw [← hsame, howner, Option.some.injEq] at hget
    rw [← hget, hown, Option.some.injEq] at hattempt
    subst hattempt
    rw [show world.authority.attempts[number]? = some found from hfound, Option.some.injEq] at hstate
    rw [hstate, hstarted] at hunstarted
    cases hunstarted
  · intro other
    rw [hcount]
    split
    · rename_i hsame
      rw [← hsame, hnone]
    · exact htransport.once other
  · intro other hget
    rw [hcount_other, htransport.absent other hget]
    rintro rfl
    rw [show world.authority.operations[state.operation]? = none from hget] at howner
    cases howner

/-- A new attempt of an operation without one. -/
theorem TransportKept.attach {attached : Authority} {state : Attempt}
    (htransport : TransportKept world.authority)
    (hoperations : attached.operations = world.authority.operations.modify state.operation
      fun operation => { operation with attempt := some world.authority.attempts.length })
    (hattempts : attached.attempts = world.authority.attempts ++ [state])
    (hdispatched : attached.dispatched = world.authority.dispatched)
    (hat : At world.authority state.operation fun operation => operation.attempt = none) :
    TransportKept attached := by
  obtain ⟨owner, howner, hnone⟩ := hat
  have hcases {number : ℕ} {found : Attempt} (hget : attached.attempts[number]? = some found) :
      world.authority.attempts[number]? = some found ∨
        number = world.authority.attempts.length ∧ found = state := by
    rw [hattempts] at hget
    exact getElem?_concat hget
  constructor
  · intro number found hget
    rcases hcases hget with hget | ⟨rfl, rfl⟩
    · obtain ⟨operation, hoperation, hown⟩ := htransport.owned number found hget
      refine ⟨operation, ?_, hown⟩
      rw [hoperations, getElem?_modify_some hoperation, if_neg]
      intro hsame
      rw [← hsame, howner, Option.some.injEq] at hoperation
      rw [← hoperation, hnone] at hown
      cases hown
    · exact ⟨_, hoperations ▸ getElem?_modify_some howner _, by rw [if_pos rfl]⟩
  · intro number operation attempt hget hown
    rw [hoperations] at hget
    obtain ⟨old, hold, rfl⟩ := getElem?_modified hget
    rw [hattempts, List.length_append, List.length_singleton]
    split at hown
    · cases hown
      exact Nat.lt_succ_self _
    · exact (htransport.made number old attempt hold hown).trans (Nat.lt_succ_self _)
  · intro number operation hget hunasked
    rw [hoperations] at hget
    obtain ⟨old, hold, rfl⟩ := getElem?_modified hget
    rw [hdispatched]
    split at hunasked
    · cases hunasked
    · exact htransport.unasked number old hold hunasked
  · intro number found hget hunstarted
    rw [hdispatched]
    rcases hcases hget with hget | ⟨rfl, rfl⟩
    · exact htransport.unstarted number found hget hunstarted
    · exact htransport.unasked _ owner howner hnone
  · rw [hdispatched]
    exact htransport.once
  · intro number hget
    rw [hdispatched]
    rw [hoperations] at hget
    exact htransport.absent number (getElem?_modify_none hget)

variable [Calendar] [ContentAddressing] {history : List Event}

/-- What the events say of an operation stays true of it as it becomes. -/
def Alike (history : List Event) (index : ℕ) (first second : Operation) : Prop :=
  (OperationKept history index first → OperationKept history index second) ∧
    ∀ event ∈ history, event.operation = index → event.Suits first → event.Suits second

/-- An update of an operation that may also replace the attempts. -/
theorem Standing.replace {change : Operation → Operation} {authority : Authority}
    (hstanding : Standing history world.authority)
    (hoperations : authority.operations = world.authority.operations.modify index change)
    (halike : ∀ operation, world.authority.operations[index]? = some operation →
      Alike history index operation (change operation))
    (htransport : TransportKept authority) : Standing history authority where
  ordered := hstanding.ordered
  operations number operation hget := by
    rw [hoperations] at hget
    obtain ⟨old, hold, rfl⟩ := getElem?_modified hget
    have hkept := hstanding.operations number old hold
    split
    · rename_i hnumber
      subst hnumber
      exact (halike old hold).1 hkept
    · exact hkept
  suits event hmem := by
    obtain ⟨operation, hget, hsuits⟩ := hstanding.suits event hmem
    refine ⟨_, hoperations ▸ getElem?_modify_some hget change, ?_⟩
    split
    · rename_i hnumber
      exact (halike operation (hnumber ▸ hget)).2 event hmem hnumber.symm hsuits
    · exact hsuits
  transport := htransport

theorem Standing.update {change : Operation → Operation} {condition : Operation → Prop}
    (hstanding : Standing history world.authority)
    (hat : At world.authority index condition)
    (hchange : ∀ operation, condition operation →
      Alike history index operation (change operation) ∧
        (change operation).attempt = operation.attempt) :
    Standing history (withOperation world index change).authority := by
  obtain ⟨operation, hget, hcondition⟩ := hat
  have hsame {other : Operation} (hother : world.authority.operations[index]? = some other) :
      condition other := by
    rw [hget, Option.some.injEq] at hother
    exact hother ▸ hcondition
  exact hstanding.replace rfl (fun other hother => (hchange other (hsame hother)).1)
    (hstanding.transport.update fun other hother => (hchange other (hsame hother)).2)

end Updates

/-! ## Phases -/

section Phases

variable [Calendar] {history : List Event} {index : ℕ} {first second : Operation}

/-- An operation that goes on past its selection. -/
theorem OperationKept.past (hkept : OperationKept history index first)
    (hphase : first.phase ≠ .revoked) (hpast : pastSelection second.phase = true)
    (hselection : inserted index .selection history = 1)
    (hreceipt : second.phase = .finished ∨ second.phase = .receiptAttempt ∧ second.inserted = true ∨
      inserted index .receipt history = 0)
    (hconfirmed : pastAcknowledgement second.phase = true → Confirmed index history) :
    OperationKept history index second where
  untouched hfresh := by
    rw [hfresh] at hpast
    cases hpast
  selectionOnce := hselection.le
  selectionOpen hopen := by
    rw [hopen] at hpast
    cases hpast
  selectionDone _ := hselection
  receiptOnce := hkept.receiptOnce
  receiptClosed hbefore := by
    rcases hreceipt with hfinished | ⟨hattempt, -⟩ | hnone
    · rw [hfinished] at hbefore
      cases hbefore
    · rw [hattempt] at hbefore
      cases hbefore
    · exact hnone
  receiptOpen hattempt hopen := by
    rcases hreceipt with hfinished | ⟨-, hinserted⟩ | hnone
    · rw [hattempt] at hfinished
      cases hfinished
    · rw [hopen] at hinserted
      cases hinserted
    · exact hnone
  confirmed := hconfirmed
  revoked hmem := absurd (hkept.revoked hmem) hphase

/-- An operation that attempts its selection. -/
theorem OperationKept.attempting (hkept : OperationKept history index first)
    (hphase : first.phase ≠ .revoked) (hsecond : second.phase = .selectionAttempt)
    (hselection : second.inserted = false → inserted index .selection history = 0)
    (hreceipt : inserted index .receipt history = 0) :
    OperationKept history index second where
  untouched hfresh := by
    rw [hsecond] at hfresh
    cases hfresh
  selectionOnce := hkept.selectionOnce
  selectionOpen _ := hselection
  selectionDone hpast := by
    rw [hsecond] at hpast
    cases hpast
  receiptOnce := hkept.receiptOnce
  receiptClosed _ := hreceipt
  receiptOpen _ _ := hreceipt
  confirmed hpast := by
    rw [hsecond] at hpast
    cases hpast
  revoked hmem := absurd (hkept.revoked hmem) hphase

theorem OperationKept.revoke (hkept : OperationKept history index first)
    (hsecond : second.phase = .revoked) : OperationKept history index second where
  untouched hfresh := by
    rw [hsecond] at hfresh
    cases hfresh
  selectionOnce := hkept.selectionOnce
  selectionOpen hopen := by
    rw [hsecond] at hopen
    cases hopen
  selectionDone hpast := by
    rw [hsecond] at hpast
    cases hpast
  receiptOnce := hkept.receiptOnce
  receiptClosed hbefore := by
    rw [hsecond] at hbefore
    cases hbefore
  receiptOpen hattempt := by
    rw [hsecond] at hattempt
    cases hattempt
  confirmed hpast := by
    rw [hsecond] at hpast
    cases hpast
  revoked _ := hsecond

/-- Only the phase and the insertion mark matter. -/
theorem OperationKept.same (hkept : OperationKept history index first)
    (hphase : second.phase = first.phase) (hinserted : second.inserted = first.inserted) :
    OperationKept history index second := by
  constructor
  · rw [hphase]
    exact hkept.untouched
  · exact hkept.selectionOnce
  · rw [hphase, hinserted]
    exact hkept.selectionOpen
  · rw [hphase]
    exact hkept.selectionDone
  · exact hkept.receiptOnce
  · rw [hphase]
    exact hkept.receiptClosed
  · rw [hphase, hinserted]
    exact hkept.receiptOpen
  · rw [hphase]
    exact hkept.confirmed
  · rw [hphase]
    exact hkept.revoked

/-- An operation starts in a role. -/
theorem OperationKept.start {role : Role} (hkept : OperationKept history index first)
    (hphase : first.phase = role.expected) (hsecond : second.phase = role.attempt) :
    OperationKept history index second := by
  cases role with
  | selection =>
      have huntouched := hkept.untouched hphase
      refine hkept.attempting (by rw [hphase]; nofun) hsecond
        (fun _ => inserted_eq_zero .selection huntouched) (inserted_eq_zero .receipt huntouched)
  | receipt =>
      refine hkept.past (by rw [hphase]; nofun) (by rw [hsecond]; rfl)
        (hkept.selectionDone (by rw [hphase]; rfl))
        (Or.inr (Or.inr (hkept.receiptClosed (by rw [hphase]; rfl)))) fun _ =>
        hkept.confirmed (by rw [hphase]; rfl)

/-- An operation that attempts a role without an authorized insertion made none. -/
theorem OperationKept.vacant {role : Role} (hkept : OperationKept history index first)
    (hphase : first.phase = role.attempt) (hinserted : first.inserted = false) :
    inserted index role history = 0 := by
  cases role with
  | selection => exact hkept.selectionOpen hphase hinserted
  | receipt => exact hkept.receiptOpen hphase hinserted

/-- The insertion of an attempt is authorized. -/
theorem OperationKept.authorize {role : Role} (hkept : OperationKept history index first)
    (hphase : first.phase = role.attempt) (hsecond : Inserting role second) :
    OperationKept history index second := by
  cases role with
  | selection =>
      refine hkept.attempting (by rw [hphase]; nofun) hsecond.1 (fun hopen => ?_)
        (hkept.receiptClosed (by rw [hphase]; rfl))
      rw [hsecond.2] at hopen
      cases hopen
  | receipt =>
      exact hkept.past (by rw [hphase]; nofun) (by rw [hsecond.1]; rfl)
        (hkept.selectionDone (by rw [hphase]; rfl)) (Or.inr (Or.inl hsecond)) fun _ =>
        hkept.confirmed (by rw [hphase]; rfl)

/-- The insertion of an attempt is committed. -/
theorem OperationKept.confirm {role : Role} (hkept : OperationKept history index first)
    (hinserting : Inserting role first) (hinserted : inserted index role history = 1)
    (digest : Digest) : OperationKept history index (first.confirmed digest) := by
  obtain ⟨hphase, -⟩ := hinserting
  cases role with
  | selection =>
      have hconfirmed : (first.confirmed digest).phase = .selectionCommitted := by
        rw [Operation.confirmed, if_pos (by exact hphase)]
      refine hkept.past (by rw [hphase]; nofun) (by rw [hconfirmed]; rfl) hinserted
        (Or.inr (Or.inr (hkept.receiptClosed (by rw [hphase]; rfl)))) fun hpast => ?_
      rw [hconfirmed] at hpast
      cases hpast
  | receipt =>
      have hconfirmed : (first.confirmed digest).phase = .finished := by
        rw [Operation.confirmed, if_neg (by rw [hphase]; nofun)]
      exact hkept.past (by rw [hphase]; nofun) (by rw [hconfirmed]; rfl)
        (hkept.selectionDone (by rw [hphase]; rfl)) (Or.inl hconfirmed) fun _ =>
        hkept.confirmed (by rw [hphase]; rfl)

/-- A committed selection goes on to its acknowledgement. -/
theorem OperationKept.proceed (hkept : OperationKept history index first)
    (hphase : first.phase = .selectionCommitted ∨ first.phase = .witnessAttempt)
    (hsecond : second.phase = .witnessAttempt ∨
      second.phase = .acknowledged ∧ Confirmed index history) :
    OperationKept history index second := by
  have hpast : pastSelection first.phase = true ∧ beforeReceipt first.phase = true ∧
      first.phase ≠ .revoked := by
    rcases hphase with hphase | hphase
    · rw [hphase]
      exact ⟨rfl, rfl, nofun⟩
    · rw [hphase]
      exact ⟨rfl, rfl, nofun⟩
  have hreceipt := hkept.receiptClosed hpast.2.1
  rcases hsecond with hsecond | ⟨hsecond, hconfirmed⟩
  · refine hkept.past hpast.2.2 (by rw [hsecond]; rfl) (hkept.selectionDone hpast.1)
      (Or.inr (Or.inr hreceipt)) fun hlate => ?_
    rw [hsecond] at hlate
    cases hlate
  · exact hkept.past hpast.2.2 (by rw [hsecond]; rfl) (hkept.selectionDone hpast.1)
      (Or.inr (Or.inr hreceipt)) fun _ => hconfirmed

end Phases

end MatchVet.Research.Events
