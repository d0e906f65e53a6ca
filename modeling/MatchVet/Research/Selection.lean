import MatchVet.Artifacts.Store
import MatchVet.Causal.OwnerHistory

/-!
# Selection authority

An operation holds the authority to publish one selection manifest and, once its
selection is acknowledged, one receipt manifest.  A causal operation is acknowledged
by a witness that it obtains with a single request.
-/

namespace MatchVet.Research.Selection

open MatchVet.Artifacts.Manifest
open MatchVet.Artifacts.Store
open MatchVet.Artifacts.Tables
open MatchVet.Causal.OwnerHistory
open MatchVet.Foundation.CrashLogic
open MatchVet.Foundation.Identifier
open MatchVet.Foundation.Runtime
open MatchVet.Foundation.Timestamp

/-! ## State -/

inductive Phase where
  | fresh
  | selectionAttempt
  | selectionCommitted
  | witnessAttempt
  | acknowledged
  | receiptAttempt
  | finished
  | revoked
  deriving DecidableEq, Repr

inductive Role where
  | selection
  | receipt
  deriving DecidableEq, Repr

def Role.ofText? : String → Option Role
  | "selection" => some .selection
  | "receipt" => some .receipt
  | _ => none

/-- The phase that a publication in a role starts from. -/
def Role.expected : Role → Phase
  | .selection => .fresh
  | .receipt => .acknowledged

def Role.attempt : Role → Phase
  | .selection => .selectionAttempt
  | .receipt => .receiptAttempt

/-- A graph object, with the digests of its references. -/
structure CausalGraph where
  identity : ℕ
  logicalId : String
  cutoff : String
  references : List Digest
  deriving DecidableEq

/-- A `_VerifiedSelectionEvent` object. -/
structure VerifiedEvent where
  identity : ℕ
  binding : String
  request : String
  profileDigest : Digest
  lower : String
  upper : String
  provenance : Digest
  digests : List Digest
  deriving DecidableEq

/-- A `_WitnessAttempt`.  The approval and the bundle are objects told apart by their
identity. -/
structure Attempt where
  operation : ℕ
  graph : CausalGraph
  approval : ℕ
  bundle : ℕ
  sent : Bool
  transportStarted : Bool
  ownerDispatchChecked : Bool
  event : Option VerifiedEvent
  binding : String
  nonce : ℕ
  request : String
  deriving DecidableEq

/-- A `_ResearchOperation`. -/
structure Operation where
  matchweekId : String
  phase : Phase
  expectedDigest : Option Digest
  inserted : Bool
  selectionDigest : Option Digest
  upperBound : Option String
  causalGraph : Option CausalGraph
  causalApproval : Option ℕ
  causalBundle : Option ℕ
  attempt : Option ℕ
  receiptRefs : Option (List String)
  busy : Bool
  deriving DecidableEq

def Operation.opened (matchweekId : String) : Operation where
  matchweekId := matchweekId
  phase := .fresh
  expectedDigest := none
  inserted := false
  selectionDigest := none
  upperBound := none
  causalGraph := none
  causalApproval := none
  causalBundle := none
  attempt := none
  receiptRefs := none
  busy := false

/-- The owner of the store, the operations and the attempts made so far, and the
operations whose requests were sent. -/
structure Authority where
  owner : Option ℕ
  operations : List Operation
  attempts : List Attempt
  dispatched : List ℕ
  deriving DecidableEq

abbrev ResearchWorld := World Authority

abbrev ResearchCall (α : Type) := StoreCall Authority α

def withOperation (world : ResearchWorld) (index : ℕ) (change : Operation → Operation) :
    ResearchWorld :=
  { world with authority :=
      { world.authority with operations := world.authority.operations.modify index change } }

def withAttempt (world : ResearchWorld) (index : ℕ) (change : Attempt → Attempt) :
    ResearchWorld :=
  { world with authority :=
      { world.authority with attempts := world.authority.attempts.modify index change } }

/-! ## Steps -/

/-- Any exception that the code does not raise itself. -/
def interrupted : ArtifactError := runtimeError "interrupted"

def update (index : ℕ) (change : Operation → Operation) : ResearchCall Unit :=
  Call.assign fun world => withOperation world index change

def updateAttempt (index : ℕ) (change : Attempt → Attempt) : ResearchCall Unit :=
  Call.assign fun world => withAttempt world index change

/-- Raise unless the operation meets a condition. -/
def demand (index : ℕ) (condition : Operation → Prop) [DecidablePred condition]
    (message : String) : ResearchCall Unit :=
  Call.reading interrupted fun world =>
    require (∃ operation ∈ world.authority.operations[index]?, condition operation)
      "RuntimeError" message

def demandAttempt (index : ℕ) (condition : Attempt → Prop) [DecidablePred condition]
    (message : String) : ResearchCall Unit :=
  Call.reading interrupted fun world =>
    require (∃ attempt ∈ world.authority.attempts[index]?, condition attempt)
      "RuntimeError" message

def found {α : Type} : Option α → Except ArtifactError α
  | some value => .ok value
  | none => .error (runtimeError "no such object")

def operationAt (index : ℕ) : ResearchCall Operation :=
  Call.reading interrupted fun world => found world.authority.operations[index]?

def attemptAt (index : ℕ) : ResearchCall Attempt :=
  Call.reading interrupted fun world => found world.authority.attempts[index]?

/-- The operation owns the store and is not revoked. -/
def Live (authority : Authority) (index : ℕ) : Prop :=
  authority.owner = some index ∧
    ∃ operation ∈ authority.operations[index]?, operation.phase ≠ .revoked

instance (authority : Authority) (index : ℕ) : Decidable (Live authority index) :=
  inferInstanceAs (Decidable (_ ∧ _))

/-- `_check`. -/
def check (index : ℕ) : ResearchCall Unit := do
  Call.touch storeClosed
  Call.reading interrupted fun world => require (Live world.authority index) "RuntimeError"
    "Selection authority has expired or belongs to another operation."

/-- `_research_operation` up to its body. -/
def openOperation (matchweekId : String) : ResearchCall Unit := do
  Call.touch storeClosed
  Call.reading interrupted fun world => require (world.authority.owner = none) "RuntimeError"
    "A Matchweek selection operation is already active."
  Call.touch (runtimeError "Selection requires a fresh WAL/FULL transaction boundary.")
  Call.assign fun world =>
    { world with authority :=
        { world.authority with
          owner := some world.authority.operations.length
          operations := world.authority.operations ++ [Operation.opened matchweekId] } }

/-- The end of `_research_operation`. -/
def revoke (index : ℕ) : ResearchCall Unit :=
  Call.assign fun world =>
    if world.authority.owner = some index then
      let revoked := withOperation world index fun operation => { operation with phase := .revoked }
      { revoked with authority := { revoked.authority with owner := none } }
    else world

def startRole (index : ℕ) (role : Role) : ResearchCall Unit := do
  demand index (fun operation => operation.phase = role.expected)
    "Selection authority cannot be reused or borrowed."
  update index fun operation =>
    { operation with phase := role.attempt, expectedDigest := none, inserted := false }

/-- `_start`. -/
def start (index : ℕ) (role : String) : ResearchCall Unit := do
  check index
  demand index (fun operation => operation.busy = false)
    "Selection authority cannot be borrowed by a callback."
  let role ← Call.lift (parsed (Role.ofText? role) "RuntimeError"
    "Selection authority cannot be reused or borrowed.")
  startRole index role

section Publication

variable [ContentAddressing]

/-- The slot that the phase of an operation publishes in. -/
def Operation.slot (operation : Operation) : Uuid :=
  if operation.phase = .receiptAttempt then completionSlot operation.matchweekId
  else selectionSlot operation.matchweekId

/-- The parent of the manifest that the phase of an operation publishes. -/
def Operation.parent (operation : Operation) : Option Uuid :=
  if operation.phase = .receiptAttempt then some (selectionSlot operation.matchweekId) else none

/-- The members that a receipt must have. -/
def Operation.receiptMembers (operation : Operation) : Option (List String) :=
  if operation.causalGraph.isSome then operation.receiptRefs
  else operation.selectionDigest.map fun digest => [digest.text]

def memberDigests (manifest : SnapshotManifest) : List String :=
  manifest.artifacts.map fun item => item.digest.text

/-- The publication is the one the operation is for. -/
def Operation.Expects (operation : Operation) (manifest : SnapshotManifest) : Prop :=
  (operation.phase = .selectionAttempt ∨ operation.phase = .receiptAttempt) ∧
    operation.expectedDigest = none ∧
    manifest.matchweekId.text = operation.matchweekId ∧
    manifest.snapshotId = operation.slot ∧
    manifest.parentSnapshotId = operation.parent ∧
    (operation.phase = .receiptAttempt →
      operation.upperBound = some manifest.createdAtUtc.text ∧
      operation.receiptMembers = some (memberDigests manifest))

instance (operation : Operation) (manifest : SnapshotManifest) :
    Decidable (operation.Expects manifest) :=
  inferInstanceAs (Decidable (_ ∧ _))

/-- A causal selection has the references of its graph. -/
def Operation.Admits (operation : Operation) (manifest : SnapshotManifest) : Prop :=
  operation.phase = .receiptAttempt ∨ ∀ graph ∈ operation.causalGraph,
    memberDigests manifest = graph.references.map Digest.text

instance (operation : Operation) (manifest : SnapshotManifest) :
    Decidable (operation.Admits manifest) :=
  inferInstanceAs (Decidable (_ ∨ _))

/-- `_bind`. -/
def bindOperation (index : ℕ) (manifest : SnapshotManifest) : ResearchCall Unit := do
  check index
  demand index (fun operation => operation.Expects manifest)
    "Private publication differs from its exact operation."
  demand index (fun operation => operation.Admits manifest)
    "Causal selection differs from its admitted complete graph."
  update index fun operation => { operation with expectedDigest := some manifest.digest }

/-- `_ensure_selection_open()` of a selection. -/
def ensureSelectionOpen (operation : Operation) : ResearchCall Unit :=
  if operation.phase = .selectionAttempt then Call.touch (runtimeError "selection closed")
  else Call.ret ()

/-- `_before_commit`. -/
def beforeCommit (index : ℕ) : ResearchCall Unit := do
  check index
  let operation ← operationAt index
  ensureSelectionOpen operation
  check index

/-- The manifest is the bound one and nothing was inserted yet. -/
def Operation.MayInsert (operation : Operation) (manifest : SnapshotManifest) : Prop :=
  operation.inserted = false ∧ operation.expectedDigest = some manifest.digest ∧
    manifest.matchweekId.text = operation.matchweekId ∧ manifest.snapshotId = operation.slot

instance (operation : Operation) (manifest : SnapshotManifest) :
    Decidable (operation.MayInsert manifest) :=
  inferInstanceAs (Decidable (_ ∧ _))

def Occupied (catalog : Catalog) (snapshotId : Uuid) : Prop :=
  snapshotId ∈ catalog.manifests.map ManifestRow.snapshotId

instance (catalog : Catalog) (snapshotId : Uuid) : Decidable (Occupied catalog snapshotId) :=
  inferInstanceAs (Decidable (_ ∈ _))

/-- The trusted owner state of a causal receipt is reloaded. -/
def requireCurrent (operation : Operation) : ResearchCall Unit :=
  if operation.phase = .receiptAttempt ∧ operation.causalGraph.isSome then
    if operation.attempt = none then
      Call.raise (runtimeError "Causal receipt has no original witness attempt.")
    else Call.touch (runtimeError "Cached approval is stale or withdrawn.")
  else Call.ret ()

/-- `_authorize_insert`. -/
def authorizeInsertion (index : ℕ) (catalog : Catalog) (manifest : SnapshotManifest) :
    ResearchCall Unit := do
  check index
  demand index (fun operation => operation.MayInsert manifest)
    "Private insertion authority is invalid or consumed."
  update index fun operation => { operation with inserted := true }
  let operation ← operationAt index
  requireCurrent operation
  Call.lift (require (operation.phase = .receiptAttempt ∨ operation.causalGraph = none ∨
      ¬ Occupied catalog (completionSlot operation.matchweekId))
    "RuntimeError" "An occupied completion slot refuses causal selection.")
  Call.lift (require (¬ Occupied catalog manifest.snapshotId)
    "RuntimeError" "A reserved slot is already occupied; fresh assignment is required.")

/-- The operation after its insertion was committed. -/
def Operation.confirmed (operation : Operation) (digest : Digest) : Operation :=
  if operation.phase = .selectionAttempt then
    { operation with selectionDigest := some digest, phase := .selectionCommitted }
  else { operation with phase := .finished }

/-- `_committed`. -/
def committed (index : ℕ) (digest : Digest) : ResearchCall Unit := do
  check index
  demand index (fun operation => operation.inserted = true ∧ operation.expectedDigest = some digest)
    "No fresh protected insertion completed."
  demand index (fun operation => operation.phase = .selectionAttempt ∨
      operation.phase = .receiptAttempt)
    "Invalid protected commit state."
  update index fun operation => operation.confirmed digest

/-- The steps that an operation takes in a private publication. -/
def authorityOf (index : ℕ) : PublicationAuthority Authority where
  bind := bindOperation index
  beforeCommit := beforeCommit index
  authorizeInsert := authorizeInsertion index
  committed := committed index

/-- `_publish_manifest` with an operation. -/
def publishStarted (index : ℕ) (manifest : SnapshotManifest) (now : UtcTime) (nonce : String) :
    ResearchCall Unit := do
  let _ ← publishManifestWith (some (authorityOf index)) ⟨manifest, none, now, nonce⟩
  Call.ret ()

/-- `_publish_research_manifest`. -/
def publishResearchManifest (index : ℕ) (role : String) (manifest : SnapshotManifest)
    (now : UtcTime) (nonce : String) : ResearchCall Unit := do
  start index role
  publishStarted index manifest now nonce

end Publication

/-! ## Acknowledgement -/

/-- `datetime.fromisoformat(upper) < datetime.fromisoformat(cutoff)`, which raises where
only one of them has an offset. -/
def readingBefore (upper cutoff : Reading) : Option Bool :=
  match upper.offset, cutoff.offset with
  | some ahead, some behind => some (upper.clock - ahead < cutoff.clock - behind)
  | none, none => some (upper.clock < cutoff.clock)
  | _, _ => none

section Acknowledgement

variable [Calendar]

def strictlyBefore (upper cutoff : String) : Option Bool := do
  let early ← fromIsoFormat upper
  let late ← fromIsoFormat cutoff
  readingBefore early late

/-- `_acknowledge`. -/
def acknowledge (index : ℕ) (upper cutoff : String) : ResearchCall Unit := do
  check index
  demand index (fun operation => operation.causalGraph = none ∧
      operation.phase = .selectionCommitted)
    "Only a fresh pre-cutoff selection can be acknowledged."
  Call.lift (require (strictlyBefore upper cutoff = some true) "RuntimeError"
    "Only a fresh pre-cutoff selection can be acknowledged.")
  update index fun operation =>
    { operation with upperBound := some upper, phase := .acknowledged }

/-! ## Witnesses -/

/-- `_configure_causal`. -/
def configureCausal (index : ℕ) (graph : CausalGraph) (approval bundle : ℕ) :
    ResearchCall Unit := do
  check index
  demand index (fun operation => operation.phase = .fresh ∧ operation.causalGraph = none ∧
      graph.logicalId = operation.matchweekId)
    "Causal operation cannot be reconfigured."
  update index fun operation =>
    { operation with
      causalGraph := some graph, causalApproval := some approval, causalBundle := some bundle }

/-- The original confirmed causal selection without a witness. -/
def Operation.MayWitness (operation : Operation) (graph : CausalGraph) (approval bundle : ℕ) :
    Prop :=
  operation.busy = false ∧ operation.phase = .selectionCommitted ∧ operation.attempt = none ∧
    operation.causalGraph = some graph ∧ operation.causalApproval = some approval ∧
    operation.causalBundle = some bundle ∧ operation.selectionDigest.isSome = true

instance (operation : Operation) (graph : CausalGraph) (approval bundle : ℕ) :
    Decidable (operation.MayWitness graph approval bundle) :=
  inferInstanceAs (Decidable (_ ∧ _))

/-- The random parts of an attempt. -/
structure Entropy where
  binding : String
  nonce : ℕ
  request : String

/-- Store a new attempt and hand it out. -/
def attach (index : ℕ) (attempt : Attempt) : ResearchCall ℕ := do
  let count ← Call.reading interrupted fun world => .ok world.authority.attempts.length
  Call.assign fun world =>
    withOperation
      { world with authority :=
          { world.authority with attempts := world.authority.attempts ++ [attempt] } }
      index fun operation => { operation with attempt := some world.authority.attempts.length }
  Call.ret count

/-- `_begin_witness`. -/
def beginWitness [ContentAddressing] (index : ℕ) (graph : CausalGraph) (approval bundle : ℕ)
    (entropy : Entropy) : ResearchCall ℕ := do
  check index
  demand index (fun operation => operation.MayWitness graph approval bundle)
    "Only the original confirmed fresh causal selection can begin a witness."
  Call.reading interrupted fun world =>
    require (∃ operation ∈ world.authority.operations[index]?,
        world.catalog.snapshotManifestDigestForSnapshot (selectionSlot operation.matchweekId) =
          operation.selectionDigest)
      "RuntimeError" "Only the original confirmed fresh causal selection can begin a witness."
  update index fun operation => { operation with phase := .witnessAttempt, busy := true }
  Call.ensure (Call.touch interrupted) (update index fun operation =>
    { operation with busy := false })
  check index
  attach index
    { operation := index, graph, approval, bundle, sent := false, transportStarted := false
      ownerDispatchChecked := false, event := none, binding := entropy.binding
      nonce := entropy.nonce, request := entropy.request }

/-- The attempt is the one of its operation, which is waiting for its witness. -/
def demandOriginal (index attempt : ℕ) (busy : Bool) : ResearchCall Unit := do
  check index
  demand index (fun operation => operation.attempt = some attempt ∧
      operation.phase = .witnessAttempt ∧ operation.busy = busy)
    "Witness attempt is not the original live operation attempt."

/-- The owner is reloaded once more after the connection is made. -/
def checkDispatch (index attempt : ℕ) (state : Attempt) : ResearchCall Unit :=
  if state.transportStarted = true ∧ state.ownerDispatchChecked = false then do
    Call.touch (runtimeError "Cached approval is stale or withdrawn.")
    check index
    updateAttempt attempt fun state => { state with ownerDispatchChecked := true }
  else Call.ret ()

/-- `_check_transport`. -/
def checkTransport (index attempt : ℕ) : ResearchCall Unit := do
  demandOriginal index attempt true
  demandAttempt attempt (fun state => state.sent = true)
    "Transport authority has expired or belongs to another operation."
  let state ← attemptAt attempt
  checkDispatch index attempt state

/-- `_start_transport`. -/
def startTransport (index attempt : ℕ) : ResearchCall Unit := do
  checkTransport index attempt
  demandOriginal index attempt true
  demandAttempt attempt (fun state => state.sent = true ∧ state.transportStarted = false)
    "Transport requires the original sole live witness attempt."
  updateAttempt attempt fun state => { state with transportStarted := true }
  Call.touch (runtimeError "Cached approval is stale or withdrawn.")
  check index

def transportFailed : ArtifactError := ⟨"WitnessError", "Single TSA transport attempt failed."⟩

def recordDispatch (index : ℕ) (world : ResearchWorld) : ResearchWorld :=
  { world with authority :=
      { world.authority with dispatched := world.authority.dispatched ++ [index] } }

/-- `connection.request`.  The request may be sent although the call fails. -/
def dispatch (index : ℕ) : ResearchCall Unit :=
  Call.effect transportFailed
    (fun left world => if left.sent = true then recordDispatch index world else world)
    fun world => .ok (recordDispatch index world, ())

/-- `_remaining`. -/
def remaining (index attempt : ℕ) : ResearchCall Unit := do
  checkTransport index attempt
  Call.touch (runtimeError "Single TSA transport deadline expired.")

/-- The response is read in chunks. -/
def readResponse (index attempt chunks : ℕ) : ResearchCall Unit :=
  Call.each (fun _ => do
    remaining index attempt
    Call.touch transportFailed) (List.range chunks)

/-- `_post`. -/
def post (attempt chunks : ℕ) : ResearchCall Unit := do
  let state ← attemptAt attempt
  startTransport state.operation attempt
  Call.touch transportFailed
  remaining state.operation attempt
  remaining state.operation attempt
  dispatch state.operation
  readResponse state.operation attempt chunks

/-- What the service answers, as verified evidence. -/
structure Answer where
  identity : ℕ
  profileDigest : Digest
  lower : String
  upper : String
  provenance : Digest
  digests : List Digest
  chunks : ℕ

def Answer.event (answer : Answer) (state : Attempt) : VerifiedEvent where
  identity := answer.identity
  binding := state.binding
  request := state.request
  profileDigest := answer.profileDigest
  lower := answer.lower
  upper := answer.upper
  provenance := answer.provenance
  digests := answer.digests

/-- `_obtain`. -/
def obtain (attempt : ℕ) (answer : Answer) : ResearchCall Unit := do
  let state ← attemptAt attempt
  demandOriginal state.operation attempt false
  demandAttempt attempt (fun state => state.sent = false)
    "The sole witness transport attempt is consumed."
  updateAttempt attempt fun state => { state with sent := true }
  update state.operation fun operation => { operation with busy := true }
  Call.ensure
    (do
      Call.touch (runtimeError "Cached approval is stale or withdrawn.")
      post attempt answer.chunks
      Call.touch (runtimeError "Verified event differs from the exact request."))
    (update state.operation fun operation => { operation with busy := false })
  demandOriginal state.operation attempt false
  updateAttempt attempt fun state => { state with event := some (answer.event state) }

/-- `_utc`. -/
def bound (text : String) : Except ArtifactError Instant :=
  match utc (.str text) with
  | .ok instant => .ok instant
  | .error _ => .error ⟨"WitnessError", "Unsupported UTC bound."⟩

/-- The event is the one of the attempt. -/
def Attempt.Bears (state : Attempt) (graph : CausalGraph) (event : VerifiedEvent) : Prop :=
  state.sent = true ∧ state.event = some event ∧ event.binding = state.binding ∧
    event.request = state.request ∧ state.graph = graph

instance (state : Attempt) (graph : CausalGraph) (event : VerifiedEvent) :
    Decidable (state.Bears graph event) :=
  inferInstanceAs (Decidable (_ ∧ _))

def witnessDiffers : String :=
  "Witness differs from the original exact attempt or is not strictly before T."

/-- The bounds of an event against the cutoff of the graph. -/
def checkBounds (event : VerifiedEvent) (cutoff : String) : Except ArtifactError Unit := do
  let upper ← bound event.upper
  let limit ← bound cutoff
  require (upper < limit) "RuntimeError" witnessDiffers
  let lower ← bound event.lower
  require (lower ≤ upper) "RuntimeError" "Witness interval is invalid."

/-- `sorted({selection digest, provenance digest, *event digests})`. -/
def Operation.witnessRefs (operation : Operation) (event : VerifiedEvent) : List String :=
  sortedSet ((operation.selectionDigest.elim "" Digest.text) :: event.provenance.text ::
    event.digests.map Digest.text)

/-- `_accept_witness`, with the digest of the profile and the clock. -/
def acceptWitness (profileDigest : Digest) (index attempt : ℕ) (event : VerifiedEvent)
    (now : UtcTime) : ResearchCall Unit := do
  demandOriginal index attempt false
  let operation ← operationAt index
  let graph ← Call.lift (found operation.causalGraph)
  demandAttempt attempt (fun state => state.Bears graph event) witnessDiffers
  Call.lift (require (event.profileDigest = profileDigest) "RuntimeError" witnessDiffers)
  Call.lift (checkBounds event graph.cutoff)
  update index fun operation => { operation with busy := true }
  Call.ensure
    (Call.recover
      (do
        Call.touch interrupted
        check index
        demand index (fun operation => operation.phase = .witnessAttempt)
          "Witness acceptance cannot overwrite another transition."
        update index fun operation =>
          { operation with
            receiptRefs := some (operation.witnessRefs event)
            upperBound := some now.text
            phase := .acknowledged })
      (update index fun operation => { operation with phase := .revoked }))
    (update index fun operation => { operation with busy := false })

end Acknowledgement

end MatchVet.Research.Selection
