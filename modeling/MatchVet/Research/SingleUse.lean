import MatchVet.Artifacts.Consistency
import MatchVet.Foundation.Gregorian
import MatchVet.Research.Events

/-!
# Selection authority is single use

Every call keeps what the events say of the operations, wherever it stops, and so does
every run of calls.
-/

namespace MatchVet.Research.SingleUse

open MatchVet.Artifacts.Consistency
open MatchVet.Artifacts.Manifest
open MatchVet.Artifacts.Store
open MatchVet.Artifacts.Tables
open MatchVet.Foundation.CrashLogic
open MatchVet.Foundation.Gregorian
open MatchVet.Foundation.Identifier
open MatchVet.Foundation.Runtime
open MatchVet.Foundation.Timestamp
open MatchVet.Research.Events
open MatchVet.Research.Selection

/-! ## Reading the authority -/

section Reading

variable {before : ResearchWorld → Prop} {index : ℕ}

theorem check_meets :
    Meets before (check index)
      (fun _ world => before world ∧
        At world.authority index fun operation => operation.phase ≠ .revoked) before := by
  refine Meets.bind (Meets.pass fun _ => id) fun _ => Meets.reading ?_ fun _ => id
  intro world _ hbefore hcheck
  exact ⟨hbefore, (require_ok_iff.mp hcheck).2⟩

/-- A check that finds nothing out that is needed. -/
theorem recheck_meets : Meets before (check index) (fun _ => before) before :=
  check_meets.weaken (fun _ => id) (fun _ _ hbefore => hbefore.1) fun _ => id

theorem demand_meets {condition : Operation → Prop} [DecidablePred condition] {message : String} :
    Meets before (demand index condition message)
      (fun _ world => before world ∧ At world.authority index condition) before := by
  refine Meets.reading ?_ fun _ => id
  intro world _ hbefore hdemand
  obtain ⟨operation, hget, hcondition⟩ := require_ok_iff.mp hdemand
  exact ⟨hbefore, operation, hget, hcondition⟩

theorem demandAgain_meets {known condition : Operation → Prop} [DecidablePred condition]
    {message : String} :
    Meets (fun world => before world ∧ At world.authority index known)
      (demand index condition message)
      (fun _ world => before world ∧
        At world.authority index fun operation => known operation ∧ condition operation)
      before :=
  demand_meets.weaken (fun _ => id) (fun _ _ hbefore => ⟨hbefore.1.1, hbefore.1.2.and hbefore.2⟩)
    fun _ hbefore => hbefore.1

theorem found_eq_ok {α : Type} {option : Option α} {value : α} (hfound : found option = .ok value) :
    option = some value := by
  cases option with
  | none => cases hfound
  | some other =>
      cases hfound
      rfl

theorem parsed_eq_ok {α : Type} {option : Option α} {value : α} {code message : String}
    (hparsed : parsed option code message = .ok value) : option = some value := by
  cases option with
  | none => cases hparsed
  | some other =>
      cases hparsed
      rfl

theorem operationAt_meets :
    Meets before (operationAt index)
      (fun operation world => before world ∧
        world.authority.operations[index]? = some operation) before :=
  Meets.reading (fun _ _ hbefore hread => ⟨hbefore, found_eq_ok hread⟩) fun _ => id

/-- The attempt exists and meets a condition. -/
def AttemptAt (authority : Authority) (index : ℕ) (condition : Attempt → Prop) : Prop :=
  ∃ state, authority.attempts[index]? = some state ∧ condition state

theorem AttemptAt.and {authority : Authority} {first second : Attempt → Prop}
    (hfirst : AttemptAt authority index first) (hsecond : AttemptAt authority index second) :
    AttemptAt authority index fun state => first state ∧ second state := by
  obtain ⟨state, hget, hfirst⟩ := hfirst
  obtain ⟨other, hother, hsecond⟩ := hsecond
  rw [hget, Option.some.injEq] at hother
  subst hother
  exact ⟨state, hget, hfirst, hsecond⟩

theorem attemptAt_meets :
    Meets before (attemptAt index)
      (fun state world => before world ∧ world.authority.attempts[index]? = some state) before :=
  Meets.reading (fun _ _ hbefore hread => ⟨hbefore, found_eq_ok hread⟩) fun _ => id

theorem demandAttempt_meets {condition : Attempt → Prop} [DecidablePred condition]
    {message : String} :
    Meets before (demandAttempt index condition message)
      (fun _ world => before world ∧ AttemptAt world.authority index condition) before := by
  refine Meets.reading ?_ fun _ => id
  intro world _ hbefore hdemand
  obtain ⟨state, hget, hcondition⟩ := require_ok_iff.mp hdemand
  exact ⟨hbefore, state, hget, hcondition⟩

theorem demandOriginal_meets (attempt : ℕ) (busy : Bool) :
    Meets before (demandOriginal index attempt busy)
      (fun _ world => before world ∧ At world.authority index fun operation =>
        operation.attempt = some attempt ∧ operation.phase = .witnessAttempt) before := by
  refine Meets.bind recheck_meets fun _ => demand_meets.weaken (fun _ => id) ?_ fun _ => id
  rintro _ world ⟨hbefore, hat⟩
  exact ⟨hbefore, hat.imp fun _ hdemand => ⟨hdemand.1, hdemand.2.1⟩⟩

theorem checkTransport_meets {attempt : ℕ} {before : ResearchWorld → Prop}
    (hstable : ∀ world, before world → before (withAttempt world attempt fun state =>
      { state with ownerDispatchChecked := true })) :
    Meets before (checkTransport index attempt) (fun _ => before) before := by
  refine Meets.bind ((demandOriginal_meets attempt true).weaken (fun _ => id)
    (fun _ _ hbefore => hbefore.1) fun _ => id) fun _ => ?_
  refine Meets.bind (demandAttempt_meets.weaken (fun _ => id) (fun _ _ hbefore => hbefore.1)
    fun _ => id) fun _ => ?_
  refine Meets.bind (attemptAt_meets.weaken (fun _ => id) (fun _ _ hbefore => hbefore.1)
    fun _ => id) fun state => ?_
  unfold checkDispatch
  split
  · refine Meets.bind (Meets.pass fun _ => id) fun _ => ?_
    refine Meets.bind recheck_meets fun _ => ?_
    exact Meets.assign hstable
  · exact Meets.keep ()

theorem AttemptAt.update {world : ResearchWorld} {attempt : ℕ} {first second : Attempt → Prop}
    {change : Attempt → Attempt} (hat : AttemptAt world.authority attempt first)
    (hchange : ∀ state, first state → second (change state)) :
    AttemptAt (withAttempt world attempt change).authority attempt second := by
  obtain ⟨state, hget, hfirst⟩ := hat
  refine ⟨change state, ?_, hchange state hfirst⟩
  have hmodify := @getElem?_modify_some _ _ attempt _ _ hget change
  rwa [if_pos rfl] at hmodify

end Reading

/-! ## Updating the authority -/

section Updating

variable [ContentAddressing] [Calendar] {known : Catalog → Prop} {history : List Event}
  {index : ℕ} {stopped : ResearchWorld → Prop}

/-- The events say what is known of the catalog and of the authority. -/
def Within (known : Catalog → Prop) (history : List Event) (world : ResearchWorld) : Prop :=
  known world.catalog ∧ Standing history world.authority

theorem alike_of_kept {first second : Operation}
    (hkept : OperationKept history index first → OperationKept history index second)
    (hmatchweek : second.matchweekId = first.matchweekId)
    (hattempt : second.attempt = first.attempt)
    (hgraph : second.causalGraph = first.causalGraph) :
    Alike history index first second ∧ second.attempt = first.attempt := by
  refine ⟨⟨hkept, fun event _ _ hsuits => ?_⟩, hattempt⟩
  cases event with
  | inserted operation role row =>
      rw [Event.Suits, hmatchweek]
      exact hsuits
  | accepted operation attempt event graph =>
      rw [Event.Suits, hattempt, hgraph]
      exact hsuits
  | acknowledged operation upper cutoff =>
      rw [Event.Suits, hgraph]
      exact hsuits
  | revoked operation => exact hsuits

theorem update_meets {condition next : Operation → Prop} {change : Operation → Operation}
    (hchange : ∀ operation, condition operation →
      Alike history index operation (change operation) ∧
        (change operation).attempt = operation.attempt)
    (hnext : ∀ operation, condition operation → next (change operation)) :
    Meets (fun world => Within known history world ∧ At world.authority index condition)
      (update index change)
      (fun _ world => Within known history world ∧ At world.authority index next) stopped :=
  Meets.assign fun _ hbefore =>
    ⟨⟨hbefore.1.1, hbefore.1.2.update hbefore.2 hchange⟩, hbefore.2.update hnext⟩

/-- A change of what no event is about. -/
theorem Within.change {world : ResearchWorld} {change : Operation → Operation}
    (hwithin : Within known history world)
    (hchange : ∀ operation, Alike history index operation (change operation) ∧
      (change operation).attempt = operation.attempt) :
    Within known history (withOperation world index change) :=
  ⟨hwithin.1, hwithin.2.replace rfl (fun operation _ => (hchange operation).1)
    (hwithin.2.transport.update fun operation _ => (hchange operation).2)⟩

theorem Within.revoke {world : ResearchWorld} (hwithin : Within known history world) :
    Within known history
      (withOperation world index fun operation => { operation with phase := .revoked }) :=
  hwithin.change fun _ => alike_of_kept (fun hkept => hkept.revoke rfl) rfl rfl rfl

/-- Setting the mark of a callback. -/
theorem busy_meets (busy : Bool) :
    Meets (Within known history)
      (update index fun operation => { operation with busy := busy })
      (fun _ => Within known history) stopped :=
  Meets.assign fun _ hbefore =>
    hbefore.change fun _ => alike_of_kept (fun hkept => hkept.same rfl rfl) rfl rfl rfl

theorem busyAt_meets {condition : Operation → Prop} (busy : Bool)
    (hstable : ∀ operation, condition operation → condition { operation with busy := busy }) :
    Meets (fun world => Within known history world ∧ At world.authority index condition)
      (update index fun operation => { operation with busy := busy })
      (fun _ world => Within known history world ∧ At world.authority index condition) stopped :=
  update_meets (fun _ _ => alike_of_kept (fun hkept => hkept.same rfl rfl) rfl rfl rfl) hstable

theorem updateAttempt_meets {change : Attempt → Attempt}
    (hsame : ∀ state, (change state).operation = state.operation ∧
      (state.transportStarted = true → (change state).transportStarted = true)) :
    Meets (Within known history) (updateAttempt index change) (fun _ => Within known history)
      stopped :=
  Meets.assign fun _ hbefore => ⟨hbefore.1,
    { hbefore.2 with transport := hbefore.2.transport.updateAttempt hsame }⟩

/-- The event of a call that is over. -/
theorem Within.note {event : Event} {world : ResearchWorld} (hwithin : Within known history world)
    (hrow : event.row? = none)
    (hat : At world.authority event.operation fun operation => event.Suits operation ∧
      operation.phase ≠ .fresh ∧ (event = .revoked event.operation → operation.phase = .revoked)) :
    Within known (history ++ [event]) world :=
  ⟨hwithin.1, hwithin.2.note hrow hat⟩

end Updating

/-! ## Operations -/

section Operations

variable [ContentAddressing] [Calendar] {known : Catalog → Prop} {history : List Event}
  {index : ℕ}

theorem openOperation_meets (matchweekId : String) :
    Meets (Within known history) (openOperation matchweekId) (fun _ => Within known history)
      (Within known history) := by
  refine Meets.bind (Meets.pass fun _ => id) fun _ => ?_
  refine Meets.bind (Meets.observe fun _ => id) fun _ => ?_
  refine Meets.bind (Meets.pass fun _ => id) fun _ => ?_
  exact Meets.assign fun _ hbefore => ⟨hbefore.1, hbefore.2.append rfl rfl rfl⟩

theorem revoke_meets :
    Meets (Within known history) (revoke index) (fun _ => Within known history)
      (Within known history) := by
  refine Meets.assign fun world hbefore => ?_
  dsimp only
  split
  · exact ⟨hbefore.1, hbefore.revoke.2.owned none⟩
  · exact hbefore

theorem startRole_meets (role : Role) :
    Meets (Within known history) (startRole index role)
      (fun _ world => Within known history world ∧
        At world.authority index fun operation => operation.phase = role.attempt)
      (Within known history) :=
  Meets.bind demand_meets fun _ => update_meets
    (fun _ hphase => alike_of_kept (fun hkept => hkept.start hphase rfl) rfl rfl rfl)
    fun _ _ => rfl

theorem start_meets (role : String) :
    Meets (Within known history) (start index role)
      (fun _ world => Within known history world ∧ ∃ found, Role.ofText? role = some found ∧
        At world.authority index fun operation => operation.phase = found.attempt)
      (Within known history) := by
  refine Meets.bind recheck_meets fun _ => ?_
  refine Meets.bind (demand_meets.weaken (fun _ => id) (fun _ _ hbefore => hbefore.1) fun _ => id)
    fun _ => ?_
  refine Meets.bind (Meets.computed fun _ => id) fun found => Meets.given fun hfound => ?_
  refine (startRole_meets found).weaken (fun _ => id) ?_ fun _ => id
  intro _ world hbefore
  exact ⟨hbefore.1, found, parsed_eq_ok hfound, hbefore.2⟩

theorem configureCausal_meets (graph : CausalGraph) (approval bundle : ℕ) :
    Meets (Within known history) (configureCausal index graph approval bundle)
      (fun _ => Within known history) (Within known history) := by
  refine Meets.bind recheck_meets fun _ => ?_
  refine Meets.bind demand_meets fun _ => Meets.assign fun world hbefore =>
    ⟨hbefore.1.1, hbefore.1.2.update hbefore.2 fun operation hdemand => ⟨⟨?_, ?_⟩, rfl⟩⟩
  · exact fun hkept => hkept.same rfl rfl
  · intro event hmem hindex
    obtain ⟨found, hget, hphase, -⟩ := hbefore.2
    exact absurd hindex ((hbefore.1.2.operations index found hget).untouched hphase event hmem)

/-- The update that ends an acknowledgement, with its event. -/
theorem confirm_meets {event : Event} {condition : Operation → Prop}
    {change : Operation → Operation} {stopped : ResearchWorld → Prop}
    (hrow : event.row? = none) (hindex : event.operation = index)
    (hrevoked : event ≠ .revoked index) (hconfirmed : Confirmed index (history ++ [event]))
    (hcondition : ∀ operation, condition operation → event.Suits operation ∧
      (operation.phase = .selectionCommitted ∨ operation.phase = .witnessAttempt))
    (hchange : ∀ operation, (change operation).phase = .acknowledged ∧
      (change operation).matchweekId = operation.matchweekId ∧
      (change operation).attempt = operation.attempt ∧
      (change operation).causalGraph = operation.causalGraph) :
    Meets (fun world => Within known history world ∧ At world.authority index condition)
      (update index change) (fun _ => Within known (history ++ [event])) stopped := by
  subst hindex
  have hphase {operation : Operation} (hat : condition operation) : operation.phase ≠ .fresh := by
    rcases (hcondition operation hat).2 with hphase | hphase
    · rw [hphase]
      nofun
    · rw [hphase]
      nofun
  refine Meets.assign fun world hbefore => ?_
  have hnoted : Within known (history ++ [event]) world := hbefore.1.note hrow
    (hbefore.2.imp fun operation hat => ⟨(hcondition operation hat).1, hphase hat,
      fun heq => absurd heq hrevoked⟩)
  refine ⟨hnoted.1, hnoted.2.update hbefore.2 fun operation hat => ?_⟩
  obtain ⟨hacknowledged, hmatchweek, hattempt, hgraph⟩ := hchange operation
  exact alike_of_kept (fun hkept => hkept.proceed (hcondition operation hat).2
    (Or.inr ⟨hacknowledged, hconfirmed⟩)) hmatchweek hattempt hgraph

theorem acknowledge_meets (upper cutoff : String) :
    Meets (Within known history) (acknowledge index upper cutoff)
      (fun _ => Within known (history ++ [.acknowledged index upper cutoff]))
      (Within known history) := by
  refine Meets.bind recheck_meets fun _ => ?_
  refine Meets.bind demand_meets fun _ => ?_
  refine Meets.bind (Meets.computed fun _ hbefore => hbefore.1) fun _ => Meets.given fun hbound => ?_
  have hconfirmed : Confirmed index (history ++ [.acknowledged index upper cutoff]) :=
    Or.inl ⟨upper, cutoff, List.mem_append_right _ List.mem_cons_self, require_ok_iff.mp hbound⟩
  exact confirm_meets rfl rfl nofun hconfirmed (fun _ hat => ⟨hat.1, Or.inl hat.2⟩)
    fun _ => ⟨rfl, rfl, rfl, rfl⟩

end Operations

/-! ## Witnesses -/

theorem checkBounds_ok [Calendar] {event : VerifiedEvent} {cutoff : String} {done : Unit}
    (hcheck : checkBounds event cutoff = .ok done) : BoundedBy event cutoff := by
  simp only [checkBounds, bind_eq_ok, require_ok_iff] at hcheck
  obtain ⟨upper, hupper, limit, hlimit, _, hbefore, -⟩ := hcheck
  exact ⟨upper, limit, hupper, hlimit, hbefore⟩

section Witnesses

variable [ContentAddressing] [Calendar] {known : Catalog → Prop} {history : List Event}
  {index : ℕ}

theorem attach_meets {state : Attempt} (howner : state.operation = index) :
    Meets
      (fun world => Within known history world ∧
        At world.authority index fun operation => operation.attempt = none)
      (attach index state) (fun _ => Within known history) (Within known history) := by
  subst howner
  refine Meets.bind (Meets.observe fun _ hbefore => hbefore.1) fun count => ?_
  refine Meets.bind (Meets.assign fun world hbefore => ?_) fun _ => Meets.keep count
  obtain ⟨⟨hcatalog, hstanding⟩, hat⟩ := hbefore
  refine ⟨hcatalog, hstanding.replace rfl (fun operation hget => ⟨?_, ?_⟩)
    (hstanding.transport.attach rfl rfl rfl hat)⟩
  · exact fun hkept => hkept.same rfl rfl
  · intro event hmem hindex hsuits
    obtain ⟨other, hother, hnone⟩ := hat
    rw [show world.authority.operations[state.operation]? = some operation from hget,
      Option.some.injEq] at hother
    subst hother
    cases event with
    | inserted number role row => exact hsuits
    | accepted number attempt event graph =>
        have hsome := hsuits.1
        rw [hnone] at hsome
        cases hsome
    | acknowledged number upper cutoff => exact hsuits
    | revoked number => exact hsuits

theorem beginWitness_meets (graph : CausalGraph) (approval bundle : ℕ) (entropy : Entropy) :
    Meets (Within known history) (beginWitness index graph approval bundle entropy)
      (fun _ => Within known history) (Within known history) := by
  refine Meets.bind recheck_meets fun _ => ?_
  refine Meets.bind demand_meets fun _ => ?_
  refine Meets.bind (Meets.observe fun _ hbefore => hbefore.1) fun _ => ?_
  have hbegin : Meets
      (fun world => Within known history world ∧
        At world.authority index fun operation => operation.MayWitness graph approval bundle)
      (update index fun operation => { operation with phase := .witnessAttempt, busy := true })
      (fun _ world => Within known history world ∧
        At world.authority index fun operation => operation.attempt = none)
      (Within known history) :=
    update_meets (fun operation hmay => alike_of_kept
      (fun hkept => hkept.proceed (Or.inl hmay.2.1) (Or.inl rfl)) rfl rfl rfl)
      fun operation hmay => hmay.2.2.1
  refine Meets.bind hbegin fun _ => ?_
  have hcallback : Meets
      (fun world => Within known history world ∧
        At world.authority index fun operation => operation.attempt = none)
      (Call.ensure (Call.touch interrupted) (update index fun operation =>
        { operation with busy := false }))
      (fun _ world => Within known history world ∧
        At world.authority index fun operation => operation.attempt = none)
      (Within known history) := by
    refine Meets.ensure ((Meets.pass fun _ => id).stopsIn fun _ hbefore => hbefore.1)
      (busy_meets false) fun _ => ?_
    exact busyAt_meets false fun _ hnone => hnone
  refine Meets.bind hcallback fun _ => ?_
  refine Meets.bind (recheck_meets.stopsIn fun _ hbefore => hbefore.1) fun _ => ?_
  exact attach_meets rfl

/-! ### Transport -/

/-- The transport of the attempt of an operation has started, and its request is not sent. -/
def Ready (index attempt : ℕ) (authority : Authority) : Prop :=
  authority.dispatched.count index = 0 ∧
    AttemptAt authority attempt fun state =>
      state.operation = index ∧ state.transportStarted = true

theorem Within.attempt {world : ResearchWorld} {attempt : ℕ} {change : Attempt → Attempt}
    (hwithin : Within known history world)
    (hsame : ∀ state, (change state).operation = state.operation ∧
      (state.transportStarted = true → (change state).transportStarted = true)) :
    Within known history (withAttempt world attempt change) :=
  ⟨hwithin.1, { hwithin.2 with transport := hwithin.2.transport.updateAttempt hsame }⟩

theorem startTransport_meets (attempt : ℕ) :
    Meets
      (fun world => Within known history world ∧
        AttemptAt world.authority attempt fun state => state.operation = index)
      (startTransport index attempt)
      (fun _ world => Within known history world ∧ Ready index attempt world.authority)
      (Within known history) := by
  have hstart : Meets
      (fun world => (Within known history world ∧
        AttemptAt world.authority attempt fun state => state.operation = index) ∧
        AttemptAt world.authority attempt fun state =>
          state.sent = true ∧ state.transportStarted = false)
      (updateAttempt attempt fun state => { state with transportStarted := true })
      (fun _ world => Within known history world ∧ Ready index attempt world.authority)
      (Within known history) := by
    refine Meets.assign fun world hbefore => ?_
    obtain ⟨⟨hwithin, howned⟩, hunstarted⟩ := hbefore
    obtain ⟨state, hget, rfl, -, hstarted⟩ := howned.and hunstarted
    exact ⟨hwithin.attempt fun _ => ⟨rfl, fun _ => rfl⟩,
      hwithin.2.transport.unstarted attempt state hget hstarted,
      howned.update fun _ howner => ⟨howner, rfl⟩⟩
  refine Meets.bind ((checkTransport_meets ?_).stopsIn fun _ hbefore => hbefore.1) fun _ => ?_
  · exact fun world hbefore => ⟨hbefore.1.attempt fun _ => ⟨rfl, id⟩,
      hbefore.2.update fun _ howner => howner⟩
  refine Meets.bind ((demandOriginal_meets attempt true).weaken (fun _ => id)
    (fun _ _ hbefore => hbefore.1) fun _ hbefore => hbefore.1) fun _ => ?_
  refine Meets.bind (demandAttempt_meets.stopsIn fun _ hbefore => hbefore.1) fun _ => ?_
  refine Meets.bind hstart fun _ => ?_
  refine Meets.bind (Meets.pass fun _ hbefore => hbefore.1) fun _ => ?_
  exact recheck_meets.stopsIn fun _ hbefore => hbefore.1

theorem Within.dispatch {world : ResearchWorld} {attempt : ℕ}
    (hwithin : Within known history world) (hready : Ready index attempt world.authority) :
    Within known history (recordDispatch index world) := by
  obtain ⟨hnone, state, hget, rfl, hstarted⟩ := hready
  have htransport := hwithin.2.transport.dispatch hget hstarted hnone
  exact ⟨hwithin.1, hwithin.2.ordered, hwithin.2.operations, hwithin.2.suits, htransport⟩

theorem dispatch_meets (attempt : ℕ) :
    Meets (fun world => Within known history world ∧ Ready index attempt world.authority)
      (dispatch index) (fun _ => Within known history) (Within known history) := by
  refine Meets.effect ?_ (fun _ hbefore => hbefore.1) ?_
  · rintro world _ _ hbefore ⟨⟩
    exact hbefore.1.dispatch hbefore.2
  · intro left world hbefore
    split
    · exact hbefore.1.dispatch hbefore.2
    · exact hbefore.1

theorem post_meets (attempt chunks : ℕ) :
    Meets (Within known history) (post attempt chunks) (fun _ => Within known history)
      (Within known history) := by
  have hremaining {index : ℕ} : Meets
      (fun world => Within known history world ∧ Ready index attempt world.authority)
      (remaining index attempt)
      (fun _ world => Within known history world ∧ Ready index attempt world.authority)
      (Within known history) := by
    refine Meets.bind ((checkTransport_meets ?_).stopsIn fun _ hbefore => hbefore.1) fun _ => ?_
    · exact fun world hbefore => ⟨hbefore.1.attempt fun _ => ⟨rfl, id⟩, hbefore.2.1,
        hbefore.2.2.update fun _ howner => howner⟩
    · exact Meets.pass fun _ hbefore => hbefore.1
  refine Meets.bind attemptAt_meets fun state => ?_
  refine Meets.bind ((startTransport_meets attempt).weaken (fun _ hbefore => ⟨hbefore.1, state,
    hbefore.2, rfl⟩) (fun _ _ => id) fun _ => id) fun _ => ?_
  refine Meets.bind (Meets.pass fun _ hbefore => hbefore.1) fun _ => ?_
  refine Meets.bind hremaining fun _ => ?_
  refine Meets.bind hremaining fun _ => ?_
  refine Meets.bind (dispatch_meets attempt) fun _ => ?_
  refine Meets.each fun _ _ => ?_
  refine Meets.bind ?_ fun _ => Meets.pass fun _ => id
  refine Meets.bind (checkTransport_meets fun world hbefore => ?_) fun _ => Meets.pass fun _ => id
  exact hbefore.attempt fun _ => ⟨rfl, id⟩

theorem obtain_meets (attempt : ℕ) (answer : Answer) :
    Meets (Within known history) (obtain attempt answer) (fun _ => Within known history)
      (Within known history) := by
  have hrequest : Meets (Within known history)
      (do
        Call.touch (runtimeError "Cached approval is stale or withdrawn.")
        post attempt answer.chunks
        Call.touch (runtimeError "Verified event differs from the exact request."))
      (fun _ => Within known history) (Within known history) := by
    refine Meets.bind (Meets.pass fun _ => id) fun _ => ?_
    exact Meets.bind (post_meets attempt answer.chunks) fun _ => Meets.pass fun _ => id
  refine Meets.bind (attemptAt_meets.weaken (fun _ => id) (fun _ _ hbefore => hbefore.1)
    fun _ => id) fun state => ?_
  refine Meets.bind ((demandOriginal_meets attempt false).weaken (fun _ => id)
    (fun _ _ hbefore => hbefore.1) fun _ => id) fun _ => ?_
  refine Meets.bind (demandAttempt_meets.weaken (fun _ => id) (fun _ _ hbefore => hbefore.1)
    fun _ => id) fun _ => ?_
  refine Meets.bind (updateAttempt_meets fun _ => ⟨rfl, id⟩) fun _ => ?_
  refine Meets.bind (busy_meets true) fun _ => ?_
  refine Meets.bind (Meets.ensure hrequest (busy_meets false) fun _ => busy_meets false)
    fun _ => ?_
  refine Meets.bind ((demandOriginal_meets attempt false).weaken (fun _ => id)
    (fun _ _ hbefore => hbefore.1) fun _ => id) fun _ => ?_
  exact updateAttempt_meets fun _ => ⟨rfl, id⟩

/-! ### Acceptance -/

/-- The part of an acceptance that is undone by a revocation. -/
theorem acceptOriginal_meets {attempt : ℕ} {event : VerifiedEvent} {graph : CausalGraph}
    (now : UtcTime) (hbounds : BoundedBy event graph.cutoff) :
    Meets
      (fun world => Within known history world ∧ At world.authority index fun operation =>
        operation.attempt = some attempt ∧ operation.causalGraph = some graph)
      (do
        Call.touch interrupted
        check index
        demand index (fun operation => operation.phase = .witnessAttempt)
          "Witness acceptance cannot overwrite another transition."
        update index fun operation =>
          { operation with
            receiptRefs := some (operation.witnessRefs event)
            upperBound := some now.text
            phase := .acknowledged })
      (fun _ => Within known (history ++ [.accepted index attempt event graph]))
      (Within known history) := by
  have hconfirmed : Confirmed index (history ++ [.accepted index attempt event graph]) :=
    Or.inr ⟨attempt, event, graph, List.mem_append_right _ List.mem_cons_self, hbounds⟩
  refine Meets.bind (Meets.pass fun _ hbefore => hbefore.1) fun _ => ?_
  refine Meets.bind (recheck_meets.stopsIn fun _ hbefore => hbefore.1) fun _ => ?_
  refine Meets.bind demandAgain_meets fun _ => ?_
  exact confirm_meets rfl rfl nofun hconfirmed (fun _ hat => ⟨hat.1, Or.inr hat.2⟩)
    fun _ => ⟨rfl, rfl, rfl, rfl⟩

theorem acceptWitness_meets (profileDigest : Digest) (attempt : ℕ) (event : VerifiedEvent)
    (now : UtcTime) (configured : Option CausalGraph) :
    Meets
      (fun world => Within known history world ∧
        world.authority.operations[index]?.bind Operation.causalGraph = configured)
      (acceptWitness profileDigest index attempt event now)
      (fun _ => Within known
        (history ++ (configured.map (Event.accepted index attempt event)).toList))
      (Within known history) := by
  refine Meets.bind ((demandOriginal_meets attempt false).stopsIn fun _ hbefore => hbefore.1)
    fun _ => ?_
  refine Meets.bind (operationAt_meets.stopsIn fun _ hbefore => hbefore.1.1) fun operation => ?_
  refine Meets.bind (Meets.computed fun _ hbefore => hbefore.1.1.1) fun graph =>
    Meets.given fun hgraph => ?_
  have hknown (world : ResearchWorld)
      (hbefore : ((Within known history world ∧
        world.authority.operations[index]?.bind Operation.causalGraph = configured) ∧
        At world.authority index fun operation =>
          operation.attempt = some attempt ∧ operation.phase = .witnessAttempt) ∧
        world.authority.operations[index]? = some operation) :
      (Within known history world ∧ At world.authority index fun operation =>
        operation.attempt = some attempt ∧ operation.causalGraph = some graph) ∧
        configured = some graph := by
    obtain ⟨⟨⟨hwithin, hconfigured⟩, hat⟩, hget⟩ := hbefore
    have hfound := found_eq_ok hgraph
    rw [hget, Option.bind_some, hfound] at hconfigured
    obtain ⟨found, hother, hattempt, -⟩ := hat
    rw [hget, Option.some.injEq] at hother
    subst hother
    exact ⟨⟨hwithin, operation, hget, hattempt, hfound⟩, hconfigured.symm⟩
  suffices hcall : Meets
      (fun world => (Within known history world ∧ At world.authority index fun operation =>
        operation.attempt = some attempt ∧ operation.causalGraph = some graph) ∧
        configured = some graph) _ _ _ from
    hcall.weaken hknown (fun _ _ => id) fun _ => id
  refine Meets.given fun hconfigured => ?_
  subst hconfigured
  refine Meets.bind (demandAttempt_meets.weaken (fun _ => id) (fun _ _ hbefore => hbefore.1)
    fun _ hbefore => hbefore.1) fun _ => ?_
  refine Meets.bind (Meets.checked fun _ hbefore => hbefore.1) fun _ => ?_
  refine Meets.bind (Meets.computed fun _ hbefore => hbefore.1) fun _ => Meets.given fun hcheck => ?_
  refine Meets.bind (busyAt_meets true fun _ hat => hat) fun _ => ?_
  have hrevoke : Meets (Within known history)
      (update index fun operation => { operation with phase := .revoked })
      (fun _ => Within known history) (Within known history) :=
    Meets.assign fun _ hbefore => hbefore.revoke
  exact Meets.ensure (Meets.recover (acceptOriginal_meets now (checkBounds_ok hcheck)) hrevoke)
    (busy_meets false) fun _ => busy_meets false

end Witnesses

/-! ## Publications -/

section Publications

theorem attempt_of_expects [ContentAddressing] {operation : Operation}
    {manifest : SnapshotManifest} (hexpects : operation.Expects manifest) :
    operation.phase = (roleOf operation.phase).attempt := by
  rcases hexpects.1 with hphase | hphase
  · rw [hphase]
    rfl
  · rw [hphase]
    rfl

theorem slot_of_attempt [ContentAddressing] {operation : Operation} {role : Role}
    (hphase : operation.phase = role.attempt) : operation.slot = slotOf operation.matchweekId role := by
  cases role with
  | selection =>
      rw [Operation.slot, if_neg (by rw [hphase]; nofun)]
      rfl
  | receipt =>
      rw [Operation.slot, if_pos (by exact hphase)]
      rfl

theorem recorded_insert {rows : List ManifestRow} {history : List Event} {index : ℕ}
    {role : Role} {catalog recorded : Catalog} (hrecorded : Recorded rows history catalog)
    {row : ManifestRow} (hmanifests : recorded.manifests = catalog.manifests ++ [row])
    (hvacant : row.snapshotId ∉ catalog.manifests.map ManifestRow.snapshotId) :
    Recorded rows (history ++ [.inserted index role row]) recorded := by
  constructor
  · rw [hmanifests, hrecorded.1, List.filterMap_append, List.append_assoc]
    rfl
  · rw [hmanifests, List.map_append, List.nodup_append]
    refine ⟨hrecorded.2, List.nodup_singleton _, ?_⟩
    rintro first hfirst _ hsecond rfl
    rw [List.map_singleton, List.mem_singleton] at hsecond
    exact hvacant (hsecond ▸ hfirst)

variable [ContentAddressing] [Calendar] {rows : List ManifestRow} {history : List Event}
  {index : ℕ} {role : Role} {catalog : Catalog} {manifest : SnapshotManifest}

/-- The operation, if it exists, is in a phase that publishes in the role. -/
def Playing (role : Role) (authority : Authority) (index : ℕ) : Prop :=
  ∀ operation, authority.operations[index]? = some operation → roleOf operation.phase = role

/-- Between two effects of a publication only the authority changes. -/
abbrev Publishing (catalog : Catalog) (history : List Event) (index : ℕ)
    (condition : Operation → Prop) (world : ResearchWorld) : Prop :=
  Within (· = catalog) history world ∧ At world.authority index condition

theorem bindOperation_meets :
    Meets
      (fun world => Within (· = catalog) history world ∧ Playing role world.authority index)
      (bindOperation index manifest)
      (fun _ => Publishing catalog history index fun operation => operation.phase = role.attempt)
      (Within (· = catalog) history) := by
  have hexpected : Meets
      (fun world => Within (· = catalog) history world ∧ Playing role world.authority index)
      (demand index (fun operation => operation.Expects manifest)
        "Private publication differs from its exact operation.")
      (fun _ => Publishing catalog history index fun operation => operation.phase = role.attempt)
      (Within (· = catalog) history) := by
    refine demand_meets.weaken (fun _ => id) ?_ fun _ hbefore => hbefore.1
    rintro _ world ⟨⟨hwithin, hplaying⟩, operation, hget, hexpects⟩
    exact ⟨hwithin, operation, hget, hplaying operation hget ▸ attempt_of_expects hexpects⟩
  refine Meets.bind (recheck_meets.stopsIn fun _ hbefore => hbefore.1) fun _ => ?_
  refine Meets.bind hexpected fun _ => ?_
  refine Meets.bind (demandAgain_meets) fun _ => ?_
  exact update_meets (fun _ _ => alike_of_kept (fun hkept => hkept.same rfl rfl) rfl rfl rfl)
    fun _ hat => hat.1

/-- The catalog and the authority are as they were. -/
def Unmoved (origin world : ResearchWorld) : Prop :=
  world.catalog = origin.catalog ∧ world.authority = origin.authority

/-- Installing and verifying objects leaves the authority alone. -/
theorem unmoved_meets {α : Type} {call : ResearchCall α} {condition : Operation → Prop}
    (hcall : ∀ origin, Meets (Untouched origin) call (fun _ => Unmoved origin) (Unmoved origin)) :
    Meets (Publishing catalog history index condition) call
      (fun _ => Publishing catalog history index condition)
      (Publishing catalog history index condition) := by
  have horigin (origin : ResearchWorld) :
      Meets (fun world => world = origin) call (fun _ => Unmoved origin) (Unmoved origin) := by
    refine (hcall origin).weaken ?_ (fun _ _ => id) fun _ => id
    rintro world rfl
    exact Untouched.refl world
  refine Meets.along horigin ?_
  rintro origin world ⟨⟨hcatalog, hstanding⟩, hat⟩ ⟨hsame, hauthority⟩
  rw [← hauthority] at hstanding hat
  exact ⟨⟨hsame.trans hcatalog, hstanding⟩, hat⟩

theorem publishObject_within {condition : Operation → Prop} {content : Content}
    {record : ArtifactMetadata} (nonce : String) (hdescribes : Describes record content) :
    Meets (Publishing catalog history index condition) (publishObject content record nonce)
      (fun _ => Publishing catalog history index condition)
      (Publishing catalog history index condition) :=
  unmoved_meets fun _ => (publishObject_meets nonce hdescribes).weaken (fun _ => id)
    (fun _ _ hplaced => ⟨hplaced.1.1, hplaced.1.2.1⟩) fun _ hplaced => ⟨hplaced.1, hplaced.2.1⟩

theorem verifyArtifact_within {condition : Operation → Prop} (digest : Digest) :
    Meets (Publishing catalog history index condition) (verifyArtifact digest)
      (fun _ => Publishing catalog history index condition)
      (Publishing catalog history index condition) :=
  unmoved_meets fun _ => (verifyArtifact_meets digest).weaken (fun _ => id)
    (fun _ _ hsame => ⟨hsame.1.1, hsame.1.2.1⟩) fun _ hsame => ⟨hsame.1, hsame.2.1⟩

theorem confirmAuthority_within {condition : Operation → Prop} :
    Meets (Publishing catalog history index condition)
      (confirmAuthority manifest (some (authorityOf index)))
      (fun _ => Publishing catalog history index condition)
      (Publishing catalog history index condition) := by
  refine Meets.bind (Meets.each fun reference _ =>
    Meets.bind (verifyArtifact_within reference.digest) fun _ => Meets.keep ()) fun _ => ?_
  refine Meets.bind (Meets.pass fun _ => id) fun _ => ?_
  refine Meets.bind recheck_meets fun _ => ?_
  refine Meets.bind (operationAt_meets.weaken (fun _ => id) (fun _ _ hbefore => hbefore.1)
    fun _ => id) fun operation => ?_
  have hopen : Meets (Publishing catalog history index condition) (ensureSelectionOpen operation)
      (fun _ => Publishing catalog history index condition)
      (Publishing catalog history index condition) := by
    unfold ensureSelectionOpen
    split
    · exact Meets.pass fun _ => id
    · exact Meets.keep ()
  exact Meets.bind hopen fun _ => recheck_meets

/-- The operation may insert the row of the manifest. -/
def Authorized (role : Role) (manifest : SnapshotManifest) (operation : Operation) : Prop :=
  Inserting role operation ∧ manifest.matchweekId.text = operation.matchweekId ∧
    manifest.snapshotId = slotOf operation.matchweekId role

/-- An authorized insertion is the first of its role, in a free slot. -/
theorem authorizeInsertion_meets (stored : Catalog) :
    Meets
      (Publishing catalog history index fun operation => operation.phase = role.attempt)
      (authorizeInsertion index stored manifest)
      (fun _ world => Publishing catalog history index (Authorized role manifest) world ∧
        inserted index role history = 0 ∧ ¬ Occupied stored manifest.snapshotId)
      (Within (· = catalog) history) := by
  have hvacant (world : ResearchWorld)
      (hbefore : Publishing catalog history index
        (fun operation => operation.phase = role.attempt ∧ operation.MayInsert manifest) world) :
      Publishing catalog history index
        (fun operation => operation.phase = role.attempt ∧ operation.MayInsert manifest) world ∧
        inserted index role history = 0 := by
    obtain ⟨operation, hget, hphase, hmay⟩ := hbefore.2
    exact ⟨hbefore, (hbefore.1.2.operations index operation hget).vacant hphase hmay.1⟩
  have hauthorize : Meets
      (Publishing catalog history index fun operation =>
        operation.phase = role.attempt ∧ operation.MayInsert manifest)
      (update index fun operation => { operation with inserted := true })
      (fun _ => Publishing catalog history index (Authorized role manifest))
      (Within (· = catalog) history) := by
    refine update_meets (fun operation hat => alike_of_kept
      (fun hkept => hkept.authorize hat.1 ⟨hat.1, rfl⟩) rfl rfl rfl) ?_
    rintro operation ⟨hphase, -, -, hmatchweek, hslot⟩
    exact ⟨⟨hphase, rfl⟩, hmatchweek, hslot.trans (slot_of_attempt hphase)⟩
  refine Meets.bind (recheck_meets.stopsIn fun _ hbefore => hbefore.1) fun _ => ?_
  refine Meets.bind (demandAgain_meets.weaken (fun _ => id) (fun _ => hvacant) fun _ => id)
    fun _ => Meets.given fun hnone => ?_
  refine Meets.bind hauthorize fun _ => ?_
  refine Meets.bind (operationAt_meets.weaken (fun _ => id) (fun _ _ hbefore => hbefore.1)
    fun _ hbefore => hbefore.1) fun operation => ?_
  have hcurrent : Meets (Publishing catalog history index (Authorized role manifest))
      (requireCurrent operation)
      (fun _ => Publishing catalog history index (Authorized role manifest))
      (Within (· = catalog) history) := by
    unfold requireCurrent
    split
    · split
      · exact Meets.raise fun _ hbefore => hbefore.1
      · exact Meets.pass fun _ hbefore => hbefore.1
    · exact Meets.keep ()
  refine Meets.bind hcurrent fun _ => ?_
  refine Meets.bind (Meets.checked fun _ hbefore => hbefore.1) fun _ => ?_
  exact Meets.lift (fun _ hfree _ hbefore => ⟨hbefore, hnone, require_ok_iff.mp hfree⟩)
    fun _ hbefore => hbefore.1

/-- What a publication leaves: nothing, or its one row with its event. -/
def Outcome (rows : List ManifestRow) (history : List Event) (publishing : Option (ℕ × Role))
    (world : ResearchWorld) : Prop :=
  Within (Recorded rows history) history world ∨
    ∃ index role row, publishing = some (index, role) ∧
      Within (Recorded rows (history ++ [.inserted index role row]))
        (history ++ [.inserted index role row]) world

/-- The operation after its insertion, with the event of the insertion. -/
abbrev Inserted (rows : List ManifestRow) (history : List Event) (index : ℕ) (role : Role)
    (row : ManifestRow) (world : ResearchWorld) : Prop :=
  (Within (Recorded rows (history ++ [.inserted index role row]))
    (history ++ [.inserted index role row]) world ∧
    At world.authority index (Inserting role)) ∧
    inserted index role (history ++ [.inserted index role row]) = 1

theorem commitStarted_meets (nonce : String) (hrecorded : Recorded rows history catalog) :
    Meets
      (fun world => Within (· = catalog) history world ∧ Playing role world.authority index)
      (commitVerified (some (authorityOf index)) manifest nonce)
      (fun _ => Inserted rows history index role (row manifest))
      (Within (· = catalog) history) := by
  have hdescribes : Describes (manifestRecord manifest) manifest.toBytes := ⟨rfl, rfl⟩
  refine Meets.bind bindOperation_meets fun _ => ?_
  refine Meets.bind ((publishObject_within nonce hdescribes).stopsIn
    fun _ hbefore => hbefore.1) fun _ => ?_
  refine Meets.bind (confirmAuthority_within.stopsIn fun _ hbefore => hbefore.1) fun _ => ?_
  refine Meets.bind (begin_meets fun _ hbefore => hbefore.1) fun started => ?_
  have hstarted (world : ResearchWorld)
      (hbefore : Publishing catalog history index
        (fun operation => operation.phase = role.attempt) world ∧ started = world.catalog) :
      Publishing catalog history index
        (fun operation => operation.phase = role.attempt) world ∧ started = catalog :=
    ⟨hbefore.1, hbefore.2.trans hbefore.1.1.1⟩
  suffices hcall : Meets
      (fun world => Publishing catalog history index
        (fun operation => operation.phase = role.attempt) world ∧ started = catalog) _ _ _ from
    hcall.weaken hstarted (fun _ _ => id) fun _ => id
  refine Meets.given fun hcatalog => ?_
  subst hcatalog
  refine Meets.bind (inTransaction_meets fun _ hbefore => hbefore.1) fun stored =>
    Meets.given fun hobject => ?_
  refine Meets.bind (authorizeInsertion_meets stored) fun _ => Meets.given fun hfree => ?_
  refine Meets.bind (inTransaction_meets fun _ hbefore => hbefore.1) fun recorded =>
    Meets.given fun hmembership => ?_
  refine Meets.bind (commit_meets ?_ fun _ hbefore => hbefore.1) fun _ => Meets.keep _
  rintro world ⟨⟨-, hstanding⟩, hat⟩
  have hmanifests := Catalog.recordMembership_manifests hfree.2 hmembership
  rw [Occupied, Catalog.recordManifestObject_manifests hobject] at hfree
  rw [Catalog.recordManifestObject_manifests hobject] at hmanifests
  refine ⟨⟨⟨recorded_insert hrecorded hmanifests hfree.2, ?_⟩, hat.imp fun _ => And.left⟩, ?_⟩
  · exact hstanding.insert (hat.imp fun _ hauthorized => ⟨hauthorized.1, hauthorized.2⟩) hfree.1
  · rw [inserted_append_inserted, hfree.1, if_pos ⟨rfl, rfl⟩]

theorem committed_meets {row : ManifestRow} (digest : Digest) :
    Meets (Inserted rows history index role row) (committed index digest)
      (fun _ => Outcome rows history (some (index, role)))
      (Outcome rows history (some (index, role))) := by
  have houtcome (world : ResearchWorld)
      (hwithin : Within (Recorded rows (history ++ [.inserted index role row]))
        (history ++ [.inserted index role row]) world) :
      Outcome rows history (some (index, role)) world :=
    Or.inr ⟨index, role, row, rfl, hwithin⟩
  refine Meets.given fun hinserted => ?_
  refine Meets.bind (recheck_meets.stopsIn fun _ hbefore => houtcome _ hbefore.1) fun _ => ?_
  refine Meets.bind (demand_meets.weaken (fun _ => id) (fun _ _ hbefore => hbefore.1)
    fun _ hbefore => houtcome _ hbefore.1) fun _ => ?_
  refine Meets.bind (demand_meets.weaken (fun _ => id) (fun _ _ hbefore => hbefore.1)
    fun _ hbefore => houtcome _ hbefore.1) fun _ => ?_
  refine Meets.assign fun world hbefore => houtcome _ ⟨hbefore.1.1, hbefore.1.2.update hbefore.2
    fun operation hinserting => alike_of_kept
      (fun hkept => hkept.confirm hinserting hinserted digest) ?_ ?_ ?_⟩
  all_goals
    unfold Operation.confirmed
    split
    · rfl
    · rfl

theorem publishStarted_meets (now : UtcTime) (nonce : String) :
    Meets
      (fun world => Within (Recorded rows history) history world ∧
        Playing role world.authority index)
      (publishStarted index manifest now nonce)
      (fun _ => Outcome rows history (some (index, role)))
      (Outcome rows history (some (index, role))) := by
  refine Meets.fixing fun origin hbefore => ?_
  obtain ⟨⟨hrecorded, hstanding⟩, hplaying⟩ := hbefore
  have hsteady (world : ResearchWorld) (hsame : Untouched origin world) :
      Within (· = origin.catalog) history world ∧ Playing role world.authority index := by
    obtain ⟨hcatalog, hauthority, -⟩ := hsame
    rw [← hauthority] at hstanding hplaying
    exact ⟨⟨hcatalog, hstanding⟩, hplaying⟩
  have hunchanged (world : ResearchWorld) (hwithin : Within (· = origin.catalog) history world) :
      Outcome rows history (some (index, role)) world :=
    Or.inl ⟨hwithin.1 ▸ hrecorded, hwithin.2⟩
  have hcommit : Meets (Untouched origin)
      (commitManifest (some (authorityOf index)) ⟨manifest, none, now, nonce⟩)
      (fun _ world => ∃ row, Inserted rows history index role row world)
      (Within (· = origin.catalog) history) := by
    refine commitManifest_meets (fun world hsame => (hsteady world hsame).1)
      fun published hdecides => ?_
    rw [hdecides.1 rfl]
    refine Meets.bind (Meets.computed fun world hsame => (hsteady world hsame).1) fun time =>
      Meets.given fun _ => ?_
    exact (commitStarted_meets nonce hrecorded).weaken hsteady
      (fun _ _ hinserted => ⟨_, hinserted⟩) fun _ => id
  have hpublish : Meets (Untouched origin)
      (publishManifestWith (some (authorityOf index)) ⟨manifest, none, now, nonce⟩)
      (fun _ => Outcome rows history (some (index, role)))
      (Outcome rows history (some (index, role))) := by
    refine Meets.bind (hcommit.stopsIn hunchanged) fun digest => ?_
    refine Meets.bind (Meets.exists fun row => committed_meets digest) fun _ => ?_
    exact Meets.observe fun _ => id
  refine (Meets.bind hpublish fun _ => Meets.keep ()).weaken ?_ (fun _ _ => id) fun _ => id
  rintro world rfl
  exact Untouched.refl world

theorem publishResearchManifest_meets (text : String) (now : UtcTime) (nonce : String) :
    Meets (Within (Recorded rows history) history)
      (publishResearchManifest index text manifest now nonce)
      (fun _ => Outcome rows history ((Role.ofText? text).map fun role => (index, role)))
      (Outcome rows history ((Role.ofText? text).map fun role => (index, role))) := by
  refine Meets.bind ((start_meets text).stopsIn fun _ => Or.inl) fun _ => ?_
  cases hrole : Role.ofText? text with
  | none =>
      intro fates clock world hbefore
      obtain ⟨-, role, hsome, -⟩ := hbefore
      cases hsome
  | some role =>
      refine (publishStarted_meets now nonce).weaken ?_ (fun _ _ => id) fun _ => id
      rintro world ⟨hwithin, found, hfound, operation, hget, hphase⟩
      cases hfound
      refine ⟨hwithin, fun other hother => ?_⟩
      rw [hget, Option.some.injEq] at hother
      rw [← hother, hphase]
      cases role with
      | selection => rfl
      | receipt => rfl

end Publications

/-! ## Runs -/

section Runs

theorem recorded_note {rows : List ManifestRow} {history : List Event} {catalog : Catalog}
    (hrecorded : Recorded rows history catalog) {events : List Event}
    (hrows : events.filterMap Event.row? = []) : Recorded rows (history ++ events) catalog := by
  refine ⟨?_, hrecorded.2⟩
  rw [List.filterMap_append, hrows, List.append_nil]
  exact hrecorded.1

theorem newlyRevoked_revoked {before after : ResearchWorld} :
    ∀ event ∈ newlyRevoked before after, ∃ index, event = .revoked index ∧
      phaseAt after index = .revoked := by
  intro event hmem
  obtain ⟨index, hindex, rfl⟩ := List.mem_map.mp hmem
  have hfilter := (List.mem_filter.mp hindex).2
  simp only [Bool.and_eq_true, decide_eq_true_eq] at hfilter
  exact ⟨index, rfl, hfilter.1⟩

theorem confirmation_rows (request : Request) (origin : ResearchWorld) :
    (request.confirmation origin).filterMap Event.row? = [] := by
  cases request with
  | acceptWitness index attempt event now =>
      rw [Request.confirmation]
      cases origin.authority.operations[index]?.bind Operation.causalGraph with
      | none => rfl
      | some graph => rfl
  | _ => rfl

variable [ContentAddressing] [Calendar] {rows : List ManifestRow} {history : List Event}
  {profileDigest : Digest}

/-- The events say what is in the catalog and how the operations are. -/
abbrev Kept (rows : List ManifestRow) (history : List Event) : ResearchWorld → Prop :=
  Within (Recorded rows history) history

theorem Outcome.kept {publishing : Option (ℕ × Role)} {before after : ResearchWorld}
    (hbefore : Kept rows history before) (houtcome : Outcome rows history publishing after) :
    Kept rows (history ++ insertions before after publishing) after := by
  rcases houtcome with hsame | ⟨index, role, row, rfl, hinserted⟩
  · have hnone : newRows before after = [] := by
      rw [newRows, hsame.1.1, hbefore.1.1]
      exact List.drop_length
    have hinsertions : insertions before after publishing = [] := by
      cases publishing with
      | none => rfl
      | some pair => rw [insertions, hnone, List.map_nil]
    rw [hinsertions, List.append_nil]
    exact hsame
  · have hrow : newRows before after = [row] := by
      rw [newRows, hinserted.1.1, hbefore.1.1, List.filterMap_append, ← List.append_assoc]
      exact List.drop_left
    rw [insertions, hrow, List.map_singleton]
    exact hinserted

/-- A request that publishes. -/
theorem tells_of_outcome {request : Request} {origin : ResearchWorld}
    (hkept : Kept rows history origin) (hsilent : request.confirmation origin = [])
    (hcall : Meets (fun world => world = origin) (request.call profileDigest)
      (fun _ => Outcome rows history (request.role? origin))
      (Outcome rows history (request.role? origin))) :
    Meets (fun world => world = origin) (request.call profileDigest)
      (fun _ world => Kept rows (history ++ insertions origin world (request.role? origin) ++
        request.confirmation origin) world)
      (fun world => Kept rows (history ++ insertions origin world (request.role? origin)) world) := by
  rw [hsilent]
  refine hcall.weaken (fun _ => id) (fun _ world houtcome => ?_) fun _ => Outcome.kept hkept
  rw [List.append_nil]
  exact houtcome.kept hkept

/-- A request that does not publish. -/
theorem tells_of_silent {request : Request} {origin : ResearchWorld}
    (hrole : request.role? origin = none)
    (hcall : Meets (fun world => world = origin) (request.call profileDigest)
      (fun _ => Within (Recorded rows history) (history ++ request.confirmation origin))
      (Kept rows history)) :
    Meets (fun world => world = origin) (request.call profileDigest)
      (fun _ world => Kept rows (history ++ insertions origin world (request.role? origin) ++
        request.confirmation origin) world)
      (fun world => Kept rows (history ++ insertions origin world (request.role? origin)) world) := by
  rw [hrole]
  refine hcall.weaken (fun _ => id) (fun _ world hwithin => ?_) fun world hwithin => ?_
  · rw [insertions, List.append_nil]
    exact ⟨recorded_note hwithin.1 (confirmation_rows request origin), hwithin.2⟩
  · rw [insertions, List.append_nil]
    exact hwithin

/-- What is seen of a request agrees with what it did. -/
theorem request_meets (request : Request) {origin : ResearchWorld}
    (hkept : Kept rows history origin) :
    Meets (fun world => world = origin) (request.call profileDigest)
      (fun _ world => Kept rows (history ++ insertions origin world (request.role? origin) ++
        request.confirmation origin) world)
      (fun world => Kept rows (history ++ insertions origin world (request.role? origin)) world) := by
  have horigin (world : ResearchWorld) (hsame : world = origin) : Kept rows history world :=
    hsame ▸ hkept
  have hsilent {call : ResearchCall Unit}
      (hcall : Meets (Kept rows history) call (fun _ => Kept rows history) (Kept rows history)) :
      Meets (fun world => world = origin) call
        (fun _ => Within (Recorded rows history) (history ++ [])) (Kept rows history) := by
    rw [List.append_nil]
    exact hcall.weaken horigin (fun _ _ => id) fun _ => id
  cases request with
  | openOperation matchweekId =>
      exact tells_of_silent rfl (hsilent (openOperation_meets matchweekId))
  | publish index role manifest now nonce =>
      exact tells_of_outcome hkept rfl ((publishResearchManifest_meets role now nonce).weaken
        horigin (fun _ _ => id) fun _ => id)
  | start index role =>
      exact tells_of_silent rfl (hsilent ((start_meets role).weaken (fun _ => id)
        (fun _ _ hbefore => hbefore.1) fun _ => id))
  | publishStarted index manifest now nonce =>
      refine tells_of_outcome hkept rfl ((publishStarted_meets now nonce).weaken ?_
        (fun _ _ => id) fun _ => id)
      rintro world rfl
      refine ⟨hkept, fun operation hget => ?_⟩
      rw [phaseAt, hget]
      rfl
  | configureCausal index graph approval bundle =>
      exact tells_of_silent rfl (hsilent (configureCausal_meets graph approval bundle))
  | beginWitness index graph approval bundle entropy =>
      exact tells_of_silent rfl (hsilent (Meets.bind
        (beginWitness_meets graph approval bundle entropy) fun _ => Meets.keep ()))
  | obtain attempt answer =>
      exact tells_of_silent rfl (hsilent (obtain_meets attempt answer))
  | post attempt chunks =>
      exact tells_of_silent rfl (hsilent (post_meets attempt chunks))
  | acceptWitness index attempt event now =>
      refine tells_of_silent rfl ((acceptWitness_meets profileDigest attempt event now
        (origin.authority.operations[index]?.bind Operation.causalGraph)).weaken ?_
        (fun _ _ => id) fun _ => id)
      rintro world rfl
      exact ⟨hkept, rfl⟩
  | acknowledge index upper cutoff =>
      exact tells_of_silent rfl ((acknowledge_meets upper cutoff).weaken horigin
        (fun _ _ => id) fun _ => id)
  | revoke index => exact tells_of_silent rfl (hsilent revoke_meets)

theorem note_revocations {world : ResearchWorld} {events : List Event}
    (hkept : Kept rows history world)
    (hrevoked : ∀ event ∈ events, ∃ index, event = .revoked index ∧
      phaseAt world index = .revoked) :
    Kept rows (history ++ events) world := by
  induction events generalizing history with
  | nil => rwa [List.append_nil]
  | cons event rest ih =>
      obtain ⟨⟨index, rfl, hphase⟩, hrest⟩ := List.forall_mem_cons.mp hrevoked
      have hat : At world.authority index fun operation => operation.phase = .revoked := by
        rw [phaseAt] at hphase
        cases hget : world.authority.operations[index]? with
        | none =>
            rw [hget] at hphase
            cases hphase
        | some operation =>
            rw [hget] at hphase
            exact ⟨operation, hget, hphase⟩
      rw [List.append_cons]
      refine ih ⟨recorded_note hkept.1 rfl, hkept.2.note rfl (hat.imp ?_)⟩ hrest
      intro operation hrevoked
      exact ⟨trivial, by rw [hrevoked]; nofun, fun _ => hrevoked⟩

/-- A step keeps what the events say, whatever happens at its effects. -/
theorem step_kept {state : List Event × ResearchWorld} (step : Step)
    (hkept : Kept rows state.1 state.2) :
    Kept rows (Step.run profileDigest state step).1 (Step.run profileDigest state step).2 := by
  have hmeets : Meets (fun world => world = state.2) (step.request.call profileDigest) _ _ :=
    request_meets step.request hkept
  obtain ⟨hreturn, hstop⟩ := hmeets step.fates 0 state.2 rfl
  unfold Step.run
  rcases hcall : step.request.call profileDigest step.fates 0 state.2 with ⟨next, later, stop | _⟩
  · have hnext := hstop next later stop hcall
    change Kept rows (state.1 ++ observe state.2 next false step.request) next
    rw [observe, if_neg nofun, List.append_nil, ← List.append_assoc]
    exact note_revocations hnext newlyRevoked_revoked
  · have hnext := hreturn next later _ hcall
    change Kept rows (state.1 ++ observe state.2 next true step.request) next
    rw [observe, if_pos rfl, ← List.append_assoc, ← List.append_assoc]
    exact note_revocations hnext newlyRevoked_revoked

/-- Every revoked operation has its event. -/
def RevocationsTold (state : List Event × ResearchWorld) : Prop :=
  ∀ index, phaseAt state.2 index = .revoked → .revoked index ∈ state.1

theorem step_revocationsTold {state : List Event × ResearchWorld} (step : Step)
    (htold : RevocationsTold state) : RevocationsTold (Step.run profileDigest state step) := by
  intro index hphase
  unfold Step.run observe at hphase ⊢
  dsimp only at hphase ⊢
  by_cases hbefore : phaseAt state.2 index = .revoked
  · exact List.mem_append_left _ (htold index hbefore)
  · refine List.mem_append_right _ (List.mem_append_right _ (List.mem_map_of_mem ?_))
    refine List.mem_filter.mpr ⟨List.mem_range.mpr ?_, by simp [hphase, hbefore]⟩
    by_contra hlength
    rw [phaseAt, List.getElem?_eq_none (Nat.le_of_not_lt hlength)] at hphase
    cases hphase

theorem run_kept {start : ResearchWorld} (steps : List Step) (hkept : Kept rows [] start) :
    Kept rows (run profileDigest start steps).1 (run profileDigest start steps).2 := by
  unfold run
  induction steps using List.reverseRecOn with
  | nil => exact hkept
  | append_singleton steps step ih =>
      rw [List.foldl_append]
      exact step_kept step ih

theorem run_revocationsTold {start : ResearchWorld} (steps : List Step)
    (htold : RevocationsTold ([], start)) : RevocationsTold (run profileDigest start steps) := by
  unfold run
  induction steps using List.reverseRecOn with
  | nil => exact htold
  | append_singleton steps step ih =>
      rw [List.foldl_append]
      exact step_revocationsTold step ih

/-- Authority is used once: what the events of a run say about its end and in their order. -/
structure UsedOnce (start : ResearchWorld) (final : List Event × ResearchWorld) : Prop where
  rows : final.2.catalog.manifests = start.catalog.manifests ++ final.1.filterMap Event.row?
  selectionOnce : ∀ index, inserted index .selection final.1 ≤ 1
  receiptOnce : ∀ index, inserted index .receipt final.1 ≤ 1
  receiptLast : ∀ before after index row,
    final.1 = before ++ .inserted index .receipt row :: after →
      inserted index .selection before = 1 ∧ Confirmed index before
  accepted : ∀ index attempt event graph, .accepted index attempt event graph ∈ final.1 →
    At final.2.authority index fun operation => operation.attempt = some attempt ∧
      operation.causalGraph = some graph
  requestOnce : ∀ index, final.2.authority.dispatched.count index ≤ 1
  revokedLast : ∀ before after index role row,
    final.1 = before ++ .inserted index role row :: after → .revoked index ∉ before
  revoked : ∀ index, phaseAt final.2 index = .revoked → .revoked index ∈ final.1
  slots : ∀ index role row, .inserted index role row ∈ final.1 →
    At final.2.authority index fun operation => row.matchweekId.text = operation.matchweekId ∧
      row.snapshotId = slotOf operation.matchweekId role
  matchweekOnce : ∀ matchweekId role,
    (final.2.catalog.manifests.map ManifestRow.snapshotId).count (slotOf matchweekId role) ≤ 1

theorem Kept.inserted_le_one {world : ResearchWorld} (hkept : Kept rows history world)
    (index : ℕ) (role : Role) : inserted index role history ≤ 1 := by
  cases hget : world.authority.operations[index]? with
  | some operation =>
      have hoperation := hkept.2.operations index operation hget
      cases role with
      | selection => exact hoperation.selectionOnce
      | receipt => exact hoperation.receiptOnce
  | none =>
      refine (inserted_eq_zero role fun event hmem hindex => ?_).trans_le (Nat.zero_le 1)
      obtain ⟨operation, hsome, -⟩ := hkept.2.suits event hmem
      rw [hindex, hget] at hsome
      cases hsome

/-- No order of calls and no failure lets an operation use its authority twice. -/
theorem run_usedOnce {start : ResearchWorld} (steps : List Step)
    (hauthority : start.authority = ⟨none, [], [], []⟩)
    (hsnapshots : (start.catalog.manifests.map ManifestRow.snapshotId).Nodup) :
    UsedOnce start (run profileDigest start steps) := by
  have hoperations (index : ℕ) : start.authority.operations[index]? = none := by
    rw [hauthority]
    rfl
  have hattempts (index : ℕ) : start.authority.attempts[index]? = none := by
    rw [hauthority]
    rfl
  have hdispatched (index : ℕ) : start.authority.dispatched.count index = 0 := by
    rw [hauthority]
    rfl
  have hstart : Kept start.catalog.manifests [] start := by
    refine ⟨⟨by rw [List.filterMap_nil, List.append_nil], hsnapshots⟩, ?_, ?_, ?_, ?_⟩
    · intro before after index role row hsplit
      cases before with
      | nil => cases hsplit
      | cons event rest => cases hsplit
    · intro index operation hget
      rw [hoperations] at hget
      cases hget
    · intro event hmem
      cases hmem
    · constructor
      · intro index state hget
        rw [hattempts] at hget
        cases hget
      · intro index operation number hget
        rw [hoperations] at hget
        cases hget
      · exact fun index _ _ _ => hdispatched index
      · exact fun _ state _ _ => hdispatched state.operation
      · exact fun index => (hdispatched index).trans_le (Nat.zero_le 1)
      · exact fun index _ => hdispatched index
  have hnone : RevocationsTold ([], start) := by
    intro index hphase
    rw [phaseAt, hoperations] at hphase
    cases hphase
  have hkept : Kept _ (run profileDigest start steps).1 (run profileDigest start steps).2 :=
    run_kept steps hstart
  exact
    { rows := hkept.1.1
      selectionOnce := fun index => hkept.inserted_le_one index .selection
      receiptOnce := fun index => hkept.inserted_le_one index .receipt
      receiptLast := fun before after index row hsplit =>
        (hkept.2.ordered before after index .receipt row hsplit).2 rfl
      accepted := fun _ _ _ _ hmem => hkept.2.suits _ hmem
      requestOnce := hkept.2.transport.once
      revokedLast := fun before after index role row hsplit =>
        (hkept.2.ordered before after index role row hsplit).1
      revoked := run_revocationsTold steps hnone
      slots := fun _ _ _ hmem => hkept.2.suits _ hmem
      matchweekOnce := fun _ _ => List.nodup_iff_count_le_one.mp hkept.1.2 _ }

end Runs

/-! ## A selection that is published once -/

namespace Rehearsal

theorem canonicalUuid_two :
    Foundation.Identifier.canonicalUuid "00000000-0000-0000-0000-000000000002" = true := by
  decide +kernel

/-- Identifiers that tell the slots apart. -/
@[reducible]
def slotAddressing : ContentAddressing where
  digestOf
    | .json _ => ⟨String.ofList (List.replicate 64 '1'), Foundation.Identifier.isDigest_ones⟩
    | .bytes _ => ⟨String.ofList (List.replicate 64 '0'), Foundation.Identifier.isDigest_zeros⟩
  lengthOf
    | .json _ => 2
    | .bytes octets => octets.length
  urlUuid name :=
    match name.toList[28]? with
    | some 's' => ⟨"00000000-0000-0000-0000-000000000001", Foundation.Identifier.canonicalUuid_one⟩
    | some 'c' => ⟨"00000000-0000-0000-0000-000000000002", canonicalUuid_two⟩
    | _ => ⟨"00000000-0000-0000-0000-000000000000", Foundation.Identifier.canonicalUuid_zero⟩

local instance : ContentAddressing := slotAddressing

local instance : Calendar := gregorianCalendar

def week : Uuid := ⟨"00000000-0000-0000-0000-000000000003", by decide +kernel⟩

def cutoffId : Uuid := ⟨"00000000-0000-0000-0000-000000000004", by decide +kernel⟩

def versionId : Uuid := ⟨"00000000-0000-0000-0000-000000000005", by decide +kernel⟩

def epoch : UtcTime := ⟨0, Foundation.Timestamp.inRange_zero⟩

def selection : SnapshotManifest where
  snapshotId := selectionSlot week.text
  matchweekId := week
  researchCutoffId := cutoffId
  versionManifestId := versionId
  researchCutoffUtc := epoch
  artifacts := []
  versions := []
  retentionOmissions := []
  missing := []
  createdAtUtc := epoch
  verifiedAtUtc := none
  parentSnapshotId := none
  artifacts_sorted := noTexts_sorted
  versions_sorted := noTexts_sorted
  omissions_sorted := noKeys_sorted
  missing_sorted := noTexts_sorted

def empty : ResearchWorld := ⟨[], [], ⟨[], [], [], [], [], []⟩, ⟨none, [], [], []⟩⟩

def publishSelection : Step :=
  ⟨.publish 0 "selection" selection epoch "1", fun _ => .proceed⟩

/-- The selection is published, the operation ends, and a second publication is refused. -/
def steps : List Step :=
  [⟨.openOperation week.text, fun _ => .proceed⟩, publishSelection,
    ⟨.revoke 0, fun _ => .proceed⟩, publishSelection]

def profile : Digest := ⟨String.ofList (List.replicate 64 '0'), Foundation.Identifier.isDigest_zeros⟩

example : (run profile empty steps).1.length = 2 := by decide +kernel

theorem run_usedOnce_selection : UsedOnce empty (run profile empty steps) :=
  run_usedOnce steps rfl List.nodup_nil

end Rehearsal

end MatchVet.Research.SingleUse
