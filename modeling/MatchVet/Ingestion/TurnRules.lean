import MatchVet.Ingestion.FetchRules

/-!
# Rules for the request loop

Conditions on the stages of a turn that each effect of the turn carries from one stage to
the next hold through every turn, and so through the whole loop.
-/

namespace MatchVet.Ingestion.TurnRules

open MatchVet.Foundation.CrashLogic
open MatchVet.Ingestion.Audit
open MatchVet.Ingestion.Downloader
open MatchVet.Ingestion.Fetch
open MatchVet.Ingestion.FetchRules
open MatchVet.Ingestion.Transport

variable {ω : Type} [Outside ω]

/-! ## Stages of a turn -/

/-- What holds while the loop goes on under the limits that were granted last, when the
budgets are checked, when the server has answered, when the body is complete, when the
source is returned, when the reading did not end, and where the fetch stops. -/
structure Conditions (ω : Type) where
  going : Limits → Progress → World ω → Prop
  ready : Limits → Progress → World ω → Prop
  answered : HttpResponse → Progress → World ω → Prop
  complete : Progress → World ω → Prop
  returned : DownloadedSource → World ω → Prop
  stuck : World ω → Prop
  stopped : World ω → Prop

/-- The offset is the size of the partial file. -/
def Fits (progress : Progress) (world : World ω) : Prop := world.partSize = progress.offset

/-- The variables that the conditions of the loop may tell apart are the same. -/
def Similar (progress next : Progress) : Prop :=
  next.currentUrl = progress.currentUrl ∧ next.visited = progress.visited ∧
    next.requestCount = progress.requestCount ∧ next.operationBytes = progress.operationBytes ∧
    next.retryCount = progress.retryCount ∧ next.trail.redirects = progress.trail.redirects

def Progress.counted (progress : Progress) (bytes : ℕ) : Progress :=
  { progress with operationBytes := progress.operationBytes + bytes }

def Progress.requested (progress : Progress) : Progress :=
  { progress with requestCount := progress.requestCount + 1 }

/-- How many retries and redirects a fetch has made. -/
def Progress.used (progress : Progress) : ℕ :=
  progress.retryCount + progress.trail.redirects.length

/-- The retries and redirects are within the policy. -/
def Ranked (fetching : Fetching) (progress : Progress) : Prop :=
  progress.retryCount ≤ fetching.downloader.policy.retryCount ∧
    progress.trail.redirects.length ≤ fetching.downloader.policy.redirectCount

variable {fetching : Fetching}

theorem attempted_similar {progress next : Progress} (hnext : Attempted progress next) :
    Similar progress next := by
  obtain ⟨attempt, rfl⟩ := hnext
  exact ⟨rfl, rfl, rfl, rfl, rfl, rfl⟩

theorem attempted_offset {progress next : Progress} (hnext : Attempted progress next) :
    next.offset = progress.offset := by
  obtain ⟨attempt, rfl⟩ := hnext
  rfl

theorem attempted_limits {progress next : Progress} (hnext : Attempted progress next) :
    next.limits = progress.limits := by
  obtain ⟨attempt, rfl⟩ := hnext
  rfl

theorem Ranked.similar {progress next : Progress} (hranked : Ranked fetching progress)
    (hsimilar : Similar progress next) : Ranked fetching next := by
  obtain ⟨-, -, -, -, hretries, hredirects⟩ := hsimilar
  rw [Ranked, hretries, hredirects]
  exact hranked

theorem Similar.used {progress next : Progress} (hsimilar : Similar progress next) :
    Progress.used next = Progress.used progress := by
  obtain ⟨-, -, -, -, hretries, hredirects⟩ := hsimilar
  rw [Progress.used, Progress.used, hretries, hredirects]

theorem fits_steady (progress : Progress) : Steady (Fits progress : World ω → Prop) :=
  steady_disk fun disk => (disk.part.getD []).length = progress.offset

theorem fits_pausing (progress : Progress) :
    Pausing fetching.downloader fetching.start (Fits progress : World ω → Prop) :=
  fun _ _ hfits _ => hfits

theorem pausing_and {downloader : Downloader} {start : ℚ} {first second : World ω → Prop}
    (hfirst : Pausing downloader start first) (hsecond : Pausing downloader start second) :
    Pausing downloader start fun world => first world ∧ second world :=
  fun world delay hboth hdelay =>
    ⟨hfirst world delay hboth.1 hdelay, hsecond world delay hboth.2 hdelay⟩

section Serving

variable [TransportServices]

/-- What the provenance of an admitted body says of it. -/
structure Describes (fetching : Fetching) (status : ℕ) (retrievedAt : String) (content : Content)
    (record : SourceTransportProvenance) : Prop where
  requestedUrl : record.requestedUrl = fetching.url
  responseStatus : record.responseStatus = some status
  contentDigest : record.contentDigest = some (sha256 content)
  contentByteCount : record.contentByteCount = content.length
  retrievedAtUtc : record.retrievedAtUtc = some retrievedAt

/-- Every effect of a turn carries the conditions on. -/
structure Carried (faults : Fate Leftover → Prop) (fetching : Fetching) (reads : ℕ)
    (c : Conditions ω) : Prop where
  going_steady : ∀ granted progress, Steady (c.going granted progress)
  ready_steady : ∀ granted progress, Steady (c.ready granted progress)
  answered_steady : ∀ response progress, Steady (c.answered response progress)
  complete_steady : ∀ progress, Steady (c.complete progress)
  stopped_steady : Steady c.stopped
  going_pausing : ∀ granted progress,
    Pausing fetching.downloader fetching.start (c.going granted progress)
  ready_pausing : ∀ granted progress,
    Pausing fetching.downloader fetching.start (c.ready granted progress)
  going_stopped : ∀ granted progress world, c.going granted progress world → c.stopped world
  ready_going : ∀ granted progress world, c.ready granted progress world →
    c.going granted progress world
  answered_going : ∀ response progress world, c.answered response progress world →
    c.going progress.limits progress world
  complete_stopped : ∀ progress world, c.complete progress world → c.stopped world
  going_similar : ∀ granted progress next world, c.going granted progress world →
    Similar progress next → c.going granted next world
  going_authorized : ∀ granted progress limits world, c.going granted progress world →
    c.going limits progress (world.record (.authorized limits))
  ready_similar : ∀ granted progress next world, c.ready granted progress world →
    Similar progress next → c.ready granted next world
  ready_authorized : ∀ granted progress limits world, c.ready granted progress world →
    c.ready limits progress (world.record (.authorized limits))
  complete_authorized : ∀ progress limits world, c.complete progress world →
    c.complete progress (world.record (.authorized limits))
  checked : ∀ progress world, c.going progress.limits progress world →
    spentBudget fetching.downloader progress.limits progress.requestCount progress.operationBytes
      world = none → c.ready progress.limits progress (world.record (.checked progress.limits))
  dispatched : ∀ progress world request startedAt response env,
    c.ready progress.limits progress world → Fits progress world →
    request.url = progress.currentUrl → request.headers = requestHeaders progress.offset →
    Outside.request request world.env = (.ok response, env) →
    c.answered response (Progress.requested progress) (world.sent request startedAt env)
  undispatched : ∀ progress world request startedAt error env,
    c.ready progress.limits progress world → request.url = progress.currentUrl →
    Outside.request request world.env = (.error error, env) →
    c.going progress.limits (Progress.requested progress) (world.sent request startedAt env)
  retried : ∀ granted progress world, c.going granted progress world →
    progress.retryCount < fetching.downloader.policy.retryCount →
    c.going granted { progress with retryCount := progress.retryCount + 1 } (world.record .retried)
  redirected : ∀ granted progress world target hop, c.going granted progress world →
    validUrl fetching.downloader.policy target = true → target ∉ progress.visited →
    progress.trail.redirects.length < fetching.downloader.policy.redirectCount →
    c.going granted { progress with
      trail := progress.trail.redirect hop, currentUrl := target,
      visited := progress.visited ++ [target] } (world.record (.redirected target))
  emptied : ∀ granted progress world, c.going granted progress world →
    c.going granted progress (world.store [])
  discarded : ∀ granted progress world, c.going granted progress world →
    c.stopped (world.withPart none)
  complete_discarded : ∀ progress world, c.complete progress world →
    c.stopped (world.withPart none)
  sampled : ∀ response progress deadline before,
    Ends faults (fun world => c.answered response progress world ∧ Fits progress world ∧
        world.networkBytes = before)
      (readResponseSample ⟨fetching, progress, response.status, deadline⟩)
      (fun sample world =>
        c.going progress.limits (Progress.counted progress sample.length) world ∧
          Fits progress world)
      (Stopping (fun _ world => c.going progress.limits
        (Progress.counted progress (world.networkBytes - before)) world ∧ Fits progress world)
        c.stopped)
  received : ∀ response progress deadline before,
    response.status = 200 ∨ response.status = 206 →
    Ends faults (fun world => c.answered response progress world ∧ Fits progress world ∧
        world.networkBytes = before)
      (receiveBody reads ⟨fetching, progress, response.status, deadline⟩
        (foldedHeaders response.headers))
      (fun outcome world => match outcome with
        | none => c.stuck world
        | some (received, _) => c.complete (Progress.counted progress received) world)
      (Stopping (fun error world => c.going progress.limits
        (Progress.counted progress (lostBytes (world.networkBytes - before) error)) world)
        c.stopped)
  admitted : ∀ progress status contentType retrievedAt content record,
    status = 200 ∨ status = 206 → Describes fetching status retrievedAt content record →
    Ends faults (fun world => c.complete progress world ∧ world.disk.part = some content)
      (admitContent fetching status contentType retrievedAt content progress.operationBytes record)
      (fun turn world => ∃ source, turn = .returned source ∧ c.returned source world)
      (fun _ => c.stopped)

/-- How the next turn begins. -/
def NextTurn (c : Conditions ω) (fetching : Fetching) (progress next : Progress)
    (world : World ω) : Prop :=
  c.going next.limits next world ∧ Fits next world ∧ Ranked fetching next ∧
    Progress.used next = Progress.used progress + 1

/-- How a turn ends when it does not stop. -/
def TurnEnd (c : Conditions ω) (fetching : Fetching) (progress : Progress) (world : World ω) :
    Option Turn → Prop
  | none => c.stuck world
  | some (.again next) => NextTurn c fetching progress next world
  | some (.returned source) => c.returned source world

variable {faults : Fate Leftover → Prop} {reads : ℕ}

section Turns

variable {c : Conditions ω} (hc : Carried faults fetching reads c)

include hc

theorem raises_going {granted : Limits} {progress : Progress} {extra : World ω → Prop} :
    Raises (fun world => c.going granted progress world ∧ extra world)
      fun _ => c.stopped :=
  fun _ world hworld => hc.going_stopped granted progress world hworld.1

/-- A retry keeps what does not depend on the log. -/
theorem retry_going {granted : Limits} {progress : Progress} {extra : World ω → Prop}
    (hextra : Steady extra) (hpause : Pausing fetching.downloader fetching.start extra)
    (hnote : ∀ world, extra world → extra (world.record .retried)) {transient : Bool}
    (hmay : mayRetry fetching progress transient = true) {classifies : Bool}
    {status : Option ℕ} {delay : Delay} :
    Ends faults (fun world => c.going granted progress world ∧ extra world)
      (retry fetching progress classifies status delay)
      (fun next world => (c.going granted next world ∧ extra world) ∧ Retried progress next)
      fun _ => c.stopped := by
  obtain ⟨-, hcount⟩ := Bool.and_eq_true_iff.mp hmay
  have hagain : Ends faults (fun world => c.going granted progress world ∧ extra world)
      (retry fetching progress classifies status delay)
      (fun next world => (c.going granted
        { progress with retryCount := progress.retryCount + 1 } world ∧ extra world) ∧
          Retried progress next) fun _ => c.stopped :=
    retry_ends ((hc.going_steady granted progress).and hextra) (raises_going hc)
      (fun world hworld => ⟨hc.retried granted progress world hworld.1
        (of_decide_eq_true hcount), hnote world hworld.2⟩)
      ((hc.going_steady granted _).and hextra) (pausing_and (hc.going_pausing granted _) hpause)
      (raises_going hc)
  refine hagain.to fun next world hnext => ?_
  obtain ⟨⟨hgoing, hextra⟩, seconds, rfl⟩ := hnext
  refine ⟨⟨hc.going_similar granted _ _ world hgoing ⟨rfl, rfl, rfl, rfl, rfl, rfl⟩, hextra⟩,
    seconds, rfl⟩

/-- The variables after a retry start the next turn where the offset fits. -/
theorem nextTurn_of_retried {granted : Limits} {progress next : Progress} {world : World ω}
    {transient : Bool} (hranked : Ranked fetching progress)
    (hmay : mayRetry fetching progress transient = true) (hnext : Retried progress next)
    (hgoing : c.going granted next world) (offset : ℕ) (hoffset : world.partSize = offset) :
    NextTurn c fetching progress { next with offset, limits := granted } world := by
  obtain ⟨-, hcount⟩ := Bool.and_eq_true_iff.mp hmay
  obtain ⟨seconds, rfl⟩ := hnext
  refine ⟨hc.going_similar _ _ _ _ hgoing ⟨rfl, rfl, rfl, rfl, rfl, rfl⟩, hoffset,
    ⟨of_decide_eq_true hcount, hranked.2⟩, ?_⟩
  exact Nat.add_right_comm _ 1 _

theorem retry_nextTurn {progress : Progress} (hranked : Ranked fetching progress)
    {transient : Bool} (hmay : mayRetry fetching progress transient = true) {classifies : Bool}
    {status : Option ℕ} {delay : Delay} :
    Ends faults (fun world => c.going progress.limits progress world ∧ Fits progress world)
      (retry fetching progress classifies status delay)
      (fun next => NextTurn c fetching progress next) fun _ => c.stopped := by
  refine (retry_going hc (fits_steady progress) (fits_pausing progress) (fun _ => id) hmay).to
    fun next world hnext => ?_
  obtain ⟨⟨hgoing, hfits⟩, hretried⟩ := hnext
  have hturn := nextTurn_of_retried hc hranked hmay hretried hgoing progress.offset hfits
  obtain ⟨seconds, rfl⟩ := hretried
  exact hturn

/-! ## Failures of a turn -/

/-- After an attempt the fetch retries or stops. -/
theorem retryOrStop_ends {origin progress tried : Progress} (hranked : Ranked fetching progress)
    (horigin : Progress.used progress = Progress.used origin) (htried : Attempted progress tried) {transient : Bool} {classifies : Bool}
    {status : Option ℕ} {delay : Delay} {message classification : String} :
    Ends faults (fun world => c.going progress.limits progress world ∧ Fits progress world)
      (if mayRetry fetching tried transient then do
          let next ← retry fetching tried classifies status delay
          Call.ret (Turn.again next)
        else unavailable fetching.url fetching.start tried.trail message classification status)
      (fun turn world => TurnEnd c fetching origin world (some turn)) fun _ => c.stopped := by
  refine Ends.branch (fun hmay => ?_) fun _ => ?_
  · refine Ends.bind ((retry_nextTurn hc (hranked.similar (attempted_similar htried)) hmay).from
      fun world hworld => ?_) fun next => Ends.ret fun world hnext => ?_
    · rw [attempted_limits htried, Fits, attempted_offset htried]
      exact ⟨hc.going_similar _ _ _ _ hworld.1 (attempted_similar htried), hworld.2⟩
    · obtain ⟨hgoing, hfits, hnextRanked, hused⟩ := hnext
      rw [(attempted_similar htried).used, horigin] at hused
      exact ⟨hgoing, hfits, hnextRanked, hused⟩
  · exact failure_ends ((hc.going_steady _ _).and (fits_steady _)) (raises_going hc)

theorem going_attempted {granted : Limits} {progress other : Progress} {extra : World ω → Prop}
    (hextra : Steady extra) {sending status classification bytesReceived digest retryAfter} :
    Ends faults (fun world => c.going granted progress world ∧ extra world)
      (attempted other sending status classification bytesReceived digest retryAfter)
      (fun next world => (c.going granted progress world ∧ extra world) ∧ Attempted other next)
      fun _ => c.stopped :=
  attempted_ends ((hc.going_steady _ _).and hextra) (raises_going hc)

theorem transportFailed_ends {progress : Progress} (hranked : Ranked fetching progress)
    {sending : Sending} {error : SourceError} :
    Ends faults (fun world => c.going progress.limits progress world ∧ Fits progress world)
      (transportFailed fetching progress sending error)
      (fun turn world => TurnEnd c fetching progress world (some turn)) fun _ => c.stopped :=
  Ends.bind (going_attempted hc (fits_steady _)) fun _ => Ends.given fun htried =>
    retryOrStop_ends hc hranked rfl htried

theorem answeredLate_ends {progress : Progress} (hranked : Ranked fetching progress)
    {sending : Sending} {status : ℕ} {headers : List (String × String)} :
    Ends faults (fun world => c.going progress.limits progress world ∧ Fits progress world)
      (answeredLate fetching progress sending status headers)
      (fun turn world => TurnEnd c fetching progress world (some turn)) fun _ => c.stopped :=
  Ends.bind (readRetryAfter_ends ((hc.going_steady _ _).and (fits_steady _)) (raises_going hc))
    fun _ => Ends.bind (going_attempted hc (fits_steady _)) fun _ => Ends.given fun htried =>
      retryOrStop_ends hc hranked rfl htried

/-- A refusal stops the fetch. -/
theorem refuseAttempt_ends {granted : Limits} {progress other : Progress} {extra : World ω → Prop}
    (hextra : Steady extra) {sending status bytesReceived digest message classification}
    {after : Turn → World ω → Prop} :
    Ends faults (fun world => c.going granted progress world ∧ extra world)
      (refuseAttempt fetching other sending status bytesReceived digest message classification)
      after fun _ => c.stopped :=
  Ends.bind (going_attempted hc hextra) fun _ => Ends.given fun _ =>
    failure_ends ((hc.going_steady _ _).and hextra) (raises_going hc)

/-! ## Redirects -/

/-- A redirect is followed to a target that may be contacted and was not visited. -/
theorem redirectDestination_ends {granted : Limits} {progress : Progress} {targetUrl : String}
    {limits : Limits} :
    Ends faults (fun world => c.going granted progress world ∧ True)
      (redirectDestination fetching progress targetUrl limits)
      (fun _ world => c.going granted progress world ∧
        validUrl fetching.downloader.policy targetUrl = true ∧ targetUrl ∉ progress.visited)
      (Stopping (fun _ world => c.going granted progress world) c.stopped) := by
  have hsteady : Steady fun world => c.going granted progress world ∧
      ∃ host, redirectHost fetching progress.currentUrl targetUrl = .ok host :=
    (hc.going_steady _ _).and (steady_const _)
  refine Ends.bind (lift_ends fun _ _ hworld => hworld.1) fun host => ?_
  refine (Ends.bind (resolveDestination_ends hsteady fun _ _ hworld => hworld.1)
    fun addresses => ?_).from fun world hworld => ⟨hworld.1.1, host, hworld.2⟩
  refine Ends.branch (fun _ => Ends.raise fun _ hworld => hworld.1) fun hvisited => ?_
  refine Ends.ret fun world hworld => ⟨hworld.1, ?_, hvisited⟩
  obtain ⟨-, other, hother⟩ := hworld
  unfold redirectHost validateUrl at hother
  by_contra hinvalid
  rw [if_neg hinvalid] at hother
  cases hother

theorem emptyPart_ends {granted : Limits} {progress : Progress} :
    Ends faults (c.going granted progress) emptyPart
      (fun _ world => c.going granted progress world ∧ world.partSize = 0) fun _ => c.stopped := by
  unfold emptyPart
  refine fileStep_ends ?_ ?_ fun _ world => hc.going_stopped _ _ world
  · intro world value after hworld hanswer
    obtain ⟨-, rfl⟩ := Prod.mk.inj hanswer
    by_cases hpart : world.disk.part.isSome = true
    · rw [if_pos hpart]
      exact ⟨hc.emptied _ _ world hworld, rfl⟩
    · rw [if_neg hpart, World.partSize, Option.not_isSome_iff_eq_none.mp hpart]
      exact ⟨hworld, rfl⟩
  · intro world error after _ hanswer
    cases hanswer

theorem followRedirect_ends {progress : Progress} {limits : Limits} {sending : Sending}
    {status : ℕ} {targetUrl : String} {addresses : List String}
    (hranked : Ranked fetching progress)
    (hvalid : validUrl fetching.downloader.policy targetUrl = true)
    (hvisited : targetUrl ∉ progress.visited)
    (hcount : progress.trail.redirects.length < fetching.downloader.policy.redirectCount) :
    Ends faults (fun world => c.going limits progress world ∧ True)
      (followRedirect progress sending status targetUrl addresses limits)
      (fun turn world => TurnEnd c fetching progress world (some turn)) fun _ => c.stopped := by
  let hop : SourceRedirect := ⟨progress.currentUrl, targetUrl, status, true, none⟩
  let next : Progress := { progress with
    trail := progress.trail.redirect hop, currentUrl := targetUrl,
    visited := progress.visited ++ [targetUrl] }
  refine Ends.bind (going_attempted hc (steady_const True)) fun tried => Ends.given fun htried => ?_
  refine Ends.bind (note_ends fun world hworld =>
    hc.redirected limits progress world targetUrl hop hworld.1 hvalid hvisited hcount) fun _ => ?_
  refine Ends.bind (emptyPart_ends hc) fun _ => Ends.ret fun world hworld => ?_
  obtain ⟨attempt, rfl⟩ := htried
  refine ⟨hc.going_similar _ _ _ world hworld.1 ⟨rfl, rfl, rfl, rfl, rfl, rfl⟩, hworld.2,
    ⟨hranked.1, ?_⟩, ?_⟩
  · change (progress.trail.redirects ++ [hop]).length ≤ _
    rw [List.length_append]
    exact hcount
  · change progress.retryCount + (progress.trail.redirects ++ [hop]).length = _
    rw [List.length_append]
    rfl

theorem redirectAnswered_ends {progress : Progress} (hranked : Ranked fetching progress)
    {sending : Sending} {status : ℕ} {headers : List (String × String)} :
    Ends faults (fun world => c.going progress.limits progress world ∧ True)
      (redirectAnswered fetching progress sending status headers)
      (fun turn world => TurnEnd c fetching progress world (some turn)) fun _ => c.stopped := by
  have hstop : ∀ {granted : Limits} {other : Progress} {message classification : String}
      {httpStatus : Option ℕ}, Ends faults (fun world => (c.going granted progress world ∧ True))
        (unavailable fetching.url fetching.start other.trail message classification httpStatus)
        (fun turn world => TurnEnd c fetching progress world (some turn)) fun _ => c.stopped :=
    failure_ends ((hc.going_steady _ _).and (steady_const True)) (raises_going hc)
  unfold redirectAnswered
  split
  · exact Ends.bind (going_attempted hc (steady_const True)) fun _ => Ends.given fun _ => hstop
  · exact Ends.bind (going_attempted hc (steady_const True)) fun _ => Ends.given fun _ => hstop
  · refine Ends.bind ((lift_ends (raises_going hc)).to fun _ _ hboth => hboth.1)
      fun targetUrl => ?_
    have hentry : Ends faults (fun world => c.going progress.limits progress world ∧ True)
        (currentAuthorizedEntry fetching) (fun limits world => c.going limits progress world ∧ True)
        (Stopping (fun _ world => c.going progress.limits progress world ∧ True) c.stopped) :=
      currentAuthorizedEntry_ends ((hc.going_steady _ _).and (steady_const True)) (fun _ _ => id)
        fun limits world hworld => ⟨hc.going_authorized _ _ limits world hworld.1, trivial⟩
    refine Ends.bind (Ends.attempt _ hentry) fun entry => ?_
    cases entry with
    | error error => exact refuseAttempt_ends hc (steady_const True)
    | ok limits =>
        refine Ends.bind (Ends.attempt (fun _ world => c.going limits progress world ∧ True)
          ((redirectDestination_ends hc).weaken (fun _ => id) (fun _ _ => id)
            fun stop world hworld => ?_)) fun target => ?_
        · cases stop with
          | raised error => exact ⟨hworld, trivial⟩
          | crashed => exact hworld
        · cases target with
          | error error =>
              exact Ends.branch (fun _ => refuseAttempt_ends hc (steady_const True))
                fun _ => Ends.raise (raises_going hc error)
          | ok addresses =>
              refine (Ends.given fun hfacts => ?_).from fun world hworld =>
                (⟨⟨hworld.1, trivial⟩, hworld.2⟩ : (c.going limits progress world ∧ True) ∧ _)
              refine Ends.branch (fun _ => ?_) fun hcount => ?_
              · exact Ends.bind (going_attempted hc (steady_const True)) fun _ =>
                  Ends.given fun _ => failure_ends
                    ((hc.going_steady _ _).and (steady_const True)) (raises_going hc)
              · refine Ends.bind ((lift_ends (raises_going hc)).to fun _ _ hboth => hboth.1)
                  fun refusal => ?_
                cases refusal with
                | some reason => exact refuseAttempt_ends hc (steady_const True)
                | none =>
                    exact followRedirect_ends hc hranked hfacts.1 hfacts.2 (not_le.mp hcount)

/-! ## Bodies -/

theorem discardPartial_ends {granted : Limits} {progress : Progress} :
    Ends faults (c.going granted progress) discardPartial (fun _ => c.stopped)
      fun _ => c.stopped := by
  unfold discardPartial
  refine fileStep_ends ?_ ?_ fun _ world => hc.going_stopped _ _ world
  · intro world value after hworld hanswer
    obtain ⟨-, rfl⟩ := Prod.mk.inj hanswer
    exact hc.discarded _ _ world hworld
  · intro world error after _ hanswer
    cases hanswer

/-- The answer that is not the source is sampled; then the fetch retries or stops. -/
theorem errorAnswered_ends {response : HttpResponse}
    {progress : Progress} (hranked : Ranked fetching progress) {sending : Sending}
    {headers : List (String × String)} :
    Ends faults (fun world => c.answered response progress world ∧ Fits progress world)
      (errorAnswered fetching progress sending response.status headers)
      (fun turn world => TurnEnd c fetching progress world (some turn)) fun _ => c.stopped := by
  refine Ends.bind Ends.seen fun before => ?_
  refine Ends.bind ((Ends.attempt _ (hc.sampled response progress sending.deadline before)).from
    fun world hworld => ⟨hworld.1.1, hworld.1.2, hworld.2.symm⟩) fun outcome => ?_
  cases outcome with
  | error error =>
      refine Ends.bind Ends.seen fun now => ?_
      let tried := Progress.counted progress (now - before)
      refine (Ends.bind (readRetryAfter_ends
        ((hc.going_steady progress.limits tried).and (fits_steady progress))
        (raises_going hc)) fun _ => Ends.bind (going_attempted hc (fits_steady progress))
          fun _ => Ends.given fun hattempted => ?_).from fun world hworld => ?_
      · exact (retryOrStop_ends hc (show Ranked fetching tried from hranked) rfl hattempted).from
          fun _ => id
      · obtain ⟨hgoing, rfl⟩ := hworld
        exact hgoing
  | ok sample =>
      let tried := Progress.counted progress sample.length
      refine Ends.bind ((lift_ends (raises_going hc)).to fun _ _ hboth => hboth.1) fun refusal => ?_
      refine Ends.bind (readRetryAfter_ends
        ((hc.going_steady progress.limits tried).and (fits_steady progress)) (raises_going hc))
        fun _ => ?_
      refine Ends.bind (going_attempted hc (fits_steady progress)) fun _ =>
        Ends.given fun hattempted => ?_
      cases refusal with
      | none =>
          exact (retryOrStop_ends hc (show Ranked fetching tried from hranked) rfl hattempted).from
            fun _ => id
      | some reason =>
          exact Ends.bind ((discardPartial_ends hc).from fun _ hworld => hworld.1) fun _ =>
            failure_ends hc.stopped_steady fun _ _ => id

/-- The body did not arrive: the fetch retries from what was kept, or stops. -/
theorem bodyFailed_ends {progress : Progress} (hranked : Ranked fetching progress)
    {sending : Sending} {status before : ℕ} {error : SourceError} :
    Ends faults
      (fun world => c.going progress.limits
        (Progress.counted progress (lostBytes (world.networkBytes - before) error)) world ∧ True)
      (bodyFailed fetching progress sending status before error)
      (fun turn world => TurnEnd c fetching progress world (some turn)) fun _ => c.stopped := by
  unfold bodyFailed
  refine Ends.bind Ends.seen fun now => ?_
  let tried := Progress.counted progress (lostBytes (now - before) error)
  suffices hbody : Ends faults (fun world => c.going progress.limits tried world ∧ True) _
      (fun turn world => TurnEnd c fetching progress world (some turn)) fun _ => c.stopped from
    hbody.from fun world hworld => by
      obtain ⟨hgoing, rfl⟩ := hworld
      exact hgoing
  have hsteady := (hc.going_steady progress.limits tried).and (steady_const True)
  split
  · exact Ends.bind Ends.glance fun _ => Ends.bind (going_attempted hc (steady_const True))
      fun _ => Ends.given fun _ => failure_ends hsteady (raises_going hc)
  · exact Ends.raise fun world hworld => hc.going_stopped _ _ world hworld.1
  · refine Ends.bind Ends.glance fun digest => ?_
    refine Ends.bind (going_attempted hc (steady_const True)) fun next => Ends.given fun hnext => ?_
    refine Ends.branch (fun hmay => ?_) fun _ => failure_ends hsteady (raises_going hc)
    have hsimilar : Similar tried next := attempted_similar hnext
    have hlimits : next.limits = tried.limits := attempted_limits hnext
    refine Ends.bind ((retry_going hc (steady_const True) (fun _ _ _ _ => trivial)
      (fun _ _ => trivial) hmay).from fun world hworld =>
        ⟨hc.going_similar _ _ _ world hworld.1 hsimilar, trivial⟩) fun later => ?_
    refine Ends.given fun hlater => ?_
    refine Ends.bind (partSize_ends fun _ world hworld => hc.going_stopped _ _ world hworld.1)
      fun offset => Ends.ret fun world hworld => ?_
    have hnextRanked : Ranked fetching next :=
      Ranked.similar (show Ranked fetching tried from hranked) hsimilar
    have hlaterLimits : later.limits = tried.limits := by
      obtain ⟨seconds, rfl⟩ := hlater
      exact hlimits
    obtain ⟨hgoing, hfits, hlaterRanked, hused⟩ :=
      nextTurn_of_retried hc hnextRanked hmay hlater hworld.1.1 offset hworld.2
    rw [hsimilar.used] at hused
    refine ⟨?_, hfits, hlaterRanked, hused⟩
    rw [show ({ later with offset } : Progress).limits = tried.limits from hlaterLimits]
    exact hc.going_similar _ _ _ world hgoing ⟨rfl, rfl, rfl, rfl, rfl, rfl⟩

theorem discardComplete_ends {progress : Progress} {extra : World ω → Prop} :
    Ends faults (fun world => c.complete progress world ∧ extra world) discardPartial
      (fun _ => c.stopped) fun _ => c.stopped := by
  unfold discardPartial
  refine fileStep_ends ?_ ?_ fun _ world hworld => hc.complete_stopped _ world hworld.1
  · intro world value after hworld hanswer
    obtain ⟨-, rfl⟩ := Prod.mk.inj hanswer
    exact hc.complete_discarded _ world hworld.1
  · intro world error after _ hanswer
    cases hanswer

/-- A complete body is refused and dropped, or admitted and returned. -/
theorem bodyReceived_ends {progress : Progress} {sending : Sending}
    {status : ℕ} (hstatus : status = 200 ∨ status = 206) {headers : List (String × String)}
    {contentType : String} {received : ℕ} :
    Ends faults (c.complete (Progress.counted progress received))
      (bodyReceived fetching progress sending status headers contentType received)
      (fun turn world => TurnEnd c fetching progress world (some turn)) fun _ => c.stopped := by
  let done := Progress.counted progress received
  unfold bodyReceived
  refine Ends.bind (readPart_ends fun _ world => hc.complete_stopped done world) fun content => ?_
  have hsteady : Steady fun world : World ω =>
      c.complete done world ∧ world.disk.part = some content :=
    (hc.complete_steady done).and (steady_disk fun disk => disk.part = some content)
  have hraise : Raises (fun world : World ω =>
      c.complete done world ∧ world.disk.part = some content) fun _ => c.stopped :=
    fun _ world hworld => hc.complete_stopped done world hworld.1
  refine Ends.bind ((lift_ends hraise).to fun _ _ hboth => hboth.1) fun refusal => ?_
  refine Ends.bind ((attempted_ends hsteady hraise).to fun _ _ hboth => hboth.1) fun tried => ?_
  cases refusal with
  | some reason =>
      exact Ends.bind (discardComplete_ends hc) fun _ => failure_ends hc.stopped_steady fun _ _ => id
  | none =>
      refine Ends.bind (utcText_ends hsteady hraise) fun retrievedAt => ?_
      have hentry : Ends faults (fun world : World ω =>
            c.complete done world ∧ world.disk.part = some content)
          (currentAuthorizedEntry fetching)
          (fun _ world => c.complete done world ∧ world.disk.part = some content)
          (Stopping (fun _ world => c.complete done world ∧ world.disk.part = some content)
            c.stopped) :=
        currentAuthorizedEntry_ends hsteady (fun _ _ => id) fun limits world hworld =>
          ⟨hc.complete_authorized done limits world hworld.1, hworld.2⟩
      refine Ends.bind (Ends.attempt _ hentry) fun entry => ?_
      cases entry with
      | error error =>
          exact Ends.bind (discardComplete_ends hc) fun _ => failure_ends hc.stopped_steady fun _ _ => id
      | ok limits =>
          refine Ends.bind (provenance_ends hsteady) fun record => ?_
          refine Ends.given fun hrecord => ?_
          obtain ⟨hurl, hresponse, hdigest, hcount, hretrieved⟩ := hrecord
          refine Ends.bind (cacheSize_ends hsteady) fun size => ?_
          refine Ends.branch (fun _ => failure_ends hsteady hraise) fun _ => ?_
          refine (hc.admitted done status contentType retrievedAt content record hstatus
            ⟨hurl, hresponse, hdigest, hcount, hretrieved⟩).to fun turn world hturn => ?_
          obtain ⟨source, rfl, hreturned⟩ := hturn
          exact hreturned

/-- The answer carries the source. -/
theorem sourceAnswered_ends {response : HttpResponse}
    {progress : Progress} (hranked : Ranked fetching progress) {sending : Sending}
    (hstatus : response.status = 200 ∨ response.status = 206) {contentType : String} :
    Ends faults (fun world => c.answered response progress world ∧ Fits progress world)
      (sourceAnswered reads fetching progress sending response.status
        (foldedHeaders response.headers) contentType)
      (fun turn world => TurnEnd c fetching progress world turn) fun _ => c.stopped := by
  refine Ends.bind Ends.seen fun before => ?_
  refine Ends.bind ((Ends.attempt _
    (hc.received response progress sending.deadline before hstatus)).from
      fun world hworld => ⟨hworld.1.1, hworld.1.2, hworld.2.symm⟩) fun outcome => ?_
  rcases outcome with error | none | ⟨received, append⟩
  · exact Ends.map ((bodyFailed_ends hc hranked).from fun world hworld => ⟨hworld, trivial⟩)
  · exact Ends.ret fun _ => id
  · exact Ends.map (bodyReceived_ends hc hstatus)

/-! ## Answers -/

theorem finalAnswered_ends {response : HttpResponse}
    {progress : Progress} (hranked : Ranked fetching progress) {sending : Sending} :
    Ends faults (fun world => c.answered response progress world ∧ Fits progress world)
      (finalAnswered reads fetching progress sending response.status
        (foldedHeaders response.headers))
      (fun turn world => TurnEnd c fetching progress world turn) fun _ => c.stopped := by
  have hsteady : Steady fun world => c.answered response progress world ∧ Fits progress world :=
    (hc.answered_steady _ _).and (fits_steady progress)
  have hraise : Raises (fun world => c.answered response progress world ∧ Fits progress world)
      fun _ => c.stopped := fun _ world hworld =>
    hc.going_stopped _ _ world (hc.answered_going _ _ world hworld.1)
  refine Ends.bind ((lift_ends hraise).to fun _ _ hboth => hboth.1) fun refusal => ?_
  cases refusal with
  | some reason =>
      refine Ends.bind ((attempted_ends hsteady hraise).to fun _ _ hboth => hboth.1) fun tried => ?_
      exact Ends.bind ((discardPartial_ends hc).from fun world hworld =>
        hc.answered_going _ _ world hworld.1) fun _ => failure_ends hc.stopped_steady fun _ _ => id
  | none =>
      refine Ends.branch (fun _ => Ends.map (errorAnswered_ends hc hranked))
        fun hstatus => sourceAnswered_ends hc hranked ?_
      omega

theorem answered_ends {response : HttpResponse}
    {progress : Progress} (hranked : Ranked fetching progress) {sending : Sending} :
    Ends faults (fun world => c.answered response progress world ∧ Fits progress world)
      (answered reads fetching progress sending response)
      (fun turn world => TurnEnd c fetching progress world turn) fun _ => c.stopped := by
  have hsteady : Steady fun world => c.answered response progress world ∧ Fits progress world :=
    (hc.answered_steady _ _).and (fits_steady progress)
  have hraise : Raises (fun world => c.answered response progress world ∧ Fits progress world)
      fun _ => c.stopped := fun _ world hworld =>
    hc.going_stopped _ _ world (hc.answered_going _ _ world hworld.1)
  have hgoing : ∀ world, c.answered response progress world ∧ Fits progress world →
      c.going progress.limits progress world ∧ Fits progress world := fun world hworld =>
    ⟨hc.answered_going _ _ world hworld.1, hworld.2⟩
  unfold answered
  refine Ends.bind ((remaining_ends hsteady _ _).to fun _ _ hboth => hboth.1) fun left => ?_
  refine Ends.branch (fun _ => ?_) fun _ => ?_
  · exact Ends.bind ((attempted_ends hsteady hraise).to fun _ _ hboth => hboth.1) fun _ =>
      failure_ends hsteady hraise
  · refine Ends.bind ((lift_ends hraise).to fun _ _ hboth => hboth.1) fun target => ?_
    refine Ends.bind ((lift_ends hraise).to fun _ _ hboth => hboth.1) fun refusal => ?_
    cases refusal with
    | some reason =>
        exact Ends.map ((refuseAttempt_ends hc (fits_steady progress)).from hgoing)
    | none =>
        refine Ends.bind (ticking_ends hsteady) fun now => ?_
        refine Ends.branch (fun _ => Ends.map ((answeredLate_ends hc hranked).from hgoing))
          fun _ => ?_
        refine Ends.branch (fun _ => Ends.map ((redirectAnswered_ends hc hranked).from
          fun world hworld => ⟨(hgoing world hworld).1, trivial⟩)) fun _ => ?_
        exact finalAnswered_ends hc hranked

/-! ## The loop -/

/-- The destination is resolved, or its resolution is tried again. -/
theorem destination_ends {granted : Limits} {progress : Progress}
    (hranked : Ranked fetching progress) :
    Ends faults (fun world => c.ready granted progress world ∧ Fits progress world)
      (destination fetching progress)
      (fun outcome world => match outcome with
        | .inr _ => c.ready granted progress world ∧ Fits progress world
        | .inl next => NextTurn c fetching progress { next with limits := granted } world)
      fun _ => c.stopped := by
  have hsteady : Steady fun world => c.ready granted progress world ∧ Fits progress world :=
    (hc.ready_steady _ _).and (fits_steady progress)
  have hraise : Raises (fun world => c.ready granted progress world ∧ Fits progress world)
      fun _ => c.stopped := fun _ world hworld =>
    hc.going_stopped _ _ world (hc.ready_going _ _ world hworld.1)
  unfold destination
  split
  · exact Ends.ret fun _ => id
  · refine Ends.bind ((lift_ends hraise).to fun _ _ hboth => hboth.1) fun host => ?_
    refine Ends.bind (Ends.attempt
      (fun _ world => c.ready granted progress world ∧ Fits progress world)
      (resolveDestination_ends hsteady fun _ _ => id)) fun outcome => ?_
    split
    · exact Ends.ret fun _ => id
    · exact failure_ends hsteady hraise
    · refine Ends.branch (fun _ => ?_) fun _ => Ends.raise fun world hworld =>
        hc.going_stopped _ _ world (hc.ready_going _ _ world hworld.1)
      refine Ends.bind (ticking_ends hsteady) fun now => ?_
      refine Ends.bind (utcText_ends hsteady hraise) fun text => ?_
      refine Ends.bind (makeAttempt_ends hsteady hraise) fun attempt => ?_
      refine Ends.branch (fun hmay => ?_) fun _ => failure_ends hsteady hraise
      let tried : Progress := { progress with trail := progress.trail.add attempt }
      have htried : Similar progress tried := ⟨rfl, rfl, rfl, rfl, rfl, rfl⟩
      refine Ends.bind ((retry_going hc (fits_steady progress) (fits_pausing progress)
        (fun _ => id) hmay).from fun world hworld => ⟨hc.going_similar _ _ _ world
          (hc.ready_going _ _ world hworld.1) htried, hworld.2⟩) fun next => ?_
      refine Ends.ret fun world hnext => ?_
      obtain ⟨⟨hgoing, hfits⟩, hretried⟩ := hnext
      have hturn := nextTurn_of_retried hc (show Ranked fetching tried from hranked) hmay hretried
        hgoing progress.offset hfits
      obtain ⟨seconds, rfl⟩ := hretried
      exact hturn

theorem requireRequestBudget_ends {progress : Progress} :
    Ends faults (fun world => c.going progress.limits progress world ∧ Fits progress world)
      (requireRequestBudget fetching progress)
      (fun _ world => c.ready progress.limits progress world ∧ Fits progress world)
      fun _ => c.stopped := by
  have hsteady := (hc.going_steady progress.limits progress).and (fits_steady progress)
  refine Ends.bind Ends.seen fun spent => ?_
  cases spent with
  | some classification =>
      exact (failure_ends hsteady (raises_going hc)).from fun _ hworld => hworld.1
  | none =>
      refine note_ends fun world hworld => ⟨hc.checked progress world hworld.1.1 hworld.2.symm, ?_⟩
      exact hworld.1.2

/-- A request is sent and its answer dealt with. -/
theorem sendRequest_ends {progress : Progress} (hranked : Ranked fetching progress)
    {addresses : List String} :
    Ends faults (fun world => c.ready progress.limits progress world ∧ Fits progress world)
      (sendRequest reads fetching progress addresses)
      (fun turn world => TurnEnd c fetching progress world turn) fun _ => c.stopped := by
  have hsteady : Steady fun world =>
      c.ready progress.limits progress world ∧ Fits progress world :=
    (hc.ready_steady _ _).and (fits_steady progress)
  have hraise : Raises (fun world => c.ready progress.limits progress world ∧
      Fits progress world) fun _ => c.stopped := fun _ world hworld =>
    hc.going_stopped _ _ world (hc.ready_going _ _ world hworld.1)
  unfold sendRequest
  refine Ends.bind ((remaining_ends hsteady _ _).to fun _ _ hboth => hboth.1) fun left => ?_
  refine Ends.branch (fun _ => failure_ends hsteady hraise) fun _ => ?_
  refine Ends.bind (ticking_ends hsteady) fun startedAt => ?_
  refine Ends.bind (utcText_ends hsteady hraise) fun startedAtUtc => ?_
  have hdispatch : ∀ request : HttpRequest, request.url = progress.currentUrl →
      request.headers = requestHeaders progress.offset →
      Ends faults (fun world : World ω => c.ready progress.limits progress world ∧
          Fits progress world) (dispatch request startedAt)
        (Outcome
          (fun response world => c.answered response (Progress.requested progress) world ∧
            Fits (Progress.requested progress) world)
          fun _ world => c.going progress.limits (Progress.requested progress) world ∧
            Fits (Progress.requested progress) world) fun _ => c.stopped := by
    intro request hurl hheaders
    refine dispatch_ends (fun world response env hworld hrequest => ?_)
      fun world error env hworld hrequest => ?_
    · exact ⟨hc.dispatched progress world request startedAt response env hworld.1 hworld.2 hurl
        hheaders hrequest, hworld.2⟩
    · exact ⟨hc.undispatched progress world request startedAt error env hworld.1 hurl hrequest,
        hworld.2⟩
  refine Ends.bind (hdispatch _ rfl rfl) fun answer => ?_
  cases answer with
  | error error =>
      exact Ends.map (transportFailed_ends hc
        (show Ranked fetching (Progress.requested progress) from hranked))
  | ok response =>
      exact answered_ends hc (show Ranked fetching (Progress.requested progress) from hranked)

theorem turn_ends {progress : Progress} (hranked : Ranked fetching progress) :
    Ends faults (fun world => c.going progress.limits progress world ∧ Fits progress world)
      (turn reads fetching progress)
      (fun turn world => TurnEnd c fetching progress world turn) fun _ => c.stopped := by
  have hgoing : Steady fun world => c.going progress.limits progress world ∧ Fits progress world :=
    (hc.going_steady _ _).and (fits_steady progress)
  have hready : ∀ granted, Steady fun world =>
      c.ready granted progress world ∧ Fits progress world := fun granted =>
    (hc.ready_steady granted _).and (fits_steady progress)
  have hraise : ∀ granted, Raises (fun world => c.ready granted progress world ∧
      Fits progress world) fun _ => c.stopped := fun granted _ world hworld =>
    hc.going_stopped _ _ world (hc.ready_going granted _ world hworld.1)
  have hauthorize : ∀ granted message,
      Ends faults (fun world => c.ready granted progress world ∧ Fits progress world)
        (authorize fetching progress.trail message none)
        (fun limits world => c.ready limits progress world ∧ Fits progress world)
        fun _ => c.stopped := fun granted message =>
    authorize_ends (hready granted) (hraise granted) fun limits world hworld =>
      ⟨hc.ready_authorized _ _ limits world hworld.1, hworld.2⟩
  change Ends faults _ (requireElapsed fetching.downloader fetching.start progress.trail
    progress.currentUrl >>= _) _ _
  refine Ends.bind (requireElapsed_ends hgoing (raises_going hc)) fun _ => ?_
  refine Ends.bind (requireRequestBudget_ends hc) fun _ => ?_
  refine Ends.bind (pace_ends (hready _)
    (pausing_and (hc.ready_pausing _ _) (fits_pausing progress)) (hraise _)) fun _ => ?_
  refine Ends.bind (hauthorize _ _) fun current => ?_
  refine Ends.bind (destination_ends hc hranked) fun outcome => ?_
  cases outcome with
  | inl next => exact Ends.ret fun _ => id
  | inr addresses =>
      refine Ends.bind (hauthorize _ _) fun limits => ?_
      let sending : Progress := { progress with limits, currentIps := some addresses }
      refine (sendRequest_ends hc (show Ranked fetching sending from hranked)).weaken
        (fun world hworld => ⟨hc.ready_similar limits progress sending world hworld.1
          ⟨rfl, rfl, rfl, rfl, rfl, rfl⟩, hworld.2⟩)
        (fun outcome world hend => ?_) fun _ _ => id
      rcases outcome with _ | next | source
      · exact hend
      · exact hend
      · exact hend

/-- The whole loop ends with the source, or stops; only with too few passes does it end with
neither. -/
theorem requestLoop_ends {progress : Progress} (hranked : Ranked fetching progress)
    (passes : ℕ) :
    Ends faults (fun world => c.going progress.limits progress world ∧ Fits progress world)
      (requestLoop fetching reads passes progress)
      (fun outcome world => match outcome with
        | some source => c.returned source world
        | none => c.stuck world ∨ c.stopped world ∧
            passes + Progress.used progress ≤ fetching.downloader.policy.retryCount +
              fetching.downloader.policy.redirectCount)
      fun _ => c.stopped := by
  induction passes generalizing progress with
  | zero =>
      refine Ends.ret fun world hworld => .inr ⟨hc.going_stopped _ _ world hworld.1, ?_⟩
      rw [Nat.zero_add]
      exact Nat.add_le_add hranked.1 hranked.2
  | succ passes ih =>
      refine Ends.bind (turn_ends hc hranked) fun outcome => ?_
      rcases outcome with _ | next | source
      · exact Ends.ret fun _ => .inl
      · refine Ends.fixing fun world hnext => ?_
        obtain ⟨hgoing, hfits, hnextRanked, hused⟩ := hnext
        refine (ih hnextRanked).weaken (fun _ hstate => hstate ▸ ⟨hgoing, hfits⟩)
          (fun outcome later hlater => ?_) fun _ _ => id
        cases outcome with
        | some source => exact hlater
        | none =>
            rw [hused] at hlater
            exact hlater.imp id fun hboth => ⟨hboth.1, by omega⟩
      · exact Ends.ret fun _ => id

end Turns

/-! ## A fetch -/

/-- The variables of the loop when it begins. -/
def Progress.initial (url : String) (limits : Limits) (offset : ℕ) : Progress :=
  ⟨⟨[], []⟩, url, none, [url], 0, 0, 0, offset, limits⟩

/-- What happens before the loop carries the conditions from the beginning of a fetch to that
of its loop. -/
structure Opening (faults : Fate Leftover → Prop) (downloader : Downloader) (url : String)
    (reads : ℕ) (c : Fetching → Conditions ω) (returned : DownloadedSource → World ω → Prop)
    (stuck stopped before begun : World ω → Prop) (opened : Fetching → World ω → Prop)
    (granted : Fetching → Limits → World ω → Prop) : Prop where
  carries : ∀ fetching, fetching.downloader = downloader → fetching.url = url →
    Carried faults fetching reads (c fetching)
  returned_returned : ∀ fetching source world, (c fetching).returned source world →
    returned source world
  stuck_stuck : ∀ fetching world, (c fetching).stuck world → stuck world
  stopped_stopped : ∀ fetching world, (c fetching).stopped world → stopped world
  begins : ∀ world, before world → begun (world.record (.began url))
  begun_utcnow : ∀ world, begun world →
    begun { world with env := (Outside.utcnow world.env).2 }
  begun_stopped : ∀ world, begun world → stopped world
  serves : ∀ world source, begun world →
    readCacheFiles downloader (some url) world.disk = .ok (some source) → returned source world
  opens : ∀ fetching world, fetching.start = (Outside.monotonic world.env).1 → begun world →
    opened fetching (ticked world)
  opened_steady : ∀ fetching, Steady (opened fetching)
  opened_stopped : ∀ fetching world, opened fetching world → stopped world
  grants : ∀ fetching limits world, opened fetching world →
    granted fetching limits (world.record (.authorized limits))
  granted_stopped : ∀ fetching limits world, granted fetching limits world → stopped world
  goes : ∀ fetching limits world, granted fetching limits world →
    validUrl downloader.policy url = true → world.partSize ≤ downloader.maxSourceBytes →
    (c fetching).going limits (Progress.initial url limits world.partSize) world

variable {downloader : Downloader} {url : String} {c : Fetching → Conditions ω}
  {returned : DownloadedSource → World ω → Prop} {stuck stopped before begun : World ω → Prop}
  {opened : Fetching → World ω → Prop} {granted : Fetching → Limits → World ω → Prop}

/-- How a fetch ends when it does not stop. -/
def FetchEnd (downloader : Downloader) (passes : ℕ)
    (returned : DownloadedSource → World ω → Prop) (stuck stopped : World ω → Prop) :
    Option DownloadedSource → World ω → Prop
  | some source, world => returned source world
  | none, world => stuck world ∨ stopped world ∧
      passes ≤ downloader.policy.retryCount + downloader.policy.redirectCount

theorem fetchLive_ends (hopening : Opening faults downloader url reads c returned stuck stopped
      before begun opened granted) (hvalid : validUrl downloader.policy url = true)
    {passes : ℕ} {decision : Option String} :
    Ends faults begun (fetchLive reads passes downloader url decision)
      (FetchEnd downloader passes returned stuck stopped) fun _ => stopped := by
  have hstart : Ends faults begun monotonic
      (fun start world => ∀ decision, opened ⟨downloader, url, decision, start⟩ world)
      fun _ => stopped := by
    refine Ends.ask (fun world start next hworld hanswer decision => ?_)
      fun world error next _ hanswer => ?_
    · cases hanswer
      exact hopening.opens _ world rfl hworld
    · cases hanswer
  have hrefuse : ∀ {start : ℚ} {trail : Trail} {message classification : String}
      {status : Option ℕ}, Ends faults
        (fun world => ∀ decision, opened ⟨downloader, url, decision, start⟩ world)
        (refused url start trail message classification status)
        (FetchEnd downloader passes returned stuck stopped) fun _ => stopped := by
    intro start trail message classification status
    exact (failure_ends (hopening.opened_steady ⟨downloader, url, "", start⟩)
      fun _ => hopening.opened_stopped _).from fun world hworld => hworld ""
  unfold fetchLive
  refine Ends.bind hstart fun start => ?_
  split
  · exact hrefuse
  · exact hrefuse
  · refine Ends.branch (fun _ => ?_) fun _ => hrefuse
    next decision _ _ =>
    let fetching : Fetching := ⟨downloader, url, decision, start⟩
    have hauthorize : Ends faults
        (fun world => ∀ decision, opened ⟨downloader, url, decision, start⟩ world)
        (authorize fetching ⟨[], []⟩
          "Current source authorization is invalid or withdrawn; live fetch refused." none)
        (granted fetching) fun _ => stopped :=
      (authorize_ends (hopening.opened_steady fetching) (fun _ => hopening.opened_stopped _)
        (hopening.grants fetching)).from fun world hworld => hworld decision
    refine Ends.bind hauthorize fun limits => ?_
    refine Ends.bind (partSize_ends fun _ => hopening.granted_stopped fetching limits)
      fun offset => ?_
    refine Ends.branch (fun _ => Ends.raise fun world hworld =>
      hopening.granted_stopped fetching limits world hworld.1) fun hsize => ?_
    have hc := hopening.carries fetching rfl rfl
    have hranked : Ranked fetching (Progress.initial url limits offset) :=
      ⟨Nat.zero_le _, Nat.zero_le _⟩
    refine (requestLoop_ends hc hranked passes).weaken (fun world hworld => ?_)
      (fun outcome world hend => ?_) fun _ => hopening.stopped_stopped fetching
    · obtain ⟨hgranted, rfl⟩ := hworld
      exact ⟨hopening.goes fetching limits world hgranted hvalid (not_lt.mp hsize), rfl⟩
    · cases outcome with
      | some source => exact hopening.returned_returned fetching source world hend
      | none =>
          exact hend.imp (hopening.stuck_stuck fetching world) fun hboth =>
            ⟨hopening.stopped_stopped fetching world hboth.1, hboth.2⟩

theorem fetch_ends (hopening : Opening faults downloader url reads c returned stuck stopped
      before begun opened granted) {passes : ℕ} {refresh : Bool} {decision : Option String} :
    Ends faults before (fetch reads passes downloader url refresh decision)
      (FetchEnd downloader passes returned stuck stopped) fun _ => stopped := by
  refine Ends.bind (note_ends hopening.begins) fun _ => ?_
  refine Ends.bind (lift_ends fun _ => hopening.begun_stopped) fun _ => ?_
  refine Ends.given fun hvalidated => ?_
  have hvalid : validUrl downloader.policy url = true := by
    unfold validateUrl at hvalidated
    by_contra hinvalid
    rw [if_neg hinvalid] at hvalidated
    cases hvalidated
  refine Ends.bind (readCache_ends fun _ => hopening.begun_stopped) fun cached => ?_
  have hutcnow : ∀ world : World ω,
      begun world ∧ readCacheFiles downloader (some url) world.disk = .ok cached →
      begun { world with env := (Outside.utcnow world.env).2 } ∧
        readCacheFiles downloader (some url) world.disk = .ok cached :=
    fun world hworld => ⟨hopening.begun_utcnow world hworld.1, hworld.2⟩
  refine Ends.bind (servesCached_ends hutcnow fun _ world hworld =>
    hopening.begun_stopped world hworld.1) fun served => ?_
  cases served with
  | some source =>
      refine Ends.ret fun world hworld => ?_
      obtain ⟨⟨hbegun, hcached⟩, hserved⟩ := hworld
      rw [hserved source rfl] at hcached
      exact hopening.serves world source hbegun hcached
  | none => exact (fetchLive_ends hopening hvalid).from fun _ hworld => hworld.1.1

/-! ## Processes that share the cache -/

/-- A call of `fetch` in some process: its downloader and what that has used, its arguments,
how far its loops are followed, what disturbs it, and the outside world that it finds. -/
structure Session (ω : Type) where
  downloader : Downloader
  networkBytes : ℕ
  networkRequests : ℕ
  lastRequestStartedAt : Option ℚ
  refresh : Bool
  decision : Option String
  reads : ℕ
  passes : ℕ
  fates : ℕ → Fate Leftover
  env : ω

namespace Session

def call (url : String) (session : Session ω) : TransportCall ω (Option DownloadedSource) :=
  fetch session.reads session.passes session.downloader url session.refresh session.decision

def found (session : Session ω) (world : World ω) : World ω :=
  { world with
    env := session.env, networkBytes := session.networkBytes
    networkRequests := session.networkRequests
    lastRequestStartedAt := session.lastRequestStartedAt }

end Session

/-- Some calls for one address, one after the other, over the files of its cache key. -/
def runSessions (url : String) (sessions : List (Session ω)) (world : World ω) : World ω :=
  sessions.foldl (fun world session =>
    (session.call url).leaves session.fates (session.found world)) world

/-- What every call keeps holds after every run. -/
theorem runSessions_keeps {kept : World ω → Prop} {url : String}
    (hcall : ∀ (session : Session ω) world, kept world →
      kept ((session.call url).leaves session.fates (session.found world)))
    (sessions : List (Session ω)) (world : World ω) (hworld : kept world) :
    kept (runSessions url sessions world) := by
  induction sessions generalizing world with
  | nil => exact hworld
  | cons session sessions ih => exact ih _ (hcall session world hworld)

end Serving

end MatchVet.Ingestion.TurnRules
