import MatchVet.Ingestion.Audit

/-!
# Rules for the calls of a fetch

A condition that survives what the clocks and the other services answer survives the
calls that only ask them.  From that come the rules of the calls that pause, retry and
authorize.
-/

namespace MatchVet.Ingestion.FetchRules

open MatchVet.Foundation.CrashLogic
open MatchVet.Ingestion.Audit
open MatchVet.Ingestion.Downloader
open MatchVet.Ingestion.Fetch
open MatchVet.Ingestion.Transport

variable {ω : Type} [Outside ω]

/-- The world after the monotonic clock was read. -/
def ticked (world : World ω) : World ω :=
  { world with env := (Outside.monotonic world.env).2 }.record
    (.clock (Outside.monotonic world.env).1)

/-- The world after a pause. -/
def paused (delay : ℚ) (world : World ω) : World ω :=
  { world with env := Outside.sleep delay world.env }.record (.slept delay)

/-- A condition that holds whatever the clocks, the repository, the resolver and the cache
answer. -/
structure Steady (kept : World ω → Prop) : Prop where
  monotonic : ∀ world, kept world → kept (ticked world)
  utcnow : ∀ world, kept world → kept { world with env := (Outside.utcnow world.env).2 }
  requireCurrent : ∀ decision world, kept world →
    kept { world with env := (Outside.requireCurrent decision world.env).2 }
  resolvePublicIps : ∀ host world, kept world →
    kept { world with env := (Outside.resolvePublicIps host world.env).2 }
  cacheSize : ∀ world, kept world → kept { world with env := (Outside.cacheSize world.env).2 }

/-- What holds of the files and of the log without the clock is steady. -/
theorem Steady.of_env {kept : World ω → Prop}
    (henv : ∀ world env, kept world → kept { world with env })
    (hclock : ∀ world now, kept world → kept (world.record (.clock now))) : Steady kept where
  monotonic world hkept := hclock _ _ (henv world _ hkept)
  utcnow world := henv world _
  requireCurrent _ world := henv world _
  resolvePublicIps _ world := henv world _
  cacheSize world := henv world _

theorem Steady.and {first second : World ω → Prop} (hfirst : Steady first)
    (hsecond : Steady second) : Steady fun world => first world ∧ second world where
  monotonic world hkept := ⟨hfirst.monotonic world hkept.1, hsecond.monotonic world hkept.2⟩
  utcnow world hkept := ⟨hfirst.utcnow world hkept.1, hsecond.utcnow world hkept.2⟩
  requireCurrent decision world hkept :=
    ⟨hfirst.requireCurrent decision world hkept.1, hsecond.requireCurrent decision world hkept.2⟩
  resolvePublicIps host world hkept :=
    ⟨hfirst.resolvePublicIps host world hkept.1, hsecond.resolvePublicIps host world hkept.2⟩
  cacheSize world hkept := ⟨hfirst.cacheSize world hkept.1, hsecond.cacheSize world hkept.2⟩

theorem Steady.exists {α : Type} {kept : α → World ω → Prop}
    (hkept : ∀ value, Steady (kept value)) : Steady fun world => ∃ value, kept value world where
  monotonic world := fun ⟨value, hworld⟩ => ⟨value, (hkept value).monotonic world hworld⟩
  utcnow world := fun ⟨value, hworld⟩ => ⟨value, (hkept value).utcnow world hworld⟩
  requireCurrent decision world := fun ⟨value, hworld⟩ =>
    ⟨value, (hkept value).requireCurrent decision world hworld⟩
  resolvePublicIps host world := fun ⟨value, hworld⟩ =>
    ⟨value, (hkept value).resolvePublicIps host world hworld⟩
  cacheSize world := fun ⟨value, hworld⟩ => ⟨value, (hkept value).cacheSize world hworld⟩

theorem steady_disk (kept : Disk → Prop) : Steady fun world : World ω => kept world.disk :=
  Steady.of_env (fun _ _ => id) fun _ _ => id

theorem steady_counters (kept : ℕ → ℕ → Prop) :
    Steady fun world : World ω => kept world.networkBytes world.networkRequests :=
  Steady.of_env (fun _ _ => id) fun _ _ => id

theorem steady_const (fact : Prop) : Steady fun _ : World ω => fact :=
  Steady.of_env (fun _ _ => id) fun _ _ => id

variable {faults : Fate Leftover → Prop} {kept : World ω → Prop}
  {stopped : Stop SourceError → World ω → Prop}

/-! ## Clocks -/

theorem monotonic_ends (hkept : Steady kept) :
    Ends faults kept monotonic (fun now world => kept world ∧ (audit world.log).now = now)
      stopped := by
  refine Ends.ask (fun world now next hworld hanswer => ?_) fun world error next _ hanswer => ?_
  · cases hanswer
    refine ⟨hkept.monotonic world hworld, ?_⟩
    change (audit (world.log ++ [_])).now = _
    rw [audit_snoc, Ledger.next]
  · cases hanswer

theorem ticking_ends (hkept : Steady kept) :
    Ends faults kept monotonic (fun _ => kept) stopped :=
  (monotonic_ends hkept).to fun _ _ hboth => hboth.1

theorem utcnow_ends
    (hkept : ∀ world, kept world → kept { world with env := (Outside.utcnow world.env).2 }) :
    Ends faults kept utcnow (fun _ => kept) stopped := by
  refine Ends.ask (fun world now next hworld hanswer => ?_) fun world error next _ hanswer => ?_
  · cases hanswer
    exact hkept world hworld
  · cases hanswer

/-- The errors that stop a call. -/
abbrev Raises (kept : World ω → Prop) (stopped : Stop SourceError → World ω → Prop) : Prop :=
  ∀ error world, kept world → stopped (.raised error) world

omit [Outside ω] in
/-- A computation that only may raise. -/
theorem lift_ends {α : Type} {result : Except SourceError α} (hstop : Raises kept stopped) :
    Ends faults kept (Call.lift result) (fun value world => kept world ∧ result = .ok value)
      stopped :=
  Ends.lift (fun _ hvalue _ hworld => ⟨hworld, hvalue⟩) fun error _ world => hstop error world

theorem utcText_ends (hkept : Steady kept) (hstop : Raises kept stopped) :
    Ends faults kept utcText (fun _ => kept) stopped := by
  refine Ends.bind (utcnow_ends hkept.utcnow) fun now => ?_
  cases now.text with
  | some text => exact Ends.ret fun _ => id
  | none => exact Ends.raise (hstop _)

theorem remaining_ends (hkept : Steady kept) (downloader : Downloader) (start : ℚ) :
    Ends faults kept (remaining downloader start) (fun left world => kept world ∧
      left = downloader.policy.totalElapsedBudgetSeconds - ((audit world.log).now - start))
      stopped := by
  refine Ends.bind (monotonic_ends hkept) fun now => Ends.ret fun world hworld => ?_
  exact ⟨hworld.1, by rw [hworld.2]⟩

omit [Outside ω] in
/-- The log goes on with an event. -/
theorem note_ends {event : Event ω} {noted : World ω → Prop}
    (hnoted : ∀ world, kept world → noted (world.record event)) :
    Ends faults kept (note event) (fun _ => noted) stopped :=
  Ends.assign hnoted

/-- How a file operation fails. -/
def FileStop (stop : Stop SourceError) : Prop :=
  stop = .crashed ∨ ∃ errno, stop = .raised (.system (.os errno))

omit [Outside ω] in
theorem fileCall_ends {α : Type} {residue : Leftover → World ω → World ω}
    {update : World ω → Except SourceError α × World ω} {after : α → World ω → Prop}
    (hafter : ∀ world value next, kept world → update world = (.ok value, next) →
      after value next)
    (herror : ∀ world error next, kept world → update world = (.error error, next) →
      stopped (.raised error) next)
    (hfail : ∀ stop left world, FileStop stop → kept world → stopped stop (residue left world)) :
    Ends faults kept (fileCall residue update) after stopped :=
  Ends.disturbed hafter herror
    (fun left world _ => hfail _ left world (.inr ⟨left.errno, rfl⟩))
    fun left world _ => hfail _ left world (.inl rfl)

omit [Outside ω] in
/-- A file operation that leaves nothing behind when it fails. -/
theorem fileStep_ends {α : Type} {update : World ω → Except SourceError α × World ω}
    {after : α → World ω → Prop}
    (hafter : ∀ world value next, kept world → update world = (.ok value, next) →
      after value next)
    (herror : ∀ world error next, kept world → update world = (.error error, next) →
      stopped (.raised error) next)
    (hstop : ∀ stop world, kept world → stopped stop world) :
    Ends faults kept (fileStep update) after stopped :=
  fileCall_ends hafter herror fun stop _ world _ => hstop stop world

omit [Outside ω] in
theorem partSize_ends (hstop : ∀ stop world, kept world → stopped stop world) :
    Ends faults kept Fetch.partSize (fun size world => kept world ∧ world.partSize = size)
      stopped := by
  unfold Fetch.partSize
  refine fileStep_ends ?_ ?_ hstop
  · intro world value next hworld hanswer
    obtain ⟨hvalue, rfl⟩ := Prod.mk.inj hanswer
    exact ⟨hworld, Except.ok.inj hvalue⟩
  · intro world error next _ hanswer
    cases hanswer

omit [Outside ω] in
theorem readPart_ends (hstop : ∀ stop world, kept world → stopped stop world) :
    Ends faults kept readPart (fun content world => kept world ∧ world.disk.part = some content)
      stopped := by
  unfold readPart
  refine fileStep_ends ?_ ?_ hstop
  · intro world content next hworld hanswer
    obtain ⟨hvalue, rfl⟩ := Prod.mk.inj hanswer
    refine ⟨hworld, ?_⟩
    cases hpart : world.disk.part with
    | none =>
        rw [hpart] at hvalue
        cases hvalue
    | some found =>
        rw [hpart] at hvalue
        rw [Except.ok.inj hvalue]
  · intro world error next hworld hanswer
    obtain ⟨-, rfl⟩ := Prod.mk.inj hanswer
    exact hstop _ world hworld

theorem cacheSize_ends (hkept : Steady kept) :
    Ends faults kept cacheSize (fun _ => kept) stopped := by
  refine Ends.ask (fun world size next hworld hanswer => ?_) fun world error next _ hanswer => ?_
  · cases hanswer
    exact hkept.cacheSize world hworld
  · cases hanswer

/-- A request that was sent is answered, or could not be made. -/
theorem dispatch_ends {request : HttpRequest} {startedAt : ℚ}
    {answered : HttpResponse → World ω → Prop} {unanswered : World ω → Prop}
    (hanswered : ∀ world response env, kept world →
      Outside.request request world.env = (.ok response, env) →
      answered response (world.sent request startedAt env))
    (hunanswered : ∀ world error env, kept world →
      Outside.request request world.env = (.error error, env) →
      unanswered (world.sent request startedAt env)) :
    Ends faults kept (dispatch request startedAt) (Outcome answered fun _ => unanswered)
      stopped := by
  intro fates clock world _ hworld
  rcases hrequest : Outside.request request world.env with ⟨error | response, env⟩
  · simp only [dispatch, Call.ask, hrequest]
    exact hunanswered world error env hworld hrequest
  · simp only [dispatch, Call.ask, hrequest]
    exact hanswered world response env hworld hrequest

/-- A chunk of a body is read, or reading it fails. -/
theorem readChunk_ends {size : ℕ} {read : Content → World ω → Prop}
    (hread : ∀ world chunk env, kept world → Outside.read size world.env = (.ok chunk, env) →
      read chunk (world.received chunk.length env))
    (hfail : ∀ world error env, kept world → Outside.read size world.env = (.error error, env) →
      stopped (.raised (.system error)) { world with env }) :
    Ends faults kept (readChunk size) read stopped := by
  intro fates clock world _ hworld
  rcases hanswer : Outside.read size world.env with ⟨error | chunk, env⟩
  · simp only [readChunk, Call.ask, hanswer]
    exact hfail world error env hworld hanswer
  · simp only [readChunk, Call.ask, hanswer]
    exact hread world chunk env hworld hanswer

omit [Outside ω] in
/-- A write to the partial file; when it fails a part of the file is kept. -/
theorem writeChunk_ends {chunk : Content} {written : World ω → Prop}
    (hwritten : ∀ world, kept world →
      written (world.store (world.disk.part.getD [] ++ chunk)))
    (hfail : ∀ stop world count, FileStop stop → kept world →
      stopped stop (world.store ((world.disk.part.getD [] ++ chunk).take count))) :
    Ends faults kept (writeChunk chunk) (fun _ => written) stopped := by
  refine fileCall_ends (fun world value next hworld hanswer => ?_)
    (fun world error next _ hanswer => ?_) fun stop left world => hfail stop world left.kept
  · obtain ⟨-, rfl⟩ := Prod.mk.inj hanswer
    exact hwritten world hworld
  · cases hanswer

omit [Outside ω] in
theorem flushPart_ends
    (hfail : ∀ stop world count, FileStop stop → kept world →
      stopped stop (world.store ((world.disk.part.getD []).take count))) :
    Ends faults kept flushPart (fun _ => kept) stopped := by
  refine fileCall_ends (fun world value next hworld hanswer => ?_)
    (fun world error next _ hanswer => ?_) fun stop left world => hfail stop world left.kept
  · obtain ⟨-, rfl⟩ := Prod.mk.inj hanswer
    exact hworld
  · cases hanswer

omit [Outside ω] in
theorem openPart_ends {append : Bool} {opened : World ω → Prop}
    (hopened : ∀ world, kept world →
      opened (world.store (if append then world.disk.part.getD [] else [])))
    (hfail : ∀ stop world, FileStop stop → kept world → stopped stop world) :
    Ends faults kept (openPart append) (fun _ => opened) stopped := by
  unfold openPart fileStep
  refine fileCall_ends (fun world value next hworld hanswer => ?_)
    (fun world error next _ hanswer => ?_) fun stop _ world => hfail stop world
  · obtain ⟨-, rfl⟩ := Prod.mk.inj hanswer
    exact hopened world hworld
  · cases hanswer

/-! ## Admission to the cache -/

/-- The partial file became the data file. -/
def dataAdmitted (content : Content) (world : World ω) : World ω :=
  { world with disk := { world.disk with data := some content, part := none } }.record .dataReplaced

def withTemporary (temporary : Option Metadata) (world : World ω) : World ω :=
  { world with disk := { world.disk with temporary } }

/-- The temporary file became the metadata file. -/
def metadataAdmitted (metadata : Metadata) (world : World ω) : World ω :=
  { world with disk := { world.disk with metadata := some metadata, temporary := none } }.record
    .metadataReplaced

omit [Outside ω] in
theorem replaceData_ends {replaced : World ω → Prop}
    (hreplaced : ∀ world content, kept world → world.disk.part = some content →
      replaced (dataAdmitted content world))
    (hstop : ∀ stop world, kept world → stopped stop world) :
    Ends faults kept replaceData (fun _ => replaced) stopped := by
  unfold replaceData
  refine fileStep_ends (fun world value next hworld hanswer => ?_)
    (fun world error next hworld hanswer => ?_) hstop
  · split at hanswer
    · next content hpart =>
      obtain ⟨-, rfl⟩ := Prod.mk.inj hanswer
      exact hreplaced world content hworld hpart
    · cases hanswer
  · split at hanswer
    · cases hanswer
    · obtain ⟨-, rfl⟩ := Prod.mk.inj hanswer
      exact hstop _ world hworld

omit [Outside ω] in
theorem writeTemporary_ends {metadata : Metadata} {written : World ω → Prop}
    (hwritten : ∀ world, kept world → written (withTemporary (some metadata) world))
    (hfail : ∀ stop world, kept world → stopped stop (withTemporary none world)) :
    Ends faults kept (writeTemporary metadata) (fun _ => written) stopped := by
  refine fileCall_ends (fun world value next hworld hanswer => ?_)
    (fun world error next _ hanswer => ?_) fun stop _ world _ => hfail stop world
  · obtain ⟨-, rfl⟩ := Prod.mk.inj hanswer
    exact hwritten world hworld
  · cases hanswer

omit [Outside ω] in
theorem replaceMetadata_ends {metadata : Metadata} {replaced : World ω → Prop}
    (hreplaced : ∀ world, kept world → replaced (metadataAdmitted metadata world))
    (hstop : ∀ stop world, kept world → stopped stop world) :
    Ends faults (fun world => kept world ∧ world.disk.temporary = some metadata) replaceMetadata
      (fun _ => replaced) stopped := by
  unfold replaceMetadata
  refine fileStep_ends (fun world value next hworld hanswer => ?_)
    (fun world error next hworld hanswer => ?_) fun stop world hworld => hstop stop world hworld.1
  · rw [hworld.2] at hanswer
    obtain ⟨-, rfl⟩ := Prod.mk.inj hanswer
    exact hreplaced world hworld.1
  · rw [hworld.2] at hanswer
    cases hanswer

omit [Outside ω] in
/-- The metadata are written to the temporary file, which replaces the old ones. -/
theorem writeCacheMetadata_ends {metadata : Metadata} {replaced : World ω → Prop}
    (htemporary : ∀ world temporary, kept world → kept (withTemporary temporary world))
    (hreplaced : ∀ world, kept world → replaced (metadataAdmitted metadata world))
    (hstop : ∀ stop world, kept world → stopped stop world) :
    Ends faults kept (writeCacheMetadata metadata) (fun _ => replaced) stopped := by
  have hwritten : Ends faults kept (writeTemporary metadata)
      (fun _ world => kept world ∧ world.disk.temporary = some metadata) stopped :=
    writeTemporary_ends (fun world hworld => ⟨htemporary world _ hworld, rfl⟩)
      fun stop world hworld => hstop stop _ (htemporary world none hworld)
  refine Ends.bind hwritten fun _ => ?_
  refine Ends.bind ?_ fun _ => replaceMetadata_ends hreplaced hstop
  refine fileStep_ends (fun world value next hworld hanswer => ?_)
    (fun world error next _ hanswer => ?_) fun stop world hworld => hstop stop world hworld.1
  · obtain ⟨-, rfl⟩ := Prod.mk.inj hanswer
    exact hworld
  · cases hanswer

/-! ## Failures -/

theorem provenance_ends (hkept : Steady kept) {start : ℚ} {trail : Trail} {requestedUrl finalUrl}
    {retrievedAt status digest contentBytes networkBytes reason retries contentDigest} :
    Ends faults kept (provenance start trail requestedUrl finalUrl retrievedAt status digest
      contentBytes networkBytes reason retries contentDigest)
      (fun record world => kept world ∧ record.requestedUrl = requestedUrl ∧
        record.responseStatus = status ∧ record.contentDigest = contentDigest ∧
        record.contentByteCount = contentBytes ∧ record.retrievedAtUtc = retrievedAt) stopped :=
  Ends.bind (ticking_ends hkept) fun _ => Ends.ret fun _ hworld =>
    ⟨hworld, rfl, rfl, rfl, rfl, rfl⟩

/-- The errors of a failure are not those of a body. -/
abbrev RaisesPlainly (kept : World ω → Prop) (stopped : Stop SourceError → World ω → Prop) :
    Prop :=
  ∀ error world, (∀ counted, lostBytes counted error = counted) → kept world →
    stopped (.raised error) world

omit [Outside ω] in
theorem lift_plain {α : Type} {result : Except SourceError α}
    (hstop : RaisesPlainly kept stopped)
    (hresult : ∀ error, result = .error error → ∀ counted, lostBytes counted error = counted) :
    Ends faults kept (Call.lift result) (fun value world => kept world ∧ result = .ok value)
      stopped :=
  Ends.lift (fun _ hvalue _ hworld => ⟨hworld, hvalue⟩) fun error herror world =>
    hstop error world (hresult error herror)

theorem failure_plain {α : Type} (hkept : Steady kept) (hstop : RaisesPlainly kept stopped)
    {kind message classification requestedUrl start} {trail : Trail} {status}
    {after : α → World ω → Prop} :
    Ends faults kept (failure kind message classification requestedUrl start trail status) after
      stopped := by
  refine Ends.bind (provenance_ends hkept) fun record => ?_
  refine Ends.branch (fun _ => ?_) fun _ => ?_
  · exact Ends.raise fun world hworld => hstop _ world (fun _ => rfl) hworld.1
  · exact Ends.raise fun world hworld => hstop _ world (fun _ => rfl) hworld.1

/-- A failure raises, whatever it tells. -/
theorem failure_ends {α : Type} (hkept : Steady kept) (hstop : Raises kept stopped)
    {kind message classification requestedUrl start} {trail : Trail} {status}
    {after : α → World ω → Prop} :
    Ends faults kept (failure kind message classification requestedUrl start trail status) after
      stopped :=
  failure_plain hkept fun error world _ => hstop error world

theorem requireElapsed_plain (hkept : Steady kept) (hstop : RaisesPlainly kept stopped)
    {downloader : Downloader} {start : ℚ} {trail : Trail} {url : String} :
    Ends faults kept (requireElapsed downloader start trail url) (fun _ => kept) stopped := by
  refine Ends.bind ((remaining_ends hkept downloader start).to fun _ _ hboth => hboth.1)
    fun left => Ends.branch (fun _ => ?_) fun _ => ?_
  · exact failure_plain hkept hstop
  · exact Ends.ret fun _ => id

theorem requireElapsed_ends (hkept : Steady kept) (hstop : Raises kept stopped)
    {downloader : Downloader} {start : ℚ} {trail : Trail} {url : String} :
    Ends faults kept (requireElapsed downloader start trail url) (fun _ => kept) stopped :=
  requireElapsed_plain hkept fun error world _ => hstop error world

/-! ## Pauses -/

/-- A condition that survives the pauses that fit in the elapsed budget. -/
def Pausing (downloader : Downloader) (start : ℚ) (kept : World ω → Prop) : Prop :=
  ∀ world delay, kept world →
    delay < downloader.policy.totalElapsedBudgetSeconds - ((audit world.log).now - start) →
    kept (paused delay world)

theorem pause_ends {downloader : Downloader} {start : ℚ} (hpause : Pausing downloader start kept)
    (delay : ℚ) :
    Ends faults (fun world => kept world ∧ delay < downloader.policy.totalElapsedBudgetSeconds -
        ((audit world.log).now - start)) (pause delay) (fun _ => kept) stopped := by
  refine Ends.branch (fun _ => Ends.ret fun _ hworld => hworld.1) fun _ => ?_
  refine Ends.ask (fun world value next hworld hanswer => ?_) fun world error next _ hanswer => ?_
  · cases hanswer
    exact hpause world delay hworld.1 hworld.2
  · cases hanswer

/-- No pause is longer than the time that is left. -/
theorem sleepWithBudget_ends {downloader : Downloader} {start : ℚ} (hkept : Steady kept)
    (hpause : Pausing downloader start kept) (hstop : Raises kept stopped) {delay : ℚ}
    {trail : Trail} {url : String} :
    Ends faults kept (sleepWithBudget downloader delay start trail url) (fun _ => kept)
      stopped := by
  refine Ends.branch (fun _ => failure_ends hkept hstop) fun _ => ?_
  refine Ends.bind (remaining_ends hkept downloader start) fun left => ?_
  refine Ends.branch (fun _ => ?_) fun hleft => ?_
  · exact (failure_ends hkept hstop).from fun _ hworld => hworld.1
  · refine Ends.bind ((pause_ends hpause delay).from fun world hworld => ⟨hworld.1, ?_⟩)
      fun _ => requireElapsed_ends hkept hstop
    rw [← hworld.2]
    exact not_le.mp hleft

theorem pace_ends {fetching : Fetching} {progress : Progress} (hkept : Steady kept)
    (hpause : Pausing fetching.downloader fetching.start kept) (hstop : Raises kept stopped) :
    Ends faults kept (pace fetching progress) (fun _ => kept) stopped := by
  refine Ends.bind Ends.glance fun last => ?_
  cases last with
  | none => exact Ends.ret fun _ => id
  | some last =>
      refine Ends.bind (ticking_ends hkept) fun now => ?_
      exact Ends.branch (fun _ => sleepWithBudget_ends hkept hpause hstop) fun _ =>
        Ends.ret fun _ => id

/-! ## Attempts and retries -/

theorem makeAttempt_ends (hkept : Steady kept) (hstop : Raises kept stopped) {trail : Trail}
    {url startedAt startedAtUtc status classification bytesReceived digest retryAfter} :
    Ends faults kept (makeAttempt trail url startedAt startedAtUtc status classification
      bytesReceived digest retryAfter) (fun _ => kept) stopped :=
  Ends.bind (utcText_ends hkept hstop) fun _ => Ends.bind (ticking_ends hkept) fun _ =>
    Ends.ret fun _ => id

/-- The loop variables after an attempt was added. -/
def Attempted (progress next : Progress) : Prop :=
  ∃ attempt, next = { progress with trail := progress.trail.add attempt }

theorem attempted_ends (hkept : Steady kept) (hstop : Raises kept stopped) {progress : Progress}
    {sending status classification bytesReceived digest retryAfter} :
    Ends faults kept (attempted progress sending status classification bytesReceived digest
      retryAfter) (fun next world => kept world ∧ Attempted progress next) stopped :=
  Ends.bind (makeAttempt_ends hkept hstop) fun attempt => Ends.ret fun _ hworld =>
    ⟨hworld, attempt, rfl⟩

theorem retryDelay_ends {fetching : Fetching} {progress : Progress} (hkept : Steady kept)
    (hstop : Raises kept stopped) {status : Option ℕ} {delay : Delay} :
    Ends faults kept (retryDelay fetching progress status delay) (fun _ => kept) stopped := by
  cases delay with
  | backoff => exact Ends.ret fun _ => id
  | provider retryAfter =>
      refine Ends.branch (fun _ => failure_ends hkept hstop) fun _ => ?_
      refine Ends.bind ((remaining_ends hkept _ _).to fun _ _ hboth => hboth.1) fun left => ?_
      exact Ends.branch (fun _ => failure_ends hkept hstop) fun _ => Ends.ret fun _ => id

/-- The loop variables after a retry. -/
def Retried (progress next : Progress) : Prop :=
  ∃ seconds, next = { progress with
    retryCount := progress.retryCount + 1, trail := progress.trail.delayed seconds }

theorem retry_ends {fetching : Fetching} {progress : Progress} {again : World ω → Prop}
    (hkept : Steady kept) (hstop : Raises kept stopped)
    (hretry : ∀ world, kept world → again (world.record .retried)) (hagain : Steady again)
    (hpause : Pausing fetching.downloader fetching.start again) (hhalt : Raises again stopped)
    {classifies : Bool} {status : Option ℕ} {delay : Delay} :
    Ends faults kept (retry fetching progress classifies status delay)
      (fun next world => again world ∧ Retried progress next) stopped := by
  refine Ends.bind Ends.glance fun capacity => ?_
  refine Ends.branch (fun _ => ?_) fun _ => ?_
  · refine Ends.bind (retryDelay_ends hkept hstop) fun seconds => ?_
    refine Ends.bind (note_ends hretry) fun _ => ?_
    refine Ends.bind (sleepWithBudget_ends hagain hpause hhalt) fun _ => ?_
    exact Ends.ret fun _ hworld => ⟨hworld, seconds, rfl⟩
  · exact Ends.bind Ends.glance fun _ => failure_ends hkept hstop

section Serving

variable [TransportServices]

/-! ## Bodies -/

omit [Outside ω] [TransportServices] in
theorem bind_eq_error {α β : Type} {first : Except SourceError α}
    {next : α → Except SourceError β} {error : SourceError} :
    (first >>= next) = .error error ↔
      first = .error error ∨ ∃ value, first = .ok value ∧ next value = .error error := by
  constructor
  · intro hbind
    cases first with
    | error failure =>
        cases hbind
        exact .inl rfl
    | ok value => exact .inr ⟨value, rfl, hbind⟩
  · rintro (rfl | ⟨value, rfl, hnext⟩)
    · rfl
    · exact hnext

omit [Outside ω] in
theorem rangePlan_plain {headers : List (String × String)} {start : ℕ} {error : SourceError}
    (herror : rangePlan headers start = .error error) (counted : ℕ) :
    lostBytes counted error = counted := by
  unfold rangePlan at herror
  split at herror
  · cases herror
    rfl
  · split_ifs at herror <;> cases herror <;> rfl

omit [Outside ω] in
theorem declaredLength_plain {headers : List (String × String)} {error : SourceError}
    (herror : declaredLength headers = .error error) (counted : ℕ) :
    lostBytes counted error = counted := by
  unfold declaredLength at herror
  split at herror
  · cases herror
  · split at herror
    · cases herror
      rfl
    · split_ifs at herror
      cases herror
      rfl

omit [Outside ω] in
/-- What is wrong with the headers of a body says nothing of its bytes. -/
theorem bodyPlan_plain {status : ℕ} {headers : List (String × String)} {offset : ℕ}
    {error : SourceError} (herror : bodyPlan status headers offset = .error error)
    (counted : ℕ) : lostBytes counted error = counted := by
  have hrest : ∀ {append : Bool} {range : Option (ℕ × ℕ)},
      (declaredLength headers >>= fun contentLength =>
        if range.isSome ∧ contentLength.isSome ∧ contentLength ≠ range.map Prod.fst then
          Except.error (.integrity "HTTP 206 Content-Length differs from Content-Range.")
        else .ok (⟨append, range.map Prod.fst, range.map Prod.snd, contentLength⟩ : BodyPlan)) =
          .error error → lostBytes counted error = counted := by
    intro append range hrest
    rcases bind_eq_error.mp hrest with hlength | ⟨length, -, hrest⟩
    · exact declaredLength_plain hlength counted
    · split_ifs at hrest
      cases hrest
      rfl
  simp only [bodyPlan] at herror
  split at herror
  · rcases bind_eq_error.mp herror with hrange | ⟨range, -, herror⟩
    · cases hplan : rangePlan headers (if (decide (0 < offset) && decide (status = 206)) = true
          then offset else 0) with
      | error failure =>
          rw [hplan] at hrange
          cases hrange
          exact rangePlan_plain hplan counted
      | ok plan =>
          rw [hplan] at hrange
          cases hrange
    · exact hrest herror
  · exact hrest herror

theorem readRetryAfter_ends (hkept : Steady kept) (hstop : Raises kept stopped)
    {headers : List (String × String)} :
    Ends faults kept (readRetryAfter headers) (fun _ => kept) stopped :=
  Ends.bind (utcnow_ends hkept.utcnow) fun _ => (lift_ends hstop).to fun _ _ hboth => hboth.1

/-! ## Authorizations and destinations -/

omit [TransportServices] in
theorem requireCurrent_ends {decision : String} (hkept : Steady kept)
    (hstop : Raises kept stopped) :
    Ends faults kept (requireCurrent decision) (fun _ => kept) stopped := by
  refine Ends.ask (fun world value next hworld hanswer => ?_)
    fun world error next hworld hanswer => ?_
  · obtain ⟨-, rfl⟩ := Prod.mk.inj hanswer
    exact hkept.requireCurrent decision world hworld
  · obtain ⟨-, rfl⟩ := Prod.mk.inj hanswer
    exact hstop error _ (hkept.requireCurrent decision world hworld)

omit [TransportServices] in
theorem resolvePublicIps_ends {host : String} (hkept : Steady kept)
    (hstop : Raises kept stopped) :
    Ends faults kept (resolvePublicIps host) (fun _ => kept) stopped := by
  refine Ends.ask (fun world value next hworld hanswer => ?_)
    fun world error next hworld hanswer => ?_
  · obtain ⟨-, rfl⟩ := Prod.mk.inj hanswer
    exact hkept.resolvePublicIps host world hworld
  · obtain ⟨-, rfl⟩ := Prod.mk.inj hanswer
    exact hstop error _ (hkept.resolvePublicIps host world hworld)

omit [TransportServices] in
theorem currentAuthorizedEntry_ends {fetching : Fetching} {granted : Limits → World ω → Prop}
    (hkept : Steady kept) (hstop : Raises kept stopped)
    (hgranted : ∀ limits world, kept world → granted limits (world.record (.authorized limits))) :
    Ends faults kept (currentAuthorizedEntry fetching) granted stopped := by
  refine Ends.bind (requireCurrent_ends hkept hstop) fun manifest => ?_
  refine Ends.bind (lift_ends hstop) fun limits => ?_
  refine Ends.bind (note_ends fun world hworld => hgranted limits world hworld.1) fun _ => ?_
  exact Ends.ret fun _ => id

omit [TransportServices] in
/-- Without an authorization the fetch stops. -/
theorem authorize_ends {fetching : Fetching} {granted : Limits → World ω → Prop}
    (hkept : Steady kept) (hstop : Raises kept stopped)
    (hgranted : ∀ limits world, kept world → granted limits (world.record (.authorized limits)))
    {trail : Trail} {message : String} {status : Option ℕ} :
    Ends faults kept (authorize fetching trail message status) granted stopped := by
  refine Ends.bind (Ends.attempt (fun _ => kept)
    (currentAuthorizedEntry_ends hkept (fun _ _ => id) hgranted)) fun result => ?_
  cases result with
  | ok limits => exact Ends.ret fun _ => id
  | error error => exact failure_ends hkept hstop

omit [TransportServices] in
theorem requireResolverTime_ends {fetching : Fetching} (hkept : Steady kept)
    (hstop : Raises kept stopped) {trail : Trail} {url : String} {limits : Limits} :
    Ends faults kept (requireResolverTime fetching trail url limits) (fun _ => kept) stopped := by
  refine Ends.branch (fun _ => Ends.ret fun _ => id) fun _ => ?_
  refine Ends.bind ((remaining_ends hkept _ _).to fun _ _ hboth => hboth.1) fun left => ?_
  exact Ends.branch (fun _ => failure_ends hkept hstop) fun _ => Ends.ret fun _ => id

theorem resolveDestination_ends {fetching : Fetching} (hkept : Steady kept)
    (hstop : Raises kept stopped) {trail : Trail} {host url : String} {limits : Limits} :
    Ends faults kept (resolveDestination fetching trail host url limits) (fun _ => kept)
      stopped := by
  refine Ends.bind (requireResolverTime_ends hkept hstop) fun _ => ?_
  refine Ends.bind (resolvePublicIps_ends hkept hstop) fun addresses => ?_
  refine Ends.bind ((lift_ends hstop).to fun _ _ hboth => hboth.1) fun validated => ?_
  exact Ends.bind (requireElapsed_ends hkept hstop) fun _ => Ends.ret fun _ => id

omit [Outside ω] in
/-- What the cache holds is admitted with the content of the data file. -/
theorem admitCached_content {downloader : Downloader} {expectedUrl : Option String}
    {content : Content} {metadata : Metadata} {source : DownloadedSource}
    (hadmitted : admitCached downloader expectedUrl content metadata = .ok source) :
    source.content = content := by
  unfold admitCached at hadmitted
  cases hvalid : validateUrl downloader.policy metadata.url with
  | error error =>
      rw [hvalid] at hadmitted
      split_ifs at hadmitted <;> cases hadmitted
  | ok value =>
      rw [hvalid] at hadmitted
      split_ifs at hadmitted <;> cases hadmitted
      rfl

omit [Outside ω] in
theorem readCacheFiles_data {downloader : Downloader} {expectedUrl : Option String}
    {disk : Disk} {source : DownloadedSource}
    (hread : readCacheFiles downloader expectedUrl disk = .ok (some source)) :
    disk.data = some source.content := by
  unfold readCacheFiles at hread
  split at hread
  · cases hread
  · next content metadata hdata hmetadata =>
    cases hadmitted : admitCached downloader expectedUrl content metadata with
    | error error =>
        rw [hadmitted] at hread
        cases hread
    | ok found =>
        rw [hadmitted] at hread
        cases hread
        rw [hdata, admitCached_content hadmitted]
  · cases hread

omit [Outside ω] in
/-- The files of the cache are read. -/
theorem readCache_ends {downloader : Downloader} {expectedUrl : Option String}
    (hstop : ∀ stop world, kept world → stopped stop world) :
    Ends faults kept (readCache downloader expectedUrl) (fun cached world => kept world ∧
      readCacheFiles downloader expectedUrl world.disk = .ok cached) stopped := by
  refine Ends.disturbed (fun world cached next hworld hanswer => ?_)
    (fun world error next hworld hanswer => ?_) (fun _ world _ => hstop _ world)
    fun _ world _ => hstop _ world
  · obtain ⟨hvalue, rfl⟩ := Prod.mk.inj hanswer
    exact ⟨hworld, hvalue⟩
  · obtain ⟨-, rfl⟩ := Prod.mk.inj hanswer
    exact hstop _ world hworld

theorem cacheIsFresh_ends {downloader : Downloader} {cached : DownloadedSource}
    (hkept : ∀ world, kept world → kept { world with env := (Outside.utcnow world.env).2 })
    (hstop : Raises kept stopped) :
    Ends faults kept (cacheIsFresh downloader cached) (fun _ => kept) stopped := by
  unfold cacheIsFresh
  split
  · exact Ends.raise (hstop _)
  · exact Ends.raise (hstop _)
  · refine Ends.bind (utcnow_ends hkept) fun now => ?_
    exact Ends.branch (fun _ => Ends.raise (hstop _)) fun _ => Ends.ret fun _ => id

/-- What is served from the cache was cached. -/
theorem servesCached_ends {downloader : Downloader} {refresh : Bool}
    {cached : Option DownloadedSource}
    (hkept : ∀ world, kept world → kept { world with env := (Outside.utcnow world.env).2 })
    (hstop : Raises kept stopped) :
    Ends faults kept (servesCached downloader refresh cached)
      (fun served world => kept world ∧ ∀ source, served = some source → cached = some source)
      stopped := by
  unfold servesCached
  split
  · refine Ends.branch (fun _ => Ends.ret fun _ hworld => ⟨hworld, nofun⟩) fun _ => ?_
    refine Ends.bind (cacheIsFresh_ends hkept hstop) fun fresh => Ends.ret fun _ hworld => ?_
    refine ⟨hworld, fun source hsource => ?_⟩
    cases fresh with
    | true => exact hsource
    | false => cases hsource
  · exact Ends.ret fun _ hworld => ⟨hworld, nofun⟩

end Serving

end MatchVet.Ingestion.FetchRules
