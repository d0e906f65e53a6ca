import MatchVet.Ingestion.Delivery
import MatchVet.Ingestion.TurnRules

/-!
# Transport budgets

In every sequence of fetches the downloader keeps its byte limits, its redirects, its
retries, its pauses and the size of what it stores, and its loops end.  The requests of a
fetch stay within its authorization unless that is lowered between the budget check of a
request and its dispatch.
-/

namespace MatchVet.Ingestion.TransportBudget

open MatchVet.Foundation.CrashLogic
open MatchVet.Ingestion.Audit
open MatchVet.Ingestion.Delivery
open MatchVet.Ingestion.Downloader
open MatchVet.Ingestion.Fetch
open MatchVet.Ingestion.FetchRules
open MatchVet.Ingestion.Transport
open MatchVet.Ingestion.TurnRules

section Runs

variable {ω : Type} [Outside ω] [TransportServices]

/-! ## What the log and the counters say -/

/-- Every event kept the bounds, and the counters of the downloader are those of the log. -/
structure Sound (downloader : Downloader) (world : World ω) : Prop where
  log : Throughout (fun ledger event => Bounds downloader ledger event ∧ Checked ledger event)
    world.log
  requests : (audit world.log).totalRequests = world.networkRequests
  bytes : (audit world.log).totalBytes = world.networkBytes

/-- The ledger of a log and the variables of the loop say the same. -/
structure Matches (fetching : Fetching) (granted : Limits) (progress : Progress)
    (ledger : Ledger) : Prop where
  start : ledger.start = some fetching.start
  limits : ledger.limits = some granted
  visited : ledger.visited = progress.visited
  requests : ledger.requests = progress.requestCount
  bytes : ledger.bytes = progress.operationBytes
  redirects : ledger.redirects = progress.trail.redirects.length
  retries : ledger.retries = progress.retryCount

structure Tracks (fetching : Fetching) (granted : Limits) (progress : Progress)
    (world : World ω) : Prop where
  sound : Sound fetching.downloader world
  ledger : Matches fetching granted progress (audit world.log)
  visited : progress.currentUrl ∈ progress.visited
  valid : validUrl fetching.downloader.policy progress.currentUrl = true
  part : world.partSize ≤ fetching.downloader.maxSourceBytes

/-- The budgets were checked: a request more is allowed. -/
def Allowed (fetching : Fetching) (granted : Limits) (progress : Progress) (world : World ω) :
    Prop :=
  Tracks fetching granted progress world ∧
    (∃ checked, (audit world.log).checked = some checked ∧
      progress.requestCount < checked.requests) ∧
    world.networkRequests < fetching.downloader.policy.maxRequestCount

variable {fetching : Fetching} {granted : Limits} {progress : Progress} {world : World ω}

omit [Outside ω] in
/-- A log goes on with an event that keeps the bounds. -/
theorem Sound.snoc {downloader : Downloader} {next : World ω} {event : Event ω}
    (hsound : Sound downloader world) (hlog : next.log = world.log ++ [event])
    (hbounds : Bounds downloader (audit world.log) event)
    (hchecked : Checked (audit world.log) event)
    (hrequests : ((audit world.log).next event).totalRequests = next.networkRequests)
    (hbytes : ((audit world.log).next event).totalBytes = next.networkBytes) :
    Sound downloader next where
  log := by
    rw [hlog]
    exact throughout_snoc.mpr ⟨hsound.log, hbounds, hchecked⟩
  requests := by rw [hlog, audit_snoc, hrequests]
  bytes := by rw [hlog, audit_snoc, hbytes]

omit [Outside ω] in
/-- An event that counts nothing. -/
theorem Sound.record {downloader : Downloader} (hsound : Sound downloader world)
    (event : Event ω) (hbounds : Bounds downloader (audit world.log) event)
    (hchecked : Checked (audit world.log) event)
    (hrequests : ((audit world.log).next event).totalRequests =
      (audit world.log).totalRequests)
    (hbytes : ((audit world.log).next event).totalBytes = (audit world.log).totalBytes)
    (env : ω) (disk : Disk) :
    Sound downloader ({ world with env, disk }.record event) :=
  hsound.snoc rfl hbounds hchecked (hrequests.trans hsound.requests) (hbytes.trans hsound.bytes)

omit [Outside ω] in
theorem Tracks.env (htracks : Tracks fetching granted progress world) (env : ω) :
    Tracks fetching granted progress { world with env } :=
  ⟨⟨htracks.sound.log, htracks.sound.requests, htracks.sound.bytes⟩, htracks.ledger,
    htracks.visited, htracks.valid, htracks.part⟩

omit [Outside ω] [TransportServices] in
theorem Matches.clock {ledger : Ledger} (hmatches : Matches fetching granted progress ledger)
    (now : ℚ) : Matches fetching granted progress (ledger.next (.clock now : Event ω)) :=
  ⟨by rw [Ledger.next, hmatches.start]; rfl, hmatches.limits, hmatches.visited,
    hmatches.requests, hmatches.bytes, hmatches.redirects, hmatches.retries⟩

omit [Outside ω] in
/-- An event that the variables of the loop follow. -/
theorem Tracks.record {limits : Limits} (htracks : Tracks fetching granted progress world)
    (event : Event ω) (next : Progress)
    (hbounds : Bounds fetching.downloader (audit world.log) event)
    (hchecked : Checked (audit world.log) event)
    (hrequests : ((audit world.log).next event).totalRequests =
      (audit world.log).totalRequests)
    (hbytes : ((audit world.log).next event).totalBytes = (audit world.log).totalBytes)
    (hledger : Matches fetching limits next ((audit world.log).next event))
    (hcurrent : next.currentUrl ∈ next.visited ∧
      validUrl fetching.downloader.policy next.currentUrl = true)
    (env : ω) (disk : Disk)
    (hpart : (disk.part.getD []).length ≤ fetching.downloader.maxSourceBytes) :
    Tracks fetching limits next ({ world with env, disk }.record event) where
  sound := htracks.sound.record event hbounds hchecked hrequests hbytes env disk
  ledger := by
    change Matches fetching limits next (audit (world.log ++ [event]))
    rw [audit_snoc]
    exact hledger
  visited := hcurrent.1
  valid := hcurrent.2
  part := hpart

omit [Outside ω] in
theorem Tracks.clock (htracks : Tracks fetching granted progress world) (now : ℚ) :
    Tracks fetching granted progress (world.record (.clock now)) :=
  htracks.record (.clock now) progress trivial trivial rfl rfl (htracks.ledger.clock now)
    ⟨htracks.visited, htracks.valid⟩ world.env world.disk htracks.part

theorem tracks_steady : Steady (Tracks fetching granted progress : World ω → Prop) :=
  Steady.of_env (fun _ env htracks => htracks.env env) fun _ now htracks => htracks.clock now

theorem tracks_pausing :
    Pausing fetching.downloader fetching.start
      (Tracks fetching granted progress : World ω → Prop) := by
  intro world delay htracks hdelay
  refine htracks.record (.slept delay) progress ⟨fetching.start, htracks.ledger.start, hdelay⟩ trivial rfl rfl ?_
    ⟨htracks.visited, htracks.valid⟩ _ world.disk htracks.part
  exact htracks.ledger

omit [Outside ω] in
theorem Tracks.similar {next : Progress} (htracks : Tracks fetching granted progress world)
    (hsimilar : Similar progress next) : Tracks fetching granted next world := by
  obtain ⟨hurl, hvisited, hrequests, hbytes, hretries, hredirects⟩ := hsimilar
  have hledger := htracks.ledger
  refine ⟨htracks.sound, ⟨hledger.start, hledger.limits, ?_, ?_, ?_, ?_, ?_⟩, ?_, ?_,
    htracks.part⟩
  · rw [hvisited, hledger.visited]
  · rw [hrequests, hledger.requests]
  · rw [hbytes, hledger.bytes]
  · rw [hredirects, hledger.redirects]
  · rw [hretries, hledger.retries]
  · rw [hurl, hvisited]
    exact htracks.visited
  · rw [hurl]
    exact htracks.valid

omit [Outside ω] in
theorem Tracks.authorized (htracks : Tracks fetching granted progress world) (limits : Limits) :
    Tracks fetching limits progress (world.record (.authorized limits)) := by
  have hledger := htracks.ledger
  exact htracks.record (.authorized limits) progress trivial trivial rfl rfl
    ⟨hledger.start, rfl, hledger.visited, hledger.requests, hledger.bytes, hledger.redirects,
      hledger.retries⟩ ⟨htracks.visited, htracks.valid⟩ world.env world.disk htracks.part

omit [Outside ω] in
theorem Tracks.retried (htracks : Tracks fetching granted progress world)
    (hcount : progress.retryCount < fetching.downloader.policy.retryCount) :
    Tracks fetching granted { progress with retryCount := progress.retryCount + 1 }
      (world.record .retried) := by
  have hledger := htracks.ledger
  have hbounds : (audit world.log).retries < fetching.downloader.policy.retryCount := by
    rw [hledger.retries]
    exact hcount
  let next : Progress := { progress with retryCount := progress.retryCount + 1 }
  refine htracks.record .retried next hbounds trivial rfl rfl
    ⟨hledger.start, hledger.limits, hledger.visited, hledger.requests, hledger.bytes,
      hledger.redirects, ?_⟩ ⟨htracks.visited, htracks.valid⟩ world.env world.disk htracks.part
  exact congrArg (· + 1) hledger.retries

omit [Outside ω] in
theorem Tracks.redirected (htracks : Tracks fetching granted progress world) {target : String}
    (hop : SourceRedirect) (hvalid : validUrl fetching.downloader.policy target = true)
    (hvisited : target ∉ progress.visited)
    (hcount : progress.trail.redirects.length < fetching.downloader.policy.redirectCount) :
    Tracks fetching granted { progress with
      trail := progress.trail.redirect hop, currentUrl := target,
      visited := progress.visited ++ [target] } (world.record (.redirected target)) := by
  have hledger := htracks.ledger
  have hbounds : Bounds fetching.downloader (audit world.log) (.redirected target : Event ω) := by
    refine ⟨?_, hvalid, ?_⟩
    · rw [hledger.redirects]
      exact hcount
    · rw [hledger.visited]
      exact hvisited
  let next : Progress := { progress with
    trail := progress.trail.redirect hop, currentUrl := target,
    visited := progress.visited ++ [target] }
  refine htracks.record (.redirected target) next hbounds trivial rfl rfl
    ⟨hledger.start, hledger.limits, congrArg (· ++ [target]) hledger.visited, hledger.requests,
      hledger.bytes, ?_, hledger.retries⟩ ⟨List.mem_append_right _ (List.mem_singleton_self _),
        hvalid⟩ world.env world.disk htracks.part
  change (audit world.log).redirects + 1 = (progress.trail.redirects ++ [hop]).length
  rw [List.length_append, hledger.redirects]
  rfl

omit [Outside ω] in
/-- The partial file holds a content of allowed size. -/
theorem Tracks.store (htracks : Tracks fetching granted progress world) {content : Content}
    (hsize : content.length ≤ fetching.downloader.maxSourceBytes) :
    Tracks fetching granted progress (world.store content) :=
  htracks.record (.stored content.length) progress hsize trivial rfl rfl htracks.ledger ⟨htracks.visited, htracks.valid⟩ world.env
    _ hsize

omit [Outside ω] in
theorem Tracks.sent (htracks : Tracks fetching granted progress world) {request : HttpRequest}
    (hurl : request.url = progress.currentUrl)
    (htotal : world.networkRequests < fetching.downloader.policy.maxRequestCount)
    {checked : Limits} (hcheck : (audit world.log).checked = some checked)
    (hcount : progress.requestCount < checked.requests) (startedAt : ℚ) (env : ω) :
    Tracks fetching granted (Progress.requested progress) (world.sent request startedAt env) := by
  have hledger := htracks.ledger
  have hbounds : Bounds fetching.downloader (audit world.log)
      (.dispatched request world.env world.disk) := by
    refine ⟨?_, ?_, ?_⟩
    · rw [htracks.sound.requests]
      exact htotal
    · rw [hurl]
      exact htracks.valid
    · rw [hurl, hledger.visited]
      exact htracks.visited
  have hchecked : Checked (audit world.log) (.dispatched request world.env world.disk) := by
    refine ⟨⟨granted, hledger.limits⟩, checked, hcheck, ?_⟩
    rw [hledger.requests]
    exact hcount
  refine ⟨htracks.sound.snoc rfl hbounds hchecked ?_ htracks.sound.bytes, ?_, htracks.visited,
    htracks.valid, htracks.part⟩
  · exact congrArg (· + 1) htracks.sound.requests
  · change Matches fetching granted _ (audit (world.log ++ [_]))
    rw [audit_snoc]
    exact ⟨hledger.start, hledger.limits, hledger.visited,
      congrArg (· + 1) hledger.requests, hledger.bytes, hledger.redirects, hledger.retries⟩

omit [Outside ω] in
/-- Bytes that the budgets allow are counted. -/
theorem Tracks.received {count bytes : ℕ}
    (htracks : Tracks fetching granted (Progress.counted progress bytes) world)
    (htotal : world.networkBytes + count ≤
      min fetching.downloader.networkCapBytes fetching.downloader.policy.maxTotalBytes)
    (hlimit : progress.operationBytes + bytes + count ≤ granted.bytes) (env : ω) :
    Tracks fetching granted (Progress.counted progress (bytes + count))
      (world.received count env) := by
  have hledger := htracks.ledger
  have hbounds : Bounds fetching.downloader (audit world.log) (.received count : Event ω) := by
    refine ⟨?_, granted, hledger.limits, ?_⟩
    · rw [htracks.sound.bytes]
      exact htotal
    · rw [hledger.bytes]
      exact hlimit
  refine ⟨htracks.sound.snoc rfl hbounds trivial htracks.sound.requests ?_, ?_, htracks.visited,
    htracks.valid, htracks.part⟩
  · exact congrArg (· + count) htracks.sound.bytes
  · change Matches fetching granted _ (audit (world.log ++ [_]))
    rw [audit_snoc]
    refine ⟨hledger.start, hledger.limits, hledger.visited, hledger.requests, ?_,
      hledger.redirects, hledger.retries⟩
    change (audit world.log).bytes + count = progress.operationBytes + (bytes + count)
    rw [hledger.bytes, ← Nat.add_assoc]
    rfl

/-! ## Receiving -/

/-- `response.read(n)` returns at most `n` bytes. -/
def ReadsAtMost (ω : Type) [Outside ω] : Prop :=
  ∀ size (env : ω) chunk next, Outside.read size env = (.ok chunk, next) → chunk.length ≤ size

/-- A body is being received: so many bytes came in this answer. -/
def Receives (fetching : Fetching) (progress : Progress) (before currentSize byteCount : ℕ)
    (world : World ω) : Prop :=
  Tracks fetching progress.limits (Progress.counted progress byteCount) world ∧
    world.networkBytes = before + byteCount ∧ world.partSize = currentSize + byteCount

/-- A body stops arriving: what came is counted. -/
def LostBody (fetching : Fetching) (progress : Progress) (before : ℕ) (error : SourceError)
    (world : World ω) : Prop :=
  Tracks fetching progress.limits
    (Progress.counted progress (lostBytes (world.networkBytes - before) error)) world

omit [Outside ω] in
/-- The body stops arriving with an error that does not count bytes itself. -/
theorem lostBody_of_tracks {before byteCount : ℕ} {error : SourceError}
    (hplain : ∀ counted, lostBytes counted error = counted)
    (htracks : Tracks fetching progress.limits (Progress.counted progress byteCount) world)
    (hbytes : world.networkBytes = before + byteCount) :
    LostBody fetching progress before error world := by
  rw [LostBody, hplain, hbytes, Nat.add_sub_cancel_left]
  exact htracks

theorem receives_steady {before currentSize byteCount : ℕ} :
    Steady (Receives fetching progress before currentSize byteCount : World ω → Prop) :=
  tracks_steady.and ((steady_counters fun bytes _ => bytes = before + byteCount).and
    (steady_disk fun disk => (disk.part.getD []).length = currentSize + byteCount))

omit [Outside ω] in
theorem receives_plain {before currentSize byteCount : ℕ} :
    RaisesPlainly (Receives fetching progress before currentSize byteCount : World ω → Prop)
      (Stopping (LostBody fetching progress before) (Sound fetching.downloader)) :=
  fun _ _ hplain hworld => lostBody_of_tracks hplain hworld.1 hworld.2.1

omit [Outside ω] [TransportServices] in
/-- What is not more than the byte budget is within each of the budgets. -/
theorem le_bodyBudget {receiving : Receiving} {currentSize byteCount count : ℕ}
    (hcount : count ≤ bodyBudget receiving currentSize byteCount world)
    (hbudget : bodyBudget receiving currentSize byteCount world ≠ 0) :
    currentSize + byteCount + count ≤ receiving.fetching.downloader.maxSourceBytes ∧
      world.networkBytes + count ≤ min receiving.fetching.downloader.networkCapBytes
        receiving.fetching.downloader.policy.maxTotalBytes ∧
      receiving.progress.operationBytes + byteCount + count ≤ receiving.progress.limits.bytes := by
  simp only [bodyBudget] at hcount hbudget
  omega

variable {faults : Fate Leftover → Prop}

/-- A chunk of the body came, and is not written yet. -/
def Arrived (fetching : Fetching) (progress : Progress) (before currentSize byteCount count : ℕ)
    (world : World ω) : Prop :=
  Tracks fetching progress.limits (Progress.counted progress (byteCount + count)) world ∧
    world.networkBytes = before + (byteCount + count) ∧
    world.partSize = currentSize + byteCount ∧
    currentSize + byteCount + count ≤ fetching.downloader.maxSourceBytes

theorem arrived_steady {before currentSize byteCount count : ℕ} :
    Steady (Arrived fetching progress before currentSize byteCount count : World ω → Prop) :=
  tracks_steady.and ((steady_counters fun bytes _ => bytes = before + (byteCount + count)).and
    ((steady_disk fun disk => (disk.part.getD []).length = currentSize + byteCount).and
      (steady_const _)))

/-- A chunk of the body is read within the budgets. -/
theorem readChunk_arrives (hreads : ReadsAtMost ω) (receiving : Receiving)
    {before currentSize byteCount budget size : ℕ} (hsize : size ≤ budget) (hbudget : budget ≠ 0) :
    Ends faults
      (fun world => Receives receiving.fetching receiving.progress before currentSize byteCount
        world ∧ budget = bodyBudget receiving currentSize byteCount world)
      (readChunk size)
      (fun chunk => Arrived receiving.fetching receiving.progress before currentSize byteCount
        chunk.length)
      (Stopping (LostBody receiving.fetching receiving.progress before)
        (Sound receiving.fetching.downloader : World ω → Prop)) := by
  refine readChunk_ends (fun world chunk env hworld hanswer => ?_)
    fun world error env hworld _ => ?_
  · obtain ⟨⟨htracks, hbytes, hpart⟩, rfl⟩ := hworld
    have hlength : chunk.length ≤ bodyBudget receiving currentSize byteCount world :=
      (hreads size world.env chunk env hanswer).trans hsize
    obtain ⟨hmax, htotal, hlimit⟩ := le_bodyBudget hlength hbudget
    refine ⟨htracks.received htotal hlimit env, ?_, hpart, hmax⟩
    change world.networkBytes + chunk.length = _
    rw [hbytes, Nat.add_assoc]
  · obtain ⟨⟨htracks, hbytes, -⟩, -⟩ := hworld
    exact lostBody_of_tracks (fun _ => rfl) (htracks.env env) hbytes

omit [Outside ω] in
/-- The chunk is written, or a part of it. -/
theorem writeChunk_receives {before currentSize byteCount : ℕ} {chunk : Content} :
    Ends faults (Arrived fetching progress before currentSize byteCount chunk.length)
      (writeChunk chunk)
      (fun _ => Receives fetching progress before currentSize (byteCount + chunk.length))
      (Stopping (LostBody fetching progress before)
        (Sound fetching.downloader : World ω → Prop)) := by
  have hlength : ∀ {world : World ω}, Arrived fetching progress before currentSize byteCount
      chunk.length world → (world.disk.part.getD [] ++ chunk).length =
        currentSize + (byteCount + chunk.length) := by
    rintro world ⟨-, -, hpart, -⟩
    rw [List.length_append, ← Nat.add_assoc, ← hpart]
    rfl
  have hsize : ∀ {world : World ω}, Arrived fetching progress before currentSize byteCount
      chunk.length world → (world.disk.part.getD [] ++ chunk).length ≤
        fetching.downloader.maxSourceBytes := by
    intro world hworld
    rw [hlength hworld, ← Nat.add_assoc]
    exact hworld.2.2.2
  refine writeChunk_ends (fun world hworld => ?_) fun stop world count hstop hworld => ?_
  · exact ⟨hworld.1.store (hsize hworld), hworld.2.1, hlength hworld⟩
  · have htracks := hworld.1.store
      ((List.length_take_le' count (world.disk.part.getD [] ++ chunk)).trans (hsize hworld))
    rcases hstop with rfl | ⟨errno, rfl⟩
    · exact htracks.sound
    · exact lostBody_of_tracks (fun _ => rfl) htracks hworld.2.1

/-- The loop that reads a body keeps the budgets, and ends. -/
theorem receiveChunks_ends (hreads : ReadsAtMost ω) {status : ℕ} {deadline : ℚ}
    {contentLength : Option ℕ} {before currentSize : ℕ} (passes byteCount : ℕ) :
    Ends faults (Receives fetching progress before currentSize byteCount)
      (receiveChunks ⟨fetching, progress, status, deadline⟩ contentLength currentSize passes
        byteCount)
      (fun outcome world => match outcome with
        | none => Sound fetching.downloader world ∧
            passes + byteCount ≤ fetching.downloader.maxSourceBytes
        | some received => Receives fetching progress before currentSize received (world : World ω))
      (Stopping (LostBody fetching progress before) (Sound fetching.downloader)) := by
  induction passes generalizing byteCount with
  | zero =>
      refine Ends.ret fun world hworld => ⟨hworld.1.sound, ?_⟩
      have hpart := hworld.1.part
      rw [hworld.2.2] at hpart
      omega
  | succ passes ih =>
      let receiving : Receiving := ⟨fetching, progress, status, deadline⟩
      refine Ends.bind Ends.seen fun budget => ?_
      have hsteady : Steady fun world : World ω =>
          Receives fetching progress before currentSize byteCount world ∧
            budget = bodyBudget receiving currentSize byteCount world :=
        receives_steady.and (Steady.of_env (fun _ _ => id) fun _ _ => id)
      have hplain : RaisesPlainly (fun world : World ω =>
          Receives fetching progress before currentSize byteCount world ∧
            budget = bodyBudget receiving currentSize byteCount world)
          (Stopping (LostBody fetching progress before) (Sound fetching.downloader)) :=
        fun error world hcounts hworld => receives_plain error world hcounts hworld.1
      refine Ends.branch (fun _ => ?_) fun hbudget => ?_
      · refine Ends.branch (fun hlength => Ends.ret fun world hworld => hworld.1) fun _ => ?_
        exact Ends.raise fun world hworld => hplain _ world (fun _ => rfl) hworld
      refine Ends.bind (requireElapsed_plain hsteady hplain) fun _ => ?_
      refine Ends.bind (ticking_ends hsteady) fun now => ?_
      refine Ends.bind ((remaining_ends hsteady _ _).to fun _ _ hboth => hboth.1) fun left => ?_
      refine Ends.branch (fun _ => Ends.raise fun world hworld =>
        hplain _ world (fun _ => rfl) hworld) fun _ => ?_
      refine Ends.bind (readChunk_arrives hreads receiving
        (show min (64 * 1024) budget ≤ budget from min_le_right _ _) hbudget) fun chunk => ?_
      refine Ends.branch (fun hempty => ?_) fun hchunk => ?_
      · refine Ends.bind (ticking_ends arrived_steady) fun now => ?_
        refine Ends.branch (fun _ => Ends.raise fun world hworld =>
          lostBody_of_tracks (fun _ => rfl) hworld.1 hworld.2.1) fun _ => ?_
        refine Ends.ret fun world hworld => ?_
        subst hempty
        exact ⟨hworld.1, hworld.2.1, hworld.2.2.1⟩
      · refine Ends.bind writeChunk_receives fun _ => ?_
        refine Ends.bind (ticking_ends receives_steady) fun now => ?_
        refine Ends.branch (fun _ => Ends.raise fun world hworld =>
          receives_plain _ world (fun _ => rfl) hworld) fun _ => ?_
        refine (ih (byteCount + chunk.length)).to fun outcome world hend => ?_
        cases outcome with
        | some received => exact hend
        | none =>
            have hpositive := List.length_pos_iff.mpr hchunk
            exact ⟨hend.1, by omega⟩

/-! ## Bodies -/

/-- What holds before a body is received or sampled. -/
abbrev Answered (fetching : Fetching) (progress : Progress) (before : ℕ) (world : World ω) : Prop :=
  Tracks fetching progress.limits progress world ∧ Fits progress world ∧
    world.networkBytes = before

omit [Outside ω] in
theorem tracks_counted_zero (htracks : Tracks fetching granted progress world) :
    Tracks fetching granted (Progress.counted progress 0) world :=
  htracks.similar ⟨rfl, rfl, rfl, rfl, rfl, rfl⟩

omit [Outside ω] in
theorem answered_lost {before : ℕ} {error : SourceError}
    (hplain : ∀ counted, lostBytes counted error = counted)
    (hworld : Answered fetching progress before world) :
    LostBody fetching progress before error world :=
  lostBody_of_tracks hplain (tracks_counted_zero hworld.1) hworld.2.2

omit [Outside ω] in
/-- The partial file is opened where the body is to be put. -/
theorem openPart_receives {append : Bool} {before : ℕ} :
    Ends faults (Answered fetching progress before) (openPart append)
      (fun _ => Receives fetching progress before (if append then progress.offset else 0) 0)
      (Stopping (LostBody fetching progress before)
        (Sound fetching.downloader : World ω → Prop)) := by
  refine openPart_ends (fun world hworld => ?_) fun stop world hstop hworld => ?_
  · obtain ⟨htracks, hfits, hbytes⟩ := hworld
    cases append with
    | true => exact ⟨tracks_counted_zero (htracks.store htracks.part), hbytes, hfits⟩
    | false => exact ⟨tracks_counted_zero (htracks.store (Nat.zero_le _)), hbytes, rfl⟩
  · rcases hstop with rfl | ⟨errno, rfl⟩
    · exact hworld.1.sound
    · exact answered_lost (fun _ => rfl) hworld

omit [Outside ω] in
theorem flushPart_receives {before currentSize byteCount : ℕ} :
    Ends faults (Receives fetching progress before currentSize byteCount) flushPart
      (fun _ => Receives fetching progress before currentSize byteCount)
      (Stopping (LostBody fetching progress before)
        (Sound fetching.downloader : World ω → Prop)) := by
  refine flushPart_ends fun stop world count hstop hworld => ?_
  have htracks := hworld.1.store
    ((List.length_take_le' count (world.disk.part.getD [])).trans hworld.1.part)
  rcases hstop with rfl | ⟨errno, rfl⟩
  · exact htracks.sound
  · exact lostBody_of_tracks (fun _ => rfl) htracks hworld.2.1

omit [TransportServices] in
/-- An incomplete body counts the bytes that came. -/
theorem checkReceived_counts {plan : BodyPlan} {currentSize byteCount : ℕ} {error : SourceError}
    (herror : checkReceived plan currentSize byteCount = .error error) :
    lostBytes byteCount error = byteCount := by
  unfold checkReceived at herror
  split_ifs at herror <;> cases herror <;> rfl

omit [Outside ω] in
theorem checkReceived_receives {plan : BodyPlan} {before currentSize byteCount : ℕ} :
    Ends faults (Receives fetching progress before currentSize byteCount)
      (Call.lift (checkReceived plan currentSize byteCount))
      (fun _ => Receives fetching progress before currentSize byteCount)
      (Stopping (LostBody fetching progress before)
        (Sound fetching.downloader : World ω → Prop)) := by
  refine Ends.lift (fun _ _ _ => id) fun error herror world hworld => ?_
  obtain ⟨htracks, hbytes, -⟩ := hworld
  change Tracks _ _ (Progress.counted progress (lostBytes (world.networkBytes - before) error)) _
  rw [hbytes, Nat.add_sub_cancel_left, checkReceived_counts herror]
  exact htracks

omit [Outside ω] in
theorem answered_plain {before : ℕ} :
    RaisesPlainly (Answered fetching progress before : World ω → Prop)
      (Stopping (LostBody fetching progress before) (Sound fetching.downloader)) :=
  fun _ _ => answered_lost

/-- A body is received within the budgets, and its reading ends. -/
theorem receiveBody_ends (hreads : ReadsAtMost ω) {status : ℕ} {deadline : ℚ} {before passes : ℕ}
    {headers : List (String × String)} :
    Ends faults (Answered fetching progress before)
      (receiveBody passes ⟨fetching, progress, status, deadline⟩ headers)
      (fun outcome world => match outcome with
        | none => Sound fetching.downloader (world : World ω) ∧
            passes ≤ fetching.downloader.maxSourceBytes
        | some (received, _) =>
            Tracks fetching progress.limits (Progress.counted progress received) world)
      (Stopping (LostBody fetching progress before) (Sound fetching.downloader)) := by
  refine Ends.bind ((lift_plain answered_plain fun _ => bodyPlan_plain).to fun _ _ hboth =>
    hboth.1) fun plan => ?_
  refine Ends.branch (fun _ => Ends.raise fun world hworld =>
    answered_lost (fun _ => rfl) hworld) fun _ => ?_
  refine Ends.bind openPart_receives fun _ => ?_
  refine Ends.bind (receiveChunks_ends hreads passes 0) fun outcome => ?_
  cases outcome with
  | none => exact Ends.ret fun world => id
  | some received =>
      refine Ends.bind flushPart_receives fun _ => ?_
      refine Ends.bind (checkReceived_receives) fun _ => ?_
      exact Ends.ret fun world hworld => hworld.1

/-- Bytes of a sample came. -/
abbrev Sampled (fetching : Fetching) (progress : Progress) (before count : ℕ) (world : World ω) :
    Prop :=
  Tracks fetching progress.limits (Progress.counted progress count) world ∧
    Fits progress world ∧ world.networkBytes = before + count

/-- Where a sample stops arriving the bytes that came are counted. -/
abbrev LostSample (fetching : Fetching) (progress : Progress) (before : ℕ) (world : World ω) :
    Prop :=
  Tracks fetching progress.limits (Progress.counted progress (world.networkBytes - before)) world ∧
    Fits progress world

omit [Outside ω] in
theorem sampled_lost {before count : ℕ} (hworld : Sampled fetching progress before count world) :
    LostSample fetching progress before world := by
  obtain ⟨htracks, hfits, hbytes⟩ := hworld
  rw [LostSample, hbytes, Nat.add_sub_cancel_left]
  exact ⟨htracks, hfits⟩

theorem sampled_steady {before count : ℕ} :
    Steady (Sampled fetching progress before count : World ω → Prop) :=
  tracks_steady.and ((fits_steady progress).and
    (steady_counters fun bytes _ => bytes = before + count))

/-- A sample is read within the budgets. -/
theorem readResponseSample_ends (hreads : ReadsAtMost ω) {status : ℕ} {deadline : ℚ}
    {before : ℕ} :
    Ends faults (Answered fetching progress before)
      (readResponseSample ⟨fetching, progress, status, deadline⟩)
      (fun sample => Sampled fetching progress before sample.length)
      (Stopping (fun _ => LostSample fetching progress before)
        (Sound fetching.downloader : World ω → Prop)) := by
  have hstart : ∀ world : World ω, Answered fetching progress before world →
      Sampled fetching progress before 0 world := fun world hworld =>
    ⟨tracks_counted_zero hworld.1, hworld.2.1, hworld.2.2⟩
  have hsteady : ∀ available, Steady fun world : World ω =>
      Sampled fetching progress before 0 world ∧ available =
        sampleBudget ⟨fetching, progress, status, deadline⟩ world := fun available =>
    sampled_steady.and (Steady.of_env (fun _ _ => id) fun _ _ => id)
  have hread : ∀ available, available ≠ 0 → Ends faults
      (fun world => Sampled fetching progress before 0 world ∧ available =
        sampleBudget ⟨fetching, progress, status, deadline⟩ world)
      (readChunk available) (fun sample => Sampled fetching progress before sample.length)
      (Stopping (fun _ => LostSample fetching progress before)
        (Sound fetching.downloader : World ω → Prop)) := by
    intro available hpositive
    refine readChunk_ends (fun world chunk env hworld hanswer => ?_)
      fun world error env hworld _ => ?_
    · obtain ⟨⟨htracks, hfits, hbytes⟩, rfl⟩ := hworld
      have hlength := hreads _ _ _ _ hanswer
      simp only [sampleBudget] at hlength hpositive
      have hcounted : Tracks fetching progress.limits
          (Progress.counted progress (0 + chunk.length)) (world.received chunk.length env) :=
        htracks.received (by omega) (by omega) env
      rw [Nat.zero_add] at hcounted
      exact ⟨hcounted, hfits, congrArg (· + chunk.length) hbytes⟩
    · obtain ⟨⟨htracks, hfits, hbytes⟩, -⟩ := hworld
      exact sampled_lost ⟨htracks.env env, hfits, hbytes⟩
  refine Ends.bind (Ends.seen.from hstart) fun available => ?_
  refine Ends.branch (fun hspent => Ends.ret fun world hworld => hworld.1) fun hpositive => ?_
  refine Ends.bind ((remaining_ends (hsteady available) _ _).to fun _ _ hboth => hboth.1)
    fun left => ?_
  refine Ends.bind (ticking_ends (hsteady available)) fun now => ?_
  refine Ends.branch (fun _ => Ends.raise fun world hworld => sampled_lost hworld.1) fun _ => ?_
  refine Ends.bind (hread available hpositive) fun sample => ?_
  refine Ends.bind (ticking_ends sampled_steady) fun later => ?_
  exact Ends.branch (fun _ => Ends.raise fun world hworld => sampled_lost hworld) fun _ =>
    Ends.ret fun _ => id

theorem sound_steady {downloader : Downloader} :
    Steady (Sound downloader : World ω → Prop) :=
  Steady.of_env (fun _ _ hsound => ⟨hsound.log, hsound.requests, hsound.bytes⟩)
    fun world now hsound => hsound.record (.clock now) trivial trivial rfl rfl world.env world.disk

/-! ## Admission -/

omit [Outside ω] in
/-- Nothing of an admission counts. -/
theorem admit_ends {status : ℕ} {contentType retrievedAt : String} {content : Content}
    {operationBytes : ℕ} {record : SourceTransportProvenance} :
    Ends faults (Sound fetching.downloader)
      (admitContent fetching status contentType retrievedAt content operationBytes record)
      (fun turn world => ∃ source, turn = .returned source ∧ Sound fetching.downloader world)
      (fun _ => (Sound fetching.downloader : World ω → Prop)) := by
  refine Ends.bind (replaceData_ends (fun world content hworld _ =>
    hworld.record .dataReplaced trivial trivial rfl rfl _ _) fun _ _ => id) fun _ => ?_
  refine Ends.bind (writeCacheMetadata_ends (fun world temporary hworld => ?_)
    (fun world hworld => hworld.record .metadataReplaced trivial trivial rfl rfl _ _) fun _ _ => id) fun _ => ?_
  · exact ⟨hworld.log, hworld.requests, hworld.bytes⟩
  · exact Ends.ret fun _ hworld => ⟨_, rfl, hworld⟩

/-! ## The request loop -/

def budgetConditions (fetching : Fetching) (reads : ℕ) : Conditions ω where
  going := Tracks fetching
  ready := Allowed fetching
  answered _ progress := Tracks fetching progress.limits progress
  complete progress world := ∃ granted, Tracks fetching granted progress world
  returned _ := Sound fetching.downloader
  stuck world := Sound fetching.downloader world ∧ reads ≤ fetching.downloader.maxSourceBytes
  stopped := Sound fetching.downloader

theorem allowed_steady : Steady (Allowed fetching granted progress : World ω → Prop) := by
  refine tracks_steady.and (Steady.and (Steady.of_env (fun _ _ => id) fun world now hchecked => ?_)
    (steady_counters fun _ requests => requests < fetching.downloader.policy.maxRequestCount))
  change ∃ checked, (audit (world.log ++ [_])).checked = some checked ∧ _
  rw [audit_snoc]
  exact hchecked

theorem allowed_pausing : Pausing fetching.downloader fetching.start
    (Allowed fetching granted progress : World ω → Prop) := by
  intro world delay hallowed hdelay
  obtain ⟨htracks, hchecked, htotal⟩ := hallowed
  refine ⟨tracks_pausing world delay htracks hdelay, ?_, htotal⟩
  change ∃ checked, (audit (world.log ++ [_])).checked = some checked ∧ _
  rw [audit_snoc]
  exact hchecked

omit [Outside ω] in
theorem Allowed.authorized (hallowed : Allowed fetching granted progress world) (limits : Limits) :
    Allowed fetching limits progress (world.record (.authorized limits)) := by
  obtain ⟨htracks, hchecked, htotal⟩ := hallowed
  refine ⟨htracks.authorized limits, ?_, htotal⟩
  change ∃ checked, (audit (world.log ++ [_])).checked = some checked ∧ _
  rw [audit_snoc]
  exact hchecked

omit [Outside ω] in
/-- A check of the budgets allows one request more. -/
theorem Tracks.checked (htracks : Tracks fetching progress.limits progress world)
    (hspent : spentBudget fetching.downloader progress.limits progress.requestCount
      progress.operationBytes world = none) :
    Allowed fetching progress.limits progress (world.record (.checked progress.limits)) := by
  have hledger := htracks.ledger
  unfold spentBudget at hspent
  split_ifs at hspent with hrequests hbytes htotal
  refine ⟨htracks.record (.checked progress.limits) progress trivial trivial rfl rfl
    ⟨hledger.start, hledger.limits, hledger.visited, hledger.requests, hledger.bytes,
      hledger.redirects, hledger.retries⟩ ⟨htracks.visited, htracks.valid⟩ world.env world.disk
      htracks.part, ⟨progress.limits, ?_, ?_⟩, ?_⟩
  · change (audit (world.log ++ [_])).checked = _
    rw [audit_snoc]
    rfl
  · exact (lt_min_iff.mp (not_le.mp hrequests)).2
  · exact not_le.mp htotal

/-- Every effect of a turn keeps the budgets. -/
theorem budgetConditions_carried (hreads : ReadsAtMost ω) (reads : ℕ) :
    Carried faults fetching reads (budgetConditions fetching reads : Conditions ω) where
  going_steady _ _ := tracks_steady
  ready_steady _ _ := allowed_steady
  answered_steady _ _ := tracks_steady
  complete_steady _ := Steady.exists fun _ => tracks_steady
  stopped_steady := sound_steady
  going_pausing _ _ := tracks_pausing
  ready_pausing _ _ := allowed_pausing
  going_stopped _ _ _ htracks := htracks.sound
  ready_going _ _ _ hallowed := hallowed.1
  answered_going _ _ _ := id
  complete_stopped := by
    rintro progress world ⟨granted, htracks⟩
    exact htracks.sound
  going_similar _ _ _ _ := Tracks.similar
  going_authorized _ _ limits _ htracks := htracks.authorized limits
  ready_similar _ _ next _ hallowed hsimilar := by
    refine ⟨hallowed.1.similar hsimilar, ?_, hallowed.2.2⟩
    rw [hsimilar.2.2.1]
    exact hallowed.2.1
  ready_authorized _ _ limits _ hallowed := hallowed.authorized limits
  complete_authorized := by
    rintro progress limits world ⟨granted, htracks⟩
    exact ⟨limits, htracks.authorized limits⟩
  checked _ _ := Tracks.checked
  dispatched := by
    rintro progress world request startedAt response env ⟨htracks, ⟨checked, hcheck, hcount⟩, htotal⟩
      - hurl - -
    exact htracks.sent hurl htotal hcheck hcount startedAt env
  undispatched := by
    rintro progress world request startedAt error env ⟨htracks, ⟨checked, hcheck, hcount⟩, htotal⟩
      hurl -
    exact htracks.sent hurl htotal hcheck hcount startedAt env
  retried _ _ _ := Tracks.retried
  redirected _ _ _ _ hop htracks := htracks.redirected hop
  emptied _ _ _ htracks := htracks.store (Nat.zero_le _)
  discarded _ _ _ htracks :=
    ⟨htracks.sound.log, htracks.sound.requests, htracks.sound.bytes⟩
  complete_discarded := by
    rintro progress world ⟨granted, htracks⟩
    exact ⟨htracks.sound.log, htracks.sound.requests, htracks.sound.bytes⟩
  sampled _ _ _ _ := (readResponseSample_ends hreads).to fun _ _ hworld => ⟨hworld.1, hworld.2.1⟩
  received _ _ _ _ _ := (receiveBody_ends hreads).to fun outcome _ hend => by
    rcases outcome with _ | ⟨received, appended⟩
    · exact hend
    · exact ⟨_, hend⟩
  admitted progress _ _ _ _ _ _ _ := admit_ends.from fun world hworld => by
    obtain ⟨⟨granted, htracks⟩, -⟩ := hworld
    exact htracks.sound

/-! ## Before the loop -/

/-- What the log says of a fetch before its loop begins. -/
structure Fresh (url : String) (ledger : Ledger) : Prop where
  visited : ledger.visited = [url]
  requests : ledger.requests = 0
  bytes : ledger.bytes = 0
  redirects : ledger.redirects = 0
  retries : ledger.retries = 0

/-- A fetch began, and has not read the clock. -/
def Begun (downloader : Downloader) (url : String) (world : World ω) : Prop :=
  Sound downloader world ∧ Fresh url (audit world.log) ∧ (audit world.log).start = none

/-- A fetch has read the clock. -/
def Opened (downloader : Downloader) (url : String) (start : ℚ) (world : World ω) : Prop :=
  Sound downloader world ∧ Fresh url (audit world.log) ∧ (audit world.log).start = some start

def Granted (downloader : Downloader) (url : String) (start : ℚ) (limits : Limits)
    (world : World ω) : Prop :=
  Opened downloader url start world ∧ (audit world.log).limits = some limits

variable {downloader : Downloader} {url : String} {start : ℚ} {reads : ℕ}

omit [Outside ω] in
theorem Sound.begun (hsound : Sound downloader world) :
    Begun downloader url (world.record (.began url)) := by
  refine ⟨hsound.record (.began url) trivial trivial rfl rfl world.env world.disk, ?_, ?_⟩
  · change Fresh url (audit (world.log ++ [_]))
    rw [audit_snoc]
    exact ⟨rfl, rfl, rfl, rfl, rfl⟩
  · change (audit (world.log ++ [_])).start = none
    rw [audit_snoc]
    rfl

omit [Outside ω] [TransportServices] in
theorem Fresh.clock {ledger : Ledger} (hfresh : Fresh url ledger) (now : ℚ) :
    Fresh url (ledger.next (.clock now : Event ω)) :=
  ⟨hfresh.visited, hfresh.requests, hfresh.bytes, hfresh.redirects, hfresh.retries⟩

theorem Begun.opened (hbegun : Begun downloader url world)
    (hstart : start = (Outside.monotonic world.env).1) :
    Opened downloader url start (ticked world) := by
  refine ⟨sound_steady.monotonic world hbegun.1, ?_, ?_⟩
  · change Fresh url (audit (world.log ++ [_]))
    rw [audit_snoc]
    exact hbegun.2.1.clock _
  · change (audit (world.log ++ [_])).start = some start
    rw [audit_snoc, Ledger.next, hbegun.2.2, hstart]
    rfl

theorem opened_steady : Steady (Opened downloader url start : World ω → Prop) := by
  refine Steady.of_env (fun world env hopened => ?_) fun world now hopened => ?_
  · exact ⟨⟨hopened.1.log, hopened.1.requests, hopened.1.bytes⟩, hopened.2⟩
  · refine ⟨hopened.1.record (.clock now) trivial trivial rfl rfl world.env world.disk, ?_, ?_⟩
    · change Fresh url (audit (world.log ++ [_]))
      rw [audit_snoc]
      exact hopened.2.1.clock now
    · change (audit (world.log ++ [_])).start = some start
      rw [audit_snoc, Ledger.next, hopened.2.2]
      rfl

omit [Outside ω] in
theorem Opened.authorized (hopened : Opened downloader url start world) (limits : Limits) :
    Granted downloader url start limits (world.record (.authorized limits)) := by
  obtain ⟨hsound, hfresh, hstart⟩ := hopened
  refine ⟨⟨hsound.record (.authorized limits) trivial trivial rfl rfl world.env world.disk,
    ?_, ?_⟩, ?_⟩
  · change Fresh url (audit (world.log ++ [_]))
    rw [audit_snoc]
    exact ⟨hfresh.visited, hfresh.requests, hfresh.bytes, hfresh.redirects, hfresh.retries⟩
  · change (audit (world.log ++ [_])).start = some start
    rw [audit_snoc]
    exact hstart
  · change (audit (world.log ++ [_])).limits = some limits
    rw [audit_snoc]
    rfl

omit [Outside ω] in
/-- The loop begins with nothing spent. -/
theorem Granted.tracks {limits : Limits} {decision : String}
    (hgranted : Granted downloader url start limits world)
    (hvalid : validUrl downloader.policy url = true)
    (hsize : world.partSize ≤ downloader.maxSourceBytes) :
    Tracks ⟨downloader, url, decision, start⟩ limits
      (Progress.initial url limits world.partSize) world := by
  obtain ⟨⟨hsound, hfresh, hstart⟩, hlimits⟩ := hgranted
  exact ⟨hsound, ⟨hstart, hlimits, hfresh.visited, hfresh.requests, hfresh.bytes,
    hfresh.redirects, hfresh.retries⟩, List.mem_singleton_self _, hvalid, hsize⟩

/-- What happens before the loop keeps the budgets. -/
theorem budget_opening (hreads : ReadsAtMost ω) :
    Opening faults downloader url reads
      (fun fetching => budgetConditions ⟨downloader, url, fetching.decision, fetching.start⟩ reads)
      (fun _ => Sound downloader)
      (fun world => Sound downloader world ∧ reads ≤ downloader.maxSourceBytes)
      (Sound downloader) (Sound downloader) (Begun downloader url)
      (fun fetching => Opened downloader url fetching.start)
      (fun fetching => Granted downloader url fetching.start : Fetching → Limits → World ω → Prop)
    where
  carries := by
    rintro ⟨_, _, decision, start⟩ rfl rfl
    exact budgetConditions_carried hreads reads
  returned_returned _ _ _ := id
  stuck_stuck _ _ := id
  stopped_stopped _ _ := id
  begins _ := Sound.begun
  begun_utcnow _ hbegun :=
    ⟨⟨hbegun.1.log, hbegun.1.requests, hbegun.1.bytes⟩, hbegun.2⟩
  begun_stopped _ hbegun := hbegun.1
  serves _ _ hbegun _ := hbegun.1
  opens _ _ hstart hbegun := Begun.opened hbegun hstart
  opened_steady _ := opened_steady
  opened_stopped _ _ hopened := hopened.1
  grants _ limits _ hopened := Opened.authorized hopened limits
  granted_stopped _ _ _ hgranted := hgranted.1.1
  goes _ _ _ := Granted.tracks

/-! ## Runs -/

/-- A call of `fetch`: its arguments, how far its loops are followed, what disturbs it, and
the outside world and the files that it finds. -/
structure FetchCall (ω : Type) where
  url : String
  refresh : Bool
  decision : Option String
  reads : ℕ
  passes : ℕ
  fates : ℕ → Fate Leftover
  env : ω
  disk : Disk

namespace FetchCall

def call (downloader : Downloader) (fetching : FetchCall ω) :
    TransportCall ω (Option DownloadedSource) :=
  fetch fetching.reads fetching.passes downloader fetching.url fetching.refresh fetching.decision

def found (fetching : FetchCall ω) (world : World ω) : World ω :=
  { world with env := fetching.env, disk := fetching.disk }

end FetchCall

/-- One downloader makes some calls. -/
def runFetches (downloader : Downloader) (calls : List (FetchCall ω)) (world : World ω) :
    World ω :=
  calls.foldl (fun world fetching =>
    (fetching.call downloader).leaves fetching.fates (fetching.found world)) world

/-- A fetch keeps the budgets, and ends when its loops are followed far enough. -/
theorem call_ends (hreads : ReadsAtMost ω) (fetching : FetchCall ω) :
    Ends (fun _ => True) (Sound downloader) (fetching.call downloader)
      (FetchEnd downloader fetching.passes (fun _ => Sound downloader)
        (fun world => Sound downloader world ∧ fetching.reads ≤ downloader.maxSourceBytes)
        (Sound downloader)) fun _ => Sound downloader :=
  fetch_ends (budget_opening hreads)

theorem call_keeps (hreads : ReadsAtMost ω) (fetching : FetchCall ω)
    (hsound : Sound downloader world) :
    Sound downloader
      ((fetching.call downloader).leaves fetching.fates (fetching.found world)) := by
  refine Ends.leaves ((call_ends hreads fetching).to fun outcome later hend => ?_) ?_
    fun _ => trivial
  · cases outcome with
    | some source => exact hend
    | none => exact hend.elim (fun hstuck => hstuck.1) fun hstopped => hstopped.1
  · exact ⟨hsound.log, hsound.requests, hsound.bytes⟩

/-- Every run keeps the budgets. -/
theorem runFetches_sound (hreads : ReadsAtMost ω) (calls : List (FetchCall ω)) (world : World ω)
    (hsound : Sound downloader world) : Sound downloader (runFetches downloader calls world) := by
  induction calls generalizing world with
  | nil => exact hsound
  | cons fetching calls ih => exact ih _ (call_keeps hreads fetching hsound)

theorem fetch_terminates (hreads : ReadsAtMost ω) (fetching : FetchCall ω)
    (hsound : Sound downloader world)
    (hbody : downloader.maxSourceBytes < fetching.reads)
    (hloop : downloader.policy.retryCount + downloader.policy.redirectCount < fetching.passes) :
    (fetching.call downloader fetching.fates 0 (fetching.found world)).2.2 ≠ .ok none := by
  have hfound : Sound downloader (fetching.found world) :=
    ⟨hsound.log, hsound.requests, hsound.bytes⟩
  have hend := call_ends hreads fetching fetching.fates 0 _ (fun _ => trivial) hfound
  intro hresult
  rcases hcall : fetching.call downloader fetching.fates 0 (fetching.found world)
    with ⟨next, later, result⟩
  rw [hcall] at hend hresult
  change result = .ok none at hresult
  subst hresult
  rcases hend with hstuck | hstopped
  · exact absurd hstuck.2 (not_le.mpr hbody)
  · exact absurd hstopped.2 (not_le.mpr hloop)

/-! ## Budgets -/

/-- A declared body that takes no more than what is left of the byte budgets is received
whole, also when it takes just that. -/
def AcceptsDeclared (ω : Type) [Outside ω] : Prop :=
  ∀ (left : ω → Content → Prop) (limit : ℚ) (receiving : Receiving) (plan : BodyPlan)
    (headers : List (String × String)) (body : Content) (passes clock : ℕ)
    (fates : ℕ → Fate Leftover) (world : World ω),
    Delivers left limit → InTime receiving limit → left world.env body →
    bodyPlan receiving.status headers receiving.progress.offset = .ok plan →
    Announces receiving plan body → plan.contentLength = some body.length →
    body.length ≤
      bodyBudget receiving (BodyPlan.currentSize plan receiving.progress.offset) 0 world →
    body.length < passes → (∀ time, fates time = .proceed) →
    ∃ next later, receiveBody passes receiving headers fates clock world =
        (next, later, .ok (some (body.length, plan.append))) ∧
      next.disk.part =
        some ((if plan.append then world.disk.part.getD [] else []) ++ body)

theorem accepts_declared : AcceptsDeclared ω := by
  intro left limit receiving plan headers body passes clock fates world hdelivers htime hleft hplan
    hannounces hlength hbudget hpasses hfates
  have hend := @receiveBody_delivers ω _ left limit (fun _ _ => False) receiving _ hdelivers htime
    plan headers body passes (world.disk.part.getD []) hplan hannounces hpasses fates clock world
    hfates ⟨hleft, ⟨hbudget, .inl hlength⟩, rfl⟩
  rcases hcall : receiveBody passes receiving headers fates clock world
    with ⟨next, later, stop | outcome⟩
  · rw [hcall] at hend
    exact hend.elim
  · rw [hcall] at hend
    obtain ⟨rfl, -, hpart⟩ := hend
    exact ⟨next, later, rfl, hpart⟩

/-- A downloader that has not been used. -/
structure Unused (world : World ω) : Prop where
  bytes : world.networkBytes = 0
  requests : world.networkRequests = 0
  log : world.log = []

omit [Outside ω] in
theorem Unused.sound (hunused : Unused world) : Sound downloader world := by
  refine ⟨?_, ?_, ?_⟩
  · rw [hunused.log]
    exact throughout_nil
  · rw [hunused.log, hunused.requests]
    rfl
  · rw [hunused.log, hunused.bytes]
    rfl

/-- Every run of fetches keeps all budgets exactly when no request is sent under an
authorization that was lowered since its budget check to the requests already sent, or
below.  Every fetch ends, and a declared body that just fits is accepted. -/
theorem budgets_kept (hreads : ReadsAtMost ω) (downloader : Downloader)
    (calls : List (FetchCall ω)) (world : World ω) (hunused : Unused world) :
    (Throughout (Within downloader) (runFetches downloader calls world).log ↔
      Throughout (fun ledger event => ¬ Lowered ledger event)
        (runFetches downloader calls world).log) ∧
    (∀ fetching : FetchCall ω, downloader.maxSourceBytes < fetching.reads →
      downloader.policy.retryCount + downloader.policy.redirectCount < fetching.passes →
      (fetching.call downloader fetching.fates 0
        (fetching.found (runFetches downloader calls world))).2.2 ≠ .ok none) ∧
    AcceptsDeclared ω := by
  have hsound : Sound downloader (runFetches downloader calls world) :=
    runFetches_sound hreads calls world (Unused.sound hunused)
  exact ⟨within_iff_of_checked downloader hsound.log,
    fun fetching => fetch_terminates hreads fetching hsound, accepts_declared⟩

end Runs

/-! ## A lowered authorization -/

section Lowering

/-- A host that has granted some authorizations and delivers what is left of a body. -/
structure LoweringHost where
  grants : ℕ
  left : Content

def hostEntry (requests : ℤ) : ManifestEntry :=
  ⟨"u", "AUTOMATED_API", "PUBLIC", acquisitionOperations, some (requests, 9, 9), some false⟩

/-- The first four authorizations allow five requests, the later ones only one. -/
def hostManifest (grants : ℕ) : Manifest :=
  ⟨"research-source-use-manifest-v1", "RESEARCH_ONLY", 70, "ACQUISITION",
    [hostEntry (if grants < 4 then 5 else 1)]⟩

local instance : Outside LoweringHost where
  monotonic host := (0, host)
  utcnow host := (⟨0, some ""⟩, host)
  sleep _ host := host
  requireCurrent _ host := (.ok (hostManifest host.grants), { host with grants := host.grants + 1 })
  resolvePublicIps _ host := (.ok ["a"], host)
  request _ host := (.error (.system .timeout), host)
  read size host := (.ok (host.left.take size), { host with left := host.left.drop size })
  cacheSize host := (0, host)

local instance : TransportServices where
  casefold text := text
  urlsplit _ := some ⟨"https", some "h", none, none, none, "", "", "", ""⟩
  urljoin _ target := some target
  sha256 _ := ""
  foldedText _ := ""
  retryAfter _ _ := .ok 0
  contentRange _ := none
  integer _ := some 3
  ipAddress _ := some ⟨4, 1, true⟩
  instant _ := some (some 0)
  describe _ := ""
  recordLength _ := 0

theorem host_configured : [SourceTransportEndpoint.mk "h" ""] ≠ [] := by decide

theorem host_limits : 0 < 5 ∧ 0 < 9 := by decide

theorem host_timeout : (0 : ℚ) < 1 := by decide

theorem host_timeouts : (0 : ℚ) < 1 ∧ (0 : ℚ) < 1 := by decide

theorem host_durations : (0 : ℚ) ≤ 0 ∧ (0 : ℚ) ≤ 0 ∧ (0 : ℚ) ≤ 0 := by decide

def hostPolicy : SourceTransportPolicy where
  allowedEndpoints := [⟨"h", ""⟩]
  allowedCrossHostRedirects := []
  maxRequestCount := 5
  maxTotalBytes := 9
  perRequestTimeoutSeconds := 1
  totalElapsedBudgetSeconds := 1
  minimumPacingIntervalSeconds := 0
  retryCount := 1
  baseBackoffSeconds := 0
  maximumBackoffSeconds := 0
  redirectCount := 0
  endpoints_configured := host_configured
  limits_positive := host_limits
  timeouts_positive := host_timeouts
  durations_nonneg := host_durations

def hostDownloader : Downloader where
  maxSourceBytes := 3
  networkCapBytes := 9
  timeoutSeconds := 1
  cacheTtlSeconds := 1
  cacheStorageCapBytes := 1
  policy := hostPolicy
  authorizationSupplied := true
  resolverSupplied := true
  limits_positive := by decide
  timeout_positive := host_timeout

def hostCall : FetchCall LoweringHost :=
  ⟨"u", true, some "d", 4, 2, fun _ => .proceed, ⟨0, []⟩, ⟨none, none, none, none⟩⟩

def hostStart : World LoweringHost := ⟨⟨0, []⟩, ⟨none, none, none, none⟩, 0, 0, none, []⟩

def hostLog : List (Event LoweringHost) := (runFetches hostDownloader [hostCall] hostStart).log

def isDispatch : Event LoweringHost → Bool
  | .dispatched _ _ _ => true
  | _ => false

/-- The second request of the call is sent under an authorization for one. -/
theorem authorization_exceeded :
    ¬ Throughout (Within hostDownloader) (runFetches hostDownloader [hostCall] hostStart).log := by
  intro hwithin
  change Throughout (Within hostDownloader) hostLog at hwithin
  have hsecond : hostLog[22]?.map isDispatch = some true := by decide +kernel
  have hlimits : (audit (hostLog.take 22)).limits = some ⟨1, 9, 9⟩ := by decide +kernel
  have hrequests : (audit (hostLog.take 22)).requests = 1 := by decide +kernel
  cases hevent : hostLog[22]? with
  | none =>
      rw [hevent] at hsecond
      cases hsecond
  | some event =>
      rw [hevent, Option.map_some] at hsecond
      obtain ⟨-, hauthorized⟩ := throughout_getElem hwithin hevent
      cases event with
      | dispatched request env disk =>
          obtain ⟨limits, hfound, hbelow⟩ := hauthorized
          cases hlimits.symm.trans hfound
          exact absurd hbelow (by rw [hrequests]; exact Nat.lt_irrefl 1)
      | _ => cases hsecond

theorem host_readsAtMost : ReadsAtMost LoweringHost := by
  intro size host chunk next hread
  cases hread
  exact List.length_take_le _ _

theorem host_delivers : Delivers (fun host body => LoweringHost.left host = body) 1 where
  reads := by
    rintro host body size rfl hsize
    refine ⟨_, _, _, rfl, List.take_append_drop size host.left, List.length_take_le _ _,
      fun hempty => ?_, rfl⟩
    exact (List.take_eq_nil_iff.mp hempty).resolve_left (Nat.pos_iff_ne_zero.mp hsize)
  ticks := by
    rintro host body rfl
    exact ⟨show (0 : ℚ) < 1 by decide, rfl⟩

/-- Three bytes are left of the size limit, and a body of three bytes is declared. -/
def hostReceiving : Receiving :=
  ⟨⟨hostDownloader, "u", "d", 0⟩, Progress.initial "u" ⟨1, 9, 9⟩ 0, 200, 1⟩

def hostPlan : BodyPlan := ⟨false, none, none, some 3⟩

def hostWorld : World LoweringHost :=
  ⟨⟨0, [1, 2, 3]⟩, ⟨none, none, none, none⟩, 0, 1, none, []⟩

theorem host_budgets_kept :
    (Throughout (Within hostDownloader) (runFetches hostDownloader [hostCall] hostStart).log ↔
      Throughout (fun ledger event => ¬ Lowered ledger event)
        (runFetches hostDownloader [hostCall] hostStart).log) ∧
    (hostCall.call hostDownloader hostCall.fates 0
      (hostCall.found (runFetches hostDownloader [hostCall] hostStart))).2.2 ≠ .ok none ∧
    ∃ next later, receiveBody 4 hostReceiving [("content-length", "3")] (fun _ => .proceed) 0
        hostWorld = (next, later, .ok (some (3, false))) ∧
      next.disk.part = some [1, 2, 3] := by
  obtain ⟨hkept, hends, haccepts⟩ :=
    budgets_kept host_readsAtMost hostDownloader [hostCall] hostStart ⟨rfl, rfl, rfl⟩
  refine ⟨hkept, hends hostCall (by decide) (by decide), ?_⟩
  exact haccepts _ 1 hostReceiving hostPlan _ [1, 2, 3] 4 0 _ hostWorld host_delivers
    ⟨by decide +kernel, by decide +kernel⟩ rfl rfl ⟨by rintro total ⟨⟩, rfl⟩ rfl (by decide) (by decide)
    fun _ => rfl

end Lowering

end MatchVet.Ingestion.TransportBudget
