import MatchVet.Ingestion.Fetch

/-!
# The request loop

One turn of the loop checks the budgets, reads the authorization, sends a request and
deals with its answer.  It ends the fetch, or tells how the next turn begins.
-/

namespace MatchVet.Ingestion.Downloader

open MatchVet.Foundation.CrashLogic
open MatchVet.Ingestion.Fetch
open MatchVet.Ingestion.Transport

/-- What stays the same through a fetch. -/
structure Fetching where
  downloader : Downloader
  url : String
  decision : String
  start : ℚ

/-- The attempts and redirects so far. -/
structure Trail where
  attempts : List SourceTransportAttempt
  redirects : List SourceRedirect

/-- The variables of the loop. -/
structure Progress where
  trail : Trail
  currentUrl : String
  currentIps : Option (List String)
  visited : List String
  requestCount : ℕ
  operationBytes : ℕ
  retryCount : ℕ
  offset : ℕ
  limits : Limits

/-- How a turn of the loop ends: `continue`, or the returned source. -/
inductive Turn where
  | again (progress : Progress)
  | returned (source : DownloadedSource)

/-- The request that is being made. -/
structure Sending where
  startedAt : ℚ
  startedAtUtc : String
  deadline : ℚ

variable {ω : Type} [Outside ω]

/-! ## Failures -/

namespace Trail

def add (trail : Trail) (attempt : SourceTransportAttempt) : Trail :=
  { trail with attempts := trail.attempts ++ [attempt] }

def redirect (trail : Trail) (hop : SourceRedirect) : Trail :=
  { trail with redirects := trail.redirects ++ [hop] }

/-- `attempts[-1] = replace(attempts[-1], retry_delay_seconds=delay)`. -/
def delayed (trail : Trail) (delay : ℚ) : Trail :=
  { trail with attempts := trail.attempts.dropLast ++
      trail.attempts.getLast?.toList.map fun attempt =>
        { attempt with retryDelaySeconds := some delay } }

end Trail

/-- `_provenance`. -/
def provenance (start : ℚ) (trail : Trail) (requestedUrl : String) (finalUrl : Option String)
    (retrievedAt : Option String) (status : Option ℕ) (responseDigest : Option String)
    (contentByteCount networkByteCount : ℕ) (failure : Option String) (retries : ℕ)
    (contentDigest : Option String) : TransportCall ω SourceTransportProvenance := do
  let now ← monotonic
  Call.ret ⟨requestedUrl, finalUrl, trail.redirects, retrievedAt, status, responseDigest,
    contentDigest, contentByteCount, networkByteCount,
    (trail.attempts.filter fun attempt =>
      !"DNS_".toList.isPrefixOf attempt.classification.toList).length,
    failure, retries, max 0 (now - start), trail.attempts⟩

/-- `_refused`, `_unavailable`, `_budget_failure` and `_deferred_failure`. -/
def failure {α : Type} (kind : UnavailableKind) (message classification requestedUrl : String)
    (start : ℚ) (trail : Trail) (httpStatus : Option ℕ) : TransportCall ω α := do
  let last := trail.attempts.getLast?
  let record ← provenance start trail requestedUrl (last.map SourceTransportAttempt.url)
    (last.bind fun attempt => attempt.responseStatus.map fun _ => attempt.completedAtUtc)
    (httpStatus <|> last.bind SourceTransportAttempt.responseStatus)
    (last.bind SourceTransportAttempt.responseDigest)
    ((last.map SourceTransportAttempt.bytesReceived).getD 0)
    (trail.attempts.map SourceTransportAttempt.bytesReceived).sum (some classification)
    (trail.attempts.filter fun attempt => attempt.retryDelaySeconds.isSome).length none
  if httpStatus.all fun status => 100 ≤ status && status ≤ 599 then
    Call.raise (.unavailable ⟨kind, message, httpStatus, classification, some record⟩)
  else Call.raise (.value "SourceUnavailable HTTP status must be between 100 and 599.")

def refused {α : Type} (requestedUrl : String) (start : ℚ) (trail : Trail)
    (message classification : String) (httpStatus : Option ℕ) : TransportCall ω α :=
  failure .refused message classification requestedUrl start trail httpStatus

def unavailable {α : Type} (requestedUrl : String) (start : ℚ) (trail : Trail)
    (message classification : String) (httpStatus : Option ℕ) : TransportCall ω α :=
  failure .unavailable message classification requestedUrl start trail httpStatus

def budgetFailure {α : Type} (requestedUrl : String) (start : ℚ) (trail : Trail)
    (classification : String) (httpStatus : Option ℕ) : TransportCall ω α :=
  failure .budgetExceeded "Public source transport reached a configured bound." classification
    requestedUrl start trail httpStatus

def deferredFailure {α : Type} (requestedUrl : String) (start : ℚ) (trail : Trail)
    (message : String) (httpStatus : Option ℕ) : TransportCall ω α :=
  failure .deferred message "DEFERRED" requestedUrl start trail httpStatus

/-! ## Budgets -/

/-- `_remaining`. -/
def remaining (downloader : Downloader) (start : ℚ) : TransportCall ω ℚ := do
  let now ← monotonic
  Call.ret (downloader.policy.totalElapsedBudgetSeconds - (now - start))

/-- `_require_elapsed`. -/
def requireElapsed (downloader : Downloader) (start : ℚ) (trail : Trail) (url : String) :
    TransportCall ω Unit := do
  let left ← remaining downloader start
  if left ≤ 0 then budgetFailure url start trail "TOTAL_ELAPSED_BUDGET_EXHAUSTED" none
  else Call.ret ()

def requestsLeft (downloader : Downloader) (limits : Limits) (requestCount : ℕ)
    (world : World ω) : Bool :=
  requestCount < min downloader.policy.maxRequestCount limits.requests &&
    world.networkRequests < downloader.policy.maxRequestCount

def bytesLeft (downloader : Downloader) (limits : Limits) (operationBytes : ℕ)
    (world : World ω) : Bool :=
  operationBytes < min downloader.policy.maxTotalBytes limits.bytes &&
    world.networkBytes < min downloader.networkCapBytes downloader.policy.maxTotalBytes

/-- `_retry_capacity`. -/
def retryCapacity (downloader : Downloader) (limits : Limits)
    (requestCount operationBytes : ℕ) (world : World ω) : Bool :=
  requestsLeft downloader limits requestCount world &&
    bytesLeft downloader limits operationBytes world

/-- `_retry_limit_classification`. -/
def retryLimitClassification (downloader : Downloader) (limits : Limits)
    (requestCount operationBytes : ℕ) (world : World ω) : String :=
  if !requestsLeft downloader limits requestCount world then "REQUEST_BUDGET_EXHAUSTED"
  else if !bytesLeft downloader limits operationBytes world then "BYTE_BUDGET_EXHAUSTED"
  else "REQUEST_BUDGET_EXHAUSTED"

/-- The first budget of `_require_request_budget` that is spent. -/
def spentBudget (downloader : Downloader) (limits : Limits) (requestCount operationBytes : ℕ)
    (world : World ω) : Option String :=
  if min downloader.policy.maxRequestCount limits.requests ≤ requestCount then
    some "REQUEST_BUDGET_EXHAUSTED"
  else if min downloader.policy.maxTotalBytes limits.bytes ≤ operationBytes then
    some "BYTE_BUDGET_EXHAUSTED"
  else if downloader.policy.maxRequestCount ≤ world.networkRequests then
    some "REQUEST_BUDGET_EXHAUSTED"
  else if min downloader.networkCapBytes downloader.policy.maxTotalBytes ≤ world.networkBytes then
    some "BYTE_BUDGET_EXHAUSTED"
  else none

/-- `_require_request_budget`. -/
def requireRequestBudget (fetching : Fetching) (progress : Progress) : TransportCall ω Unit := do
  let spent ← Call.look (spentBudget fetching.downloader progress.limits progress.requestCount
    progress.operationBytes)
  match spent with
  | some classification =>
      budgetFailure progress.currentUrl fetching.start progress.trail classification none
  | none => note (.checked progress.limits)

def waitRefused (start : ℚ) (trail : Trail) (url : String) : TransportCall ω Unit :=
  deferredFailure ((trail.attempts.head?.map SourceTransportAttempt.url).getD url) start trail
    "Required provider wait exceeds the remaining transport time budget." none

def pause (delay : ℚ) : TransportCall ω Unit :=
  if delay = 0 then Call.ret () else sleep delay

/-- `_sleep_with_budget`. -/
def sleepWithBudget (downloader : Downloader) (delay start : ℚ) (trail : Trail) (url : String) :
    TransportCall ω Unit :=
  if delay < 0 then waitRefused start trail url
  else do
    let left ← remaining downloader start
    if left ≤ delay then waitRefused start trail url
    else do
      pause delay
      requireElapsed downloader start trail url

/-- `_pace`. -/
def pace (fetching : Fetching) (progress : Progress) : TransportCall ω Unit := do
  let last ← Call.look World.lastRequestStartedAt
  match last with
  | none => Call.ret ()
  | some last =>
      let now ← monotonic
      let wait := last + fetching.downloader.policy.minimumPacingIntervalSeconds - now
      if 0 < wait then
        sleepWithBudget fetching.downloader wait fetching.start progress.trail progress.currentUrl
      else Call.ret ()

/-- `_backoff`. -/
def backoff (downloader : Downloader) (retryCount : ℕ) : ℚ :=
  min (downloader.policy.baseBackoffSeconds * 2 ^ retryCount)
    downloader.policy.maximumBackoffSeconds

/-- `_make_attempt`. -/
def makeAttempt (trail : Trail) (url : String) (startedAt : ℚ) (startedAtUtc : String)
    (status : Option ℕ) (classification : String) (bytesReceived : ℕ)
    (responseDigest : Option String) (retryAfter : Option ℚ) :
    TransportCall ω SourceTransportAttempt := do
  let completedAt ← utcText
  let now ← monotonic
  Call.ret ⟨trail.attempts.length + 1, url, startedAtUtc, completedAt, max 0 (now - startedAt),
    status, classification, bytesReceived, responseDigest, retryAfter, none⟩

/-- The delay before a retry: the backoff, or `_retry_delay` after a `Retry-After`. -/
inductive Delay where
  | backoff
  | provider (retryAfter : Option ℚ)

def retryRefused (fetching : Fetching) (progress : Progress) (status : Option ℕ) :
    TransportCall ω ℚ :=
  deferredFailure fetching.url fetching.start progress.trail
    "Provider Retry-After exceeds the configured remaining budget." status

/-- `_retry_delay`, told as a deferral when it is refused. -/
def retryDelay (fetching : Fetching) (progress : Progress) (status : Option ℕ) :
    Delay → TransportCall ω ℚ
  | .backoff => Call.ret (backoff fetching.downloader progress.retryCount)
  | .provider retryAfter =>
      let delay := retryAfter.getD (backoff fetching.downloader progress.retryCount)
      if fetching.downloader.policy.maximumBackoffSeconds < delay then
        retryRefused fetching progress status
      else do
        let left ← remaining fetching.downloader fetching.start
        if left ≤ delay then retryRefused fetching progress status else Call.ret delay

/-- Try again after an attempt that may be repeated, within the budgets. -/
def retry (fetching : Fetching) (progress : Progress) (classifies : Bool) (status : Option ℕ)
    (delay : Delay) : TransportCall ω Progress := do
  let capacity ← Call.look (retryCapacity fetching.downloader progress.limits
    progress.requestCount progress.operationBytes)
  if capacity then do
    let seconds ← retryDelay fetching progress status delay
    note .retried
    sleepWithBudget fetching.downloader seconds fetching.start (progress.trail.delayed seconds)
      progress.currentUrl
    Call.ret { progress with
      retryCount := progress.retryCount + 1, trail := progress.trail.delayed seconds }
  else do
    let classification ← Call.look (retryLimitClassification fetching.downloader
      progress.limits progress.requestCount progress.operationBytes)
    budgetFailure fetching.url fetching.start progress.trail
      (if classifies then classification else "REQUEST_BUDGET_EXHAUSTED") status

/-- Whether a transient failure may be retried. -/
def mayRetry (fetching : Fetching) (progress : Progress) (transient : Bool) : Bool :=
  transient && progress.retryCount < fetching.downloader.policy.retryCount

section Serving

variable [TransportServices]

/-! ## Authorization and destination -/

/-- `_current_authorized_entry`. -/
def currentAuthorizedEntry (fetching : Fetching) : TransportCall ω Limits := do
  let manifest ← requireCurrent fetching.decision
  let limits ← Call.lift (authorizedLimits manifest fetching.url)
  note (.authorized limits)
  Call.ret limits

/-- The current authorization; without one the fetch is refused. -/
def authorize (fetching : Fetching) (trail : Trail) (message : String) (status : Option ℕ) :
    TransportCall ω Limits := do
  match ← Call.attempt (currentAuthorizedEntry fetching) with
  | .ok limits => Call.ret limits
  | .error _ => refused fetching.url fetching.start trail message "AUTHORIZATION_INVALID" status

/-- The time left for the default resolver. -/
def requireResolverTime (fetching : Fetching) (trail : Trail) (url : String) (limits : Limits) :
    TransportCall ω Unit :=
  if fetching.downloader.resolverSupplied then Call.ret ()
  else do
    let left ← remaining fetching.downloader fetching.start
    if min (min fetching.downloader.policy.perRequestTimeoutSeconds
        fetching.downloader.timeoutSeconds) (min limits.timeoutSeconds left) ≤ 0 then
      budgetFailure url fetching.start trail "TOTAL_ELAPSED_BUDGET_EXHAUSTED" none
    else Call.ret ()

/-- `_resolve_destination`. -/
def resolveDestination (fetching : Fetching) (trail : Trail) (host url : String)
    (limits : Limits) : TransportCall ω (List String) := do
  requireResolverTime fetching trail url limits
  let addresses ← resolvePublicIps host
  let validated ← Call.lift (validatePublicIps addresses)
  requireElapsed fetching.downloader fetching.start trail url
  Call.ret validated

/-- The addresses of the destination, or how to go on after a failed resolution. -/
def destination (fetching : Fetching) (progress : Progress) :
    TransportCall ω (Progress ⊕ List String) :=
  match progress.currentIps with
  | some addresses => Call.ret (.inr addresses)
  | none => do
      let host ← Call.lift (hostOf progress.currentUrl)
      match ← Call.attempt (resolveDestination fetching progress.trail host progress.currentUrl
          progress.limits) with
      | .ok addresses => Call.ret (.inr addresses)
      | .error (.policy message) =>
          refused fetching.url fetching.start progress.trail message "NONPUBLIC_DESTINATION" none
      | .error error =>
          if error.isOsError then
            let now ← monotonic
            let text ← utcText
            let attempt ← makeAttempt progress.trail progress.currentUrl now text none
              (if error.isTransient then "DNS_TEMPORARY" else "DNS_FAILURE") 0 none none
            let tried := { progress with trail := progress.trail.add attempt }
            if mayRetry fetching tried error.isTransient then
              let next ← retry fetching tried false none .backoff
              Call.ret (.inl next)
            else
              unavailable fetching.url fetching.start tried.trail
                "Public source DNS resolution failed." "DNS_FAILURE" none
          else Call.raise error

/-! ## Body of an answer -/

/-- What the headers of an answer say of its body. -/
structure BodyPlan where
  append : Bool
  expectedRangeBytes : Option ℕ
  totalLength : Option ℕ
  contentLength : Option ℕ

/-- The part of a range that starts where the body is to be put. -/
def rangePlan (headers : List (String × String)) (expectedStart : ℕ) :
    Except SourceError (ℕ × ℕ) :=
  match TransportServices.contentRange ((headerOf headers "content-range").getD "") with
  | none => .error (.integrity "HTTP 206 omitted a valid Content-Range header.")
  | some (rangeStart, rangeEnd, totalLength) =>
      if rangeStart ≠ expectedStart ∨ rangeEnd < rangeStart then
        .error (.integrity "HTTP 206 returned an unexpected byte range.")
      else if rangeEnd + 1 ≠ totalLength then
        .error (.integrity "HTTP 206 did not contain the complete remaining source.")
      else .ok (rangeEnd - rangeStart + 1, totalLength)

def declaredLength (headers : List (String × String)) : Except SourceError (Option ℕ) :=
  match headerOf headers "content-length" with
  | none => .ok none
  | some text =>
      match TransportServices.integer text with
      | none => .error (.integrity "Source response has an invalid Content-Length.")
      | some length =>
          if length < 0 then
            .error (.integrity "Source response has a negative Content-Length.")
          else .ok (some length.toNat)

/-- What `_receive_body` reads from the headers before it opens the partial file. -/
def bodyPlan (status : ℕ) (headers : List (String × String)) (offset : ℕ) :
    Except SourceError BodyPlan := do
  let append := 0 < offset && status = 206
  let range ← if status = 206 then
      (rangePlan headers (if append then offset else 0)).map some else .ok none
  let contentLength ← declaredLength headers
  if range.isSome ∧ contentLength.isSome ∧ contentLength ≠ range.map Prod.fst then
    .error (.integrity "HTTP 206 Content-Length differs from Content-Range.")
  else .ok ⟨append, range.map Prod.fst, range.map Prod.snd, contentLength⟩

/-- What `_receive_body` is told. -/
structure Receiving where
  fetching : Fetching
  progress : Progress
  status : ℕ
  deadline : ℚ

/-- The smallest of the byte budgets that are left.  A spent budget counts as zero. -/
def bodyBudget (receiving : Receiving) (currentSize byteCount : ℕ) (world : World ω) : ℕ :=
  let downloader := receiving.fetching.downloader
  let operationBytes := receiving.progress.operationBytes
  min (min (downloader.maxSourceBytes - currentSize - byteCount)
      (downloader.networkCapBytes - world.networkBytes))
    (min (min (downloader.policy.maxTotalBytes - world.networkBytes)
        (downloader.policy.maxTotalBytes - operationBytes - byteCount))
      (receiving.progress.limits.bytes - operationBytes - byteCount))

/-- `SourceBudgetExceeded` raised without a record of the transport. -/
def byteBudgetExceeded (message classification : String) (status : ℕ) : SourceError :=
  .unavailable ⟨.budgetExceeded, message, some status, classification, none⟩

/-- The loop that reads the body; none when it is still reading after so many passes. -/
def receiveChunks (receiving : Receiving) (contentLength : Option ℕ) (currentSize : ℕ) :
    ℕ → ℕ → TransportCall ω (Option ℕ)
  | 0, _ => Call.ret none
  | passes + 1, byteCount => do
      let budget ← Call.look (bodyBudget receiving currentSize byteCount)
      if budget = 0 then
        if contentLength = some byteCount then Call.ret (some byteCount)
        else Call.raise (byteBudgetExceeded
          "Source transport byte budget was exhausted before response completion."
          "BYTE_BUDGET_EXHAUSTED" receiving.status)
      else
        let fetching := receiving.fetching
        requireElapsed fetching.downloader fetching.start receiving.progress.trail
          receiving.progress.currentUrl
        let before ← monotonic
        let left ← remaining fetching.downloader fetching.start
        if min (receiving.deadline - before) left ≤ 0 then Call.raise (.system .timeout)
        else
          let chunk ← readChunk (min (64 * 1024) budget)
          if chunk = [] then
            let now ← monotonic
            if receiving.deadline ≤ now then Call.raise (.system .timeout)
            else Call.ret (some byteCount)
          else
            writeChunk chunk
            let now ← monotonic
            if receiving.deadline ≤ now then Call.raise (.system .timeout)
            else
              receiveChunks receiving contentLength currentSize passes (byteCount + chunk.length)

/-- The checks of `_receive_body` once the body has ended. -/
def checkReceived (plan : BodyPlan) (currentSize byteCount : ℕ) : Except SourceError Unit :=
  if plan.contentLength.any (· ≠ byteCount) then .error (.incompleteSourceBody byteCount)
  else if plan.expectedRangeBytes.any (· ≠ byteCount) then .error (.incompleteSourceBody byteCount)
  else if plan.totalLength.any (· ≠ currentSize + byteCount) then
    .error (.integrity "Source response byte total differs from Content-Range.")
  else .ok ()

/-- `_receive_body`: how many bytes came, and whether they were appended. -/
def receiveBody (passes : ℕ) (receiving : Receiving) (headers : List (String × String)) :
    TransportCall ω (Option (ℕ × Bool)) := do
  let plan ← Call.lift (bodyPlan receiving.status headers receiving.progress.offset)
  let currentSize := if plan.append then receiving.progress.offset else 0
  if plan.totalLength.any (receiving.fetching.downloader.maxSourceBytes < ·) then
    Call.raise (byteBudgetExceeded ("Source exceeded the " ++
      toString receiving.fetching.downloader.maxSourceBytes ++ "-byte limit.")
      "SOURCE_BYTE_LIMIT_EXCEEDED" receiving.status)
  else
    openPart plan.append
    match ← receiveChunks receiving plan.contentLength currentSize passes 0 with
    | none => Call.ret none
    | some byteCount =>
        flushPart
        Call.lift (checkReceived plan currentSize byteCount)
        Call.ret (some (byteCount, plan.append))

/-- How many bytes of an answer may be sampled. -/
def sampleBudget (receiving : Receiving) (world : World ω) : ℕ :=
  let downloader := receiving.fetching.downloader
  min (min (64 * 1024) (downloader.policy.maxTotalBytes - world.networkBytes))
    (min (downloader.networkCapBytes - world.networkBytes)
      (receiving.progress.limits.bytes - receiving.progress.operationBytes))

/-- `_read_response_sample`. -/
def readResponseSample (receiving : Receiving) : TransportCall ω Content := do
  let downloader := receiving.fetching.downloader
  let available ← Call.look (sampleBudget receiving)
  if available = 0 then Call.ret []
  else
    let left ← remaining downloader receiving.fetching.start
    let now ← monotonic
    if min (min downloader.policy.perRequestTimeoutSeconds downloader.timeoutSeconds)
        (min receiving.progress.limits.timeoutSeconds (min left (receiving.deadline - now))) ≤ 0 then
      Call.raise (.system .timeout)
    else
      let sample ← readChunk available
      let now ← monotonic
      if receiving.deadline ≤ now then Call.raise (.system .timeout) else Call.ret sample

/-! ## One answer -/

/-- An attempt of the request that is being made. -/
def attempted (progress : Progress) (sending : Sending) (status : Option ℕ)
    (classification : String) (bytesReceived : ℕ) (responseDigest : Option String)
    (retryAfter : Option ℚ) : TransportCall ω Progress := do
  let attempt ← makeAttempt progress.trail progress.currentUrl sending.startedAt
    sending.startedAtUtc status classification bytesReceived responseDigest retryAfter
  Call.ret { progress with trail := progress.trail.add attempt }

/-- Refuse after the attempt. -/
def refuseAttempt (fetching : Fetching) (progress : Progress) (sending : Sending)
    (status : ℕ) (bytesReceived : ℕ) (responseDigest : Option String)
    (message classification : String) : TransportCall ω Turn := do
  let tried ← attempted progress sending (some status) classification bytesReceived
    responseDigest none
  refused fetching.url fetching.start tried.trail message classification (some status)

/-- `_response_digest_from_partial`. -/
def partialDigest (byteCount : ℕ) : TransportCall ω (Option String) := Call.look fun world =>
  if byteCount = 0 then none
  else world.disk.part.map fun content => sha256 (content.drop (content.length - byteCount))

/-- The request could not be made. -/
def transportFailed (fetching : Fetching) (progress : Progress) (sending : Sending)
    (error : SourceError) : TransportCall ω Turn := do
  let classification :=
    if error.isTimeout then "REQUEST_TIMEOUT"
    else if error.isTransient then "TRANSIENT_TRANSPORT" else "TRANSPORT_FAILURE"
  let tried ← attempted progress sending none classification 0 none none
  if mayRetry fetching tried error.isTransient then
    let next ← retry fetching tried false none .backoff
    Call.ret (.again next)
  else
    unavailable fetching.url fetching.start tried.trail
      ("Public source transport failed: " ++ TransportServices.describe error)
      (if error.isTransient && 0 < tried.retryCount then "RETRY_EXHAUSTED" else classification)
      none

def readRetryAfter (headers : List (String × String)) : TransportCall ω (Option ℚ) := do
  let now ← utcnow
  Call.lift (retryAfterSeconds (headerOf headers "retry-after") now.instant)

/-- The answer came after the deadline of its request. -/
def answeredLate (fetching : Fetching) (progress : Progress) (sending : Sending) (status : ℕ)
    (headers : List (String × String)) : TransportCall ω Turn := do
  let retryAfter ← readRetryAfter headers
  let tried ← attempted progress sending (some status) "REQUEST_TIMEOUT" 0 none retryAfter
  if mayRetry fetching tried true then
    let next ← retry fetching tried true (some status) (.provider retryAfter)
    Call.ret (.again next)
  else
    unavailable fetching.url fetching.start tried.trail
      "Public source response exceeded its per-request timeout." "REQUEST_TIMEOUT" (some status)

def crossHostRefused : SourceError := .policy "Cross-host source redirect is not approved."

/-- The checks of a redirect target that come before its resolution: its host. -/
def redirectHost (fetching : Fetching) (currentUrl targetUrl : String) :
    Except SourceError String := do
  validateUrl fetching.downloader.policy targetUrl
  let sourceHost ← hostOf currentUrl
  let targetHost ← hostOf targetUrl
  if casefold sourceHost ≠ casefold targetHost ∧ (casefold sourceHost, casefold targetHost) ∉
      fetching.downloader.policy.allowedCrossHostRedirects then
    .error crossHostRefused
  else .ok targetHost

/-- The addresses of a redirect target that may be followed. -/
def redirectDestination (fetching : Fetching) (progress : Progress) (targetUrl : String)
    (limits : Limits) : TransportCall ω (List String) := do
  let host ← Call.lift (redirectHost fetching progress.currentUrl targetUrl)
  let addresses ← resolveDestination fetching progress.trail host targetUrl limits
  if targetUrl ∈ progress.visited then Call.raise (.policy "Source redirect loop detected.")
  else Call.ret addresses

/-- The errors that refuse a redirect: `(SourcePolicyError, OSError, ValueError)`. -/
def refusesRedirect : SourceError → Bool
  | .policy _ | .system (.value _) => true
  | error => error.isOsError

/-- Follow a redirect: what was kept of the body is dropped. -/
def followRedirect (progress : Progress) (sending : Sending) (status : ℕ)
    (targetUrl : String) (addresses : List String) (limits : Limits) : TransportCall ω Turn := do
  let hop : SourceRedirect := ⟨progress.currentUrl, targetUrl, status, true, none⟩
  let tried ← attempted { progress with trail := progress.trail.redirect hop } sending
    (some status) "REDIRECT" 0 none none
  note (.redirected targetUrl)
  emptyPart
  Call.ret (.again { tried with
    currentUrl := targetUrl, currentIps := some addresses,
    visited := progress.visited ++ [targetUrl], offset := 0, limits })

/-- The answer is a redirect. -/
def redirectAnswered (fetching : Fetching) (progress : Progress) (sending : Sending)
    (status : ℕ) (headers : List (String × String)) : TransportCall ω Turn := do
  match headerOf headers "location" with
  | none | some "" => do
      let tried ← attempted progress sending (some status) "REDIRECT_MISSING_LOCATION" 0 none none
      unavailable fetching.url fetching.start tried.trail
        "Public source redirect omitted its target." "REDIRECT_MISSING_LOCATION" (some status)
  | some location => do
      let targetUrl ← Call.lift ((urljoin progress.currentUrl location).elim
        (.error (.value "Invalid URL")) .ok)
      let hop (validated : Bool) (reason : Option String) : Progress :=
        let redirect : SourceRedirect :=
          ⟨progress.currentUrl, targetUrl, status, validated, reason⟩
        { progress with trail := progress.trail.redirect redirect }
      match ← Call.attempt (currentAuthorizedEntry fetching) with
      | .error _ =>
          let message := "Current source authorization changed before redirect validation."
          refuseAttempt fetching (hop false (some message)) sending status 0 none message
            "AUTHORIZATION_INVALID"
      | .ok limits =>
          match ← Call.attempt (redirectDestination fetching progress targetUrl limits) with
          | .error error =>
              if refusesRedirect error then
                refuseAttempt fetching
                  (hop false (some (TransportServices.describe error))) sending status 0 none
                  "Public source redirect target was refused before contact." "REDIRECT_REFUSED"
              else Call.raise error
          | .ok addresses =>
              if fetching.downloader.policy.redirectCount ≤ progress.trail.redirects.length then
                let tried ← attempted (hop true none) sending (some status)
                  "REDIRECT_LIMIT_EXHAUSTED" 0 none none
                budgetFailure fetching.url fetching.start tried.trail "REDIRECT_LIMIT_EXHAUSTED"
                  (some status)
              else
                match ← Call.lift (refusalReason status headers [] (some targetUrl)) with
                | some reason =>
                    refuseAttempt fetching (hop false (some reason)) sending status 0 none
                      "Public source redirected to an authentication or access challenge." reason
                | none => followRedirect progress sending status targetUrl addresses limits

/-- The answer is neither a redirect nor the source: its body is only sampled. -/
def errorAnswered (fetching : Fetching) (progress : Progress) (sending : Sending) (status : ℕ)
    (headers : List (String × String)) : TransportCall ω Turn := do
  let before ← Call.look World.networkBytes
  match ← Call.attempt (readResponseSample ⟨fetching, progress, status, sending.deadline⟩) with
  | .error error => do
      let now ← Call.look World.networkBytes
      let received := now - before
      let classification :=
        if error.isTimeout then "REQUEST_TIMEOUT"
        else if error.isTransient then "TRANSIENT_ERROR_BODY_FAILURE" else "ERROR_BODY_FAILURE"
      let retryAfter ← readRetryAfter headers
      let tried ← attempted { progress with operationBytes := progress.operationBytes + received }
        sending (some status) classification received none retryAfter
      if mayRetry fetching tried error.isTransient then
        let next ← retry fetching tried true (some status) (.provider retryAfter)
        Call.ret (.again next)
      else
        unavailable fetching.url fetching.start tried.trail
          ("Public source error response body failed: " ++ TransportServices.describe error)
          classification (some status)
  | .ok sample => do
      let refusal ← Call.lift (refusalReason status headers sample none)
      let retryAfter ← readRetryAfter headers
      let classification := refusal.getD
        (if status = 429 then "RATE_LIMIT" else "HTTP_" ++ toString status)
      let transient := transientHttpStatuses.contains status && refusal.isNone
      let tried ← attempted
        { progress with operationBytes := progress.operationBytes + sample.length }
        sending (some status) classification sample.length (some (sha256 sample)) retryAfter
      match refusal with
      | some reason => do
          discardPartial
          refused fetching.url fetching.start tried.trail
            "Public source returned a technical access refusal." reason (some status)
      | none =>
          if mayRetry fetching tried transient then
            let next ← retry fetching tried true (some status) (.provider retryAfter)
            Call.ret (.again next)
          else
            unavailable fetching.url fetching.start tried.trail
              ("Public source returned HTTP " ++ toString status ++ ".")
              (if transient && 0 < tried.retryCount then "RETRY_EXHAUSTED" else classification)
              (some status)

/-- The bytes of a body that did not arrive, as the loop counts them. -/
def lostBytes (counted : ℕ) : SourceError → ℕ
  | .incompleteSourceBody bytesReceived => bytesReceived
  | _ => counted

/-- The body did not arrive. -/
def bodyFailed (fetching : Fetching) (progress : Progress) (sending : Sending) (status : ℕ)
    (before : ℕ) (error : SourceError) : TransportCall ω Turn := do
  let now ← Call.look World.networkBytes
  match error with
  | .unavailable ⟨.budgetExceeded, _, _, classification, _⟩ => do
      let digest ← partialDigest (now - before)
      let tried ← attempted progress sending (some status) classification (now - before) digest none
      budgetFailure fetching.url fetching.start tried.trail classification (some status)
  | .integrity message => Call.raise (.integrity message)
  | error => do
      let received := lostBytes (now - before) error
      let classification :=
        if error.isTimeout then "REQUEST_TIMEOUT"
        else if error.isTransient then "TRANSIENT_BODY_FAILURE" else "BODY_FAILURE"
      let digest ← partialDigest received
      let tried ← attempted { progress with operationBytes := progress.operationBytes + received }
        sending (some status) classification received digest none
      if mayRetry fetching tried error.isTransient then
        let next ← retry fetching tried true (some status) .backoff
        let offset ← partSize
        Call.ret (.again { next with offset })
      else
        unavailable fetching.url fetching.start tried.trail
          ("Public source response body failed: " ++ TransportServices.describe error)
          (if error.isTransient && 0 < tried.retryCount then "RETRY_EXHAUSTED" else classification)
          (some status)

/-- Admit a complete body to the cache. -/
def admitContent (fetching : Fetching) (status : ℕ) (contentType retrievedAt : String)
    (content : Content) (operationBytes : ℕ) (record : SourceTransportProvenance) :
    TransportCall ω Turn := do
  replaceData
  writeCacheMetadata ⟨some 2, sha256 content, contentType, retrievedAt, status, fetching.url,
    some record⟩
  Call.ret (.returned ⟨content, retrievedAt, status, contentType, false, operationBytes,
    some record⟩)

/-- The body is complete: it is checked before it is admitted. -/
def bodyReceived (fetching : Fetching) (progress : Progress) (sending : Sending) (status : ℕ)
    (headers : List (String × String)) (contentType : String) (received : ℕ) :
    TransportCall ω Turn := do
  let operationBytes := progress.operationBytes + received
  let content ← readPart
  let body := content.drop (content.length - received)
  let refusal ← Call.lift (refusalReason status headers content none)
  let tried ← attempted progress sending (some status) (refusal.getD "SUCCESS") received
    (some (sha256 (if received = 0 then [] else body))) none
  match refusal with
  | some reason => do
      discardPartial
      refused fetching.url fetching.start tried.trail
        "Public source response contained a CAPTCHA, WAF, paywall or access challenge." reason
        (some status)
  | none => do
      let retrievedAt ← utcText
      match ← Call.attempt (currentAuthorizedEntry fetching) with
      | .error _ => do
          discardPartial
          refused fetching.url fetching.start tried.trail
            "Current source authorization changed before cache admission." "AUTHORIZATION_INVALID"
            (some status)
      | .ok _ => do
          let record ← provenance fetching.start tried.trail fetching.url (some progress.currentUrl)
            (some retrievedAt) (some status)
            (some (sha256 (if received = 0 then content else body))) content.length operationBytes
            none progress.retryCount (some (sha256 content))
          let size ← cacheSize
          if fetching.downloader.cacheStorageCapBytes <
              size + TransportServices.recordLength record + 512 then
            budgetFailure fetching.url fetching.start tried.trail "CACHE_STORAGE_BUDGET_EXHAUSTED"
              (some status)
          else admitContent fetching status contentType retrievedAt content operationBytes record

/-- The answer carries the source; none when the body is still being read. -/
def sourceAnswered (passes : ℕ) (fetching : Fetching) (progress : Progress) (sending : Sending)
    (status : ℕ) (headers : List (String × String)) (contentType : String) :
    TransportCall ω (Option Turn) := do
  let before ← Call.look World.networkBytes
  match ← Call.attempt (receiveBody passes ⟨fetching, progress, status, sending.deadline⟩
      headers) with
  | .error error => some <$> bodyFailed fetching progress sending status before error
  | .ok none => Call.ret none
  | .ok (some (received, _)) =>
      some <$> bodyReceived fetching progress sending status headers contentType received

def contentTypeOf (headers : List (String × String)) : String :=
  String.ofList (((headerOf headers "content-type").getD
    "application/octet-stream").toList.takeWhile (· ≠ ';'))

/-- The target that a redirect names, if it names one. -/
def lateRedirectTarget (progress : Progress) (status : ℕ) (headers : List (String × String)) :
    Except SourceError (Option String) :=
  if status ∈ redirectStatuses then
    match headerOf headers "location" with
    | none | some "" => .ok none
    | some location =>
        (urljoin progress.currentUrl location).elim (.error (.value "Invalid URL"))
          fun target => .ok (some target)
  else .ok none

/-- The refused redirect, when the refused answer names a target. -/
def refusedHop (progress : Progress) (status : ℕ) (target : Option String) (reason : String) :
    Progress :=
  match target with
  | none => progress
  | some target =>
      let hop : SourceRedirect := ⟨progress.currentUrl, target, status, false, some reason⟩
      { progress with trail := progress.trail.redirect hop }

/-- The answer is not a redirect. -/
def finalAnswered (passes : ℕ) (fetching : Fetching) (progress : Progress) (sending : Sending)
    (status : ℕ) (headers : List (String × String)) : TransportCall ω (Option Turn) := do
  match ← Call.lift (refusalReason status headers [] none) with
  | some reason => do
      let tried ← attempted progress sending (some status) reason 0 none none
      discardPartial
      refused fetching.url fetching.start tried.trail
        ("Public source refused access with HTTP " ++ toString status ++ ".") reason (some status)
  | none =>
      if status ≠ 200 ∧ status ≠ 206 then
        some <$> errorAnswered fetching progress sending status headers
      else
        sourceAnswered passes fetching progress sending status headers (contentTypeOf headers)

/-- The server answered. -/
def answered (passes : ℕ) (fetching : Fetching) (progress : Progress) (sending : Sending)
    (response : HttpResponse) : TransportCall ω (Option Turn) := do
  let status := response.status
  let left ← remaining fetching.downloader fetching.start
  if left ≤ 0 then
    let tried ← attempted progress sending (some status) "TOTAL_ELAPSED_BUDGET_EXHAUSTED" 0 none none
    budgetFailure fetching.url fetching.start tried.trail "TOTAL_ELAPSED_BUDGET_EXHAUSTED"
      (some status)
  else
    let headers := foldedHeaders response.headers
    let target ← Call.lift (lateRedirectTarget progress status headers)
    match ← Call.lift (refusalReason status headers [] target) with
    | some reason =>
        some <$> refuseAttempt fetching (refusedHop progress status target reason) sending status 0 none
          "Public source returned a technical access refusal." reason
    | none =>
        let now ← monotonic
        if sending.deadline ≤ now then
          some <$> answeredLate fetching progress sending status headers
        else if status ∈ redirectStatuses then
          some <$> redirectAnswered fetching progress sending status headers
        else finalAnswered passes fetching progress sending status headers

/-! ## The loop -/

def requestHeaders (offset : ℕ) : List (String × String) :=
  [("User-Agent", "MatchVet-T06/1.0"),
    ("Accept", "application/json,text/plain;q=0.9,text/csv;q=0.8")] ++
    if offset = 0 then [] else [("Range", "bytes=" ++ toString offset ++ "-")]

/-- Send the request to the resolved destination. -/
def sendRequest (passes : ℕ) (fetching : Fetching) (progress : Progress)
    (addresses : List String) : TransportCall ω (Option Turn) := do
  let left ← remaining fetching.downloader fetching.start
  let timeout := min (min fetching.downloader.policy.perRequestTimeoutSeconds
    fetching.downloader.timeoutSeconds) (min progress.limits.timeoutSeconds left)
  if timeout ≤ 0 then
    budgetFailure fetching.url fetching.start progress.trail "TOTAL_ELAPSED_BUDGET_EXHAUSTED" none
  else
    let startedAt ← monotonic
    let startedAtUtc ← utcText
    let sending : Sending := ⟨startedAt, startedAtUtc, startedAt + timeout⟩
    let sent := { progress with requestCount := progress.requestCount + 1 }
    match ← dispatch ⟨progress.currentUrl, requestHeaders progress.offset, timeout, addresses⟩
        startedAt with
    | .error error => some <$> transportFailed fetching sent sending error
    | .ok response => answered passes fetching sent sending response

/-- One pass of `while True`. -/
def turn (passes : ℕ) (fetching : Fetching) (progress : Progress) :
    TransportCall ω (Option Turn) := do
  requireElapsed fetching.downloader fetching.start progress.trail progress.currentUrl
  requireRequestBudget fetching progress
  pace fetching progress
  let current ← authorize fetching progress.trail
    "Current source authorization changed before destination validation." none
  match ← destination fetching progress with
  | .inl next => Call.ret (some (.again { next with limits := current }))
  | .inr addresses =>
      let limits ← authorize fetching progress.trail
        "Current source authorization changed before HTTP dispatch." none
      sendRequest passes fetching { progress with limits, currentIps := some addresses } addresses

/-- `while True`, for so many passes. -/
def requestLoop (fetching : Fetching) :
    ℕ → ℕ → Progress → TransportCall ω (Option DownloadedSource)
  | _, 0, _ => Call.ret none
  | reads, passes + 1, progress => do
      match ← turn reads fetching progress with
      | none => Call.ret none
      | some (.returned source) => Call.ret (some source)
      | some (.again next) => requestLoop fetching reads passes next

/-- `_cache_is_fresh`. -/
def cacheIsFresh (downloader : Downloader) (cached : DownloadedSource) : TransportCall ω Bool :=
  match TransportServices.instant cached.retrievedAtUtc with
  | none => Call.raise (.integrity "Retained source cache has an invalid retrieval time.")
  | some none => Call.raise (.integrity "Retained source cache time lacks a UTC offset.")
  | some (some retrieved) => do
      let now ← utcnow
      let age := now.instant - retrieved
      if age < 0 then
        Call.raise (.integrity "Retained source cache retrieval time is in the future.")
      else Call.ret (age ≤ downloader.cacheTtlSeconds)

/-- A live fetch. -/
def fetchLive (reads passes : ℕ) (downloader : Downloader) (url : String)
    (decision : Option String) : TransportCall ω (Option DownloadedSource) := do
  let start ← monotonic
  let unauthorized : TransportCall ω (Option DownloadedSource) :=
    refused url start ⟨[], []⟩
      "A separately supplied current source authorization is required before live fetch."
      "AUTHORIZATION_REQUIRED" none
  match decision with
  | none | some "" => unauthorized
  | some decision =>
      if downloader.authorizationSupplied then
        let fetching : Fetching := ⟨downloader, url, decision, start⟩
        let limits ← authorize fetching ⟨[], []⟩
          "Current source authorization is invalid or withdrawn; live fetch refused." none
        let offset ← partSize
        if downloader.maxSourceBytes < offset then
          Call.raise (.integrity "Retained partial source exceeds its byte bound.")
        else
          requestLoop fetching reads passes ⟨⟨[], []⟩, url, none, [url], 0, 0, 0, offset, limits⟩
      else unauthorized

/-- Whether the cached source is returned without a live fetch. -/
def servesCached (downloader : Downloader) (refresh : Bool) :
    Option DownloadedSource → TransportCall ω (Option DownloadedSource)
  | some cached =>
      if refresh then Call.ret none
      else do
        let fresh ← cacheIsFresh downloader cached
        Call.ret (if fresh then some cached else none)
  | none => Call.ret none

/-- `ResumableSourceDownloader.fetch`; none when a loop is still running after so many
reads of one body or passes of the request loop. -/
def fetch (reads passes : ℕ) (downloader : Downloader) (url : String) (refresh : Bool)
    (decision : Option String) : TransportCall ω (Option DownloadedSource) := do
  note (.began url)
  Call.lift (validateUrl downloader.policy url)
  let cached ← readCache downloader (some url)
  match ← servesCached downloader refresh cached with
  | some source => Call.ret (some source)
  | none => fetchLive reads passes downloader url decision

end Serving

end MatchVet.Ingestion.Downloader
