import Mathlib
import MatchVet.Foundation.CallEndings
import MatchVet.Foundation.Runtime

/-!
# Source transport

The policy of a downloader, the authorizations it reads, what it records about a fetch,
and the checks it makes of addresses and answers.
-/

namespace MatchVet.Ingestion.Transport

abbrev Content : Type := List UInt8

/-! ## Policy -/

structure SourceTransportEndpoint where
  host : String
  pathPrefix : String

/-- The limits of every fetch. -/
structure SourceTransportPolicy where
  allowedEndpoints : List SourceTransportEndpoint
  allowedCrossHostRedirects : List (String × String)
  maxRequestCount : ℕ
  maxTotalBytes : ℕ
  perRequestTimeoutSeconds : ℚ
  totalElapsedBudgetSeconds : ℚ
  minimumPacingIntervalSeconds : ℚ
  retryCount : ℕ
  baseBackoffSeconds : ℚ
  maximumBackoffSeconds : ℚ
  redirectCount : ℕ
  endpoints_configured : allowedEndpoints ≠ []
  limits_positive : 0 < maxRequestCount ∧ 0 < maxTotalBytes
  timeouts_positive : 0 < perRequestTimeoutSeconds ∧ 0 < totalElapsedBudgetSeconds
  durations_nonneg : 0 ≤ minimumPacingIntervalSeconds ∧ 0 ≤ baseBackoffSeconds ∧
    0 ≤ maximumBackoffSeconds

/-- `ResumableSourceDownloader`: its limits, and which of its services were supplied. -/
structure Downloader where
  maxSourceBytes : ℕ
  networkCapBytes : ℕ
  timeoutSeconds : ℚ
  cacheTtlSeconds : ℕ
  cacheStorageCapBytes : ℕ
  policy : SourceTransportPolicy
  authorizationSupplied : Bool
  resolverSupplied : Bool
  limits_positive : 0 < maxSourceBytes ∧ 0 < networkCapBytes ∧ 0 < cacheTtlSeconds ∧
    0 < cacheStorageCapBytes
  timeout_positive : 0 < timeoutSeconds

/-! ## Records -/

structure SourceTransportAttempt where
  number : ℕ
  url : String
  startedAtUtc : String
  completedAtUtc : String
  elapsedSeconds : ℚ
  responseStatus : Option ℕ
  classification : String
  bytesReceived : ℕ
  responseDigest : Option String
  retryAfterSeconds : Option ℚ
  retryDelaySeconds : Option ℚ
deriving DecidableEq

structure SourceRedirect where
  fromUrl : String
  toUrl : String
  responseStatus : ℕ
  validated : Bool
  refusalReason : Option String
deriving DecidableEq

structure SourceTransportProvenance where
  requestedUrl : String
  finalUrl : Option String
  redirects : List SourceRedirect
  retrievedAtUtc : Option String
  responseStatus : Option ℕ
  responseDigest : Option String
  contentDigest : Option String
  contentByteCount : ℕ
  networkByteCount : ℕ
  requestCount : ℕ
  failureClassification : Option String
  retryCount : ℕ
  elapsedSeconds : ℚ
  attempts : List SourceTransportAttempt
deriving DecidableEq

structure DownloadedSource where
  content : Content
  retrievedAtUtc : String
  responseStatus : ℕ
  contentType : String
  fromCache : Bool
  bytesDownloaded : ℕ
  transportProvenance : Option SourceTransportProvenance
deriving DecidableEq

/-! ## Errors -/

/-- `SourceUnavailable` and the classes below it. -/
inductive UnavailableKind where
  | unavailable
  | refused
  | deferred
  | budgetExceeded
deriving DecidableEq

structure SourceUnavailable where
  kind : UnavailableKind
  message : String
  httpStatus : Option ℕ
  failureClassification : String
  transportProvenance : Option SourceTransportProvenance
deriving DecidableEq

/-- `ECONNABORTED`, `ECONNREFUSED`, `ECONNRESET`, `EHOSTUNREACH`, `ENETUNREACH` and
`ETIMEDOUT`. -/
def transientErrnos : List ℕ := [103, 111, 104, 113, 101, 110]

/-- The exceptions of the standard library, by their classes. -/
inductive SystemError where
  | timeout
  | remoteDisconnected
  | incompleteRead
  | addressInfo (temporary : Bool)
  | os (errno : ℕ)
  | value (message : String)
  | other (message : String)
deriving DecidableEq

/-- What a fetch, or something it calls, raises. -/
inductive SourceError where
  | unavailable (failure : SourceUnavailable)
  | policy (message : String)
  | integrity (message : String)
  | incompleteSourceBody (bytesReceived : ℕ)
  | system (error : SystemError)
deriving DecidableEq

namespace SourceError

def value (message : String) : SourceError := .system (.value message)

/-- `_is_transient_exception`. -/
def isTransient : SourceError → Bool
  | .system .timeout | .system .remoteDisconnected | .system .incompleteRead => true
  | .incompleteSourceBody _ => true
  | .system (.addressInfo temporary) => temporary
  | .system (.os errno) => transientErrnos.contains errno
  | _ => false

/-- The subclasses of `OSError`. -/
def isOsError : SourceError → Bool
  | .system .timeout | .system .remoteDisconnected => true
  | .system (.addressInfo _) | .system (.os _) | .incompleteSourceBody _ => true
  | _ => false

def isTimeout : SourceError → Bool
  | .system .timeout => true
  | _ => false

end SourceError

/-! ## Services outside the program -/

/-- What `urlsplit` and `unquote` tell of an address. -/
structure UrlParts where
  scheme : String
  hostname : Option String
  port : Option ℕ
  username : Option String
  password : Option String
  path : String
  unquotedPath : String
  query : String
  fragment : String

structure IpAddress where
  version : ℕ
  value : ℕ
  isGlobal : Bool

/-- The functions of the standard library that a downloader uses: case folding, address
parsing and joining, the digest, the folded text that opens a body, the readings of
headers, of addresses and of timestamps, the text of an error and the length of a
canonical record. -/
class TransportServices where
  casefold : String → String
  urlsplit : String → Option UrlParts
  urljoin : String → String → Option String
  sha256 : Content → String
  foldedText : Content → String
  retryAfter : String → ℚ → Except SourceError ℚ
  contentRange : String → Option (ℕ × ℕ × ℕ)
  integer : String → Option ℤ
  ipAddress : String → Option IpAddress
  instant : String → Option (Option ℚ)
  describe : SourceError → String
  recordLength : SourceTransportProvenance → ℕ

structure HttpResponse where
  status : ℕ
  headers : List (String × String)

structure HttpRequest where
  url : String
  headers : List (String × String)
  timeoutSeconds : ℚ
  resolvedIps : List String

/-- One entry of a source use manifest; its limits as they stand there. -/
structure ManifestEntry where
  endpoint : String
  sourceType : String
  accessType : String
  requestedOperations : List String
  technicalLimits : Option (ℤ × ℤ × ℤ)
  bypassAccessControls : Option Bool

structure Manifest where
  contract : String
  purpose : String
  issue : ℤ
  stage : String
  entries : List ManifestEntry

/-- A reading of the wall clock: its instant, and its UTC text unless it is naive. -/
structure WallClock where
  instant : ℚ
  text : Option String

/-- The world outside the downloader: its clocks, the authorization repository, the
resolver, the server behind the transport, and the other files of the cache.  Each
answer may change its state. -/
class Outside (ω : Type) where
  monotonic : ω → ℚ × ω
  utcnow : ω → WallClock × ω
  sleep : ℚ → ω → ω
  requireCurrent : String → ω → Except SourceError Manifest × ω
  resolvePublicIps : String → ω → Except SourceError (List String) × ω
  request : HttpRequest → ω → Except SourceError HttpResponse × ω
  read : ℕ → ω → Except SystemError Content × ω
  cacheSize : ω → ℕ × ω

export TransportServices (casefold urlsplit urljoin sha256 foldedText)

/-! ## Addresses -/

section Checks

variable [TransportServices]

/-- `(parsed.hostname or "").casefold().rstrip(".")`. -/
def foldedHost (parts : UrlParts) : String :=
  String.ofList (((casefold (parts.hostname.getD "")).toList.reverse.dropWhile (· = '.')).reverse)

def SourceTransportEndpoint.covers (host path : String) (endpoint : SourceTransportEndpoint) :
    Bool :=
  endpoint.host = host && endpoint.pathPrefix.toList.isPrefixOf path.toList

def scopedOnly : SourceError :=
  .policy "T06 permits only explicitly scoped public HTTPS endpoints."

/-- An endpoint of the policy that the program may contact. -/
def permitted (policy : SourceTransportPolicy) (parts : UrlParts) : Bool :=
  let host := foldedHost parts
  let path := parts.unquotedPath
  parts.scheme = "https" && host ≠ "" && parts.username.isNone && parts.password.isNone &&
    (parts.port = none || parts.port = some 443) && parts.query = "" && parts.fragment = "" &&
    !path.toList.contains '\\' && path = parts.path &&
    (path.toList.splitOn '/').all (fun segment => segment ≠ ['.'] && segment ≠ ['.', '.']) &&
    host ≠ "localhost" && host ≠ "localhost.localdomain" &&
    [".localhost", ".local", ".internal", ".test"].all
      (fun ending => !ending.toList.isSuffixOf host.toList) &&
    policy.allowedEndpoints.any (·.covers host path)

def validUrl (policy : SourceTransportPolicy) (url : String) : Bool :=
  match urlsplit url with
  | none => false
  | some parts => permitted policy parts

/-- `_validate_url`. -/
def validateUrl (policy : SourceTransportPolicy) (url : String) : Except SourceError Unit :=
  if validUrl policy url then .ok () else .error scopedOnly

/-- `urlsplit(url).hostname or ""`. -/
def hostOf (url : String) : Except SourceError String :=
  match urlsplit url with
  | none => .error (.value "Invalid URL")
  | some parts => .ok (parts.hostname.getD "")

/-- `_validate_public_ips`. -/
def validatePublicIps (addresses : List String) : Except SourceError (List String) :=
  if addresses = [] then
    .error (.policy "The approved source host has no DNS addresses.")
  else
    match addresses.dedup.mapM fun original =>
        (TransportServices.ipAddress original).map fun address => (address, original) with
    | none => .error (.policy "The approved source host has an invalid DNS address.")
    | some parsed =>
        if parsed.all fun pair => pair.1.isGlobal then
          .ok ((parsed.mergeSort fun first second =>
            first.1.version < second.1.version || (first.1.version = second.1.version &&
              first.1.value ≤ second.1.value)).map Prod.snd)
        else .error (.policy "The approved source host resolves to a nonpublic address.")

/-! ## Answers -/

/-- The headers of an answer under their folded names; a later one of a name stands. -/
def foldedHeaders (headers : List (String × String)) : List (String × String) :=
  headers.map fun header => (casefold header.1, header.2)

def headerOf (headers : List (String × String)) (name : String) : Option String :=
  headers.reverse.lookup name

/-- `_REFUSAL_TEXT`. -/
def refusalText : List String :=
  ["verify you are human", "prove you are human", "complete the captcha", "captcha required",
    "solve the captcha", "automated requests", "bot detected", "bot detection",
    "unusual traffic", "access denied", "request blocked", "blocked by security",
    "web application firewall", "cloudflare ray id", "authentication required",
    "login required", "sign in to continue", "subscribe to continue", "subscription required",
    "paywall", "you have been banned", "your ip has been banned", "account suspended",
    "access permanently blocked"]

def refusedStatus : ℕ → Option String
  | 401 => some "AUTHENTICATION_REFUSED"
  | 402 => some "PAYWALL_REFUSED"
  | 403 => some "ACCESS_REFUSED"
  | 407 => some "PROXY_AUTHENTICATION_REFUSED"
  | 451 => some "ACCESS_REFUSED"
  | _ => none

/-- Whether a redirect leads to a login page. -/
def leadsToLogin (url : String) : Except SourceError Bool :=
  match urlsplit url with
  | none => .error (.value "Invalid URL")
  | some parts => .ok ((parts.path.toList.splitOn '/').any fun segment =>
      ["login", "signin", "sign-in", "auth", "authenticate"].contains
        (casefold (String.ofList segment)))

/-- `_refusal_reason`. -/
def refusalReason (status : ℕ) (headers : List (String × String)) (body : Content)
    (targetUrl : Option String) : Except SourceError (Option String) := do
  match refusedStatus status with
  | some reason => .ok (some reason)
  | none =>
      if headers.any fun header => casefold header.1 = "www-authenticate" then
        .ok (some "AUTHENTICATION_CHALLENGE")
      else if headers.any fun header =>
          ["cf-mitigated", "x-sucuri-block", "x-waf-blocked"].contains (casefold header.1) then
        .ok (some "WAF_OR_ANTIBOT_REFUSAL")
      else
        let login ← (targetUrl.map leadsToLogin).getD (.ok false)
        if login then .ok (some "LOGIN_REDIRECT_REFUSED")
        else if refusalText.any fun phrase => phrase.toList <:+: (foldedText body).toList then
          .ok (some "TECHNICAL_REFUSAL")
        else .ok none

/-- `_retry_after_seconds`. -/
def retryAfterSeconds (value : Option String) (now : ℚ) :
    Except SourceError (Option ℚ) :=
  match value with
  | none => .ok none
  | some value => (TransportServices.retryAfter value now).map fun seconds => some (max 0 seconds)

end Checks

def redirectStatuses : List ℕ := [301, 302, 303, 307, 308]

/-- `_TRANSIENT_HTTP_STATUSES`. -/
def transientHttpStatuses : List ℕ := [408, 425, 429, 500, 502, 503, 504]

/-! ## Authorizations -/

/-- `_authorization_limits`. -/
structure Limits where
  requests : ℕ
  bytes : ℕ
  timeoutSeconds : ℕ
deriving DecidableEq

def authorizationLimits (entry : ManifestEntry) : Except SourceError Limits :=
  match entry.technicalLimits with
  | none => .error (.policy "Current source authorization lacks transport limits.")
  | some (requests, bytes, timeout) =>
      if requests ≤ 0 ∨ bytes ≤ 0 ∨ timeout ≤ 0 then
        .error (.policy "Current source authorization has invalid transport limits.")
      else if entry.bypassAccessControls ≠ some false then
        .error (.policy "Current source authorization permits access-control bypass.")
      else .ok ⟨requests.toNat, bytes.toNat, timeout.toNat⟩

def acquisitionOperations : List String :=
  ["AUTOMATED_ACCESS", "RAW_RETENTION", "NORMALIZED_RETENTION",
    "PRIVATE_BACKUP_RESTORE_REPLAY", "DERIVED_STATISTICAL_USE"]

def ManifestEntry.covers (entry : ManifestEntry) (requestedUrl : String) : Bool :=
  entry.endpoint = requestedUrl &&
    ["AUTOMATED_API", "AUTOMATED_DATASET", "AUTOMATED_PUBLIC_PAGE"].contains entry.sourceType &&
    entry.accessType = "PUBLIC" &&
    acquisitionOperations.all entry.requestedOperations.contains

/-- The limits that a manifest grants a request: `_current_authorized_entry` after the
repository has answered. -/
def authorizedLimits (manifest : Manifest) (requestedUrl : String) : Except SourceError Limits :=
  match manifest.entries with
  | [entry] =>
      if manifest.contract = "research-source-use-manifest-v1" &&
          manifest.purpose = "RESEARCH_ONLY" && manifest.issue = 70 &&
          manifest.stage = "ACQUISITION" then
        if entry.covers requestedUrl then authorizationLimits entry
        else .error (.policy "Current source authorization does not cover this request.")
      else .error (.policy "Current source authority is not an exact acquisition intent.")
  | _ => .error (.policy "Current source authority is not an exact acquisition intent.")

end MatchVet.Ingestion.Transport
