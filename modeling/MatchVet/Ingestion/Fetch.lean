import MatchVet.Ingestion.Transport

/-!
# Fetching a source

A fetch reads the cache, then asks the server again and again within its limits.  The
body of an answer goes to a partial file that outlives the process; a complete body
becomes the data file, and its metadata follow.
-/

namespace MatchVet.Ingestion.Fetch

open MatchVet.Foundation.CrashLogic
open MatchVet.Ingestion.Transport

/-! ## Files and counters -/

/-- What `_write_cache_metadata` writes. -/
structure Metadata where
  cacheSchema : Option ℕ
  contentSha256 : String
  contentType : String
  retrievedAtUtc : String
  responseStatus : ℕ
  url : String
  transport : Option SourceTransportProvenance

/-- The files of one cache key. -/
structure Disk where
  data : Option Content
  metadata : Option Metadata
  temporary : Option Metadata
  part : Option Content

/-- What a fetch did, in order.  A dispatch tells the state of the server and the files at
that moment. -/
inductive Event (ω : Type) where
  | began (url : String)
  | clock (now : ℚ)
  | authorized (limits : Limits)
  | checked (limits : Limits)
  | slept (delay : ℚ)
  | dispatched (request : HttpRequest) (env : ω) (disk : Disk)
  | received (count : ℕ)
  | redirected (url : String)
  | retried
  | stored (size : ℕ)
  | dataReplaced
  | metadataReplaced

structure World (ω : Type) where
  env : ω
  disk : Disk
  networkBytes : ℕ
  networkRequests : ℕ
  lastRequestStartedAt : Option ℚ
  log : List (Event ω)

/-- What a file operation that fails leaves: how many bytes are kept, and its error. -/
structure Leftover where
  kept : ℕ
  errno : ℕ

variable {ω : Type}

abbrev TransportCall (ω α : Type) : Type := Call Leftover (World ω) SourceError α

namespace World

def record (world : World ω) (event : Event ω) : World ω :=
  { world with log := world.log ++ [event] }

def partSize (world : World ω) : ℕ := (world.disk.part.getD []).length

def withPart (world : World ω) (part : Option Content) : World ω :=
  { world with disk := { world.disk with part } }

/-- A request was sent: it counts however it is answered. -/
def sent (world : World ω) (request : HttpRequest) (startedAt : ℚ) (env : ω) : World ω :=
  { world with
    env, networkRequests := world.networkRequests + 1, lastRequestStartedAt := some startedAt
    log := world.log ++ [.dispatched request world.env world.disk] }

/-- Bytes of a body came. -/
def received (world : World ω) (count : ℕ) (env : ω) : World ω :=
  { world with
    env, networkBytes := world.networkBytes + count, log := world.log ++ [.received count] }

/-- The partial file holds this content now. -/
def store (world : World ω) (content : Content) : World ω :=
  (world.withPart (some content)).record (.stored content.length)

end World

def note (event : Event ω) : TransportCall ω Unit := Call.assign fun world => world.record event

/-- An operation on the files. -/
def fileCall {α : Type} (residue : Leftover → World ω → World ω)
    (update : World ω → Except SourceError α × World ω) : TransportCall ω α :=
  Call.disturbed (fun left => .system (.os left.errno)) residue update

/-- An operation on the files that leaves nothing behind when it fails. -/
def fileStep {α : Type} (update : World ω → Except SourceError α × World ω) :
    TransportCall ω α := fileCall (fun _ world => world) update

/-! ## The outside world -/

section Asking

variable [Outside ω]

def monotonic : TransportCall ω ℚ := Call.ask fun world =>
  let (now, env) := Outside.monotonic world.env
  (.ok now, { world with env }.record (.clock now))

def utcnow : TransportCall ω WallClock := Call.ask fun world =>
  let (now, env) := Outside.utcnow world.env
  (.ok now, { world with env })

/-- `_utc_text`. -/
def utcText : TransportCall ω String := do
  let now ← utcnow
  match now.text with
  | some text => Call.ret text
  | none => Call.raise (.value "Transport wall clock must return an aware datetime.")

def sleep (delay : ℚ) : TransportCall ω Unit := Call.ask fun world =>
  (.ok (), { world with env := Outside.sleep delay world.env }.record (.slept delay))

def requireCurrent (decision : String) : TransportCall ω Manifest := Call.ask fun world =>
  let (answer, env) := Outside.requireCurrent decision world.env
  (answer, { world with env })

def resolvePublicIps (host : String) : TransportCall ω (List String) := Call.ask fun world =>
  let (answer, env) := Outside.resolvePublicIps host world.env
  (answer, { world with env })

def dispatch (request : HttpRequest) (startedAt : ℚ) :
    TransportCall ω (Except SourceError HttpResponse) := Call.ask fun world =>
  let (answer, env) := Outside.request request world.env
  (.ok answer, world.sent request startedAt env)

/-- Read from the body of the answer.  The bytes that came are counted. -/
def readChunk (size : ℕ) : TransportCall ω Content := Call.ask fun world =>
  match Outside.read size world.env with
  | (.ok chunk, env) => (.ok chunk, world.received chunk.length env)
  | (.error error, env) => (.error (.system error), { world with env })

def cacheSize : TransportCall ω ℕ := Call.ask fun world =>
  let (size, env) := Outside.cacheSize world.env
  (.ok size, { world with env })

end Asking

/-! ## Partial file -/

/-- `part_path.stat().st_size if part_path.exists() else 0`. -/
def partSize : TransportCall ω ℕ := fileStep fun world => (.ok world.partSize, world)

/-- `part_path.open("ab")` or `part_path.open("wb")`. -/
def openPart (append : Bool) : TransportCall ω Unit := fileStep fun world =>
  (.ok (), world.store (if append then world.disk.part.getD [] else []))

/-- `target.write(chunk)`.  When it fails a part of the file is kept. -/
def writeChunk (chunk : Content) : TransportCall ω Unit :=
  fileCall
    (fun left world => world.store (((world.disk.part.getD []) ++ chunk).take left.kept))
    fun world => (.ok (), world.store (world.disk.part.getD [] ++ chunk))

/-- `target.flush()` and `os.fsync`. -/
def flushPart : TransportCall ω Unit :=
  fileCall (fun left world => world.store ((world.disk.part.getD []).take left.kept))
    fun world => (.ok (), world)

/-- `part_path.write_bytes(b"")` when there is one. -/
def emptyPart : TransportCall ω Unit := fileStep fun world =>
  (.ok (), if world.disk.part.isSome then world.store [] else world)

/-- `part_path.read_bytes()`. -/
def readPart : TransportCall ω Content := fileStep fun world =>
  (match world.disk.part with
    | some content => .ok content
    | none => .error (.system (.os 2)), world)

/-- `_discard_partial`. -/
def discardPartial : TransportCall ω Unit := fileStep fun world => (.ok (), world.withPart none)

/-! ## Cache files -/

/-- `os.replace(part_path, data_path)`. -/
def replaceData : TransportCall ω Unit := fileStep fun world =>
  match world.disk.part with
  | some content =>
      (.ok (), { world with disk := { world.disk with data := some content, part := none } }.record
        .dataReplaced)
  | none => (.error (.system (.os 2)), world)

/-- Write the metadata to the temporary file; a file that was not written to its end is as
good as none. -/
def writeTemporary (metadata : Metadata) : TransportCall ω Unit :=
  fileCall (fun _ world => { world with disk := { world.disk with temporary := none } })
    fun world => (.ok (), { world with disk := { world.disk with temporary := some metadata } })

/-- `os.replace(meta_tmp, meta_path)`. -/
def replaceMetadata : TransportCall ω Unit := fileStep fun world =>
  match world.disk.temporary with
  | some metadata =>
      (.ok (), { world with
        disk := { world.disk with metadata := some metadata, temporary := none } }.record
        .metadataReplaced)
  | none => (.error (.system (.os 2)), world)

/-- `_write_cache_metadata`. -/
def writeCacheMetadata (metadata : Metadata) : TransportCall ω Unit := do
  writeTemporary metadata
  fileStep fun world => (.ok (), world)
  replaceMetadata

section Reading

variable [TransportServices]

/-- What `_read_cache` checks of the metadata and the data. -/
def admitCached (downloader : Downloader) (expectedUrl : Option String) (content : Content)
    (metadata : Metadata) : Except SourceError DownloadedSource := do
  if (metadata.cacheSchema ≠ none ∧ metadata.cacheSchema ≠ some 2) ∨
      (metadata.cacheSchema = some 2 ∧ metadata.transport = none) then
    .error (.integrity "Retained source cache metadata has an unsupported shape.")
  else if metadata.contentSha256 ≠ sha256 content ∨ metadata.responseStatus ∉ [200, 206] then
    .error (.integrity "Retained source cache digest or metadata is invalid.")
  else
    validateUrl downloader.policy metadata.url
    if expectedUrl.isSome ∧ expectedUrl ≠ some metadata.url then
      .error (.integrity "Retained source cache belongs to a different request URL.")
    else if TransportServices.instant metadata.retrievedAtUtc = none then
      .error (.integrity "Retained source cache has an invalid retrieval time.")
    else if metadata.transport.any fun provenance =>
        provenance.requestedUrl ≠ metadata.url ||
        provenance.responseStatus ≠ some metadata.responseStatus ||
        provenance.contentDigest ≠ some metadata.contentSha256 ||
        provenance.contentByteCount ≠ content.length ||
        provenance.retrievedAtUtc ≠ some metadata.retrievedAtUtc then
      .error (.integrity "Cache provenance differs from retained response bytes.")
    else
      .ok ⟨content, metadata.retrievedAtUtc, metadata.responseStatus, metadata.contentType, true,
        0, metadata.transport⟩

/-- `_read_cache`. -/
def readCacheFiles (downloader : Downloader) (expectedUrl : Option String) (disk : Disk) :
    Except SourceError (Option DownloadedSource) :=
  match disk.data, disk.metadata with
  | none, none => .ok none
  | some content, some metadata =>
      (admitCached downloader expectedUrl content metadata).map some
  | _, _ => .error (.integrity "Retained source cache data and metadata do not match.")

def readCache (downloader : Downloader) (expectedUrl : Option String) :
    TransportCall ω (Option DownloadedSource) :=
  Call.disturbed (fun _ => .integrity "Retained source cache could not be read exactly.")
    (fun _ world => world) fun world =>
      (readCacheFiles downloader expectedUrl world.disk, world)

end Reading

end MatchVet.Ingestion.Fetch
