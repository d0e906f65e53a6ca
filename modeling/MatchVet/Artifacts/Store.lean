import MatchVet.Artifacts.Tables
import MatchVet.Foundation.CrashLogic

/-!
# Publishing artifacts and manifests

An object is staged, verified and installed before the catalog records it in one
transaction.  Every access to the files or to the database may fail, and the process
may end there.
-/

namespace MatchVet.Artifacts.Store

open MatchVet.Artifacts.Manifest
open MatchVet.Artifacts.Tables
open MatchVet.Foundation.CanonicalJson
open MatchVet.Foundation.CrashLogic
open MatchVet.Foundation.Identifier
open MatchVet.Foundation.Runtime

/-- The files under the private root, the database, and the state of the process that
holds publication authority. -/
structure World (ω : Type) where
  objects : List (String × Content)
  staging : List (String × Content)
  catalog : Catalog
  authority : ω

/-- What a stopped effect leaves: some bytes of the staged file, an object that is
linked while its staged name is still there, or a request that was sent. -/
structure Leftover where
  written : Option Content
  linked : Bool
  sent : Bool

variable {ω : Type}

abbrev StoreCall (ω α : Type) : Type := Call Leftover (World ω) ArtifactError α

namespace World

def stage (world : World ω) (name : String) (content : Content) : World ω :=
  { world with staging := world.staging ++ [(name, content)] }

def unstage (world : World ω) (name : String) : World ω :=
  { world with staging := world.staging.filter fun file => file.1 ≠ name }

def link (world : World ω) (path : String) (content : Content) : World ω :=
  { world with objects := world.objects ++ [(path, content)] }

end World

def runtimeError (message : String) : ArtifactError := ⟨"RuntimeError", message⟩

def storeClosed : ArtifactError := runtimeError "The MatchVet store is closed."

/-- `_ensure_writeable`. -/
def ensureWriteable : StoreCall ω Unit := Call.touch storeClosed

/-- `_ensure_readable`. -/
def ensureReadable : StoreCall ω Unit := Call.touch storeClosed

/-- `_write_guard()`. -/
def writeGuard : StoreCall ω Unit := Call.touch (runtimeError "write guard")

section Publishing

variable [ContentAddressing]

/-! ## Objects -/

/-- `_relative_object_path`. -/
def relativeObjectPath (digest : Digest) : String :=
  "objects/sha256/" ++ String.ofList (digest.text.toList.take 2) ++ "/" ++ digest.text

def publishFailed : ArtifactError :=
  ⟨"MV-ARTIFACT-PUBLISH_FAILED", "Artifact publication failed safely."⟩

def unsafePath : ArtifactError :=
  ⟨"MV-ARTIFACT-PATH_MISMATCH",
    "Artifact storage contains a missing, non-directory, or symbolic-link component."⟩

def readFailed (digest : Digest) : ArtifactError :=
  ⟨"MV-ARTIFACT-READ_FAILED", "Artifact " ++ digest.text ++ " could not be read."⟩

def stageName (digest : Digest) (nonce : String) : String :=
  "." ++ digest.text ++ "." ++ nonce ++ ".partial"

/-- Create the staged file and write it.  A file of that name is never opened. -/
def writeStage (name : String) (content : Content) : StoreCall ω Unit :=
  Call.effect publishFailed
    (fun left world =>
      match left.written with
      | some written => if world.staging.lookup name = none then world.stage name written else world
      | none => world)
    fun world =>
      if world.staging.lookup name = none then .ok (world.stage name content, ())
      else .error publishFailed

def checkStage (name : String) (record : ArtifactMetadata) (world : World ω) :
    Except ArtifactError Unit :=
  match world.staging.lookup name with
  | none => .error publishFailed
  | some content =>
      require (lengthOf content = record.byteLength ∧ digestOf content = record.digest)
        "MV-ARTIFACT-DIGEST_MISMATCH" "Staged artifact failed verification."

/-- `_verify_file` on the object of a digest. -/
def checkObject (digest : Digest) (byteLength : ℕ) (world : World ω) :
    Except ArtifactError Unit :=
  match world.objects.lookup (relativeObjectPath digest) with
  | none => refuse "MV-ARTIFACT-MISSING" ("Artifact " ++ digest.text ++ " is missing.")
  | some content =>
      require (lengthOf content = byteLength ∧ digestOf content = digest)
        "MV-ARTIFACT-DIGEST_MISMATCH" ("Artifact " ++ digest.text ++ " failed digest verification.")

def verifyFile (digest : Digest) (byteLength : ℕ) : StoreCall ω Unit :=
  Call.reading (readFailed digest) (checkObject digest byteLength)

/-- `_atomic_install_no_replace`: whether the staged file became the object.  Where it
is linked and then unlinked, a fault may come in between. -/
def installNoReplace (name path : String) : StoreCall ω Bool :=
  Call.effect publishFailed
    (fun left world =>
      match world.staging.lookup name with
      | some content =>
          if left.linked = true ∧ world.objects.lookup path = none then world.link path content
          else world
      | none => world)
    fun world =>
      match world.staging.lookup name with
      | none => .error publishFailed
      | some content =>
          if world.objects.lookup path = none then
            .ok ((world.link path content).unstage name, true)
          else .ok (world, false)

/-- `stage_path.unlink(missing_ok=True)`. -/
def unlinkStage (name : String) : StoreCall ω Unit :=
  Call.atomic publishFailed fun world => .ok (world.unstage name, ())

def settleInstall (record : ArtifactMetadata) : Bool → StoreCall ω Unit
  | true => Call.ret ()
  | false => verifyFile record.digest record.byteLength

/-- Verify the object that is there, or install the staged file. -/
def placeObject (name : String) (record : ArtifactMetadata) : Bool → StoreCall ω Unit
  | true => verifyFile record.digest record.byteLength
  | false => do
      let installed ← installNoReplace name (relativeObjectPath record.digest)
      settleInstall record installed
      Call.touch publishFailed

def installObject (content : Content) (record : ArtifactMetadata) (name : String) :
    StoreCall ω Unit := do
  writeStage name content
  Call.reading publishFailed (checkStage name record)
  Call.touch unsafePath
  let target ← Call.reading publishFailed fun world =>
    .ok (world.objects.lookup (relativeObjectPath record.digest)).isSome
  placeObject name record target
  unlinkStage name
  Call.touch publishFailed

/-- `_publish_object`. -/
def publishObject (content : Content) (record : ArtifactMetadata) (nonce : String) :
    StoreCall ω Unit := do
  Call.touch unsafePath
  Call.touch unsafePath
  Call.recover (installObject content record (stageName record.digest nonce))
    (unlinkStage (stageName record.digest nonce))

/-! ## Transactions -/

def artifactFailed : ArtifactError :=
  ⟨"MV-ARTIFACT-DB_PUBLICATION_FAILED",
    "Artifact catalog publication failed; the object remains unreferenced."⟩

def manifestFailed : ArtifactError :=
  ⟨"MV-ARTIFACT-DB_PUBLICATION_FAILED",
    "Snapshot Manifest catalog publication failed; the object remains unreferenced."⟩

/-- `BEGIN IMMEDIATE`: the catalog that the transaction works on. -/
def begin (failure : ArtifactError) : StoreCall ω Catalog :=
  Call.reading failure fun world => .ok world.catalog

/-- A statement of the transaction.  When it raises the transaction is rolled back. -/
def inTransaction {α : Type} (failure : ArtifactError) : Except String α → StoreCall ω α
  | .ok value => Call.ret value
  | .error _ => Call.raise failure

def commit (failure : ArtifactError) (catalog : Catalog) : StoreCall ω Unit :=
  Call.atomic failure fun world => .ok ({ world with catalog }, ())

/-! ## Reading -/

/-- `_record_or_raise`. -/
def recordOrRaise (digest : Digest) : StoreCall ω ArtifactMetadata :=
  Call.reading (runtimeError "sqlite3.DatabaseError") fun world =>
    match world.catalog.artifactMetadata digest with
    | some metadata => .ok metadata
    | none => refuse "MV-ARTIFACT-CATALOG_MISSING" ("Artifact " ++ digest.text ++ " was not catalogued.")

def cataloguedArtifact (digest : Digest) (world : World ω) :
    Except ArtifactError ArtifactMetadata :=
  match world.catalog.artifactMetadata digest with
  | none =>
      refuse "MV-ARTIFACT-NOT_CATALOGUED" ("Artifact " ++ digest.text ++ " is not catalogued.")
  | some metadata => do
      require (metadata.relativePath = relativeObjectPath digest) "MV-ARTIFACT-PATH_MISMATCH"
        ("Artifact " ++ digest.text ++ " has an invalid catalog path.")
      .ok metadata

/-- `verify_artifact`. -/
def verifyArtifact (digest : Digest) : StoreCall ω ArtifactMetadata := do
  ensureReadable
  let record ← Call.reading (runtimeError "sqlite3.DatabaseError") (cataloguedArtifact digest)
  Call.touch unsafePath
  verifyFile digest record.byteLength
  Call.ret record

def objectContent (record : ArtifactMetadata) (world : World ω) :
    Except ArtifactError Content :=
  match world.objects.lookup (relativeObjectPath record.digest) with
  | none => .error (readFailed record.digest)
  | some content => do
      require (lengthOf content = record.byteLength ∧ digestOf content = record.digest)
        "MV-ARTIFACT-DIGEST_MISMATCH"
        ("Artifact " ++ record.digest.text ++ " changed while reading.")
      .ok content

/-- `read_artifact`. -/
def readArtifact (digest : Digest) : StoreCall ω Content := do
  let record ← verifyArtifact digest
  Call.reading (readFailed digest) (objectContent record)

def manifestMediaType : MediaType :=
  ⟨"application/vnd.matchvet.snapshot-manifest+json", by decide +kernel⟩

/-- The rows of a manifest are what the manifest says. -/
def checkRows (digest : Digest) (manifest : SnapshotManifest) (world : World ω) :
    Except ArtifactError Unit :=
  match world.catalog.snapshotManifestMetadata digest with
  | none => refuse "MV-MANIFEST-NOT_PUBLISHED" "Snapshot Manifest is not catalogued."
  | some metadata => do
      require (metadata = row manifest) "MV-MANIFEST-METADATA_MISMATCH"
        "Manifest catalog metadata is inconsistent."
      require (world.catalog.snapshotManifestArtifacts digest =
          manifest.artifacts.map fun item => (item.artifactId, item.digest))
        "MV-MANIFEST-MEMBERSHIP_MISMATCH" "Manifest artifact membership is inconsistent."
      require (world.catalog.snapshotManifestVersions digest = manifest.versions)
        "MV-MANIFEST-MEMBERSHIP_MISMATCH" "Manifest version membership is inconsistent."

/-- `verify_manifest`. -/
def verifyManifest (digest : Digest) : StoreCall ω SnapshotManifest := do
  let record ← verifyArtifact digest
  Call.lift (require (record.mediaType = manifestMediaType) "MV-MANIFEST-MEDIA_TYPE_INVALID"
    "Artifact is not a Snapshot Manifest.")
  let content ← readArtifact digest
  let manifest ← Call.lift (SnapshotManifest.fromBytes content)
  Call.lift (require (manifest.digest = digest) "MV-MANIFEST-DIGEST_MISMATCH"
    "Snapshot Manifest digest does not match its path.")
  Call.reading (runtimeError "sqlite3.DatabaseError") (checkRows digest manifest)
  Call.ret manifest

/-! ## Artifacts -/

/-- The arguments of `publish_artifact`, the clock and the name of the staged file. -/
structure ArtifactRequest where
  content : Content
  mediaType : String
  expectedDigest : Option String
  retentionClass : String
  now : UtcTime
  nonce : String

def artifactIdentifier (digest : Digest) : Uuid := urlUuid ("matchvet:artifact:" ++ digest.text)

/-- The value that a text stands for, or the error of a check on it. -/
def parsed {α : Type} (value : Option α) (code message : String) : Except ArtifactError α :=
  match value with
  | some value => .ok value
  | none => refuse code message

def checkExpected (digest : Digest) : Option String → Except ArtifactError Unit
  | none => .ok ()
  | some text => do
      let expected ← parsed (Digest.ofText? text) "MV-ARTIFACT-DIGEST_INVALID"
        "expected digest must be lowercase SHA-256."
      require (digest = expected) "MV-ARTIFACT-DIGEST_MISMATCH"
        "Artifact content does not match the expected digest."

/-- The record of an artifact to publish. -/
def artifactRecord (request : ArtifactRequest) : Except ArtifactError ArtifactMetadata := do
  checkExpected (digestOf request.content) request.expectedDigest
  let mediaType ← parsed (MediaType.ofText? request.mediaType) "MV-ARTIFACT-MEDIA_TYPE_INVALID"
    "Artifact media type is invalid."
  let retentionClass ← parsed (RetentionClass.ofText? request.retentionClass)
    "MV-ARTIFACT-RETENTION_INVALID" "Artifact retention class is invalid."
  .ok
    { artifactId := artifactIdentifier (digestOf request.content)
      digest := digestOf request.content
      mediaType
      byteLength := lengthOf request.content
      relativePath := relativeObjectPath (digestOf request.content)
      createdAtUtc := request.now
      retentionClass }

/-- `publish_artifact` up to the end of its transaction. -/
def commitArtifact (request : ArtifactRequest) : StoreCall ω Digest := do
  ensureWriteable
  writeGuard
  let record ← Call.lift (artifactRecord request)
  publishObject request.content record request.nonce
  writeGuard
  let catalog ← begin artifactFailed
  let recorded ← inTransaction artifactFailed (catalog.recordArtifact record)
  writeGuard
  commit artifactFailed recorded
  Call.ret record.digest

/-- `publish_artifact`. -/
def publishArtifact (request : ArtifactRequest) : StoreCall ω ArtifactMetadata := do
  let digest ← commitArtifact request
  recordOrRaise digest

/-! ## Manifests -/

structure ManifestRequest where
  manifest : SnapshotManifest
  verifiedAtUtc : Option String
  now : UtcTime
  nonce : String

/-- The steps of a private publication that the operation with the authority takes. -/
structure PublicationAuthority (ω : Type) where
  bind : SnapshotManifest → StoreCall ω Unit
  beforeCommit : StoreCall ω Unit
  authorizeInsert : Catalog → SnapshotManifest → StoreCall ω Unit
  committed : Digest → StoreCall ω Unit

/-- The member of a manifest is the artifact of its digest. -/
def verifyMember (reference : ManifestArtifact) : StoreCall ω Unit := do
  let record ← verifyArtifact reference.digest
  Call.lift (require (record.artifactId = reference.artifactId) "MV-MANIFEST-ARTIFACT_ID_MISMATCH"
    ("Manifest identity does not match artifact " ++ reference.digest.text ++ "."))
  Call.lift (require (record.mediaType = reference.mediaType ∧
      record.byteLength = reference.byteLength)
    "MV-MANIFEST-ARTIFACT_METADATA_MISMATCH"
    ("Manifest metadata does not match artifact " ++ reference.digest.text ++ "."))

def verifyVersion (version : ManifestVersion) : StoreCall ω Unit :=
  Call.reading (runtimeError "sqlite3.DatabaseError") fun world =>
    require (world.catalog.version version.versionId = some version)
      "MV-MANIFEST-VERSION_MISMATCH"
      ("Manifest version " ++ version.versionId.text ++ " is not an exact stored version.")

/-- `_manifest_publication_key`. -/
def manifestPublicationKey (manifest : SnapshotManifest) : List (String × Json) :=
  manifest.payload.filter fun member => member.1 ∉ ["verification_state", "verified_at_utc"]

/-- The digest under which the same manifest is published already. -/
def alreadyPublished (authority : Option (PublicationAuthority ω)) (manifest : SnapshotManifest) :
    Option Digest → StoreCall ω (Option Digest)
  | none => Call.ret none
  | some digest => do
      Call.lift (require (authority.isNone = true) "MV-MANIFEST-RESERVED"
        "A fresh reserved assignment is required.")
      let existing ← verifyManifest digest
      Call.ret
        (if manifestPublicationKey existing = manifestPublicationKey manifest then some digest
          else none)

/-- The verification time of a publication. -/
def verificationTime (request : ManifestRequest) : Except ArtifactError UtcTime :=
  match request.verifiedAtUtc with
  | none => .ok request.now
  | some text =>
      if text = "" then .ok request.now
      else parsed (UtcTime.ofText? text) "MV-MANIFEST-MALFORMED"
        "manifest verification time timestamp is invalid."

def manifestRecord (manifest : SnapshotManifest) : ArtifactMetadata where
  artifactId := artifactIdentifier manifest.digest
  digest := manifest.digest
  mediaType := manifestMediaType
  byteLength := lengthOf manifest.toBytes
  relativePath := relativeObjectPath manifest.digest
  createdAtUtc := manifest.createdAtUtc
  retentionClass := .protect

def bindAuthority (manifest : SnapshotManifest) :
    Option (PublicationAuthority ω) → StoreCall ω Unit
  | none => Call.ret ()
  | some authority => authority.bind manifest

/-- `_sync_graph` and `_before_commit`. -/
def confirmAuthority (manifest : SnapshotManifest) :
    Option (PublicationAuthority ω) → StoreCall ω Unit
  | none => Call.ret ()
  | some authority => do
      Call.each (fun reference => do
        let _ ← verifyArtifact reference.digest
        Call.ret ()) manifest.artifacts
      Call.touch ⟨"MV-ARTIFACT-SYNC_FAILED", "Exact graph synchronization failed."⟩
      authority.beforeCommit

/-- The authority of an insertion: that of the operation, or that the slot is public. -/
def authorizeInsert (catalog : Catalog) (manifest : SnapshotManifest) :
    Option (PublicationAuthority ω) → StoreCall ω Unit
  | none => inTransaction manifestFailed (Catalog.check
      (¬ isReservedResearchSlot manifest.snapshotId manifest.matchweekId)
      "Matchweek research role slots require private publication authority.")
  | some authority => authority.authorizeInsert catalog manifest

/-- Install the object of a verified manifest and record it in one transaction. -/
def commitVerified (authority : Option (PublicationAuthority ω)) (manifest : SnapshotManifest)
    (nonce : String) : StoreCall ω Digest := do
  bindAuthority manifest authority
  publishObject manifest.toBytes (manifestRecord manifest) nonce
  confirmAuthority manifest authority
  let catalog ← begin manifestFailed
  let stored ← inTransaction manifestFailed
    (catalog.recordManifestObject manifest (manifestRecord manifest))
  authorizeInsert stored manifest authority
  let recorded ← inTransaction manifestFailed (stored.recordMembership manifest)
  commit manifestFailed recorded
  Call.ret manifest.digest

def commitUnlessPublished (authority : Option (PublicationAuthority ω))
    (request : ManifestRequest) : Option Digest → StoreCall ω Digest
  | some digest => Call.ret digest
  | none => do
      let time ← Call.lift (verificationTime request)
      commitVerified authority (request.manifest.verified time) request.nonce

/-- `_publish_manifest` up to the end of its transaction. -/
def commitManifest (authority : Option (PublicationAuthority ω)) (request : ManifestRequest) :
    StoreCall ω Digest := do
  ensureWriteable
  Call.lift (require (request.manifest.verifiedAtUtc = none) "MV-MANIFEST-UNVERIFIED"
    ("A Snapshot Manifest must be unverified before publication; publication assigns " ++
      "verification metadata."))
  Call.each verifyMember request.manifest.artifacts
  Call.each verifyVersion request.manifest.versions
  let existing ← Call.reading (runtimeError "sqlite3.DatabaseError") fun world =>
    .ok (world.catalog.snapshotManifestDigestForSnapshot request.manifest.snapshotId)
  let published ← alreadyPublished authority request.manifest existing
  commitUnlessPublished authority request published

def confirmCommitted (digest : Digest) : Option (PublicationAuthority ω) → StoreCall ω Unit
  | none => Call.ret ()
  | some authority => authority.committed digest

/-- `_publish_manifest`. -/
def publishManifestWith (authority : Option (PublicationAuthority ω)) (request : ManifestRequest) :
    StoreCall ω ArtifactMetadata := do
  let digest ← commitManifest authority request
  confirmCommitted digest authority
  recordOrRaise digest

def checkPublicSlot (manifest : SnapshotManifest) : Except ArtifactError Unit :=
  require (¬ isReservedResearchSlot manifest.snapshotId manifest.matchweekId)
    "MV-MANIFEST-RESERVED" "Matchweek research slots require private publication authority."

/-- `publish_manifest`. -/
def publishManifest (request : ManifestRequest) : StoreCall ω ArtifactMetadata := do
  ensureWriteable
  Call.lift (checkPublicSlot request.manifest)
  publishManifestWith none request

/-! ## Staging -/

/-- `discard_incomplete_staging`: the names of the removed files. -/
def discardIncompleteStaging : StoreCall ω (List String) := do
  ensureWriteable
  let names ← Call.reading (runtimeError "OSError") fun world =>
    .ok (sortedSet (world.staging.map Prod.fst))
  Call.each unlinkStage names
  Call.touch (runtimeError "OSError")
  Call.ret names

/-! ## Inspection -/

structure ArtifactInspection where
  missing : List String
  corrupt : List String
  orphans : List String
  unreferenced : List String
  malformedManifests : List String
  stagingOrphans : List String
  deriving DecidableEq

/-- The object of a catalogued artifact is not there. -/
def isMissing (world : World ω) (metadata : ArtifactMetadata) : Bool :=
  metadata.relativePath = relativeObjectPath metadata.digest &&
    (world.objects.lookup metadata.relativePath).isNone

/-- The path of a catalogued artifact is not that of its digest, or the object there is
not the artifact. -/
def isCorrupt (world : World ω) (metadata : ArtifactMetadata) : Bool :=
  metadata.relativePath ≠ relativeObjectPath metadata.digest ||
    match world.objects.lookup metadata.relativePath with
    | none => false
    | some content => lengthOf content ≠ metadata.byteLength || digestOf content ≠ metadata.digest

/-- The rows of a manifest are those of the manifest in an object. -/
def wellPublished (world : World ω) (metadata : ArtifactMetadata) (found : ManifestRow)
    (manifest : SnapshotManifest) : Bool :=
  metadata.mediaType = manifestMediaType && manifest.digest = metadata.digest &&
    manifest.verifiedAtUtc.isSome && found = row manifest &&
    (world.catalog.snapshotManifestArtifacts metadata.digest =
      manifest.artifacts.map fun item => (item.artifactId, item.digest)) &&
    world.catalog.snapshotManifestVersions metadata.digest = manifest.versions

/-- The bytes of a catalogued manifest. -/
def readManifest (world : World ω) (metadata : ArtifactMetadata) : Option SnapshotManifest :=
  (world.objects.lookup metadata.relativePath).bind fun content =>
    (SnapshotManifest.fromBytes content).toOption

/-- A published manifest that its object does not bear out. -/
def isMalformed (world : World ω) (metadata : ArtifactMetadata) : Bool :=
  metadata.relativePath = relativeObjectPath metadata.digest &&
    match world.catalog.snapshotManifestMetadata metadata.digest with
    | none => false
    | some found =>
        match readManifest world metadata with
        | none => true
        | some manifest => !wellPublished world metadata found manifest

/-- The digest that names an object file. -/
def objectDigest? (path : String) : Option Digest :=
  (Digest.ofText? (String.ofList (path.toList.drop 18))).filter fun digest =>
    relativeObjectPath digest = path

/-- The digests of catalogued artifacts that meet a condition. -/
def reported (world : World ω) (condition : ArtifactMetadata → Bool) : List String :=
  sortedSet ((world.catalog.artifacts.filter condition).map fun item => item.digest.text)

/-- The digests that a manifest row, its members or another table refer to. -/
def referenced (world : World ω) (otherReferences : List Digest) : List Digest :=
  world.catalog.manifests.map ManifestRow.manifestDigest ++ otherReferences ++
    world.catalog.memberArtifacts.map MemberRow.artifactDigest

/-- `inspect`, with the digests of run completions. -/
def inspect (world : World ω) (otherReferences : List Digest) : ArtifactInspection where
  missing := reported world (isMissing world)
  corrupt := reported world (isCorrupt world)
  orphans := sortedSet (((world.objects.filterMap fun file => objectDigest? file.1).filter
    fun digest => digest ∉ world.catalog.artifacts.map ArtifactMetadata.digest).map Digest.text)
  unreferenced := reported world fun item => item.digest ∉ referenced world otherReferences
  malformedManifests := reported world (isMalformed world)
  stagingOrphans := sortedSet (world.staging.map Prod.fst)

end Publishing

end MatchVet.Artifacts.Store
