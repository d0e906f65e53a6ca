import MatchVet.Foundation.JsonEquality
import MatchVet.Foundation.Timestamp

/-!
# The causal owner's history

The owner signs a list of records: an activation, then admissions of newer trust
metadata, at most one withdrawal, and reconciliations.  `_history` replays the
list record by record; `_retained_approval` replays retained evidence and
`_require_lineage` compares two retained approvals.
-/

namespace MatchVet.Causal.OwnerHistory

open MatchVet.Foundation.CanonicalJson
open MatchVet.Foundation.JsonEquality
open MatchVet.Foundation.JsonEquality.Json
open MatchVet.Foundation.Runtime
open MatchVet.Foundation.Timestamp

abbrev Bytes := List UInt8

/-- `WitnessError` with its text, or an error of the runtime. -/
inductive OwnerError where
  | witness (message : String)
  | unexpected
  deriving DecidableEq, Repr

def refuse {α : Type} (message : String) : Except OwnerError α := .error (.witness message)

structure TrustBundle where
  roots : List Bytes
  timestamp : Bytes
  snapshot : Bytes
  targets : Bytes
  trustedRoot : Bytes
  deriving DecidableEq

/-- A role, its authenticated metadata version and the metadata digest. -/
structure Version where
  role : String
  version : ℤ
  digest : String
  deriving DecidableEq

/-- Parsing and writing of JSON text, the digest, the signature check and the
authentication of a trust bundle.  `loads` refuses duplicate keys and non-finite
numbers and gives objects with their keys in order. -/
class OwnerServices where
  loads : Bytes → Option Json
  dumps : Json → Bytes
  sha256 : Bytes → String
  verifySignature : (key message signature : Bytes) → Bool
  authenticate : TrustBundle → Except OwnerError (List Version)

export OwnerServices (loads dumps verifySignature authenticate)

/-! ## Constants -/

def domain : String := "matchvet-causal-owner-v1"

def limit : ℕ := 16 * 1024 * 1024

def target : String := "6494e21ea73fa7ee769f85f57d5a3e6a08725eae1e38c755fc3517c9e6bc0b66"

def signer : String := "85f927bc07ab62cac3b44356c10efc81b2c6883fda7ab9e6d870d9d13acd05b7"

def anchor : String := "2aca8fea5d3ce48b01cc77076293c280e6c23ffe44034757ee7833ca9f45d633"

def bootstrap : String := "836bff947925edfc23eb9ce17af66fb1e43bb5e2bdd240520985ae52b585eae9"

def reviewedFloors : List Version := [
  ⟨"root", 15, "73747011d0857ada15479a16c4cae0f3ed03aac698b523b97e1de314ac9d9ca8"⟩,
  ⟨"timestamp", 799, "b8cd928494ed0736a71f93bf0bcb0e1d5bcfc4b871bc564b235306dac513b783"⟩,
  ⟨"snapshot", 165, "8f784ab614ec62bfdd5f568eb2a2e3011668449ba235ed4eb7befa99f8469933"⟩,
  ⟨"targets", 14, "6a697f7f8908c8ab26c11786ecb490b54acec97fa8c802e399f065f8a0cc1acd"⟩]

/-- Versions as they stand in a record. -/
def versionsJson (versions : List Version) : Json :=
  .array (versions.map fun item => .array [.str item.role, .int item.version, .str item.digest])

def profileJson : Json := .object [
  ("anchor", .str anchor),
  ("assurance", .str "HISTORICAL_RETAINED_TRUST_ONLY"),
  ("bootstrap", .str bootstrap),
  ("current_revocation_checked", .bool false),
  ("curve", .str "P-384"),
  ("digest_algorithm", .str "2.16.840.1.101.3.4.2.1"),
  ("endpoint", .str "https://timestamp.sigstore.dev/api/v1/timestamp"),
  ("handler_revision", .str "3593e847b84fa501e2a0729eaea2c6ac982c4ab3"),
  ("initial_trusted_root", .str target),
  ("leap_interpretation", .str "NO_DAY_CROSSING"),
  ("max_accuracy_microseconds", .int 1000000),
  ("operator", .str "sigstore.dev"),
  ("operator_key_to_policy_association", .str "EXPLICIT_APPROVED_MATCHVET_CONFIGURATION"),
  ("policy_oid", .str "1.3.6.1.4.1.57264.2"),
  ("policy_revision", .str "3a83b1f015affed68763ef73f7729aa478c650e1"),
  ("policy_sha256", .str "97a3306df4f0ea5f5f64a938072bb802492b7cf1fca0661b20de0a6c98071bcf"),
  ("premises", .array [.str "OPERATOR_POLICY_COMPLIANCE", .str "UNCOMPROMISED_AUTHORITY",
    .str "UNSMEARED_UTC"]),
  ("profile", .str "matchvet-sigstore-causal-event-v1"),
  ("protocol", .str "matchvet-causal-selection-v2"),
  ("reviewed_metadata_floors", versionsJson reviewedFloors),
  ("signature_algorithm", .str "1.2.840.10045.4.3.2"),
  ("signer", .str signer),
  ("timescale", .str "UNSMEARED_UTC")]

def premisesJson : Json := .object [
  ("operator_policy_compliance", .bool true),
  ("uncompromised_authority", .bool true),
  ("unsmeared_utc", .bool true)]

def identityFields : List String := ["owner", "deployment", "catalog", "history"]

/-- `_FIELDS`. -/
def recordFields : List String :=
  ["domain", "schema_version", "algorithm", "action", "owner", "deployment", "catalog", "history",
    "sequence", "predecessor", "purpose", "issue", "profile_digest", "profile",
    "accepted_premises", "not_before", "not_after", "bundle", "floors", "adverse"]

/-- The fields that no later record may change. -/
def fixedFields : List String :=
  recordFields.filter fun name =>
    !(["sequence", "predecessor", "action", "bundle", "floors", "adverse"].contains name)

def adverseFields : List String := ["effective_from", "published_at", "observed_at"]

def bundleFields : List String := ["roots", "timestamp", "snapshot", "targets", "trusted_root"]

/-! ## Bytes and times -/

def hexDigit? (char : Char) : Option ℕ :=
  if '0' ≤ char ∧ char ≤ '9' then some (char.toNat - '0'.toNat)
  else if 'a' ≤ char ∧ char ≤ 'f' then some (char.toNat - 'a'.toNat + 10)
  else if 'A' ≤ char ∧ char ≤ 'F' then some (char.toNat - 'A'.toNat + 10)
  else none

/-- `bytes.fromhex`: pairs of digits with white space between them. -/
def fromHex : List Char → Option Bytes
  | [] => some []
  | [char] => if isSpace char then some [] else none
  | char :: second :: rest =>
      match hexDigit? char, hexDigit? second with
      | some high, some low => (fromHex rest).map (UInt8.ofNat (16 * high + low) :: ·)
      | some _, none => none
      | none, _ => if isSpace char then fromHex (second :: rest) else none

def hexChar (value : ℕ) : Char :=
  if value < 10 then Char.ofNat ('0'.toNat + value) else Char.ofNat ('a'.toNat + (value - 10))

/-- `bytes.hex`. -/
def toHex (raw : Bytes) : String :=
  String.ofList (raw.flatMap fun byte => [hexChar (byte.toNat / 16), hexChar (byte.toNat % 16)])

/-- `_hex`. -/
def hexBytes : Json → Except OwnerError Bytes
  | .str value =>
      match fromHex value.toList with
      | none => .error .unexpected
      | some raw =>
          if toHex raw = value then .ok raw else refuse "Noncanonical owner hexadecimal bytes."
  | _ => refuse "Owner evidence requires exact hexadecimal bytes."

/-- A text shaped like a template, whose `0` stands for any digit. -/
def fits (template : String) (chars : List Char) : Bool :=
  chars.length = template.toList.length &&
    (template.toList.zip chars).all fun pair =>
      if pair.1 = '0' then pair.2.isDigit else pair.1 = pair.2

def isZone (chars : List Char) : Bool := chars = ['Z'] || chars = "+00:00".toList

/-- The pattern of `_utc`. -/
def utcPattern (text : String) : Bool :=
  fits "0000-00-00T00:00:00" (text.toList.take 19) &&
    match text.toList.drop 19 with
    | '.' :: rest =>
        let digits := (rest.takeWhile Char.isDigit).length
        1 ≤ digits && digits ≤ 6 && isZone (rest.dropWhile Char.isDigit)
    | zone => isZone zone

/-- `value.replace("Z", "+00:00")` of a text with at most one `Z`, its last character. -/
def explicitZone (text : String) : String :=
  if text.toList.getLast? = some 'Z' then String.ofList text.toList.dropLast ++ "+00:00" else text

section Replay

variable [Calendar] [OwnerServices]

/-- `_utc`. -/
def utc : Json → Except OwnerError Instant
  | .str value =>
      if utcPattern value then
        match fromIsoFormat (explicitZone value) with
        | some reading => .ok (reading.clock - reading.offset.getD 0)
        | none => .error .unexpected
      else refuse "Unsupported UTC bound."
  | _ => .error .unexpected

/-! ## Envelopes -/

/-- `_json`. -/
def parseOwner (raw : Bytes) : Except OwnerError Json :=
  if raw.isEmpty || limit < raw.length then refuse "Owner evidence exceeds its bound."
  else
    match loads raw with
    | none => refuse "Sigstore owner is malformed JSON."
    | some value =>
        if !isObject value then refuse "Sigstore owner is not a JSON object."
        else if dumps value = raw then .ok value
        else refuse "Noncanonical owner envelope."

def keyPrefix : Bytes := [0x30, 0x2a, 0x30, 0x05, 0x06, 0x03, 0x2b, 0x65, 0x70, 0x03, 0x21, 0x00]

/-- The header test of `_verify` on a signature and its signed object. -/
def signedHeader (signature key : Bytes) (signed : Json) : Bool :=
  signature.length = 64 && same (field signed "domain") (.str domain) &&
    (match field signed "schema_version" with
      | .int version => version = 1
      | _ => false) &&
    same (field signed "algorithm") (.str "Ed25519") &&
    same (field signed "owner") (.str (OwnerServices.sha256 key))

def signedMessage (signed : Json) : Bytes :=
  domain.toList.map (fun char => UInt8.ofNat char.toNat) ++ [0] ++ dumps signed

/-- `_verify`. -/
def verify (raw key : Bytes) : Except OwnerError Json :=
  if key.length ≠ 44 || key.take 12 ≠ keyPrefix then
    refuse "Owner key must be Ed25519 SubjectPublicKeyInfo DER."
  else do
    let envelope ← parseOwner raw
    if !(hasFields envelope ["signed", "signature"] && isObject (field envelope "signed")) then
      refuse "Unsupported owner envelope."
    else
      let signature ← hexBytes (field envelope "signature")
      let signed := field envelope "signed"
      if !signedHeader signature key signed then
        refuse "Owner envelope domain/schema/key mismatch."
      else if verifySignature key (signedMessage signed) signature then .ok signed
      else refuse "Bounded OpenSSL verification rejected the input."

/-- `_bundle`. -/
def readBundle (value : Json) : Except OwnerError TrustBundle :=
  if !hasFields value bundleFields then refuse "Missing exact admitted owner trust bundle."
  else
    match field value "roots" with
    | .array items => do
        let roots ← items.mapM hexBytes
        let timestamp ← hexBytes (field value "timestamp")
        let snapshot ← hexBytes (field value "snapshot")
        let targets ← hexBytes (field value "targets")
        let trustedRoot ← hexBytes (field value "trusted_root")
        .ok ⟨roots, timestamp, snapshot, targets, trustedRoot⟩
    | _ => refuse "Missing exact admitted owner trust bundle."

/-! ## One record -/

/-- What `_history` carries from one record to the next. -/
structure Carried where
  value : Json
  raw : Bytes
  bundle : TrustBundle

def isText : Json → Bool
  | .str text => text ≠ ""
  | _ => false

/-- The digest a record must name as its predecessor. -/
def predecessorOf : Option Carried → Json
  | none => .null
  | some prior => .str (OwnerServices.sha256 prior.raw)

def recordMatches (value : Json) (sequence : ℕ) (prior : Option Carried) : Bool :=
  hasFields value recordFields &&
    (match field value "sequence" with
      | .int number => number = sequence
      | _ => false) &&
    same (field value "predecessor") (predecessorOf prior) &&
    (identityFields.all fun name => isText (field value name)) &&
    same (field value "purpose") (.str "RESEARCH_ONLY") &&
    (match field value "issue" with
      | .int number => number = 70
      | _ => false) &&
    same (field value "profile_digest") (.str (OwnerServices.sha256 (dumps profileJson))) &&
    dumps (field value "profile") = dumps profileJson &&
    dumps (field value "accepted_premises") = dumps premisesJson

def recordMismatch {α : Type} : Except OwnerError α :=
  refuse "Owner record identity/profile/sequence mismatch."

def checkRecord (value : Json) (sequence : ℕ) (prior : Option Carried) : Except OwnerError Unit :=
  if !recordMatches value sequence prior then recordMismatch
  else do
    let notBefore ← utc (field value "not_before")
    let notAfter ← utc (field value "not_after")
    if notAfter ≤ notBefore then recordMismatch else .ok ()

/-- Two records agree on some fields. -/
def agreeOn (names : List String) (first second : Json) : Bool :=
  names.all fun name => same (field first name) (field second name)

/-- The test of one action on the record before it. -/
def checkAction (value : Json) : Option Carried → Except OwnerError Unit
  | none =>
      if !same (field value "action") (.str "activate") || !isNull (field value "adverse") then
        refuse "Owner history must begin with activation."
      else .ok ()
  | some prior =>
      if !agreeOn fixedFields prior.value value then
        refuse "Owner history changes immutable approval identities."
      else if same (field value "action") (.str "admit") then
        if !isNull (field prior.value "adverse") || !isNull (field value "adverse") then
          refuse "Withdrawn owner history cannot admit new metadata."
        else .ok ()
      else if same (field value "action") (.str "withdraw") then
        if isNull (field value "adverse") || !isNull (field prior.value "adverse") then
          refuse "Withdrawal must append exact adverse evidence once."
        else if !agreeOn ["bundle", "floors"] prior.value value then
          refuse "Withdrawal cannot change admitted metadata."
        else .ok ()
      else if same (field value "action") (.str "reconcile") then
        if !agreeOn ["bundle", "floors", "adverse"] prior.value value then
          refuse "Reconciliation cannot erase or change owner state."
        else .ok ()
      else refuse "Unsupported owner action."

def checkAdverse (adverse : Json) : Except OwnerError Unit :=
  if isNull adverse then .ok ()
  else if !hasFields adverse adverseFields then
    refuse "Malformed authenticated adverse evidence."
  else do
    let _ ← utc (field adverse "published_at")
    let _ ← utc (field adverse "observed_at")
    if isNull (field adverse "effective_from") then .ok ()
    else
      let _ ← utc (field adverse "effective_from")
      .ok ()

def checkRoots (candidate : TrustBundle) : Option Carried → Except OwnerError Unit
  | none => .ok ()
  | some prior =>
      if candidate.roots.take prior.bundle.roots.length ≠ prior.bundle.roots then
        refuse "Owner admission rewrites an admitted root rotation identity."
      else .ok ()

/-- A changed bundle is authenticated again; an unchanged one keeps its floors. -/
def checkMetadata (value : Json) (candidate : TrustBundle) (prior : Option Carried) :
    Except OwnerError Unit :=
  if prior.map Carried.bundle ≠ some candidate then do
    let versions ← authenticate candidate
    if OwnerServices.sha256 candidate.trustedRoot ≠ target then
      refuse "Owner admission changes the immutable TrustedRoot pin."
    else if !same (field value "floors") (versionsJson versions) then
      refuse "Owner floors do not name the exact authenticated closure."
    else .ok ()
  else
    match prior with
    | some carried =>
        if !same (field value "floors") (field carried.value "floors") then
          refuse "Owner floors changed without exact metadata admission."
        else .ok ()
    | none => .ok ()

/-- The first three items of a floor. -/
def floorItems : Json → Except OwnerError (Json × Json × Json)
  | .array (role :: version :: digest :: _) => .ok (role, version, digest)
  | _ => .error .unexpected

/-- `<` on two numbers or two texts. -/
def lessThan (first second : Json) : Except OwnerError Bool :=
  match numeric? first, numeric? second, first, second with
  | some left, some right, _, _ => .ok (left < right)
  | _, _, .str left, .str right => .ok (left < right)
  | _, _, _, _ => .error .unexpected

def checkFloor (old new : Json) : Except OwnerError Unit := do
  let (oldRole, oldVersion, oldDigest) ← floorItems old
  let (newRole, newVersion, newDigest) ← floorItems new
  if !same oldRole newRole then
    refuse "Owner floor rollback or equal-version hash conflict."
  else
    let lower ← lessThan newVersion oldVersion
    if lower || (same newVersion oldVersion && !same newDigest oldDigest) then
      refuse "Owner floor rollback or equal-version hash conflict."
    else .ok ()

/-- `zip(..., strict=True)` over the floors of two records. -/
def checkFloorItems : List Json → List Json → Except OwnerError Unit
  | [], [] => .ok ()
  | old :: rest, new :: others => do
      checkFloor old new
      checkFloorItems rest others
  | _, _ => .error .unexpected

def checkFloors (value : Json) : Option Carried → Except OwnerError Unit
  | none => .ok ()
  | some prior =>
      match field prior.value "floors", field value "floors" with
      | .array old, .array new => checkFloorItems old new
      | _, _ => .error .unexpected

/-- The body of the loop of `_history`. -/
def historyStep (key : Bytes) (prior : Option Carried) (sequence : ℕ) (raw : Bytes) :
    Except OwnerError Carried := do
  let value ← verify raw key
  checkRecord value sequence prior
  checkAction value prior
  checkAdverse (field value "adverse")
  let candidate ← readBundle (field value "bundle")
  checkRoots candidate prior
  checkMetadata value candidate prior
  checkFloors value prior
  .ok ⟨value, raw, candidate⟩

/-! ## Whole histories -/

/-- The records from one sequence number on. -/
def replayRecords (key : Bytes) (prior : Option Carried) (sequence : ℕ) :
    List Bytes → Except OwnerError (Option Carried)
  | [] => .ok prior
  | raw :: rest => do
      let next ← historyStep key prior sequence raw
      replayRecords key (some next) (sequence + 1) rest

structure Approval where
  notBefore : String
  notAfter : String
  floors : List (List Json)
  targetDigest : String
  historyIdentity : String
  withdrawnFrom : Option String
  ownerRecord : Bytes
  ownerEvidence : Option Bytes

def textOf : Json → Except OwnerError String
  | .str text => .ok text
  | _ => .error .unexpected

def rowOf : Json → Except OwnerError (List Json)
  | .array items => .ok items
  | _ => .error .unexpected

/-- The instant an approval is withdrawn from: an unknown one is its start. -/
def withdrawnFrom (value : Json) (notBefore : String) : Except OwnerError (Option String) :=
  if isNull (field value "adverse") then .ok none
  else
    match field (field value "adverse") "effective_from" with
    | .str effective => .ok (some (if effective = "" then notBefore else effective))
    | .null => .ok (some notBefore)
    | _ => .error .unexpected

/-- The approval that the last record stands for. -/
def approvalOf (last : Carried) : Except OwnerError Approval := do
  let notBefore ← textOf (field last.value "not_before")
  let notAfter ← textOf (field last.value "not_after")
  let rows ← rowOf (field last.value "floors")
  let floors ← rows.mapM rowOf
  let historyIdentity ← textOf (field last.value "history")
  let withdrawn ← withdrawnFrom last.value notBefore
  .ok ⟨notBefore, notAfter, floors, target, historyIdentity, withdrawn, last.raw, none⟩

/-- `_history`. -/
def history (records : List Bytes) (key : Bytes) :
    Except OwnerError (Approval × TrustBundle) :=
  if records.isEmpty || 1024 < records.length then refuse "Missing or excessive owner history."
  else do
    let last ← replayRecords key none 1 records
    match last with
    | none => .error .unexpected
    | some carried => do
        let approval ← approvalOf carried
        .ok (approval, carried.bundle)

/-! ## Retained approvals -/

def headFields : List String :=
  ["domain", "schema_version", "algorithm", "action"] ++ identityFields ++
    ["nonce", "sequence", "head", "floors", "continuity"]

def headMismatch {α : Type} : Except OwnerError α :=
  refuse "Missing, old, forked or uncertain independent owner checkpoint."

/-- `_check_head` without a nonce. -/
def checkHead (raw key : Bytes) (last : Json) (records : List Bytes) : Except OwnerError Unit := do
  let head ← verify raw key
  if !(hasFields head headFields && same (field head "action") (.str "checkpoint") &&
      same (field head "continuity") (.str "RECONCILED")) then headMismatch
  else
    let nonce ← hexBytes (field head "nonce")
    if nonce.length = 32 && agreeOn identityFields head last &&
        (match field head "sequence" with
          | .int number => number = records.length
          | _ => false) &&
        same (field head "head") (.str (OwnerServices.sha256 (records.getLast?.getD []))) &&
        same (field head "floors") (field last "floors") then .ok ()
    else headMismatch

/-- The parts of retained evidence that its replay reads. -/
structure Evidence where
  value : Json
  records : List Bytes
  key : Bytes

def evidenceFields : List String :=
  ["schema_version", "approval_digest", "records", "checkpoint", "verification_key"]

def evidenceSchema (value : Json) : Bool :=
  hasFields value evidenceFields &&
    match field value "schema_version" with
    | .int version => version = 2
    | _ => false

/-- The first half of `_retained_approval`. -/
def readEvidence (raw : Bytes) : Except OwnerError Evidence := do
  let value ← parseOwner raw
  if !evidenceSchema value then refuse "Unsupported signed approval evidence schema."
  else
    match field value "records" with
    | .array items => do
        let records ← items.mapM hexBytes
        if records.isEmpty || !same (field value "approval_digest")
            (.str (OwnerServices.sha256 (records.getLast?.getD []))) then
          refuse "Retained approval identity differs from its signed record bytes."
        else
          let key ← hexBytes (field value "verification_key")
          .ok ⟨value, records, key⟩
    | _ => refuse "Unsupported signed approval evidence schema."

/-- `_retained_approval`. -/
def retainedApproval (raw : Bytes) : Except OwnerError (Approval × TrustBundle) := do
  let evidence ← readEvidence raw
  let (approval, bundle) ← history evidence.records evidence.key
  let checkpoint ← hexBytes (field evidence.value "checkpoint")
  let last ← parseOwner (evidence.records.getLast?.getD [])
  checkHead checkpoint evidence.key (field last "signed") evidence.records
  .ok ({ approval with ownerEvidence := some raw }, bundle)

/-- `_require_lineage`. -/
def requireLineage (original current : Approval) : Except OwnerError Unit :=
  match original.ownerEvidence, current.ownerEvidence with
  | some before, some after => do
      let prior ← parseOwner before
      let now ← parseOwner after
      if !same (field prior "verification_key") (field now "verification_key") ||
          !sameItems ((field now "records").items.take (field prior "records").items.length)
            (field prior "records").items then
        refuse "Original approval is not in the current authenticated owner history."
      else .ok ()
  | _, _ => refuse "Retained approval has no independently authenticated lineage."

end Replay

end MatchVet.Causal.OwnerHistory
