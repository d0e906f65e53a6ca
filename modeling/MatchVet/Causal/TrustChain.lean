import MatchVet.Causal.TrustRoles

/-!
# The chain of trust metadata

A trust bundle starts at a pinned bootstrap root.  Every later root is signed by
the root before it and by itself; the last root signs timestamp, snapshot and
targets, and each of these names the next.
-/

namespace MatchVet.Causal.TrustChain

open MatchVet.Causal.OwnerHistory
open MatchVet.Causal.TrustRoles
open MatchVet.Foundation.CanonicalJson
open MatchVet.Foundation.JsonEquality.Json
open MatchVet.Foundation.Runtime (bind_eq_ok exists_of_mem_left forall₂_of_mapM)
open MatchVet.Foundation.Timestamp

/-- Text that is no JSON, repeats a key or has a non-finite number, and other errors. -/
inductive LoadError where
  | malformed
  | other
  deriving DecidableEq, Repr

/-- Parsing of JSON text, the digest, base64 and the files of the package. -/
class TrustServices where
  loads : Bytes → Except LoadError Json
  sha256 : Bytes → String
  b64decode : Json → Except OwnerError Bytes
  asset : String → Bytes

export TrustServices (b64decode asset)

/-- `_AuthenticatedTrust`. -/
structure AuthenticatedTrust where
  signer : Bytes
  anchor : Bytes
  notBefore : Json
  notAfter : Json
  expiries : List Json
  versions : List Version

/-! ## Versions and references -/

/-- `_root_version`. -/
def rootVersion (document : Json) : Except OwnerError ℤ := do
  let signed ← subscript document "signed"
  let kind ← getKey signed "_type"
  match field signed "version" with
  | .int version =>
      if kind = .str "root" then .ok version
      else refuse "Sigstore root metadata type or version is invalid."
  | _ => refuse "Sigstore root metadata type or version is invalid."

/-- `_metadata_version`. -/
def metadataVersion (document : Json) (role : String) : Except OwnerError ℤ := do
  let signed ← subscript document "signed"
  let kind ← getKey signed "_type"
  match field signed "version" with
  | .int version =>
      if kind = .str role ∧ 1 ≤ version then .ok version
      else refuse ("Sigstore " ++ role ++ " metadata type or version is invalid.")
  | _ => refuse ("Sigstore " ++ role ++ " metadata type or version is invalid.")

/-- `document["signed"]["meta"][filename]`. -/
def reference (document : Json) (filename : String) : Except OwnerError Json := do
  let signed ← subscript document "signed"
  let files ← subscript signed "meta"
  subscript files filename

/-- `_referenced_version`. -/
def referencedVersion (document : Json) (filename : String) : Except OwnerError ℤ :=
  match (do let entry ← reference document filename; subscript entry "version") with
  | .error _ => refuse ("Sigstore TUF metadata has no reference to " ++ filename ++ ".")
  | .ok (.int version) =>
      if 1 ≤ version then .ok version
      else refuse ("Sigstore TUF reference to " ++ filename ++ " has an invalid version.")
  | .ok _ => refuse ("Sigstore TUF reference to " ++ filename ++ " has an invalid version.")

/-- `_positive_int`. -/
def positiveInt (value : Json) (label : String) : Except OwnerError ℤ :=
  match value with
  | .int number =>
      if 1 ≤ number then .ok number else refuse (label ++ " must be a positive integer.")
  | _ => refuse (label ++ " must be a positive integer.")

/-- The length test of a reference, where it gives one. -/
def checkLength (entry : Json) (filename : String) (content : Bytes) : Except OwnerError Unit :=
  match entry.get? "length" with
  | none => .ok ()
  | some given => do
      let length ← positiveInt given "TUF metadata length"
      if length ≠ content.length then
        refuse ("Sigstore TUF " ++ filename ++ " length does not match its parent metadata.")
      else .ok ()

/-- `_trusted_root_target_entry`. -/
def trustedRootTargetEntry (document : Json) : Except OwnerError Json :=
  match (do
      let signed ← subscript document "signed"
      let targets ← subscript signed "targets"
      subscript targets "trusted_root.json") with
  | .error _ => refuse "Authenticated Sigstore TUF metadata has no trusted_root.json target."
  | .ok entry =>
      if isObject entry then .ok entry
      else refuse "Sigstore TrustedRoot target metadata is malformed."

def isLowerHex (char : Char) : Bool := char.isDigit || ('a' ≤ char && char ≤ 'f')

/-- `_target_sha256`. -/
def targetSha256 (entry : Json) : Except OwnerError String :=
  let hashes := field entry "hashes"
  if !isObject hashes then refuse "Sigstore TrustedRoot target has no SHA-256 digest."
  else
    match field hashes "sha256" with
    | .str digest =>
        if digest.toList.length = 64 ∧ digest.toList.all isLowerHex = true then .ok digest
        else refuse "Sigstore TrustedRoot target SHA-256 digest is malformed."
    | _ => refuse "Sigstore TrustedRoot target has no SHA-256 digest."

section
variable [TrustServices]

/-- The hash test of a reference, where it gives one. -/
def checkHash (entry : Json) (filename : String) (content : Bytes) : Except OwnerError Unit :=
  let hashes := field entry "hashes"
  if isNull hashes then .ok ()
  else
    match isObject hashes, field hashes "sha256" with
    | true, .str digest =>
        if TrustServices.sha256 content ≠ digest then
          refuse ("Sigstore TUF " ++ filename ++ " hash does not match its parent metadata.")
        else .ok ()
    | _, _ => refuse ("Sigstore TUF " ++ filename ++ " hash reference is malformed.")

/-- `_verify_metadata_reference`. -/
def verifyMetadataReference (document : Json) (filename : String) (content : Bytes) :
    Except OwnerError Unit := do
  let entry ← reference document filename
  checkLength entry filename content
  checkHash entry filename content

/-- `_parse_json_object`. -/
def parseJsonObject (content : Bytes) (label : String) : Except OwnerError Json :=
  match TrustServices.loads content with
  | .error .malformed => refuse ("Sigstore " ++ label ++ " is malformed JSON.")
  | .error .other => .error .unexpected
  | .ok value =>
      if isObject value then .ok value
      else refuse ("Sigstore " ++ label ++ " is not a JSON object.")

/-- `_parse_json`. -/
def parseJson (content : Bytes) (label : String) : Except OwnerError Json := do
  let value ← parseJsonObject content label
  if isObject (field value "signed") then .ok value
  else refuse ("Sigstore " ++ label ++ " is not signed TUF JSON.")

/-! ## The trusted root -/

/-- The authorities of the approved endpoint among those of the trusted root. -/
def matchingAuthorities (authorities : Json) : Except OwnerError (List Json) :=
  match authorities with
  | .array items => do
      let uris ← items.mapM fun item => getKey item "uri"
      .ok (((items.zip uris).filter fun pair =>
        pair.2 = .str "https://timestamp.sigstore.dev/api/v1/timestamp").map Prod.fst)
  | .object [] => .ok []
  | .str "" => .ok []
  | _ => .error .unexpected

/-- The two certificates of a chain. -/
def chainCertificates (chain : Json) : Except OwnerError (Bytes × Bytes) :=
  match chain with
  | .array [leaf, root] => do
      let leafRaw ← subscript leaf "rawBytes"
      let first ← b64decode leafRaw
      let rootRaw ← subscript root "rawBytes"
      let second ← b64decode rootRaw
      .ok (first, second)
  | .array _ => refuse "TrustedRoot requires the exact two-certificate chain."
  | .object members =>
      if members.length = 2 then .error .unexpected
      else refuse "TrustedRoot requires the exact two-certificate chain."
  | .str text =>
      if text.toList.length = 2 then .error .unexpected
      else refuse "TrustedRoot requires the exact two-certificate chain."
  | _ => .error .unexpected

/-- The approved authority of the trusted root, with its certificates. -/
def approvedAuthority (trustedRoot : Bytes) (targets : Json) :
    Except OwnerError (Json × Bytes × Bytes) := do
  let entry ← trustedRootTargetEntry targets
  let length ← positiveInt (field entry "length") "target length"
  if trustedRoot.length ≠ length then refuse "TrustedRoot target length/hash mismatch."
  else do
    let digest ← targetSha256 entry
    if TrustServices.sha256 trustedRoot ≠ digest then
      refuse "TrustedRoot target length/hash mismatch."
    else do
      let document ← parseJsonObject trustedRoot "TrustedRoot"
      if field document "mediaType" ≠
          .str "application/vnd.dev.sigstore.trustedroot+json;version=0.1" then
        refuse "Unsupported TrustedRoot media type."
      else do
        let authorities ← subscript document "timestampAuthorities"
        let found ← matchingAuthorities authorities
        match found with
        | [tsa] => do
            let chain ← subscript tsa "certChain"
            let certificates ← subscript chain "certificates"
            let (leaf, root) ← chainCertificates certificates
            if TrustServices.sha256 leaf ≠ signer ∨ TrustServices.sha256 root ≠ anchor ∨
                leaf ≠ asset "sigstore-tsa-leaf.der" ∨ root ≠ asset "sigstore-tsa-root.der" then
              refuse "Unapproved signer/anchor pins."
            else .ok (tsa, leaf, root)
        | _ => refuse "TrustedRoot requires the exact single approved endpoint."

/-! ## Authentication -/

section
variable (verifyEcdsa : Bytes → Bytes → Bytes → Except OwnerError Bool)
  (late : ℕ → String → ℕ → Bool)

/-- One rotation: the next root, signed by the prior root and by itself. -/
def rotate (state : Json × ℕ) (raw : Bytes) : Except OwnerError (Json × ℕ) := do
  let root ← parseJson raw "root"
  let version ← rootVersion root
  if version ≠ state.2 then refuse "Nonsequential TUF root rotation."
  else do
    verifyRole verifyEcdsa (late state.2 "prior") root state.1 "root"
    verifyRole verifyEcdsa (late state.2 "root") root root "root"
    .ok (root, state.2 + 1)

/-- One document against its floor and, apart from the root, its signatures. -/
def checkMetadata (root : Json) (floor : Version) (raw : Bytes) (document : Json) :
    Except OwnerError Version := do
  let version ← metadataVersion document floor.role
  if version < floor.version ∨
      (version = floor.version ∧ TrustServices.sha256 raw ≠ floor.digest) then
    refuse ("TUF " ++ floor.role ++ " floor/identity violation.")
  else do
    let _ ← if floor.role = "root" then .ok ()
      else verifyRole verifyEcdsa (late 0 floor.role) document root floor.role
    .ok ⟨floor.role, version, TrustServices.sha256 raw⟩

/-- The reference of a parent to a child. -/
def checkReference (parent child : Json) (role : String) (raw : Bytes) :
    Except OwnerError Unit := do
  let named ← referencedVersion parent (role ++ ".json")
  let version ← metadataVersion child role
  if named ≠ version then refuse "TUF referenced metadata version mismatch."
  else verifyMetadataReference parent (role ++ ".json") raw

variable [Calendar]

/-- `_authenticate_checked`. -/
def authenticateChecked (bundle : TrustBundle) : Except OwnerError AuthenticatedTrust := do
  let content := asset "sigstore-root10.json"
  if TrustServices.sha256 content ≠ bootstrap ∨
      ¬(5 ≤ bundle.roots.length ∧ bundle.roots.length ≤ 64) then
    refuse "Missing authenticated bootstrap/rotations."
  else do
    let first ← parseJson content "bootstrap"
    let (root, _) ← bundle.roots.foldlM (rotate verifyEcdsa late) (first, 11)
    let timestamp ← parseJson bundle.timestamp "metadata"
    let snapshot ← parseJson bundle.snapshot "metadata"
    let targets ← parseJson bundle.targets "metadata"
    let raws := [bundle.roots.getLastD [], bundle.timestamp, bundle.snapshot, bundle.targets]
    let documents := [root, timestamp, snapshot, targets]
    let versions ← (reviewedFloors.zip (raws.zip documents)).mapM fun item =>
      checkMetadata verifyEcdsa late root item.1 item.2.1 item.2.2
    checkReference timestamp snapshot "snapshot" bundle.snapshot
    checkReference snapshot targets "targets" bundle.targets
    let (tsa, leaf, anchored) ← approvedAuthority bundle.trustedRoot targets
    let expiries ← documents.mapM fun document => do
      let signed ← subscript document "signed"
      subscript signed "expires"
    let _ ← expiries.mapM utc
    let validity ← subscript tsa "validFor"
    let start ← subscript validity "start"
    let limit ← getKey validity "end"
    .ok ⟨leaf, anchored, start, limit, expiries, versions⟩

end

/-! ## What an accepted bundle shows -/

section
variable (verifyEcdsa : Bytes → Bytes → Bytes → Except OwnerError Bool)

/-- Signed by enough keys of the role, where the root lists different keys. -/
def Signed (document root : Json) (role : String) : Prop :=
  DistinctKeys root role → KeySigned verifyEcdsa document root role

/-- Consecutive roots, each signed under the root before it and under itself. -/
def Rotations : ℕ → Json → List Json → Prop
  | _, _, [] => True
  | number, prior, root :: rest =>
      rootVersion root = .ok (number : ℤ) ∧ Signed verifyEcdsa root prior "root" ∧
        Signed verifyEcdsa root root "root" ∧ Rotations (number + 1) root rest

/-- A parent names a child: its version, and its length and hash where they are given. -/
structure Names (parent child : Json) (role : String) (raw : Bytes) : Prop where
  version : ∃ version, referencedVersion parent (role ++ ".json") = .ok version ∧
    metadataVersion child role = .ok version
  entry : ∃ entry, reference parent (role ++ ".json") = .ok entry ∧
    (∀ given, entry.get? "length" = some given → given = .int raw.length) ∧
    (field entry "hashes" ≠ .null →
      field (field entry "hashes") "sha256" = .str (TrustServices.sha256 raw))

/-- The documents of a bundle, signed and named as they must be. -/
structure Closure (bundle : TrustBundle) (first : Json) (roots : List Json)
    (timestamp snapshot targets : Json) : Prop where
  bootstrapped : parseJson (asset "sigstore-root10.json") "bootstrap" = .ok first
  roots_parsed : List.Forall₂ (fun raw root => parseJson raw "root" = .ok root) bundle.roots roots
  rotations : Rotations verifyEcdsa 11 first roots
  timestamp_parsed : parseJson bundle.timestamp "metadata" = .ok timestamp
  snapshot_parsed : parseJson bundle.snapshot "metadata" = .ok snapshot
  targets_parsed : parseJson bundle.targets "metadata" = .ok targets
  timestamp_signed : Signed verifyEcdsa timestamp (roots.getLastD first) "timestamp"
  snapshot_signed : Signed verifyEcdsa snapshot (roots.getLastD first) "snapshot"
  targets_signed : Signed verifyEcdsa targets (roots.getLastD first) "targets"
  snapshot_named : Names timestamp snapshot "snapshot" bundle.snapshot
  targets_named : Names snapshot targets "targets" bundle.targets

variable {verifyEcdsa} {late : ℕ → String → ℕ → Bool}

omit [TrustServices] in
theorem signed_of_verifyRole {reading : ℕ → Bool} {document root : Json} {role : String}
    (hverify : verifyRole verifyEcdsa reading document root role = .ok ()) :
    Signed verifyEcdsa document root role :=
  fun hdistinct => keySigned_of_distinct hdistinct hverify

theorem rotate_eq_ok {state next : Json × ℕ} {raw : Bytes}
    (hrotate : rotate verifyEcdsa late state raw = .ok next) :
    parseJson raw "root" = .ok next.1 ∧ rootVersion next.1 = .ok (state.2 : ℤ) ∧
      Signed verifyEcdsa next.1 state.1 "root" ∧ Signed verifyEcdsa next.1 next.1 "root" ∧
        next.2 = state.2 + 1 := by
  obtain ⟨root, hparse, hversion⟩ := bind_eq_ok.mp hrotate
  obtain ⟨version, hread, hcheck⟩ := bind_eq_ok.mp hversion
  split at hcheck
  next => cases hcheck
  next hsame =>
    obtain ⟨_, hprior, hown⟩ := bind_eq_ok.mp hcheck
    obtain ⟨_, hself, hdone⟩ := bind_eq_ok.mp hown
    obtain rfl := Except.ok.inj hdone
    rw [not_not.mp hsame] at hread
    exact ⟨hparse, hread, signed_of_verifyRole hprior, signed_of_verifyRole hself, rfl⟩

theorem rotations_of_run {raws : List Bytes} {state last : Json × ℕ}
    (hrun : raws.foldlM (rotate verifyEcdsa late) state = .ok last) :
    ∃ roots, List.Forall₂ (fun raw root => parseJson raw "root" = .ok root) raws roots ∧
      Rotations verifyEcdsa state.2 state.1 roots ∧ last.1 = roots.getLastD state.1 := by
  induction raws generalizing state with
  | nil =>
      obtain rfl := Except.ok.inj hrun
      exact ⟨[], .nil, trivial, rfl⟩
  | cons raw rest ih =>
      rw [List.foldlM_cons] at hrun
      obtain ⟨next, hrotate, hrest⟩ := bind_eq_ok.mp hrun
      obtain ⟨hparse, hversion, hprior, hself, hnumber⟩ := rotate_eq_ok hrotate
      obtain ⟨roots, hroots, hrotations, hlast⟩ := ih hrest
      rw [hnumber] at hrotations
      refine ⟨next.1 :: roots, .cons hparse hroots, ⟨hversion, hprior, hself, hrotations⟩, ?_⟩
      rw [hlast, List.getLastD_cons]

theorem checkMetadata_eq_ok {root document : Json} {floor version : Version} {raw : Bytes}
    (hcheck : checkMetadata verifyEcdsa late root floor raw document = .ok version)
    (hrole : floor.role ≠ "root") : Signed verifyEcdsa document root floor.role := by
  obtain ⟨number, -, hfloor⟩ := bind_eq_ok.mp hcheck
  split at hfloor
  next => cases hfloor
  next =>
    obtain ⟨_, hverify, -⟩ := bind_eq_ok.mp hfloor
    exact signed_of_verifyRole hverify

omit [TrustServices] in
theorem checkLength_eq_ok {entry : Json} {filename : String} {content : Bytes}
    (hcheck : checkLength entry filename content = .ok ()) :
    ∀ given, entry.get? "length" = some given → given = .int content.length := by
  intro given hgiven
  unfold checkLength at hcheck
  rw [hgiven] at hcheck
  obtain ⟨length, hlength, hsame⟩ := bind_eq_ok.mp hcheck
  split at hsame
  next => cases hsame
  next heq =>
    unfold positiveInt at hlength
    split at hlength
    next number =>
      split at hlength
      next =>
        obtain rfl := Except.ok.inj hlength
        rw [not_not.mp heq]
      next => cases hlength
    next => cases hlength

theorem checkHash_eq_ok {entry : Json} {filename : String} {content : Bytes}
    (hcheck : checkHash entry filename content = .ok ())
    (hgiven : field entry "hashes" ≠ .null) :
    field (field entry "hashes") "sha256" = .str (TrustServices.sha256 content) := by
  have hsome : ¬isNull (field entry "hashes") = true := mt Foundation.JsonEquality.isNull_eq_true.mp hgiven
  unfold checkHash at hcheck
  dsimp only at hcheck
  rw [if_neg hsome] at hcheck
  split at hcheck
  next digest _ hdigest =>
    split at hcheck
    next => cases hcheck
    next hsame => rw [hdigest, not_not.mp hsame]
  next => cases hcheck

theorem checkReference_eq_ok {parent child : Json} {role : String} {raw : Bytes}
    (hcheck : checkReference parent child role raw = .ok ()) : Names parent child role raw := by
  obtain ⟨named, hnamed, hversion⟩ := bind_eq_ok.mp hcheck
  obtain ⟨version, hread, hsame⟩ := bind_eq_ok.mp hversion
  split at hsame
  next => cases hsame
  next heq =>
    obtain ⟨entry, hentry, hlength⟩ := bind_eq_ok.mp hsame
    obtain ⟨_, hlength, hhash⟩ := bind_eq_ok.mp hlength
    rw [not_not.mp heq] at hnamed
    exact ⟨⟨version, hnamed, hread⟩, entry, hentry, checkLength_eq_ok hlength,
      checkHash_eq_ok hhash⟩

/-- An accepted bundle is a chain of signed documents that name each other. -/
theorem closure_of_authenticateChecked [Calendar] {bundle : TrustBundle}
    {trust : AuthenticatedTrust}
    (haccepted : authenticateChecked verifyEcdsa late bundle = .ok trust) :
    ∃ first roots timestamp snapshot targets,
      Closure verifyEcdsa bundle first roots timestamp snapshot targets := by
  unfold authenticateChecked at haccepted
  dsimp only at haccepted
  split at haccepted
  next => cases haccepted
  next =>
    obtain ⟨first, hfirst, haccepted⟩ := bind_eq_ok.mp haccepted
    obtain ⟨last, hrun, haccepted⟩ := bind_eq_ok.mp haccepted
    obtain ⟨timestamp, htimestamp, haccepted⟩ := bind_eq_ok.mp haccepted
    obtain ⟨snapshot, hsnapshot, haccepted⟩ := bind_eq_ok.mp haccepted
    obtain ⟨targets, htargets, haccepted⟩ := bind_eq_ok.mp haccepted
    obtain ⟨versions, hversions, haccepted⟩ := bind_eq_ok.mp haccepted
    obtain ⟨_, hsnapshotNamed, haccepted⟩ := bind_eq_ok.mp haccepted
    obtain ⟨_, htargetsNamed, -⟩ := bind_eq_ok.mp haccepted
    obtain ⟨roots, hroots, hrotations, hlast⟩ := rotations_of_run hrun
    have hchecks := forall₂_of_mapM hversions
    have hsigned : ∀ item ∈ reviewedFloors.zip ([bundle.roots.getLastD [], bundle.timestamp,
        bundle.snapshot, bundle.targets].zip [last.1, timestamp, snapshot, targets]),
          item.1.role ≠ "root" → Signed verifyEcdsa item.2.2 last.1 item.1.role := by
      intro item hitem hrole
      obtain ⟨version, -, hcheck⟩ := exists_of_mem_left hchecks hitem
      exact checkMetadata_eq_ok hcheck hrole
    have hroles : reviewedFloors[1].role ≠ "root" ∧ reviewedFloors[2].role ≠ "root" ∧
        reviewedFloors[3].role ≠ "root" := by decide
    rw [hlast] at hsigned
    refine ⟨first, roots, timestamp, snapshot, targets, hfirst, hroots, hrotations, htimestamp,
      hsnapshot, htargets, ?_, ?_, ?_, checkReference_eq_ok hsnapshotNamed,
      checkReference_eq_ok htargetsNamed⟩
    · exact hsigned (reviewedFloors[1], bundle.timestamp, timestamp) (by simp [reviewedFloors])
        hroles.1
    · exact hsigned (reviewedFloors[2], bundle.snapshot, snapshot) (by simp [reviewedFloors])
        hroles.2.1
    · exact hsigned (reviewedFloors[3], bundle.targets, targets) (by simp [reviewedFloors])
        hroles.2.2

end

end

/-! ## One key under two ids -/

namespace SharedKey

/-- An entry of the key table with the public key `K`. -/
def key : Json := .object [("keytype", .str "ecdsa"), ("scheme", .str "ecdsa-sha2-nistp256"),
  ("keyval", .object [("public", .str "K")])]

/-- A root that lists one key under the two ids of its role. -/
def root : Json := .object [("signed", .object [
  ("roles", .object [("root", .object [("keyids", .array [.str "a", .str "b"]),
    ("threshold", .int 2)])]),
  ("keys", .object [("a", key), ("b", key)])])]

theorem publicKey_root {keys : Json} (hkeys : rootKeys root = .ok keys) {keyid : String}
    (hkeyid : keyid ∈ ["a", "b"]) {found : String} (hfound : publicKey keys keyid = .ok found) :
    found = "K" := by
  obtain rfl := Except.ok.inj hkeys
  simp only [List.mem_cons, List.not_mem_nil, or_false] at hkeyid
  rcases hkeyid with rfl | rfl
  · exact (Except.ok.inj hfound).symm
  · exact (Except.ok.inj hfound).symm

def policy : RolePolicy :=
  ⟨["a", "b"], 2, by decide, by decide, by decide, by decide⟩

theorem rolePolicy_root : rolePolicy root "root" = .ok policy := rfl

end SharedKey

end MatchVet.Causal.TrustChain
