import Mathlib.Data.List.Sort
import MatchVet.Causal.OwnerHistory
import MatchVet.Foundation.JsonDocument

/-!
# Roles of the trust metadata

Every document of the trust metadata is signed under a role of a root.  A role
lists key ids and a threshold, the root lists the keys, and a signature record
names a key id.
-/

namespace MatchVet.Causal.TrustRoles

open MatchVet.Causal.OwnerHistory
open MatchVet.Foundation.CanonicalJson
open MatchVet.Foundation.JsonDocument (integerChars)
open MatchVet.Foundation.JsonEquality.Json
open MatchVet.Foundation.Runtime (bind_eq_ok)

/-! ## Canonical bytes -/

def KeyLE (first second : String × List Char) : Prop := first.1 ≤ second.1

instance : DecidableRel KeyLE :=
  fun first second => inferInstanceAs (Decidable (first.1 ≤ second.1))

/-- A string with its backslashes and quotes escaped, and nothing else. -/
def quote (text : String) : List Char :=
  '"' :: (text.toList.flatMap (fun char =>
    if char = '\\' then ['\\', '\\'] else if char = '"' then ['\\', '"'] else [char]) ++ ['"'])

mutual

/-- `encode` of `_tuf_canonical_bytes`; a number that is not an integer has no encoding. -/
def encode : Json → Option (List Char)
  | .null => some ['n', 'u', 'l', 'l']
  | .bool true => some ['t', 'r', 'u', 'e']
  | .bool false => some ['f', 'a', 'l', 's', 'e']
  | .int value => some (integerChars value)
  | .number _ => none
  | .str text => some (quote text)
  | .array items => (encodeItems items).map fun parts => '[' :: ([','].intercalate parts ++ [']'])
  | .object members => (encodeMembers members).map fun fields =>
      '\x7b' :: ([','].intercalate ((fields.insertionSort KeyLE).map Prod.snd) ++ ['\x7d'])

def encodeItems : List Json → Option (List (List Char))
  | [] => some []
  | item :: rest => do
      let first ← encode item
      let more ← encodeItems rest
      some (first :: more)

def encodeMembers : List (String × Json) → Option (List (String × List Char))
  | [] => some []
  | (key, value) :: rest => do
      let first ← encode value
      let more ← encodeMembers rest
      some ((key, quote key ++ ':' :: first) :: more)

end

/-- `text.encode("utf-8")`. -/
def utf8 (text : String) : Bytes := text.toUTF8.data.toList

/-- `_tuf_canonical_bytes`. -/
def tufCanonicalBytes (value : Json) : Except OwnerError Bytes :=
  match encode value with
  | some chars => .ok (utf8 (String.ofList chars))
  | none => refuse "TUF canonical JSON forbids floating-point and unsupported values."

/-! ## The policy of a role -/

/-- `value[key]` of a document. -/
def subscript (value : Json) (key : String) : Except OwnerError Json :=
  match value.get? key with
  | some found => .ok found
  | none => .error .unexpected

/-- `value.get(key)`; only objects have it. -/
def getKey (value : Json) (key : String) : Except OwnerError Json :=
  if isObject value then .ok (field value key) else .error .unexpected

/-- The ids of a list whose items are all texts with a character. -/
def keyTexts : List Json → Option (List String)
  | [] => some []
  | .str text :: rest => if text = "" then none else (keyTexts rest).map (text :: ·)
  | _ :: _ => none

/-- The key ids of a role and how many must sign. -/
structure RolePolicy where
  keyids : List String
  threshold : ℕ
  most : keyids.length ≤ 16
  distinct : keyids.Nodup
  positive : 1 ≤ threshold
  reachable : threshold ≤ keyids.length

theorem positive_toNat {threshold : ℤ} (hpositive : 1 ≤ threshold) : 1 ≤ threshold.toNat := by
  omega

theorem toNat_le_length {threshold : ℤ} {length : ℕ} (hreachable : threshold ≤ length) :
    threshold.toNat ≤ length := by
  omega

/-- The tests on the entry of a role. -/
def readPolicy (policy : Json) : Option RolePolicy :=
  match field policy "keyids", field policy "threshold" with
  | .array items, .int threshold => do
      let keyids ← keyTexts items
      if hvalid : keyids.length ≤ 16 ∧ keyids.Nodup ∧ 1 ≤ threshold ∧
          threshold ≤ keyids.length then
        some ⟨keyids, threshold.toNat, hvalid.1, hvalid.2.1, positive_toNat hvalid.2.2.1,
          toNat_le_length hvalid.2.2.2⟩
      else none
  | _, _ => none

def rolePolicy (root : Json) (role : String) : Except OwnerError RolePolicy := do
  let signed ← subscript root "signed"
  let roles ← subscript signed "roles"
  let policy ← getKey roles role
  if !isObject policy then refuse ("Sigstore TUF root has no " ++ role ++ " role.")
  else
    match readPolicy policy with
    | some found => .ok found
    | none => refuse ("Sigstore TUF " ++ role ++ " threshold is malformed.")

def rootKeys (root : Json) : Except OwnerError Json := do
  let signed ← subscript root "signed"
  subscript signed "keys"

/-- The public key that a root lists for a key id. -/
def publicKey (keys : Json) (keyid : String) : Except OwnerError String := do
  let key ← getKey keys keyid
  if !(isObject key && field key "keytype" = .str "ecdsa" &&
      field key "scheme" = .str "ecdsa-sha2-nistp256") then
    refuse "Sigstore TUF signature uses an unsupported key type or scheme."
  else do
    let keyval ← subscript key "keyval"
    let found ← getKey keyval "public"
    match found with
    | .str text => .ok text
    | _ => refuse "Sigstore TUF ECDSA public key is missing."

/-! ## The signatures of a document -/

/-- A signature record: the key id and the signature in hexadecimal digits. -/
def recordFields (signature : Json) : Except OwnerError (String × String) :=
  if !isObject signature then refuse "Sigstore TUF signature record is malformed."
  else
    match field signature "keyid", field signature "sig" with
    | .str keyid, .str sig => .ok (keyid, sig)
    | _, _ => refuse "Sigstore TUF signature identity is malformed."

/-- The key ids with a valid signature, those seen, and the clock readings made. -/
structure RoleCheck where
  valid : List String
  seen : List String
  readings : ℕ
  deriving DecidableEq, Repr

/-- `_check_crypto_deadline`, where the clock says at each reading whether it is late. -/
def checkDeadline (late : ℕ → Bool) (reading : ℕ) : Except OwnerError Unit :=
  if late reading then
    refuse "Sigstore TUF cryptographic work exceeded its causal time bound."
  else .ok ()

section
variable (verifyEcdsa : Bytes → Bytes → Bytes → Except OwnerError Bool) (late : ℕ → Bool)

/-- One round of the loop over the signatures. -/
def checkSignature (keyids : List String) (keys : Json) (message : Bytes) (state : RoleCheck)
    (signature : Json) : Except OwnerError RoleCheck := do
  let (keyid, sig) ← recordFields signature
  if state.seen.contains keyid then
    refuse "Sigstore TUF metadata has duplicate signatures for one key."
  else if !keyids.contains keyid then
    .ok { state with seen := keyid :: state.seen }
  else do
    let key ← publicKey keys keyid
    match fromHex sig.toList with
    | none => refuse "Sigstore TUF ECDSA signature is malformed."
    | some raw => do
        checkDeadline late state.readings
        let verified ← verifyEcdsa (utf8 key) message raw
        checkDeadline late (state.readings + 1)
        .ok ⟨if verified then keyid :: state.valid else state.valid, keyid :: state.seen,
          state.readings + 2⟩

/-- `_verify_role`. -/
def verifyRole (document root : Json) (role : String) : Except OwnerError Unit :=
  match field document "signed", field document "signatures" with
  | .object members, .array signatures => do
      let policy ← rolePolicy root role
      if 64 < signatures.length then
        refuse ("Sigstore TUF " ++ role ++ " has too many signature records.")
      else do
        let message ← tufCanonicalBytes (.object members)
        let keys ← rootKeys root
        let state ← signatures.foldlM (checkSignature verifyEcdsa late policy.keyids keys message)
          ⟨[], [], 0⟩
        if state.valid.length < policy.threshold then
          refuse ("Sigstore TUF " ++ role ++ " signature threshold was not met.")
        else .ok ()
  | _, _ => refuse "Sigstore TUF metadata signature structure is malformed."

/-! ## What the signatures show -/

/-- A record of the document names the key id and verifies under the key. -/
def SignedUnder (signatures : List Json) (message : Bytes) (keyid key : String) : Prop :=
  ∃ signature ∈ signatures, ∃ sig raw, recordFields signature = .ok (keyid, sig) ∧
    fromHex sig.toList = some raw ∧ verifyEcdsa (utf8 key) message raw = .ok true

/-- As many different key ids as the threshold says have verified. -/
def IdSigned (policy : RolePolicy) (keys : Json) (signatures : List Json) (message : Bytes) :
    Prop :=
  ∃ valid : List String, valid.Nodup ∧ policy.threshold ≤ valid.length ∧
    ∀ keyid ∈ valid, keyid ∈ policy.keyids ∧ ∃ key, publicKey keys keyid = .ok key ∧
      SignedUnder verifyEcdsa signatures message keyid key

/-- As many different public keys of the role as the threshold says have a record that
verifies over the canonical bytes of the signed object. -/
def KeySigned (document root : Json) (role : String) : Prop :=
  ∃ policy keys message, rolePolicy root role = .ok policy ∧ rootKeys root = .ok keys ∧
    tufCanonicalBytes (field document "signed") = .ok message ∧
      ∃ publics : List String, publics.Nodup ∧ policy.threshold ≤ publics.length ∧
        ∀ key ∈ publics, ∃ keyid ∈ policy.keyids, publicKey keys keyid = .ok key ∧
          SignedUnder verifyEcdsa (field document "signatures").items message keyid key

/-- What the loop has established. -/
structure Checked (keyids : List String) (keys : Json) (signatures : List Json) (message : Bytes)
    (state : RoleCheck) : Prop where
  distinct : state.valid.Nodup
  seen : ∀ keyid ∈ state.valid, keyid ∈ state.seen
  signed : ∀ keyid ∈ state.valid, keyid ∈ keyids ∧ ∃ key, publicKey keys keyid = .ok key ∧
    SignedUnder verifyEcdsa signatures message keyid key

variable {verifyEcdsa late}

theorem Checked.step {keyids : List String} {keys signature : Json} {signatures : List Json}
    {message : Bytes} {state next : RoleCheck}
    (hstate : Checked verifyEcdsa keyids keys signatures message state)
    (hsignature : signature ∈ signatures)
    (hstep : checkSignature verifyEcdsa late keyids keys message state signature = .ok next) :
    Checked verifyEcdsa keyids keys signatures message next := by
  obtain ⟨hdistinct, hseen, hsigned⟩ := hstate
  obtain ⟨⟨keyid, sig⟩, hrecord, hcheck⟩ := bind_eq_ok.mp hstep
  dsimp only at hcheck
  split at hcheck
  next => cases hcheck
  next hfresh =>
    rw [List.contains_iff_mem] at hfresh
    split at hcheck
    next =>
      obtain rfl := Except.ok.inj hcheck
      exact ⟨hdistinct, fun id hid => List.mem_cons_of_mem _ (hseen id hid), hsigned⟩
    next hlisted =>
      obtain ⟨key, hkey, hrest⟩ := bind_eq_ok.mp hcheck
      split at hrest
      next => cases hrest
      next raw hraw =>
        obtain ⟨_, -, hverify⟩ := bind_eq_ok.mp hrest
        obtain ⟨verified, hverified, hlast⟩ := bind_eq_ok.mp hverify
        obtain ⟨_, -, hdone⟩ := bind_eq_ok.mp hlast
        obtain rfl := Except.ok.inj hdone
        cases verified with
        | false =>
            exact ⟨hdistinct, fun id hid => List.mem_cons_of_mem _ (hseen id hid), hsigned⟩
        | true =>
            have hmember : keyid ∈ keyids := by
              rwa [Bool.not_eq_true', Bool.not_eq_false, List.contains_iff_mem] at hlisted
            refine ⟨List.nodup_cons.mpr ⟨fun hold => hfresh (hseen keyid hold), hdistinct⟩, ?_,
              List.forall_mem_cons.mpr ⟨⟨hmember, key, hkey, signature, hsignature, sig, raw,
                hrecord, hraw, hverified⟩, hsigned⟩⟩
            exact List.forall_mem_cons.mpr ⟨List.mem_cons_self,
              fun id hid => List.mem_cons_of_mem _ (hseen id hid)⟩

theorem Checked.run {keyids : List String} {keys : Json} {signatures rest : List Json}
    {message : Bytes} {state last : RoleCheck}
    (hstate : Checked verifyEcdsa keyids keys signatures message state)
    (hrest : ∀ signature ∈ rest, signature ∈ signatures)
    (hrun : rest.foldlM (checkSignature verifyEcdsa late keyids keys message) state = .ok last) :
    Checked verifyEcdsa keyids keys signatures message last := by
  induction rest generalizing state with
  | nil =>
      obtain rfl := Except.ok.inj hrun
      exact hstate
  | cons signature rest ih =>
      rw [List.foldlM_cons] at hrun
      obtain ⟨next, hstep, hnext⟩ := bind_eq_ok.mp hrun
      obtain ⟨hmember, hmembers⟩ := List.forall_mem_cons.mp hrest
      exact ih (hstate.step hmember hstep) hmembers hnext

/-- An accepted role: what was read, and the key ids that signed. -/
theorem verifyRole_eq_ok {document root : Json} {role : String}
    (hverify : verifyRole verifyEcdsa late document root role = .ok ()) :
    ∃ policy keys message, rolePolicy root role = .ok policy ∧ rootKeys root = .ok keys ∧
      tufCanonicalBytes (field document "signed") = .ok message ∧
        IdSigned verifyEcdsa policy keys (field document "signatures").items message := by
  unfold verifyRole at hverify
  split at hverify
  next members signatures hsigned hsignatures =>
    obtain ⟨policy, hpolicy, hbound⟩ := bind_eq_ok.mp hverify
    split at hbound
    next => cases hbound
    next =>
      obtain ⟨message, hmessage, hread⟩ := bind_eq_ok.mp hbound
      obtain ⟨keys, hkeys, hcheck⟩ := bind_eq_ok.mp hread
      obtain ⟨state, hrun, hthreshold⟩ := bind_eq_ok.mp hcheck
      split at hthreshold
      next => cases hthreshold
      next hmet =>
        have hstart : Checked verifyEcdsa policy.keyids keys signatures message ⟨[], [], 0⟩ :=
          ⟨List.nodup_nil, by simp, by simp⟩
        obtain ⟨hdistinct, -, hvalid⟩ := hstart.run (fun _ hmember => hmember) hrun
        rw [hsigned, hsignatures]
        exact ⟨policy, keys, message, hpolicy, hkeys, hmessage, state.valid, hdistinct,
          not_lt.mp hmet, hvalid⟩
  next => cases hverify

end

/-! ## Key ids and keys -/

/-- The key of a key id that can be used. -/
def usableKey (keys : Json) (keyid : String) : Option String := (publicKey keys keyid).toOption

theorem usableKey_eq_some {keys : Json} {keyid key : String} :
    usableKey keys keyid = some key ↔ publicKey keys keyid = .ok key := by
  unfold usableKey
  cases publicKey keys keyid with
  | error error => exact ⟨nofun, nofun⟩
  | ok found => exact ⟨fun hsome => congrArg _ (Option.some.inj hsome),
      fun hok => congrArg _ (Except.ok.inj hok)⟩

/-- The public keys of the usable key ids of a policy, in the order of the ids. -/
def listedKeys (policy : RolePolicy) (keys : Json) : List String :=
  policy.keyids.filterMap (usableKey keys)

/-- One signature is enough, too few key ids are usable, or they name different keys. -/
def DistinctKeys (root : Json) (role : String) : Prop :=
  ∀ policy keys, rolePolicy root role = .ok policy → rootKeys root = .ok keys →
    policy.threshold = 1 ∨ (listedKeys policy keys).length < policy.threshold ∨
      (listedKeys policy keys).Nodup

theorem listedKeys_length (policy : RolePolicy) (keys : Json) :
    (listedKeys policy keys).length =
      (policy.keyids.filter fun keyid => (usableKey keys keyid).isSome).length := by
  unfold listedKeys
  rw [List.length_filterMap_eq_countP, List.countP_eq_length_filter]

theorem eq_of_nodup_filterMap {α β : Type} {pick : α → Option β} : ∀ {items : List α},
    (items.filterMap pick).Nodup → ∀ {first second : α} {value : β}, first ∈ items →
      second ∈ items → pick first = some value → pick second = some value → first = second
  | [], _, _, _, _, hfirst, _, _, _ => absurd hfirst List.not_mem_nil
  | item :: rest, hnodup, first, second, value, hfirst, hsecond, hvalue, hvalue' => by
      have hrest : (rest.filterMap pick).Nodup := by
        cases hitem : pick item with
        | none => rwa [List.filterMap_cons_none hitem] at hnodup
        | some found =>
            rw [List.filterMap_cons_some hitem] at hnodup
            exact hnodup.of_cons
      have hfresh : ∀ other ∈ rest, pick item = some value → pick other ≠ some value := by
        intro other hother hitem hpicked
        rw [List.filterMap_cons_some hitem] at hnodup
        exact (List.nodup_cons.mp hnodup).1 (List.mem_filterMap.mpr ⟨other, hother, hpicked⟩)
      rcases List.mem_cons.mp hfirst with rfl | hlater
      · rcases List.mem_cons.mp hsecond with rfl | hlater'
        · rfl
        · exact absurd hvalue' (hfresh second hlater' hvalue)
      · rcases List.mem_cons.mp hsecond with rfl | hlater'
        · exact absurd hvalue (hfresh first hlater hvalue')
        · exact eq_of_nodup_filterMap hrest hlater hlater' hvalue hvalue'

theorem nodup_filterMap_on {α β : Type} {pick : α → Option β} {items : List α}
    (hitems : items.Nodup)
    (hpick : ∀ first ∈ items, ∀ second ∈ items, ∀ value, pick first = some value →
      pick second = some value → first = second) : (items.filterMap pick).Nodup := by
  induction items with
  | nil => exact List.nodup_nil
  | cons item rest ih =>
      obtain ⟨hfresh, hrest⟩ := List.nodup_cons.mp hitems
      have htail := ih hrest fun first hfirst second hsecond =>
        hpick first (List.mem_cons_of_mem _ hfirst) second (List.mem_cons_of_mem _ hsecond)
      cases hitem : pick item with
      | none => rwa [List.filterMap_cons_none hitem]
      | some value =>
          rw [List.filterMap_cons_some hitem]
          refine List.nodup_cons.mpr ⟨fun hmem => ?_, htail⟩
          obtain ⟨other, hother, hvalue⟩ := List.mem_filterMap.mp hmem
          have heq := hpick item List.mem_cons_self other (List.mem_cons_of_mem _ hother) value
            hitem hvalue
          exact hfresh (heq ▸ hother)

section
variable {verifyEcdsa : Bytes → Bytes → Bytes → Except OwnerError Bool} {late : ℕ → Bool}

/-- Different key ids are different keys where the root keeps them apart. -/
theorem IdSigned.keys {policy : RolePolicy} {keys : Json} {signatures : List Json}
    {message : Bytes} (hsigned : IdSigned verifyEcdsa policy keys signatures message)
    (hdistinct : policy.threshold = 1 ∨
      (listedKeys policy keys).length < policy.threshold ∨ (listedKeys policy keys).Nodup) :
    ∃ publics : List String, publics.Nodup ∧ policy.threshold ≤ publics.length ∧
      ∀ key ∈ publics, ∃ keyid ∈ policy.keyids, publicKey keys keyid = .ok key ∧
        SignedUnder verifyEcdsa signatures message keyid key := by
  obtain ⟨valid, hnodup, hlength, hvalid⟩ := hsigned
  have hkeys : ∀ keyid ∈ valid, (usableKey keys keyid).isSome := by
    intro keyid hkeyid
    obtain ⟨-, key, hkey, -⟩ := hvalid keyid hkeyid
    rw [usableKey_eq_some.mpr hkey]
    rfl
  have hpublics : ∀ key ∈ valid.filterMap (usableKey keys), ∃ keyid ∈ policy.keyids,
      publicKey keys keyid = .ok key ∧
        SignedUnder verifyEcdsa signatures message keyid key := by
    intro key hkey
    obtain ⟨keyid, hkeyid, hpicked⟩ := List.mem_filterMap.mp hkey
    obtain ⟨hmember, found, hfound, hunder⟩ := hvalid keyid hkeyid
    have hsame := usableKey_eq_some.mp hpicked
    rw [hfound] at hsame
    obtain rfl := Except.ok.inj hsame
    exact ⟨keyid, hmember, hfound, hunder⟩
  rcases hdistinct with hone | hfew | hkeysDistinct
  · obtain ⟨keyid, hkeyid⟩ := List.exists_mem_of_length_pos (l := valid) (by omega)
    obtain ⟨key, hkey⟩ := Option.isSome_iff_exists.mp (hkeys keyid hkeyid)
    refine ⟨[key], List.nodup_singleton key, by rw [hone]; exact le_rfl, ?_⟩
    intro other hother
    obtain rfl := List.mem_singleton.mp hother
    exact hpublics other (List.mem_filterMap.mpr ⟨keyid, hkeyid, hkey⟩)
  · have hsubset : valid ⊆ policy.keyids.filter fun keyid => (usableKey keys keyid).isSome :=
      fun keyid hkeyid => List.mem_filter.mpr ⟨(hvalid keyid hkeyid).1, hkeys keyid hkeyid⟩
    have hcount := (List.subperm_of_subset hnodup hsubset).length_le
    rw [listedKeys_length] at hfew
    omega
  · refine ⟨valid.filterMap (usableKey keys), nodup_filterMap_on hnodup ?_, ?_, hpublics⟩
    · intro first hfirst second hsecond value hvalue hvalue'
      exact eq_of_nodup_filterMap hkeysDistinct (hvalid first hfirst).1 (hvalid second hsecond).1
        hvalue hvalue'
    · rwa [List.filterMap_length_eq_length.mpr hkeys]

/-- Where the root keeps its keys apart, an accepted document is signed by enough keys. -/
theorem keySigned_of_distinct {document root : Json} {role : String}
    (hdistinct : DistinctKeys root role)
    (hverify : verifyRole verifyEcdsa late document root role = .ok ()) :
    KeySigned verifyEcdsa document root role := by
  obtain ⟨policy, keys, message, hpolicy, hkeys, hmessage, hsigned⟩ := verifyRole_eq_ok hverify
  exact ⟨policy, keys, message, hpolicy, hkeys, hmessage,
    hsigned.keys (hdistinct policy keys hpolicy hkeys)⟩

end

/-! ### A document signed twice with one key -/

/-- A signature record with no digits. -/
def emptyRecord (keyid : String) : Json := .object [("keyid", .str keyid), ("sig", .str "")]

/-- An empty object signed under some key ids. -/
def emptySigned (keyids : List String) : Json :=
  .object [("signed", .object []), ("signatures", .array (keyids.map emptyRecord))]

/-- A verifier that accepts everything. -/
def acceptAll : Bytes → Bytes → Bytes → Except OwnerError Bool := fun _ _ _ => .ok true

theorem emptyRecord_fields (keyid : String) : recordFields (emptyRecord keyid) = .ok (keyid, "") :=
  rfl

theorem checkSignature_empty {keyids : List String} {keys : Json} {message : Bytes}
    {state : RoleCheck} {keyid : String} (hfresh : keyid ∉ state.seen) (hlisted : keyid ∈ keyids)
    (husable : (usableKey keys keyid).isSome) :
    checkSignature acceptAll (fun _ => false) keyids keys message state (emptyRecord keyid) =
      .ok ⟨keyid :: state.valid, keyid :: state.seen, state.readings + 2⟩ := by
  obtain ⟨key, hkey⟩ := Option.isSome_iff_exists.mp husable
  have hseen : ¬state.seen.contains keyid = true := by rwa [List.contains_iff_mem]
  have hmember : ¬(!keyids.contains keyid) = true := by
    rw [Bool.not_eq_true', Bool.not_eq_false, List.contains_iff_mem]
    exact hlisted
  unfold checkSignature
  rw [emptyRecord_fields]
  refine bind_eq_ok.mpr ⟨_, rfl, ?_⟩
  dsimp only
  rw [if_neg hseen, if_neg hmember]
  exact bind_eq_ok.mpr ⟨key, usableKey_eq_some.mp hkey, rfl⟩

theorem checkSignatures_empty {policy : RolePolicy} {keys : Json} {message : Bytes}
    {keyids : List String} (hnodup : keyids.Nodup)
    (husable : ∀ keyid ∈ keyids, keyid ∈ policy.keyids ∧ (usableKey keys keyid).isSome)
    {state : RoleCheck} (hfresh : ∀ keyid ∈ keyids, keyid ∉ state.seen) :
    ∃ last, (keyids.map emptyRecord).foldlM
      (checkSignature acceptAll (fun _ => false) policy.keyids keys message) state = .ok last ∧
        last.valid.length = state.valid.length + keyids.length := by
  induction keyids generalizing state with
  | nil => exact ⟨state, rfl, rfl⟩
  | cons keyid rest ih =>
      obtain ⟨hhead, htail⟩ := List.forall_mem_cons.mp husable
      obtain ⟨hother, hrest⟩ := List.nodup_cons.mp hnodup
      obtain ⟨hnew, hnews⟩ := List.forall_mem_cons.mp hfresh
      have hstep := @checkSignature_empty _ _ message _ _ hnew hhead.1 hhead.2
      obtain ⟨last, hrun, hcount⟩ := @ih hrest htail
        ⟨keyid :: state.valid, keyid :: state.seen, state.readings + 2⟩
        (fun id hid => by
          rw [List.mem_cons, not_or]
          exact ⟨fun heq => hother (heq ▸ hid), hnews id hid⟩)
      refine ⟨last, ?_, ?_⟩
      · rw [List.map_cons, List.foldlM_cons]
        exact bind_eq_ok.mpr ⟨_, hstep, hrun⟩
      · rw [hcount, List.length_cons, List.length_cons]
        omega

/-- The empty object is accepted under any usable key ids that are enough. -/
theorem verifyRole_emptySigned {root keys : Json} {role : String} {policy : RolePolicy}
    {keyids : List String} (hpolicy : rolePolicy root role = .ok policy)
    (hkeys : rootKeys root = .ok keys) (hnodup : keyids.Nodup)
    (husable : ∀ keyid ∈ keyids, keyid ∈ policy.keyids ∧ (usableKey keys keyid).isSome)
    (henough : policy.threshold ≤ keyids.length) :
    verifyRole acceptAll (fun _ => false) (emptySigned keyids) root role = .ok () := by
  have hshort : keyids.length ≤ 16 :=
    le_trans (List.subperm_of_subset hnodup fun id hid => (husable id hid).1).length_le policy.most
  obtain ⟨last, hrun, hcount⟩ := @checkSignatures_empty _ _ (utf8 "\x7b\x7d") _
    hnodup husable ⟨[], [], 0⟩ (fun _ _ => List.not_mem_nil)
  have hbound : ¬64 < (keyids.map emptyRecord).length := by
    rw [List.length_map]
    omega
  have hmet : ¬last.valid.length < policy.threshold := by
    rw [hcount]
    simpa using henough
  unfold verifyRole
  change (rolePolicy root role >>= _) = _
  refine bind_eq_ok.mpr ⟨policy, hpolicy, ?_⟩
  rw [if_neg hbound]
  refine bind_eq_ok.mpr ⟨utf8 "\x7b\x7d", rfl, bind_eq_ok.mpr ⟨keys, hkeys, ?_⟩⟩
  exact bind_eq_ok.mpr ⟨last, hrun, if_neg hmet⟩

/-- A list with two members that share their keys, and as long as asked. -/
theorem exists_sharing {α β : Type} [DecidableEq α] {pick : α → Option β} {items : List α}
    (hitems : items.Nodup) {count : ℕ} (htwo : 2 ≤ count)
    (hcount : count ≤ (items.filterMap pick).length)
    (hshared : ¬(items.filterMap pick).Nodup) :
    ∃ first second rest value, (first :: second :: rest).Nodup ∧
      (first :: second :: rest).length = count ∧
        (∀ item ∈ first :: second :: rest, item ∈ items ∧ (pick item).isSome) ∧
          pick first = some value ∧ pick second = some value := by
  have hpair : ∃ first ∈ items, ∃ second ∈ items, ∃ value, pick first = some value ∧
      pick second = some value ∧ first ≠ second := by
    by_contra hnone
    push Not at hnone
    exact hshared (nodup_filterMap_on hitems fun first hfirst second hsecond value hvalue hvalue' =>
      hnone first hfirst second hsecond value hvalue hvalue')
  obtain ⟨first, hfirst, second, hsecond, value, hvalue, hvalue', hne⟩ := hpair
  let usable := items.filter fun item => (pick item).isSome
  have husable : usable.Nodup := hitems.filter _
  have hfirst' : first ∈ usable := List.mem_filter.mpr ⟨hfirst, by rw [hvalue]; rfl⟩
  have hsecond' : second ∈ usable.erase first :=
    (List.mem_erase_of_ne hne.symm).mpr (List.mem_filter.mpr ⟨hsecond, by rw [hvalue']; rfl⟩)
  have hlength : count ≤ usable.length := by
    rwa [List.length_filterMap_eq_countP, List.countP_eq_length_filter] at hcount
  have hothers := List.length_erase_of_mem hsecond'
  rw [List.length_erase_of_mem hfirst'] at hothers
  let others := ((usable.erase first).erase second).take (count - 2)
  have hsub : ∀ item ∈ others, item ∈ (usable.erase first).erase second :=
    fun item hitem => List.mem_of_mem_take hitem
  have herased : (usable.erase first).Nodup := husable.erase first
  refine ⟨first, second, others, value, ?_, ?_, ?_, hvalue, hvalue'⟩
  · refine List.nodup_cons.mpr ⟨fun hmem => ?_, List.nodup_cons.mpr ⟨fun hmem => ?_, ?_⟩⟩
    · rcases List.mem_cons.mp hmem with heq | hlater
      · exact hne heq
      · exact husable.not_mem_erase (List.mem_of_mem_erase (hsub first hlater))
    · exact herased.not_mem_erase (hsub second hmem)
    · exact (herased.erase second).sublist (List.take_sublist _ _)
  · rw [List.length_cons, List.length_cons, List.length_take]
    omega
  · have hmember : ∀ item ∈ usable, item ∈ items ∧ (pick item).isSome :=
      fun item hitem => List.mem_filter.mp hitem
    refine List.forall_mem_cons.mpr ⟨hmember first hfirst', List.forall_mem_cons.mpr
      ⟨hmember second (List.mem_of_mem_erase hsecond'), fun item hitem => ?_⟩⟩
    exact hmember item (List.mem_of_mem_erase (List.mem_of_mem_erase (hsub item hitem)))

/-- Where a root lists one key twice, a document is accepted with too few keys. -/
theorem exists_accepted {root keys : Json} {role : String} {policy : RolePolicy}
    (hpolicy : rolePolicy root role = .ok policy) (hkeys : rootKeys root = .ok keys)
    (htwo : policy.threshold ≠ 1) (henough : policy.threshold ≤ (listedKeys policy keys).length)
    (hshared : ¬(listedKeys policy keys).Nodup) :
    ∃ document, verifyRole acceptAll (fun _ => false) document root role = .ok () ∧
      ¬KeySigned acceptAll document root role := by
  have hpositive := policy.positive
  obtain ⟨first, second, rest, value, hnodup, hlength, husable, hfirst, hsecond⟩ :=
    exists_sharing policy.distinct (by omega) henough hshared
  refine ⟨emptySigned (first :: second :: rest),
    verifyRole_emptySigned hpolicy hkeys hnodup husable hlength.ge, ?_⟩
  rintro ⟨found, keys', message, hfound, hkeys', -, publics, hdistinct, hcount, hpublics⟩
  rw [hpolicy] at hfound
  obtain rfl := Except.ok.inj hfound
  rw [hkeys] at hkeys'
  obtain rfl := Except.ok.inj hkeys'
  have hsubset : publics ⊆ value :: rest.filterMap (usableKey keys) := by
    intro key hkey
    obtain ⟨keyid, -, hpublic, signature, hsignature, sig, raw, hrecord, -⟩ := hpublics key hkey
    obtain ⟨signer, hsigner, rfl⟩ := List.mem_map.mp hsignature
    obtain ⟨rfl, -⟩ := Prod.mk.inj (Except.ok.inj ((emptyRecord_fields signer).symm.trans hrecord))
    have hpicked := usableKey_eq_some.mpr hpublic
    rcases List.mem_cons.mp hsigner with rfl | hsigner
    · rw [hfirst] at hpicked
      exact List.mem_cons.mpr (Or.inl (Option.some.inj hpicked).symm)
    · rcases List.mem_cons.mp hsigner with rfl | hsigner
      · rw [hsecond] at hpicked
        exact List.mem_cons.mpr (Or.inl (Option.some.inj hpicked).symm)
      · exact List.mem_cons_of_mem _ (List.mem_filterMap.mpr ⟨signer, hsigner, hpicked⟩)
  have hbound := (List.subperm_of_subset hdistinct hsubset).length_le
  have hrest := List.length_filterMap_le (usableKey keys) rest
  rw [List.length_cons] at hbound
  rw [List.length_cons, List.length_cons] at hlength
  omega

/-- Every accepted document is signed by enough different keys exactly where the root lists
different keys under the usable key ids of the role. -/
theorem distinctKeys_iff {root : Json} {role : String} :
    (∀ verifyEcdsa late document,
      verifyRole verifyEcdsa late document root role = .ok () →
        KeySigned verifyEcdsa document root role) ↔ DistinctKeys root role := by
  constructor
  · intro hsound policy keys hpolicy hkeys
    by_contra hcondition
    push Not at hcondition
    obtain ⟨htwo, henough, hshared⟩ := hcondition
    obtain ⟨document, haccepted, hunsigned⟩ :=
      exists_accepted hpolicy hkeys htwo henough hshared
    exact hunsigned (hsound _ _ document haccepted)
  · intro hdistinct verifyEcdsa late document hverify
    exact keySigned_of_distinct hdistinct hverify

end MatchVet.Causal.TrustRoles
