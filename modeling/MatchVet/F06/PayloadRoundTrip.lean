import Mathlib
import MatchVet.F06.Payload
import MatchVet.F06.TieBreak

/-!
# Reading a payload back

Every record is read back from its sorted object, so a freeze or an observation
that passes its own checks is read back from its canonical text.  The decoder
returns nothing whose canonical text is another one.
-/

namespace MatchVet.F06.PayloadRoundTrip

open MatchVet.F06.Freeze
open MatchVet.F06.Integrity
open MatchVet.F06.Payload
open MatchVet.F06.Records
open MatchVet.Foundation.Identifier
open MatchVet.Foundation.JsonDocument
open MatchVet.Foundation.Runtime
open MatchVet.Foundation.Timestamp

/-! ## Values -/

@[simp]
theorem string_str (label text : String) : string label (sortKeys (.str text)) = .ok text := rfl

@[simp]
theorem integer_int (label : String) (value : ℤ) :
    integer label (sortKeys (.int value)) = .ok value := rfl

@[simp]
theorem optionalString_text (label : String) (value : Option String) :
    optionalString label (sortKeys (optionalText value)) = .ok value := by
  cases value <;> rfl

@[simp]
theorem stringArray_texts (label : String) (values : List String) :
    stringArray label (sortKeys (texts values)) = .ok values := by
  have hread : (sortItems (values.map .str)).mapM Document.text? = some values := by
    induction values with
    | nil => rfl
    | cons value rest ih =>
        rw [List.map_cons, sortItems, List.mapM_cons, ih]
        rfl
  rw [texts, sortKeys, stringArray, hread]

/-- An array of records is read back. -/
theorem objects_read {α : Type} {write : α → Document} {decode : Document → Except Failure α}
    (hobject : ∀ value, ∃ members, write value = .object members)
    (hdecode : ∀ value, decode (sortKeys (write value)) = .ok value) (label : String)
    (values : List α) :
    (objectArray label (sortKeys (.array (values.map write))) >>= fun items =>
      items.mapM decode) = .ok values := by
  have hchecked : ∀ value, object label (sortKeys (write value)) =
      .ok (sortKeys (write value)) := by
    intro value
    obtain ⟨members, hmembers⟩ := hobject value
    rw [hmembers]
    rfl
  have hidentity : ∀ value, decode (sortKeys (write value)) = .ok (id value) := hdecode
  rw [sortKeys, objectArray, sortItems_map, mapM_map hchecked, ok_bind, mapM_map hidentity,
    List.map_id]

/-! ## Records -/

theorem supportFromObject_json (support : AuthoritySupportSnapshot String) :
    supportFromObject (sortKeys (supportJson support)) = .ok support := by
  simp [supportFromObject, supportJson, fieldAs, field, get?_sortKeys, List.lookup, ok_bind]

theorem assertionFromObject_json (assertion : AssertionIntegritySnapshot) :
    assertionFromObject (sortKeys (assertionJson assertion)) = .ok assertion := by
  simp [assertionFromObject, assertionJson, fieldAs, field, get?_sortKeys, List.lookup, ok_bind]

theorem assertions_read (label : String) (assertions : List AssertionIntegritySnapshot) :
    (objectArray label (sortKeys (.array (assertions.map assertionJson))) >>= fun items =>
      items.mapM assertionFromObject) = .ok assertions :=
  objects_read (fun _ => ⟨_, rfl⟩) assertionFromObject_json label assertions

theorem integrityFromObject_json (integrity : RevisionIntegritySnapshot) :
    integrityFromObject (sortKeys (integrityJson integrity)) = .ok integrity := by
  have hobject : object "integrity" (sortKeys (integrityJson integrity)) =
      .ok (sortKeys (integrityJson integrity)) := rfl
  simp [integrityFromObject, hobject, ok_bind]
  simp [integrityJson, fieldObjects, fieldAs, field, get?_sortKeys, List.lookup, ok_bind,
    assertions_read]

theorem supports_read (label : String) (supports : List (AuthoritySupportSnapshot String)) :
    (objectArray label (sortKeys (.array (supports.map supportJson))) >>= fun items =>
      items.mapM supportFromObject) = .ok supports :=
  objects_read (fun _ => ⟨_, rfl⟩) supportFromObject_json label supports

/-- A field that may be left out is read back. -/
theorem optionalField_present {α : Type} {write : α → Document}
    {decode : Document → Except Failure α} {raw : Document} {key : String} {value : Option α}
    (hobject : ∀ value, sortKeys (write value) ≠ .null)
    (hdecode : ∀ value, decode (sortKeys (write value)) = .ok value)
    (hget : raw.get? key = value.map fun value => sortKeys (write value)) :
    optionalField decode raw key = .ok value := by
  unfold optionalField
  rw [hget]
  cases value with
  | none => rfl
  | some value =>
      rw [Option.map_some]
      split
      next heq => cases heq
      next heq => exact absurd (Option.some.inj heq) (hobject value)
      next heq =>
        cases heq
        rw [hdecode]
        rfl

theorem revisionFromObject_json (revision : RevisionSnapshot) :
    revisionFromObject (sortKeys (revisionJson revision)) = .ok revision := by
  have hintegrity : optionalField integrityFromObject (sortKeys (revisionJson revision))
      "integrity" = .ok revision.integrity := by
    refine optionalField_present (by simp [integrityJson, sortKeys]) integrityFromObject_json ?_
    cases hvalue : revision.integrity <;>
      simp [revisionJson, hvalue, presentField, get?_sortKeys, List.lookup]
  obtain ⟨_, _, _, _, _, _, _, _, _, _, _, _, _, _, _, integrity⟩ := revision
  rw [revisionFromObject, hintegrity]
  cases integrity <;>
    simp [revisionJson, presentField, fieldObjects, fieldAs, field, get?_sortKeys, List.lookup,
      ok_bind, supports_read]

theorem conflictFromObject_json (conflict : ConflictSnapshot) :
    conflictFromObject (sortKeys (conflictJson conflict)) = .ok conflict := by
  have hhistory : optionalField (string "history_value_digest") (sortKeys (conflictJson conflict))
      "history_value_digest" = .ok conflict.historyValueDigest := by
    have hnull : ∀ digest : String, sortKeys (.str digest) ≠ .null := by simp [sortKeys]
    refine optionalField_present hnull (string_str _) ?_
    cases hvalue : conflict.historyValueDigest <;>
      simp [conflictJson, hvalue, presentField, get?_sortKeys, List.lookup]
  obtain ⟨_, _, _, _, _, history⟩ := conflict
  rw [conflictFromObject, hhistory]
  cases history <;>
    simp [conflictJson, presentField, fieldAs, field, get?_sortKeys, List.lookup, ok_bind]

theorem revisions_read (label : String) (revisions : List RevisionSnapshot) :
    (objectArray label (sortKeys (.array (revisions.map revisionJson))) >>= fun items =>
      items.mapM revisionFromObject) = .ok revisions :=
  objects_read (fun _ => ⟨_, rfl⟩) revisionFromObject_json label revisions

theorem conflicts_read (label : String) (conflicts : List ConflictSnapshot) :
    (objectArray label (sortKeys (.array (conflicts.map conflictJson))) >>= fun items =>
      items.mapM conflictFromObject) = .ok conflicts :=
  objects_read (fun _ => ⟨_, rfl⟩) conflictFromObject_json label conflicts

theorem membershipState_value (state : MembershipState) :
    membershipState (MembershipState.value state) = .ok state := by
  cases state <;> rfl

theorem decisionFromObject_json (decision : MembershipDecision) :
    decisionFromObject (sortKeys (decisionPayload decision true)) = .ok decision := by
  have hobject : object "controlling_revision" (sortKeys (revisionJson
      decision.controllingRevision)) = .ok (sortKeys (revisionJson decision.controllingRevision)) :=
    rfl
  simp [decisionFromObject, decisionPayload, decisionFields, fieldObjects, fieldAs, field,
    get?_sortKeys, List.lookup, ok_bind, hobject, revisionFromObject_json, revisions_read,
    conflicts_read, membershipState_value]

theorem scopeFromObject_json (scope : ScopeSnapshot) :
    scopeFromObject (sortKeys (scopeJson scope)) = .ok scope := by
  simp [scopeFromObject, scopeJson, fieldAs, field, get?_sortKeys, List.lookup, ok_bind]

theorem healthFromObject_json (reference : ProviderHealthReference) :
    healthFromObject (sortKeys (healthJson reference)) = .ok reference := by
  simp [healthFromObject, healthJson, fieldAs, field, get?_sortKeys, List.lookup, ok_bind]

theorem observationCode_value (code : ObservationCode) :
    observationCode code.value = .ok code := by
  cases code <;> rfl

theorem facts_read (label : String) (facts : List (String × Option String)) :
    (pairArray label (sortKeys (.array (facts.map pairJson))) >>= fun pairs =>
      pairs.mapM factFromPair) = .ok facts := by
  have hpair : ∀ fact : String × Option String, pair label (sortKeys (pairJson fact)) =
      .ok (.str fact.1, sortKeys (optionalText fact.2)) := fun _ => rfl
  have hfact : ∀ fact : String × Option String,
      factFromPair (.str fact.1, sortKeys (optionalText fact.2)) = .ok (id fact) := by
    intro fact
    rw [factFromPair, optionalString_text]
    rfl
  rw [sortKeys, pairArray, sortItems_map, mapM_map hpair, ok_bind, mapM_map hfact, List.map_id]

theorem changeFromObject_json (change : MembershipObservationChange) :
    changeFromObject (sortKeys (changeJson change)) = .ok change := by
  simp [changeFromObject, changeJson, fieldFacts, fieldAs, field, get?_sortKeys, List.lookup,
    ok_bind, observationCode_value, facts_read]

/-! ## Payloads -/

theorem scopes_read (label : String) (scopes : List ScopeSnapshot) :
    (objectArray label (sortKeys (.array (scopes.map scopeJson))) >>= fun items =>
      items.mapM scopeFromObject) = .ok scopes :=
  objects_read (fun _ => ⟨_, rfl⟩) scopeFromObject_json label scopes

theorem references_read (label : String) (references : List ProviderHealthReference) :
    (objectArray label (sortKeys (.array (references.map healthJson))) >>= fun items =>
      items.mapM healthFromObject) = .ok references :=
  objects_read (fun _ => ⟨_, rfl⟩) healthFromObject_json label references

theorem decisions_read (label : String) (decisions : List MembershipDecision) :
    (objectArray label (sortKeys (.array (decisions.map fun item =>
      decisionPayload item true))) >>= fun items => items.mapM decisionFromObject) =
        .ok decisions :=
  objects_read (fun _ => ⟨_, rfl⟩) decisionFromObject_json label decisions

theorem changes_read (label : String) (changes : List MembershipObservationChange) :
    (objectArray label (sortKeys (.array (changes.map changeJson))) >>= fun items =>
      items.mapM changeFromObject) = .ok changes :=
  objects_read (fun _ => ⟨_, rfl⟩) changeFromObject_json label changes

theorem observationFields_payload (observation : ObservationFields) :
    observationFields (sortKeys (observationPayload observation true)) = .ok observation := by
  simp [observationFields, observationPayload, fieldObjects, fieldAs, field, get?_sortKeys,
    List.lookup, ok_bind, scopes_read, changes_read]

section Payloads

variable [TextDigest]

/-- What a constructor accepted, it accepts again. -/
theorem PolicySnapshot.make_fields (policy : PolicySnapshot) :
    PolicySnapshot.make policy.toPolicyFields = .ok policy := by
  unfold PolicySnapshot.make
  split
  · rfl
  next hrefused =>
    rw [policy.accepted] at hrefused
    cases hrefused

theorem policyFromObject_json (policy : PolicySnapshot) :
    policyFromObject (sortKeys (policyPayload policy)) = .ok policy := by
  rw [← PolicySnapshot.make_fields policy]
  simp [policyFromObject, policyPayload, fieldAs, field, get?_sortKeys, List.lookup, ok_bind]

theorem freezeFields_payload (freeze : FreezeFields) :
    freezeFields (sortKeys (freezePayload freeze true)) = .ok freeze := by
  have hobject : object "policy" (sortKeys (policyPayload freeze.policy)) =
      .ok (sortKeys (policyPayload freeze.policy)) := rfl
  simp [freezeFields, freezePayload, fieldObjects, fieldAs, field, get?_sortKeys, List.lookup,
    ok_bind, hobject, policyFromObject_json, scopes_read, references_read, decisions_read]

end Payloads

/-! ## Keys -/

theorem distinct_supportJson (support : AuthoritySupportSnapshot String) :
    Distinct (supportJson support) := by
  simp [supportJson]

theorem distinct_assertionJson (assertion : AssertionIntegritySnapshot) :
    Distinct (assertionJson assertion) := by
  simp [assertionJson]

theorem distinct_integrityJson (integrity : RevisionIntegritySnapshot) :
    Distinct (integrityJson integrity) := by
  simp [integrityJson, distinct_array distinct_assertionJson]

theorem distinct_revisionJson (revision : RevisionSnapshot) : Distinct (revisionJson revision) := by
  obtain ⟨_, _, _, _, _, _, _, _, _, _, _, _, _, _, _, integrity⟩ := revision
  cases integrity <;>
    simp [revisionJson, presentField, distinct_array distinct_supportJson, distinct_integrityJson]

theorem distinct_conflictJson (conflict : ConflictSnapshot) : Distinct (conflictJson conflict) := by
  obtain ⟨_, _, _, _, _, history⟩ := conflict
  cases history <;> simp [conflictJson, presentField]

theorem distinct_decisionPayload (decision : MembershipDecision) :
    Distinct (decisionPayload decision true) := by
  simp [decisionPayload, decisionFields, distinct_revisionJson,
    distinct_array distinct_revisionJson, distinct_array distinct_conflictJson]

theorem distinct_scopeJson (scope : ScopeSnapshot) : Distinct (scopeJson scope) := by
  simp [scopeJson]

theorem distinct_healthJson (reference : ProviderHealthReference) :
    Distinct (healthJson reference) := by
  simp [healthJson]

theorem distinct_pairJson (fact : String × Option String) : Distinct (pairJson fact) := by
  rw [pairJson, Distinct, distinctItems_iff]
  simp

theorem distinct_changeJson (change : MembershipObservationChange) :
    Distinct (changeJson change) := by
  simp [changeJson, distinct_array distinct_pairJson]

theorem distinct_observationPayload (observation : ObservationFields) :
    Distinct (observationPayload observation true) := by
  simp [observationPayload, distinct_array distinct_scopeJson, distinct_array distinct_changeJson]

/-! ## Texts -/

theorem check_ok {holds : Bool} {message : String} (hcheck : check holds message = .ok ()) :
    holds = true := by
  unfold check at hcheck
  split at hcheck
  next hholds => exact hholds
  next => cases hcheck

/-- The canonical text of an object is a canonical object. -/
theorem canonicalObject_canonicalJson {members : List (String × Document)} (label : String)
    (hdistinct : Distinct (.object members)) :
    canonicalObject label (canonicalJson (.object members)) =
      .ok (sortKeys (.object members)) := by
  have hobject : ∃ sorted, sortKeys (.object members) = .object sorted := ⟨_, rfl⟩
  have hsame := canonicalJson_sortKeys (.object members)
  obtain ⟨sorted, hsorted⟩ := hobject
  rw [canonicalObject, loads_canonicalJson hdistinct, hsorted]
  rw [hsorted] at hsame
  exact if_pos hsame

section Texts

variable [TextDigest]

theorem distinct_freezePayload (freeze : FreezeFields) : Distinct (freezePayload freeze true) := by
  simp [freezePayload, policyPayload, distinct_array distinct_decisionPayload,
    distinct_array distinct_healthJson, distinct_array distinct_scopeJson]

theorem digestForm_sha256Digest (encoded : String) : digestForm (sha256Digest encoded) = true := by
  have hlist : (sha256Digest encoded).toList =
      "sha256:".toList ++ (TextDigest.sha256 encoded).text.toList := by
    rw [sha256Digest, String.toList_append]
  rw [digestForm, hlist, Bool.and_eq_true, decide_eq_true_iff]
  refine ⟨List.prefix_append _ _, ?_⟩
  change isDigest (String.ofList (TextDigest.sha256 encoded).text.toList) = true
  rw [String.ofList_toList]
  exact (TextDigest.sha256 encoded).form

theorem checkDigest_sha256Digest (encoded label : String) :
    checkDigest (sha256Digest encoded) label = .ok () :=
  if_pos (digestForm_sha256Digest encoded)

theorem membershipDigest_with (decision : MembershipDecision) (digest : String) :
    membershipDigest { decision with membershipDigest := digest } = membershipDigest decision :=
  rfl

theorem freezeDigest_with (freeze : FreezeFields) (digest : String) :
    freezeDigest { freeze with freezeDigest := digest } = freezeDigest freeze :=
  rfl

theorem observationDigest_with (observation : ObservationFields) (digest : String) :
    observationDigest { observation with observationDigest := digest } =
      observationDigest observation :=
  rfl

theorem distinct_policyDocument (version : String) : Distinct (policyDocument version) := by
  have hfirst : Distinct (authority version) := by simp [authority]
  have hcodes : Distinct reasonCodes := by simp [reasonCodes]
  have hscope : Distinct activeScope := by simp [activeScope, activeScopePayload]
  have hstatus : Distinct (.object (statusMapping.map fun entry => (entry.1, texts entry.2))) := by
    simp [statusMapping]
  unfold policyDocument
  by_cases hlegacy : version = "1"
  · subst hlegacy
    simp [hfirst, hcodes, hstatus]
  · by_cases hactive : version = "3"
    · subst hactive
      simp [hfirst, hcodes, hstatus, hscope, integrityRules, activeRules]
    · simp [hlegacy, hactive, hfirst, hcodes, hstatus, integrityRules]

/-- The fields of the policy of a version. -/
def versionFields (version : String) : PolicyFields where
  policyId := policyId
  policyVersion := version
  canonicalJson := canonicalJson (policyDocument version)
  digest := sha256Digest (canonicalJson (policyDocument version))

/-- Every supported policy passes its own checks. -/
theorem versionFields_accepted {version : String} (hversion : version ∈ supportedVersions) :
    (versionFields version).check = .ok () := by
  have hblank : (!blank policyId && !blank version) = true := by
    revert version
    decide
  have hloads := loads_canonicalJson (distinct_policyDocument version)
  unfold PolicyFields.check versionFields
  simp only [hloads, canonicalJson_sortKeys, checkDigest_sha256Digest, hblank, ok_bind, check,
    decide_true, if_true]

/-- The policy of a supported version. -/
def supportedPolicy (version : String) (hversion : version ∈ supportedVersions) : PolicySnapshot :=
  ⟨versionFields version, versionFields_accepted hversion⟩

variable [PyRuntime]

theorem policySnapshot_supported {version : String} (hversion : version ∈ supportedVersions) :
    policySnapshot policyId version = .ok (supportedPolicy version hversion) := by
  rw [policySnapshot, if_neg (by simp [hversion])]
  exact PolicySnapshot.make_fields (supportedPolicy version hversion)

variable [Calendar] [Localtime]

theorem MatchweekMembershipFreeze.make_fields (freeze : MatchweekMembershipFreeze) :
    MatchweekMembershipFreeze.make freeze.toFreezeFields = .ok freeze := by
  unfold MatchweekMembershipFreeze.make
  split
  · rfl
  next hrefused =>
    rw [freeze.accepted] at hrefused
    cases hrefused

theorem MatchweekMembershipFreeze.make_ok {fields : FreezeFields}
    {freeze : MatchweekMembershipFreeze}
    (hmake : MatchweekMembershipFreeze.make fields = .ok freeze) :
    freeze.toFreezeFields = fields := by
  unfold MatchweekMembershipFreeze.make at hmake
  split at hmake
  · cases hmake
    rfl
  · cases hmake

theorem MatchweekMembershipObservation.make_fields (observation : MatchweekMembershipObservation) :
    MatchweekMembershipObservation.make observation.toObservationFields = .ok observation := by
  unfold MatchweekMembershipObservation.make
  split
  · rfl
  next hrefused =>
    rw [observation.accepted] at hrefused
    cases hrefused

theorem MatchweekMembershipObservation.make_ok {fields : ObservationFields}
    {observation : MatchweekMembershipObservation}
    (hmake : MatchweekMembershipObservation.make fields = .ok observation) :
    observation.toObservationFields = fields := by
  unfold MatchweekMembershipObservation.make at hmake
  split at hmake
  · cases hmake
    rfl
  · cases hmake

/-- What a freeze is written as reads back as that freeze. -/
theorem freezeFromCanonicalJson_payload {freeze : MatchweekMembershipFreeze}
    (hdigests : validateFreezeDigests freeze.toFreezeFields = .ok ()) :
    freezeFromCanonicalJson (canonicalJson (freezePayload freeze.toFreezeFields true)) =
      .ok freeze := by
  have hcanonical : canonicalObject "freeze"
      (canonicalJson (freezePayload freeze.toFreezeFields true)) =
        .ok (sortKeys (freezePayload freeze.toFreezeFields true)) :=
    canonicalObject_canonicalJson "freeze" (distinct_freezePayload freeze.toFreezeFields)
  have hsame : check (canonicalJson (freezePayload freeze.toFreezeFields true) =
      canonicalJson (freezePayload freeze.toFreezeFields true))
      "F06 freeze payload changes when reconstructed from canonical JSON." = .ok () :=
    if_pos (decide_eq_true rfl)
  rw [freezeFromCanonicalJson, hcanonical, ok_bind, freezeFields_payload, ok_bind,
    MatchweekMembershipFreeze.make_fields, ok_bind, hdigests, ok_bind, hsame]
  rfl

/-- What is read back as a freeze is what that freeze is written as. -/
theorem freezePayload_of_read {encoded : String} {freeze : MatchweekMembershipFreeze}
    (hread : freezeFromCanonicalJson encoded = .ok freeze) :
    canonicalJson (freezePayload freeze.toFreezeFields true) = encoded := by
  rw [freezeFromCanonicalJson, mapError_eq_ok] at hread
  obtain ⟨raw, -, hread⟩ := bind_eq_ok.mp hread
  obtain ⟨fields, -, hread⟩ := bind_eq_ok.mp hread
  obtain ⟨made, hmake, hread⟩ := bind_eq_ok.mp hread
  obtain ⟨_, -, hread⟩ := bind_eq_ok.mp hread
  obtain ⟨_, hsame, hread⟩ := bind_eq_ok.mp hread
  cases hread
  rw [MatchweekMembershipFreeze.make_ok hmake]
  exact of_decide_eq_true (check_ok hsame)

/-- What an observation is written as reads back as that observation. -/
theorem observationFromCanonicalJson_payload {observation : MatchweekMembershipObservation}
    (hdigests : validateObservationDigests observation.toObservationFields = .ok ()) :
    observationFromCanonicalJson
        (canonicalJson (observationPayload observation.toObservationFields true)) =
      .ok observation := by
  have hcanonical : canonicalObject "observation"
      (canonicalJson (observationPayload observation.toObservationFields true)) =
        .ok (sortKeys (observationPayload observation.toObservationFields true)) :=
    canonicalObject_canonicalJson "observation"
      (distinct_observationPayload observation.toObservationFields)
  have hsame : check (canonicalJson (observationPayload observation.toObservationFields true) =
      canonicalJson (observationPayload observation.toObservationFields true))
      "F06 observation changes when reconstructed from canonical JSON." = .ok () :=
    if_pos (decide_eq_true rfl)
  rw [observationFromCanonicalJson, hcanonical, ok_bind, observationFields_payload, ok_bind,
    MatchweekMembershipObservation.make_fields, ok_bind, hdigests, ok_bind, hsame]
  rfl

/-- What is read back as an observation is what that observation is written as. -/
theorem observationPayload_of_read {encoded : String}
    {observation : MatchweekMembershipObservation}
    (hread : observationFromCanonicalJson encoded = .ok observation) :
    canonicalJson (observationPayload observation.toObservationFields true) = encoded := by
  rw [observationFromCanonicalJson, mapError_eq_ok] at hread
  obtain ⟨raw, -, hread⟩ := bind_eq_ok.mp hread
  obtain ⟨fields, -, hread⟩ := bind_eq_ok.mp hread
  obtain ⟨made, hmake, hread⟩ := bind_eq_ok.mp hread
  obtain ⟨_, -, hread⟩ := bind_eq_ok.mp hread
  obtain ⟨_, hsame, hread⟩ := bind_eq_ok.mp hread
  cases hread
  rw [MatchweekMembershipObservation.make_ok hmake]
  exact of_decide_eq_true (check_ok hsame)

end Texts

/-! ## A concrete freeze -/

namespace Concrete

open MatchVet.F01.Weekly (targetLeagueKeys)
open MatchVet.F06.TieBreak.Concrete
open MatchVet.Foundation.Gregorian
open MatchVet.Foundation.KeySort

def zeros : Digest := ⟨String.ofList (List.replicate 64 '0'), Foundation.Identifier.isDigest_zeros⟩

/-- The digests of the texts of this section, by their lengths. -/
def digests : List (ℕ × String) :=
  [(152, "ca56311e161c6506d326887bc9df2dbeb9b5e82609f099964108c099faed3f25"),
    (165, "47e48cdf62e8452b9ec869bb99771d975972d6b9514d48e62866bca8f29dbb54"),
    (181, "8d13e3ec35e421aef3814c08c4cc13fc1040380d179eeae6ffa2a5a4c856f0a7"),
    (187, "41b44349c76669984161aa357f808e30d41d93a60b183cef2c291a38303863dc"),
    (353, "1cb00de7f78ed9f10d1d9c92f470053342bf77dbc9d3d3f09a9b2e27079f9be3"),
    (1725, "05c155a0dd2477d0ee4b4dbc4953d5f5b0c63eff56ff1f53243ae50298a532ef"),
    (2106, "7d3ff80e0e53e57afe13a48ff8ac25395560639cb28758ea9b8ca4a337901b3a"),
    (2442, "d05093231d6ec7f4051680b5c38e7df7460485977831a40435c779163a33262c"),
    (2454, "e6bacec5c668fdcbad2c00a9c4b8b8f029fe2aa1a40ceef52b9c302e8113f42f"),
    (2706, "74c0bee050c796a5fa658ce2349deb7c4fd40598a09a4ec766b885a5fd719d81"),
    (7557, "54a5a7285102af82e2caad993fa54a7883dc3e1c257a86f9ade8b1822215f9d7")]

@[reducible]
def tabled : TextDigest where
  sha256 text := ((digests.lookup text.toList.length).bind Digest.ofText?).getD zeros

attribute [local instance] plainRuntime gregorianCalendar utcHost tabled

def digestOf (char : Char) : String := "sha256:" ++ String.ofList (List.replicate 64 char)

def policy : PolicySnapshot := supportedPolicy "2" (by decide)

def support : AuthoritySupportSnapshot String where
  captureId := "capture-1"
  captureDigest := digestOf 'a'
  assertionId := some "assertion-1"
  retrievedAtUtc := "2026-09-20T09:00:00+00:00"
  sourceKey := "football-data.co.uk"
  sourceClass := "STRUCTURED_PROVIDER"
  authorityRank := 300

def integrity : RevisionIntegritySnapshot where
  homeTeamId := "team-1"
  awayTeamId := "team-2"
  sourceRound := some "6"
  assertions := [⟨"assertion-1", digestOf 'b', none, none, none⟩]

def revision : RevisionSnapshot where
  scopeId := "la_liga:2026-27:2026-09-25"
  fixtureId := "fixture-1"
  revisionId := "revision-1"
  revisionDigest := digestOf 'c'
  predecessorRevisionId := none
  kickoffState := "OBSERVED"
  kickoffUtc := some "2026-09-26T19:00:00+00:00"
  kickoffLocalText := none
  kickoffPrecision := "INSTANT"
  fixtureStatus := "SCHEDULED"
  sourceCaptureIds := ["capture-1"]
  sourceAssertionIds := ["assertion-1"]
  supports := [support]
  authorityRank := 300
  latestSupportRetrievedAtUtc := "2026-09-20T09:00:00+00:00"
  integrity := some integrity

def scopeOf (leagueKey : String) : FixtureScope := ⟨leagueKey, "2026-27", "2026-09-25"⟩

def snapshotOf (leagueKey : String) : ScopeSnapshot where
  scopeId := (scopeOf leagueKey).scopeId
  leagueKey := leagueKey
  season := "2026-27"
  matchweekFriday := "2026-09-25"
  coverageState := "COMPLETE"
  windowStartUtc := "2026-09-24T23:00:00+00:00"
  windowEndUtc := "2026-09-28T23:00:00+00:00"

def freezeId : String := freezeIdentity "2026-27" "2026-09-25" (digestOf 'd') policy

def undigested : MembershipDecision where
  membershipId := membershipIdentity freezeId "la_liga:2026-27:2026-09-25" "fixture-1"
  membershipDigest := ""
  scopeId := "la_liga:2026-27:2026-09-25"
  fixtureId := "fixture-1"
  candidateIds := ["candidate-1"]
  decision := .included
  reasonCode := "IN_WINDOW_SCHEDULED"
  reasonCodes := ["IN_WINDOW_SCHEDULED"]
  controllingRevisionId := "revision-1"
  controllingRevisionDigest := digestOf 'c'
  controllingRevision := revision
  evaluatedRevisions := [revision]
  conflicts := []

def membership : MembershipDecision :=
  { undigested with membershipDigest := membershipDigest undigested }

def draftFreeze : FreezeFields where
  freezeId := freezeId
  freezeDigest := ""
  contractVersion := contractVersion
  payloadVersion := payloadVersion
  season := "2026-27"
  matchweekFriday := "2026-09-25"
  assessmentDigest := digestOf 'd'
  scheduleState := "COMPLETE"
  policy := policy
  scopes := targetLeagueKeys.map snapshotOf
  providerHealthReferences := []
  memberships := [membership]
  membershipSetDigest := membershipSetDigest [membership]
  createdAtUtc := "2026-09-24T08:00:00.000000+00:00"

def fields : FreezeFields := { draftFreeze with freezeDigest := freezeDigest draftFreeze }

theorem membershipScopes_legacy {version : String} (hversion : version ∈ supportedVersions)
    (hlegacy : version ≠ "3") :
    membershipScopes "2026-27" "2026-09-25" version = .ok (targetLeagueKeys.map scopeOf) := by
  rw [membershipScopes, policySnapshot_supported hversion, ok_bind, if_neg hlegacy]
  decide

theorem fields_accepted : fields.check = .ok () := by
  have hversions : check (fields.contractVersion = contractVersion &&
      fields.payloadVersion = payloadVersion)
      "F06 freeze contract or payload version is unsupported." = .ok () := by
    decide
  have hid : checkDigest fields.freezeId "F06 freeze ID" = .ok () := checkDigest_sha256Digest _ _
  have hdigest : checkDigest fields.freezeDigest "F06 freeze digest" = .ok () :=
    checkDigest_sha256Digest _ _
  have hassessment : checkDigest fields.assessmentDigest "F01 assessment digest" = .ok () :=
    if_pos (by decide)
  have hset : checkDigest fields.membershipSetDigest "F06 membership-set digest" = .ok () :=
    checkDigest_sha256Digest _ _
  have hseason : check (!blank fields.season) "F06 season must not be empty." = .ok () := by
    decide
  have hscopes : membershipScopes fields.season fields.matchweekFriday
      fields.policy.policyVersion = .ok (targetLeagueKeys.map scopeOf) :=
    membershipScopes_legacy (by decide) (by decide)
  have horder : check (fields.scopes.map ScopeSnapshot.scopeId =
      (targetLeagueKeys.map scopeOf).map FixtureScope.scopeId)
      "F06 freeze scope snapshots must use the policy's exact canonical scope order." =
        .ok () := by
    decide
  have hlegacy : fields.policy.policyVersion ≠ "3" := by decide
  have hutc : checkCanonicalUtc fields.createdAtUtc "F06 created_at_utc" = .ok () := by
    decide
  have hplaces : scopePlaces ((targetLeagueKeys.map scopeOf).map FixtureScope.scopeId)
      (fields.memberships.map MembershipDecision.scopeId) = .ok [2] := by
    decide
  have hsorted : check (sortedOn (decisionKey ((targetLeagueKeys.map scopeOf).map
      FixtureScope.scopeId)) fields.memberships = fields.memberships)
      "F06 membership decisions must use canonical scope/fixture order." = .ok () :=
    if_pos (decide_eq_true rfl)
  rw [FreezeFields.check, hversions, ok_bind, hid, ok_bind, hdigest, ok_bind, hassessment, ok_bind,
    hset, ok_bind, hseason, ok_bind, hscopes, ok_bind]
  simp only [horder, if_neg hlegacy]
  rw [ok_bind, hutc, ok_bind, hplaces, ok_bind, hsorted]

def freeze : MatchweekMembershipFreeze := ⟨fields, fields_accepted⟩

theorem checkDecision_membership : checkDecision freezeId membership = .ok () := by
  have hid : membership.membershipId =
      membershipIdentity freezeId membership.scopeId membership.fixtureId :=
    rfl
  have hdigest : membership.membershipDigest = membershipDigest membership :=
    (membershipDigest_with undigested _).symm
  have hcontrolling : check (membership.controllingRevision.revisionId =
      membership.controllingRevisionId && membership.controllingRevision.revisionDigest =
      membership.controllingRevisionDigest)
      "F06 controlling revision snapshot differs from the decision." = .ok () :=
    if_pos (Bool.and_eq_true_iff.mpr ⟨decide_eq_true rfl, decide_eq_true rfl⟩)
  rw [checkDecision, hcontrolling, ← hid, ← hdigest]
  simp only [check, decide_true, if_true, ok_bind]

theorem fields_digests : validateFreezeDigests fields = .ok () := by
  have hpolicy : policySnapshot fields.policy.policyId fields.policy.policyVersion =
      .ok fields.policy :=
    policySnapshot_supported (by decide)
  have hevidence : fields.memberships.forM (checkEvidence fields.policy) = .ok () := by
    decide
  have hid : fields.freezeId = freezeIdentity fields.season fields.matchweekFriday
      fields.assessmentDigest fields.policy :=
    rfl
  have hdecisions : fields.memberships.forM (checkDecision fields.freezeId) = .ok () := by
    have hone : fields.memberships = [membership] := rfl
    have hfreeze : fields.freezeId = freezeId := rfl
    rw [hone, hfreeze, List.forM_eq_forM, List.forM_cons, checkDecision_membership, ok_bind]
    rfl
  have hset : fields.membershipSetDigest = membershipSetDigest fields.memberships := rfl
  have hdigest : fields.freezeDigest = freezeDigest fields := (freezeDigest_with draftFreeze _).symm
  rw [validateFreezeDigests, hpolicy, ok_bind, hevidence, ← hid, hdecisions, ← hset, ← hdigest]
  simp only [check, decide_true, if_true, ok_bind]

def draftObservation : ObservationFields where
  observationId := observationIdentity freezeId (digestOf 'e')
  observationDigest := ""
  freezeId := freezeId
  assessmentDigest := digestOf 'e'
  assessmentState := "COMPLETE"
  recordedAtUtc := "2026-09-25T08:00:00.000000+00:00"
  scopes := targetLeagueKeys.map snapshotOf
  changes := [⟨.rescheduled, "la_liga:2026-27:2026-09-25", "fixture-1", [], ["revision-1"],
    [digestOf 'c'], [], [], [("kickoff_utc", some "2026-09-27T19:00:00+00:00"), ("round", none)]⟩]

def observed : ObservationFields :=
  { draftObservation with observationDigest := observationDigest draftObservation }

theorem observed_digests : validateObservationDigests observed = .ok () := by
  have hid : observed.observationId =
      observationIdentity observed.freezeId observed.assessmentDigest :=
    rfl
  have hdigest : observed.observationDigest = observationDigest observed :=
    (observationDigest_with draftObservation _).symm
  rw [validateObservationDigests, ← hid, ← hdigest]
  simp only [check, decide_true, if_true, ok_bind]

theorem observationScopes :
    checkObservationScopes (snapshotOf "premier_league") observed.scopes = .ok () := by
  have hlegacy : membershipScopes "2026-27" "2026-09-25" "1" = .ok (targetLeagueKeys.map scopeOf) :=
    membershipScopes_legacy (by decide) (by decide)
  have hsix : membershipScopes "2026-27" "2026-09-25" "3" = .ok (sixKeys.map scopeOf) := by
    rw [membershipScopes, policySnapshot_supported (by decide), ok_bind, if_pos rfl]
    decide
  have hseason : sixScopes (snapshotOf "premier_league") = .ok (sixKeys.map scopeOf) := by
    rw [sixScopes, if_pos (by decide)]
    exact hsix
  rw [checkObservationScopes, hseason]
  change (membershipScopes "2026-27" "2026-09-25" "1" >>= _) = _
  rw [hlegacy, ok_bind, ok_bind]
  decide

theorem observed_accepted : observed.check = .ok () := by
  have hid : checkDigest observed.observationId "F06 observation ID" = .ok () :=
    checkDigest_sha256Digest _ _
  have hdigest : checkDigest observed.observationDigest "F06 observation digest" = .ok () :=
    checkDigest_sha256Digest _ _
  have hfreeze : checkDigest observed.freezeId "F06 freeze ID" = .ok () :=
    checkDigest_sha256Digest _ _
  have hassessment : checkDigest observed.assessmentDigest "F01 assessment digest" = .ok () :=
    if_pos (by decide)
  have hutc : checkCanonicalUtc observed.recordedAtUtc "F06 recorded_at_utc" = .ok () := by
    decide
  have hstate : check (observed.assessmentState ≠ "")
      "F06 observation requires the later F01 aggregate state." = .ok () := by
    decide
  have hplaces : scopePlaces (observed.scopes.map ScopeSnapshot.scopeId)
      (observed.changes.map MembershipObservationChange.scopeId) = .ok [2] := by
    decide
  have hsorted : sortedOn (changeKey (observed.scopes.map ScopeSnapshot.scopeId))
      observed.changes = observed.changes :=
    rfl
  rw [ObservationFields.check, hid, ok_bind, hdigest, ok_bind, hfreeze, ok_bind, hassessment,
    ok_bind, hutc, ok_bind, hstate, ok_bind]
  change (checkObservationScopes (snapshotOf "premier_league") observed.scopes >>= _) = _
  rw [observationScopes, ok_bind]
  simp only [hplaces, hsorted, check, decide_true, if_true, ok_bind]

def observation : MatchweekMembershipObservation := ⟨observed, observed_accepted⟩

end Concrete

end MatchVet.F06.PayloadRoundTrip
