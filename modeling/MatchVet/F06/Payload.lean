import MatchVet.F06.Freeze

/-!
# The payload codec

The encoder writes every record as an object of its fields, without the semantic
integrity of a revision and the history digest of a conflict where these are
absent.  The decoder reads each record by hand and encodes the result again before
it returns it.
-/

namespace MatchVet.F06.Payload

open MatchVet.F06.Freeze
open MatchVet.F06.Integrity
open MatchVet.F06.Records
open MatchVet.Foundation.JsonDocument
open MatchVet.Foundation.Runtime
open MatchVet.Foundation.Timestamp

/-! ## Encoding -/

/-- A field that `_as_json` leaves out where it is `None`. -/
def presentField {α : Type} (key : String) (write : α → Document) :
    Option α → List (String × Document)
  | none => []
  | some value => [(key, write value)]

def MembershipState.value : MembershipState → String
  | .included => "INCLUDED"
  | .excluded => "EXCLUDED"

section Encoding

/-- `_as_json` of every record. -/
def supportJson (support : AuthoritySupportSnapshot String) : Document :=
  .object
    [("capture_id", .str support.captureId), ("capture_digest", .str support.captureDigest),
      ("assertion_id", optionalText support.assertionId),
      ("retrieved_at_utc", .str support.retrievedAtUtc), ("source_key", .str support.sourceKey),
      ("source_class", .str support.sourceClass), ("authority_rank", .int support.authorityRank)]

def assertionJson (assertion : AssertionIntegritySnapshot) : Document :=
  .object
    [("assertion_id", .str assertion.assertionId),
      ("content_digest", .str assertion.contentDigest),
      ("semantic_value", optionalText assertion.semanticValue),
      ("mapping_id", optionalText assertion.mappingId),
      ("mapping_digest", optionalText assertion.mappingDigest)]

def integrityJson (integrity : RevisionIntegritySnapshot) : Document :=
  .object
    [("home_team_id", .str integrity.homeTeamId), ("away_team_id", .str integrity.awayTeamId),
      ("source_round", optionalText integrity.sourceRound),
      ("assertions", .array (integrity.assertions.map assertionJson))]

def revisionJson (revision : RevisionSnapshot) : Document :=
  .object
    ([("scope_id", .str revision.scopeId), ("fixture_id", .str revision.fixtureId),
      ("revision_id", .str revision.revisionId), ("revision_digest", .str revision.revisionDigest),
      ("predecessor_revision_id", optionalText revision.predecessorRevisionId),
      ("kickoff_state", .str revision.kickoffState),
      ("kickoff_utc", optionalText revision.kickoffUtc),
      ("kickoff_local_text", optionalText revision.kickoffLocalText),
      ("kickoff_precision", .str revision.kickoffPrecision),
      ("fixture_status", .str revision.fixtureStatus),
      ("source_capture_ids", texts revision.sourceCaptureIds),
      ("source_assertion_ids", texts revision.sourceAssertionIds),
      ("supports", .array (revision.supports.map supportJson)),
      ("authority_rank", .int revision.authorityRank),
      ("latest_support_retrieved_at_utc", .str revision.latestSupportRetrievedAtUtc)] ++
      presentField "integrity" integrityJson revision.integrity)

def conflictJson (conflict : ConflictSnapshot) : Document :=
  .object
    ([("conflict_id", .str conflict.conflictId), ("predicate", .str conflict.predicate),
      ("value_digest", .str conflict.valueDigest),
      ("assertion_ids", texts conflict.assertionIds), ("values", texts conflict.values)] ++
      presentField "history_value_digest" .str conflict.historyValueDigest)

/-- The fields of a decision but for its digest. -/
def decisionFields (decision : MembershipDecision) : List (String × Document) :=
  [("membership_id", .str decision.membershipId), ("scope_id", .str decision.scopeId),
    ("fixture_id", .str decision.fixtureId), ("candidate_ids", texts decision.candidateIds),
    ("decision", .str (MembershipState.value decision.decision)),
    ("reason_code", .str decision.reasonCode), ("reason_codes", texts decision.reasonCodes),
    ("controlling_revision_id", .str decision.controllingRevisionId),
    ("controlling_revision_digest", .str decision.controllingRevisionDigest),
    ("controlling_revision", revisionJson decision.controllingRevision),
    ("evaluated_revisions", .array (decision.evaluatedRevisions.map revisionJson)),
    ("conflicts", .array (decision.conflicts.map conflictJson))]

/-- `decision_payload`. -/
def decisionPayload (decision : MembershipDecision) (includeDigest : Bool) : Document :=
  .object (decisionFields decision ++
    if includeDigest then [("membership_digest", .str decision.membershipDigest)] else [])

def scopeJson (scope : ScopeSnapshot) : Document :=
  .object
    [("scope_id", .str scope.scopeId), ("league_key", .str scope.leagueKey),
      ("season", .str scope.season), ("matchweek_friday", .str scope.matchweekFriday),
      ("coverage_state", .str scope.coverageState),
      ("window_start_utc", .str scope.windowStartUtc), ("window_end_utc", .str scope.windowEndUtc)]

def healthJson (reference : ProviderHealthReference) : Document :=
  .object
    [("assessment_digest", .str reference.assessmentDigest),
      ("attempt_id", .str reference.attemptId), ("record_digest", .str reference.recordDigest),
      ("scope_id", .str reference.scopeId), ("provider_id", .str reference.providerId),
      ("capability_id", .str reference.capabilityId)]

def pairJson (pair : String × Option String) : Document :=
  .array [.str pair.1, optionalText pair.2]

def changeJson (change : MembershipObservationChange) : Document :=
  .object
    [("change_code", .str change.changeCode.value), ("scope_id", .str change.scopeId),
      ("fixture_id", .str change.fixtureId), ("candidate_ids", texts change.candidateIds),
      ("revision_ids", texts change.revisionIds),
      ("revision_digests", texts change.revisionDigests),
      ("source_capture_ids", texts change.sourceCaptureIds),
      ("source_assertion_ids", texts change.sourceAssertionIds),
      ("facts", .array (change.facts.map pairJson))]

variable [TextDigest]

/-- `PolicySnapshot.to_payload`. -/
def policyPayload (policy : PolicySnapshot) : Document :=
  .object
    [("policy_id", .str policy.policyId), ("policy_version", .str policy.policyVersion),
      ("canonical_json", .str policy.canonicalJson), ("digest", .str policy.digest)]

/-- `freeze_payload`. -/
def freezePayload (freeze : FreezeFields) (includeDigest : Bool) : Document :=
  .object
    ([("assessment_digest", .str freeze.assessmentDigest),
      ("contract_version", .str freeze.contractVersion),
      ("created_at_utc", .str freeze.createdAtUtc), ("freeze_id", .str freeze.freezeId),
      ("matchweek_friday", .str freeze.matchweekFriday),
      ("membership_set_digest", .str freeze.membershipSetDigest),
      ("memberships", .array (freeze.memberships.map fun item => decisionPayload item true)),
      ("payload_version", .int freeze.payloadVersion), ("policy", policyPayload freeze.policy),
      ("provider_health_references", .array (freeze.providerHealthReferences.map healthJson)),
      ("schedule_state", .str freeze.scheduleState),
      ("scopes", .array (freeze.scopes.map scopeJson)), ("season", .str freeze.season)] ++
      if includeDigest then [("freeze_digest", .str freeze.freezeDigest)] else [])

/-- `observation_payload`. -/
def observationPayload (observation : ObservationFields) (includeDigest : Bool) : Document :=
  .object
    ([("observation_id", .str observation.observationId), ("freeze_id", .str observation.freezeId),
      ("assessment_digest", .str observation.assessmentDigest),
      ("assessment_state", .str observation.assessmentState),
      ("recorded_at_utc", .str observation.recordedAtUtc),
      ("scopes", .array (observation.scopes.map scopeJson)),
      ("changes", .array (observation.changes.map changeJson))] ++
      if includeDigest then [("observation_digest", .str observation.observationDigest)] else [])

/-! ## Identities and digests -/

/-- `freeze_identity`. -/
def freezeIdentity (season matchweekFriday assessmentDigest : String) (policy : PolicySnapshot) :
    String :=
  sha256Digest (canonicalJson (.object
    [("assessment_digest", .str assessmentDigest), ("contract_version", .str contractVersion),
      ("matchweek_friday", .str matchweekFriday), ("policy_digest", .str policy.digest),
      ("policy_id", .str policy.policyId), ("policy_version", .str policy.policyVersion),
      ("season", .str season)]))

/-- `membership_identity`. -/
def membershipIdentity (freezeId scopeId fixtureId : String) : String :=
  sha256Digest (canonicalJson (.object
    [("fixture_id", .str fixtureId), ("freeze_id", .str freezeId), ("scope_id", .str scopeId)]))

/-- `membership_digest`. -/
def membershipDigest (decision : MembershipDecision) : String :=
  sha256Digest (canonicalJson (decisionPayload decision false))

/-- `membership_set_digest`. -/
def membershipSetDigest (memberships : List MembershipDecision) : String :=
  sha256Digest (canonicalJson (.array (memberships.map fun item => .object
    [("membership_digest", .str item.membershipDigest), ("membership_id", .str item.membershipId)])))

/-- `freeze_digest`. -/
def freezeDigest (freeze : FreezeFields) : String :=
  sha256Digest (canonicalJson (freezePayload freeze false))

/-- `observation_identity`. -/
def observationIdentity (freezeId assessmentDigest : String) : String :=
  sha256Digest (canonicalJson (.object
    [("assessment_digest", .str assessmentDigest), ("freeze_id", .str freezeId)]))

/-- `observation_digest`. -/
def observationDigest (observation : ObservationFields) : String :=
  sha256Digest (canonicalJson (observationPayload observation false))

end Encoding

/-! ## Checks of a decoded freeze -/

section Validation

variable [TextDigest]

/-- What a policy version asks of the evidence of one decision. -/
def checkEvidence (policy : PolicySnapshot) (decision : MembershipDecision) :
    Except Failure Unit := do
  let revisions := decision.evaluatedRevisions ++ [decision.controllingRevision]
  check (!(policy.policyVersion = "1" && (revisions.any (fun item => item.integrity.isSome) ||
      decision.conflicts.any fun item => item.historyValueDigest.isSome)))
    "Policy1 cannot contain policy2 integrity or projection evidence."
  check (!(policy.usesIntegrity && revisions.any fun item => item.integrity.isNone))
    "LF14 policies require semantic revision integrity evidence."

/-- The identity and the digest of one decision. -/
def checkDecision (freezeId : String) (decision : MembershipDecision) : Except Failure Unit := do
  check (decision.membershipId =
      membershipIdentity freezeId decision.scopeId decision.fixtureId)
    "F06 membership ID does not match its freeze and fixture identity."
  check (decision.membershipDigest = membershipDigest decision)
    "F06 membership digest does not match its canonical decision."
  check (decision.controllingRevision.revisionId = decision.controllingRevisionId &&
      decision.controllingRevision.revisionDigest = decision.controllingRevisionDigest)
    "F06 controlling revision snapshot differs from the decision."

/-- The identity and the digest of an observation. -/
def validateObservationDigests (observation : ObservationFields) : Except Failure Unit := do
  check (observation.observationId =
      observationIdentity observation.freezeId observation.assessmentDigest)
    "F06 observation ID does not match its exact assessment identity."
  check (observation.observationDigest = observationDigest observation)
    "F06 observation digest does not match its canonical payload."

variable [PyRuntime]

/-- `_validate_freeze_digests`. -/
def validateFreezeDigests (freeze : FreezeFields) : Except Failure Unit := do
  let expectedPolicy ← policySnapshot freeze.policy.policyId freeze.policy.policyVersion
  check (freeze.policy = expectedPolicy)
    "F06 policy snapshot does not match its supported version."
  freeze.memberships.forM (checkEvidence freeze.policy)
  check (freeze.freezeId = freezeIdentity freeze.season freeze.matchweekFriday
      freeze.assessmentDigest freeze.policy)
    "F06 freeze ID does not match its immutable identity."
  freeze.memberships.forM (checkDecision freeze.freezeId)
  check (freeze.membershipSetDigest = membershipSetDigest freeze.memberships)
    "F06 membership-set digest does not match its ordered decisions."
  check (freeze.freezeDigest = freezeDigest freeze)
    "F06 freeze digest does not match its canonical payload."

end Validation

/-! ## Decoding values -/

/-- `raw[key]`. -/
def field (raw : Document) (key : String) : Except Failure Document :=
  match raw.get? key with
  | some value => .ok value
  | none => .error (.fault (.keyError key))

/-- `_object`. -/
def object (label : String) : Document → Except Failure Document
  | .object members => .ok (.object members)
  | _ => invalid ("F06 " ++ label ++ " must be an object.")

/-- `_object_array`. -/
def objectArray (label : String) : Document → Except Failure (List Document)
  | .array items => items.mapM (object label)
  | _ => invalid ("F06 " ++ label ++ " must be an array.")

/-- `_string`. -/
def string (label : String) : Document → Except Failure String
  | .str text => .ok text
  | _ => invalid ("F06 " ++ label ++ " must be a string.")

/-- `_optional_string`. -/
def optionalString (label : String) : Document → Except Failure (Option String)
  | .null => .ok none
  | .str text => .ok (some text)
  | _ => invalid ("F06 " ++ label ++ " must be a string or null.")

/-- `_integer`. -/
def integer (label : String) : Document → Except Failure ℤ
  | .int value => .ok value
  | _ => invalid ("F06 " ++ label ++ " must be an integer.")

/-- `_string_array`. -/
def stringArray (label : String) : Document → Except Failure (List String)
  | .array items =>
      match items.mapM Document.text? with
      | some values => .ok values
      | none => invalid ("F06 " ++ label ++ " must be an array of strings.")
  | _ => invalid ("F06 " ++ label ++ " must be an array of strings.")

/-- One entry of `_pair_array`. -/
def pair (label : String) : Document → Except Failure (Document × Document)
  | .array [first, second] => .ok (first, second)
  | _ => invalid ("F06 " ++ label ++ " entries must be two-item arrays.")

/-- `_pair_array`. -/
def pairArray (label : String) : Document → Except Failure (List (Document × Document))
  | .array items => items.mapM (pair label)
  | _ => invalid ("F06 " ++ label ++ " must be an array.")

/-- A field read by one of the checks above. -/
def fieldAs {α : Type} (read : String → Document → Except Failure α) (raw : Document)
    (key label : String) : Except Failure α := do
  let value ← field raw key
  read label value

/-- The records of an array of objects. -/
def fieldObjects {α : Type} (decode : Document → Except Failure α) (raw : Document)
    (key label : String) : Except Failure (List α) := do
  let items ← fieldAs objectArray raw key label
  items.mapM decode

/-! ## Decoding records -/

def supportFromObject (raw : Document) : Except Failure (AuthoritySupportSnapshot String) := do
  let captureId ← fieldAs string raw "capture_id" "capture_id"
  let captureDigest ← fieldAs string raw "capture_digest" "capture_digest"
  let assertionId ← fieldAs optionalString raw "assertion_id" "assertion_id"
  let retrievedAtUtc ← fieldAs string raw "retrieved_at_utc" "retrieved_at_utc"
  let sourceKey ← fieldAs string raw "source_key" "source_key"
  let sourceClass ← fieldAs string raw "source_class" "source_class"
  let authorityRank ← fieldAs integer raw "authority_rank" "authority_rank"
  .ok { captureId, captureDigest, assertionId, retrievedAtUtc, sourceKey, sourceClass,
        authorityRank }

def assertionFromObject (raw : Document) : Except Failure AssertionIntegritySnapshot := do
  let assertionId ← fieldAs string raw "assertion_id" "assertion_id"
  let contentDigest ← fieldAs string raw "content_digest" "assertion content digest"
  let semanticValue ← fieldAs optionalString raw "semantic_value" "semantic_value"
  let mappingId ← fieldAs optionalString raw "mapping_id" "mapping_id"
  let mappingDigest ← fieldAs optionalString raw "mapping_digest" "mapping_digest"
  .ok { assertionId, contentDigest, semanticValue, mappingId, mappingDigest }

def integrityFromObject (raw : Document) : Except Failure RevisionIntegritySnapshot := do
  let evidence ← object "integrity" raw
  let homeTeamId ← fieldAs string evidence "home_team_id" "home_team_id"
  let awayTeamId ← fieldAs string evidence "away_team_id" "away_team_id"
  let sourceRound ← fieldAs optionalString evidence "source_round" "source_round"
  let assertions ← fieldObjects assertionFromObject evidence "assertions" "integrity assertions"
  .ok { homeTeamId, awayTeamId, sourceRound, assertions }

/-- `raw.get(key)`, read where it is there and not `None`. -/
def optionalField {α : Type} (decode : Document → Except Failure α) (raw : Document)
    (key : String) : Except Failure (Option α) :=
  match raw.get? key with
  | none | some .null => .ok none
  | some value => (decode value).map some

/-- `_revision_from_object`. -/
def revisionFromObject (raw : Document) : Except Failure RevisionSnapshot := do
  let supports ← fieldObjects supportFromObject raw "supports" "supports"
  let integrity ← optionalField integrityFromObject raw "integrity"
  let scopeId ← fieldAs string raw "scope_id" "scope_id"
  let fixtureId ← fieldAs string raw "fixture_id" "fixture_id"
  let revisionId ← fieldAs string raw "revision_id" "revision_id"
  let revisionDigest ← fieldAs string raw "revision_digest" "revision_digest"
  let predecessorRevisionId ←
    fieldAs optionalString raw "predecessor_revision_id" "predecessor_revision_id"
  let kickoffState ← fieldAs string raw "kickoff_state" "kickoff_state"
  let kickoffUtc ← fieldAs optionalString raw "kickoff_utc" "kickoff_utc"
  let kickoffLocalText ← fieldAs optionalString raw "kickoff_local_text" "kickoff_local_text"
  let kickoffPrecision ← fieldAs string raw "kickoff_precision" "kickoff_precision"
  let fixtureStatus ← fieldAs string raw "fixture_status" "fixture_status"
  let sourceCaptureIds ← fieldAs stringArray raw "source_capture_ids" "source_capture_ids"
  let sourceAssertionIds ← fieldAs stringArray raw "source_assertion_ids" "source_assertion_ids"
  let authorityRank ← fieldAs integer raw "authority_rank" "authority_rank"
  let latestSupportRetrievedAtUtc ←
    fieldAs string raw "latest_support_retrieved_at_utc" "latest_support_retrieved_at_utc"
  .ok { scopeId, fixtureId, revisionId, revisionDigest, predecessorRevisionId, kickoffState,
        kickoffUtc, kickoffLocalText, kickoffPrecision, fixtureStatus, sourceCaptureIds,
        sourceAssertionIds, supports, authorityRank, latestSupportRetrievedAtUtc, integrity }

def conflictFromObject (raw : Document) : Except Failure ConflictSnapshot := do
  let conflictId ← fieldAs string raw "conflict_id" "conflict_id"
  let predicate ← fieldAs string raw "predicate" "predicate"
  let valueDigest ← fieldAs string raw "value_digest" "value_digest"
  let assertionIds ← fieldAs stringArray raw "assertion_ids" "assertion_ids"
  let values ← fieldAs stringArray raw "values" "values"
  let historyValueDigest ← optionalField (string "history_value_digest") raw "history_value_digest"
  .ok { conflictId, predicate, valueDigest, assertionIds, values, historyValueDigest }

/-- `MembershipState(value)`. -/
def membershipState (value : String) : Except Failure MembershipState :=
  if value = "INCLUDED" then .ok .included
  else if value = "EXCLUDED" then .ok .excluded
  else invalid (value ++ " is not a valid MembershipState")

/-- `_decision_from_object`. -/
def decisionFromObject (raw : Document) : Except Failure MembershipDecision := do
  let controllingRaw ← fieldAs object raw "controlling_revision" "controlling_revision"
  let controllingRevision ← revisionFromObject controllingRaw
  let evaluatedRevisions ←
    fieldObjects revisionFromObject raw "evaluated_revisions" "evaluated_revisions"
  let conflicts ← fieldObjects conflictFromObject raw "conflicts" "conflicts"
  let membershipId ← fieldAs string raw "membership_id" "membership_id"
  let membershipDigest ← fieldAs string raw "membership_digest" "membership_digest"
  let scopeId ← fieldAs string raw "scope_id" "scope_id"
  let fixtureId ← fieldAs string raw "fixture_id" "fixture_id"
  let candidateIds ← fieldAs stringArray raw "candidate_ids" "candidate_ids"
  let decisionText ← fieldAs string raw "decision" "decision"
  let decision ← membershipState decisionText
  let reasonCode ← fieldAs string raw "reason_code" "reason_code"
  let reasonCodes ← fieldAs stringArray raw "reason_codes" "reason_codes"
  let controllingRevisionId ←
    fieldAs string raw "controlling_revision_id" "controlling_revision_id"
  let controllingRevisionDigest ←
    fieldAs string raw "controlling_revision_digest" "controlling_revision_digest"
  .ok { membershipId, membershipDigest, scopeId, fixtureId, candidateIds, decision, reasonCode,
        reasonCodes, controllingRevisionId, controllingRevisionDigest, controllingRevision,
        evaluatedRevisions, conflicts }

def scopeFromObject (raw : Document) : Except Failure ScopeSnapshot := do
  let scopeId ← fieldAs string raw "scope_id" "scope_id"
  let leagueKey ← fieldAs string raw "league_key" "league_key"
  let season ← fieldAs string raw "season" "scope season"
  let matchweekFriday ← fieldAs string raw "matchweek_friday" "scope Friday"
  let coverageState ← fieldAs string raw "coverage_state" "coverage_state"
  let windowStartUtc ← fieldAs string raw "window_start_utc" "window_start_utc"
  let windowEndUtc ← fieldAs string raw "window_end_utc" "window_end_utc"
  .ok { scopeId, leagueKey, season, matchweekFriday, coverageState, windowStartUtc, windowEndUtc }

def healthFromObject (raw : Document) : Except Failure ProviderHealthReference := do
  let assessmentDigest ← fieldAs string raw "assessment_digest" "assessment_digest"
  let attemptId ← fieldAs string raw "attempt_id" "attempt_id"
  let recordDigest ← fieldAs string raw "record_digest" "record_digest"
  let scopeId ← fieldAs string raw "scope_id" "scope_id"
  let providerId ← fieldAs string raw "provider_id" "provider_id"
  let capabilityId ← fieldAs string raw "capability_id" "capability_id"
  .ok { assessmentDigest, attemptId, recordDigest, scopeId, providerId, capabilityId }

/-- The members of `ObservationCode`, in order. -/
def observationCodes : List ObservationCode :=
  [.addedInWindow, .movedIn, .movedOut, .rescheduled, .postponed, .cancelled, .kickoffCorrected,
    .identityResolved, .sourceConflict, .revisionObserved]

/-- `ObservationCode(value)`. -/
def observationCode (value : String) : Except Failure ObservationCode :=
  match observationCodes.find? fun code => code.value = value with
  | some code => .ok code
  | none => invalid (value ++ " is not a valid ObservationCode")

def factFromPair (found : Document × Document) : Except Failure (String × Option String) := do
  let key ← string "fact key" found.1
  let value ← optionalString "fact value" found.2
  .ok (key, value)

/-- The facts of a change, two items each. -/
def fieldFacts (raw : Document) (key label : String) :
    Except Failure (List (String × Option String)) := do
  let pairs ← fieldAs pairArray raw key label
  pairs.mapM factFromPair

def changeFromObject (raw : Document) : Except Failure MembershipObservationChange := do
  let codeText ← fieldAs string raw "change_code" "change_code"
  let changeCode ← observationCode codeText
  let scopeId ← fieldAs string raw "scope_id" "scope_id"
  let fixtureId ← fieldAs string raw "fixture_id" "fixture_id"
  let candidateIds ← fieldAs stringArray raw "candidate_ids" "candidate_ids"
  let revisionIds ← fieldAs stringArray raw "revision_ids" "revision_ids"
  let revisionDigests ← fieldAs stringArray raw "revision_digests" "revision_digests"
  let sourceCaptureIds ← fieldAs stringArray raw "source_capture_ids" "source_capture_ids"
  let sourceAssertionIds ← fieldAs stringArray raw "source_assertion_ids" "source_assertion_ids"
  let facts ← fieldFacts raw "facts" "facts"
  .ok { changeCode, scopeId, fixtureId, candidateIds, revisionIds, revisionDigests,
        sourceCaptureIds, sourceAssertionIds, facts }

/-! ## Decoding payloads -/

section Decoding

variable [TextDigest]

def policyFromObject (raw : Document) : Except Failure PolicySnapshot := do
  let policyId ← fieldAs string raw "policy_id" "policy_id"
  let policyVersion ← fieldAs string raw "policy_version" "policy_version"
  let canonicalJson ← fieldAs string raw "canonical_json" "canonical_json"
  let digest ← fieldAs string raw "digest" "policy digest"
  PolicySnapshot.make { policyId, policyVersion, canonicalJson, digest }

/-- The fields of a freeze. -/
def freezeFields (raw : Document) : Except Failure FreezeFields := do
  let policyRaw ← fieldAs object raw "policy" "policy"
  let policy ← policyFromObject policyRaw
  let scopes ← fieldObjects scopeFromObject raw "scopes" "scopes"
  let providerHealthReferences ←
    fieldObjects healthFromObject raw "provider_health_references" "provider health refs"
  let memberships ← fieldObjects decisionFromObject raw "memberships" "memberships"
  let freezeId ← fieldAs string raw "freeze_id" "freeze_id"
  let freezeDigest ← fieldAs string raw "freeze_digest" "freeze_digest"
  let contractVersion ← fieldAs string raw "contract_version" "contract_version"
  let payloadVersion ← fieldAs integer raw "payload_version" "payload_version"
  let season ← fieldAs string raw "season" "season"
  let matchweekFriday ← fieldAs string raw "matchweek_friday" "matchweek_friday"
  let assessmentDigest ← fieldAs string raw "assessment_digest" "assessment_digest"
  let scheduleState ← fieldAs string raw "schedule_state" "schedule_state"
  let membershipSetDigest ← fieldAs string raw "membership_set_digest" "membership_set_digest"
  let createdAtUtc ← fieldAs string raw "created_at_utc" "created_at_utc"
  .ok { freezeId, freezeDigest, contractVersion, payloadVersion, season, matchweekFriday,
        assessmentDigest, scheduleState, policy, scopes, providerHealthReferences, memberships,
        membershipSetDigest, createdAtUtc }

/-- The fields of an observation. -/
def observationFields (raw : Document) : Except Failure ObservationFields := do
  let scopes ← fieldObjects scopeFromObject raw "scopes" "scopes"
  let changes ← fieldObjects changeFromObject raw "changes" "changes"
  let observationId ← fieldAs string raw "observation_id" "observation_id"
  let observationDigest ← fieldAs string raw "observation_digest" "observation_digest"
  let freezeId ← fieldAs string raw "freeze_id" "freeze_id"
  let assessmentDigest ← fieldAs string raw "assessment_digest" "assessment_digest"
  let assessmentState ← fieldAs string raw "assessment_state" "assessment_state"
  let recordedAtUtc ← fieldAs string raw "recorded_at_utc" "recorded_at_utc"
  .ok { observationId, observationDigest, freezeId, assessmentDigest, assessmentState,
        recordedAtUtc, scopes, changes }

/-- The canonical object a text is. -/
def canonicalObject (label encoded : String) : Except Failure Document :=
  match loads encoded with
  | none => .error (.fault .jsonDecodeError)
  | some (.object members) =>
      if canonicalJson (.object members) = encoded then .ok (.object members)
      else invalid ("F06 " ++ label ++ " payload is not a canonical JSON object.")
  | some _ => invalid ("F06 " ++ label ++ " payload is not a canonical JSON object.")

/-- `except (KeyError, TypeError, json.JSONDecodeError)`. -/
def malformed (label : String) : Failure → Failure
  | .fault (.keyError _) | .fault .typeError | .fault .jsonDecodeError =>
      .fault (.valueError ("F06 " ++ label ++ " payload is malformed."))
  | failure => failure

variable [PyRuntime] [Calendar] [Localtime]

/-- `freeze_from_canonical_json`. -/
def freezeFromCanonicalJson (encoded : String) : Except Failure MatchweekMembershipFreeze :=
  Except.mapError (malformed "freeze") do
    let raw ← canonicalObject "freeze" encoded
    let fields ← freezeFields raw
    let freeze ← MatchweekMembershipFreeze.make fields
    validateFreezeDigests fields
    check (canonicalJson (freezePayload fields true) = encoded)
      "F06 freeze payload changes when reconstructed from canonical JSON."
    .ok freeze

/-- `observation_from_canonical_json`. -/
def observationFromCanonicalJson (encoded : String) :
    Except Failure MatchweekMembershipObservation :=
  Except.mapError (malformed "observation") do
    let raw ← canonicalObject "observation" encoded
    let fields ← observationFields raw
    let observation ← MatchweekMembershipObservation.make fields
    validateObservationDigests fields
    check (canonicalJson (observationPayload fields true) = encoded)
      "F06 observation changes when reconstructed from canonical JSON."
    .ok observation

end Decoding

end MatchVet.F06.Payload
