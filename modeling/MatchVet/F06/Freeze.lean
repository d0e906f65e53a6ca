import MatchVet.F06.Decision
import MatchVet.Foundation.Identifier
import MatchVet.Foundation.JsonDocument
import MatchVet.Foundation.KeySort

/-!
# Membership freezes and observations

The immutable records of `matchweek_membership` and the checks of their
constructors.  A freeze, an observation and a policy snapshot carry the proof
that their constructor accepted them.
-/

namespace MatchVet.F06.Freeze

open MatchVet.F01.Weekly
open MatchVet.F06.Decision
open MatchVet.F06.Integrity
open MatchVet.F06.Records
open MatchVet.Foundation.Gregorian
open MatchVet.Foundation.Identifier
open MatchVet.Foundation.JsonDocument
open MatchVet.Foundation.KeySort
open MatchVet.Foundation.Runtime
open MatchVet.Foundation.Timestamp

/-! ## Digests and times -/

/-- SHA-256 of a text in UTF-8. -/
class TextDigest where
  sha256 : String → Digest

def sha256Digest [TextDigest] (encoded : String) : String :=
  "sha256:" ++ (TextDigest.sha256 encoded).text

def invalid {α : Type} (message : String) : Except Failure α :=
  .error (.fault (.valueError message))

/-- `sha256:[0-9a-f]{64}`. -/
def digestForm (value : String) : Bool :=
  decide ("sha256:".toList <+: value.toList) && isDigest (String.ofList (value.toList.drop 7))

/-- `_digest`. -/
def checkDigest (value label : String) : Except Failure Unit :=
  if digestForm value then .ok () else invalid (label ++ " must be a lowercase sha256 digest.")

/-- `_canonical_utc`. -/
def checkCanonicalUtc [Calendar] (value label : String) : Except Failure Unit :=
  match fromIsoFormat value with
  | none => invalid (label ++ " must be canonical UTC.")
  | some ⟨_, none⟩ => invalid (label ++ " must include a UTC offset.")
  | some ⟨clock, some offset⟩ => do
      let instant ← (toUtc clock offset).mapError .fault
      if isoFormat instant = value then .ok () else invalid (label ++ " must be canonical UTC.")

def check (holds : Bool) (message : String) : Except Failure Unit :=
  if holds then .ok () else invalid message

/-! ## Policies -/

def contractVersion : String := "matchweek-membership-freeze-v2"

def payloadVersion : ℤ := 1

def policyId : String := "matchvet:matchweek-membership"

/-- The leagues of `SUCCESSOR_SIX_SCOPE`. -/
def sixKeys : List String :=
  ["premier_league", "serie_a", "la_liga", "bundesliga", "ligue_1", "liga_portugal"]

def activeSeason : String := "2026-27"

def activeScopePayload : List (String × Document) :=
  [("contract_id", .str "matchvet-active-scope-v2"), ("version", .int 2),
    ("season", .str activeSeason), ("league_keys", texts sixKeys)]

section Policies

variable [TextDigest]

/-- `asdict(SUCCESSOR_SIX_SCOPE)`. -/
def activeScope : Document :=
  .object (activeScopePayload ++
    [("digest", .str (sha256Digest (canonicalJson (.object activeScopePayload))))])

/-- The order in which revisions are selected, by version. -/
def selectionOrder (version : String) : List String :=
  if version = "1" then
    ["authority_rank_desc", "latest_support_retrieved_at_utc_desc", "revision_id_desc",
      "revision_digest_desc"]
  else
    ["authority_rank_desc", "latest_support_retrieved_at_utc_desc",
      "compatible_instant_precision_desc", "revision_id_desc", "revision_digest_desc"]

def authority (version : String) : Document :=
  .object
    [("fallback_source_keys", .object [("football-data.co.uk", .int 300), ("openfootball", .int 200)]),
      ("source_classes", .object
        [("OFFICIAL_COMPETITION", .int 500), ("OFFICIAL_LEAGUE", .int 500),
          ("OFFICIAL_FEDERATION", .int 490), ("OFFICIAL_ASSOCIATION", .int 490),
          ("OFFICIAL_CLUB", .int 480), ("OFFICIAL", .int 470), ("STRUCTURED_PROVIDER", .int 300),
          ("OPEN_DATASET", .int 200), ("OPEN_SOURCE_DATASET", .int 200)]),
      ("normalization", .object
        [("source_class", .str "strip_upper_replace_spaces_with_underscores"),
          ("source_key", .str "strip_casefold")]),
      ("selection_order", texts (selectionOrder version)),
      ("unknown_rank", .int 100)]

def reasonCodes : Document :=
  .object
    [("included", .str "IN_WINDOW_SCHEDULED"), ("outside", .str "OUTSIDE_MATCHWEEK_WINDOW"),
      ("not_scheduled", .str "NOT_SCHEDULED"), ("postponed", .str "POSTPONED"),
      ("cancelled", .str "CANCELLED"), ("identity_unresolved", .str "IDENTITY_UNRESOLVED"),
      ("kickoff_unknown", .str "KICKOFF_UNKNOWN"), ("status_unknown", .str "STATUS_UNKNOWN"),
      ("controlling_revision_missing", .str "CONTROLLING_REVISION_MISSING"),
      ("membership_conflict", .str "MEMBERSHIP_CONFLICT"),
      ("material_source_conflict", .str "MATERIAL_SOURCE_CONFLICT")]

/-- What policies 2 and 3 add. -/
def integrityRules : List (String × Document) :=
  [("integrity", .object
    [("team_identity", .str "ordered_confirmed_canonical_ids"),
      ("kickoff", .str "typed_league_local_date_instant_compatibility"),
      ("status", .str "membership_classes"),
      ("conflicts", .str "exact_assertion_projection_from_cumulative_history"),
      ("references", .str "revision_content_and_complete_assertion_coherence"),
      ("identity_transition", .str "explicit_stable_candidate_state_change")])]

/-- What policy 3 adds. -/
def activeRules : List (String × Document) :=
  [("active_scope", activeScope),
    ("fixture_coverage", .object
      [("contract_version", .str "fixture-coverage-v4-v4"), ("schema_version", .int 4)])]

/-- `membership_policy_document` of a supported version. -/
def policyDocument (version : String) : Document :=
  .object
    ([("authority", authority version),
      ("candidate_grouping", texts ["scope_id", "canonical_fixture_id"]),
      ("contract_version", .str contractVersion),
      ("decision_order", texts ["canonical_scope_order", "canonical_fixture_id"]),
      ("membership_window", .object
        [("timezone", .str "Africa/Lagos"), ("start", .str "FRIDAY_00:00_INCLUSIVE"),
          ("end", .str "TUESDAY_00:00_EXCLUSIVE")]),
      ("reason_codes", reasonCodes),
      ("status_mapping", .object (statusMapping.map fun entry => (entry.1, texts entry.2))),
      ("version", .str version)] ++
      (if version = "1" then [] else integrityRules) ++
      (if version = "3" then activeRules else []))

structure PolicyFields where
  policyId : String
  policyVersion : String
  canonicalJson : String
  digest : String
  deriving DecidableEq

/-- `PolicySnapshot.__post_init__`. -/
def PolicyFields.check (fields : PolicyFields) : Except Failure Unit := do
  Freeze.check (!blank fields.policyId && !blank fields.policyVersion)
    "F06 policy identity must not be empty."
  checkDigest fields.digest "F06 policy digest"
  match loads fields.canonicalJson with
  | none => .error (.fault .jsonDecodeError)
  | some document => do
      Freeze.check (Foundation.JsonDocument.canonicalJson document = fields.canonicalJson)
        "F06 policy snapshot must use canonical JSON."
      Freeze.check (sha256Digest fields.canonicalJson = fields.digest)
        "F06 policy snapshot digest does not match its canonical JSON."

structure PolicySnapshot extends PolicyFields where
  accepted : toPolicyFields.check = .ok ()
  deriving DecidableEq

/-- `PolicySnapshot(...)`. -/
def PolicySnapshot.make (fields : PolicyFields) : Except Failure PolicySnapshot :=
  match accepted : fields.check with
  | .ok () => .ok ⟨fields, accepted⟩
  | .error failure => .error failure

/-- `uses_lf14_integrity`. -/
def PolicySnapshot.usesIntegrity (policy : PolicySnapshot) : Bool := policy.policyVersion ≠ "1"

def supportedVersions : List String := ["1", "2", "3"]

/-- `policy_snapshot`. -/
def policySnapshot [PyRuntime] (id version : String) : Except Failure PolicySnapshot :=
  if id ≠ policyId ∨ version ∉ supportedVersions then
    .error (.refused "MV-F06-POLICY-UNSUPPORTED" "POLICY_UNSUPPORTED"
      ("Unsupported F06 membership policy " ++ PyRuntime.repr (.str id) ++ " version " ++
        PyRuntime.repr (.str version) ++ "."))
  else
    PolicySnapshot.make
      ⟨id, version, canonicalJson (policyDocument version),
        sha256Digest (canonicalJson (policyDocument version))⟩

end Policies

/-! ## Scopes -/

structure FixtureScope where
  leagueKey : String
  season : String
  matchweekFriday : String
  deriving DecidableEq

def FixtureScope.scopeId (scope : FixtureScope) : String :=
  scope.leagueKey ++ ":" ++ scope.season ++ ":" ++ scope.matchweekFriday

section Scopes

variable [Localtime]

def matchweekWindow (friday : String) : Except Failure MatchweekWindow :=
  (MatchweekWindow.forFriday friday).mapError .fault

/-- `FixtureScope(...)`. -/
def FixtureScope.make (leagueKey season matchweekFriday : String) :
    Except Failure FixtureScope := do
  check (targetLeagueKeys.contains leagueKey) ("Unknown configured Target League: " ++ leagueKey)
  check (!blank season) "Fixture Scope season must not be empty."
  let window ← matchweekWindow matchweekFriday
  check (dateText window.fridayLocal = matchweekFriday)
    "Fixture Scope Matchweek Friday must use YYYY-MM-DD."
  .ok ⟨leagueKey, season, matchweekFriday⟩

/-- The scopes of the leagues in the week of a Friday. -/
def scopesForMatchweek (leagueKeys : List String) (friday season : String) :
    Except Failure (List FixtureScope) := do
  let window ← matchweekWindow friday
  leagueKeys.mapM fun key => FixtureScope.make key season (dateText window.fridayLocal)

/-- `membership_scopes`. -/
def membershipScopes [PyRuntime] [TextDigest] (season friday version : String) :
    Except Failure (List FixtureScope) := do
  let _ ← policySnapshot policyId version
  if version = "3" then do
    check (season = activeSeason) "Policy3 requires the exact active-scope season."
    scopesForMatchweek sixKeys friday activeSeason
  else scopesForMatchweek targetLeagueKeys friday season

structure ScopeSnapshot where
  scopeId : String
  leagueKey : String
  season : String
  matchweekFriday : String
  coverageState : String
  windowStartUtc : String
  windowEndUtc : String
  deriving DecidableEq

/-- `scope.window_start_utc` and `scope.window_end_utc`. -/
def FixtureScope.windowTexts [Calendar] (scope : FixtureScope) :
    Except Failure (String × String) := do
  let window ← matchweekWindow scope.matchweekFriday
  let start ← (toUtc (window.fridayLocal * dayLength) lagosOffset).mapError .fault
  let endLocal ← window.endLocal.mapError .fault
  let stop ← (toUtc endLocal lagosOffset).mapError .fault
  .ok (isoFormat start, isoFormat stop)

/-- One turn of `_validate_exact_scope_snapshots`. -/
def checkScopeSnapshot [Calendar] (pair : ScopeSnapshot × FixtureScope) :
    Except Failure Unit := do
  let (start, stop) ← pair.2.windowTexts
  check ((pair.1.scopeId, pair.1.leagueKey, pair.1.season, pair.1.matchweekFriday,
      pair.1.windowStartUtc, pair.1.windowEndUtc) =
    (pair.2.scopeId, pair.2.leagueKey, pair.2.season, pair.2.matchweekFriday, start, stop))
    "Policy3 scope snapshots must retain the exact canonical identity."

/-- `_validate_exact_scope_snapshots`, of lists of one length. -/
def checkScopeSnapshots [Calendar] (snapshots : List ScopeSnapshot)
    (expected : List FixtureScope) : Except Failure Unit :=
  (snapshots.zip expected).forM checkScopeSnapshot

end Scopes

/-! ## Membership decisions -/

/-- A revision whose times are canonical UTC text. -/
abbrev RevisionSnapshot := FixtureRevisionSnapshot String

structure ConflictSnapshot where
  conflictId : String
  predicate : String
  valueDigest : String
  assertionIds : List String
  values : List String
  historyValueDigest : Option String
  deriving DecidableEq

structure MembershipDecision where
  membershipId : String
  membershipDigest : String
  scopeId : String
  fixtureId : String
  candidateIds : List String
  decision : MembershipState
  reasonCode : String
  reasonCodes : List String
  controllingRevisionId : String
  controllingRevisionDigest : String
  controllingRevision : RevisionSnapshot
  evaluatedRevisions : List RevisionSnapshot
  conflicts : List ConflictSnapshot
  deriving DecidableEq

structure ProviderHealthReference where
  assessmentDigest : String
  attemptId : String
  recordDigest : String
  scopeId : String
  providerId : String
  capabilityId : String
  deriving DecidableEq

/-- The place of every scope, for `scope_order[item.scope_id]`. -/
def scopePlaces (order : List String) (scopeIds : List String) : Except Failure (List ℕ) :=
  scopeIds.mapM fun scopeId =>
    match order.idxOf? scopeId with
    | some place => .ok place
    | none => .error (.fault (.keyError scopeId))

/-! ## Freezes -/

section Freezes

variable [TextDigest]

structure FreezeFields where
  freezeId : String
  freezeDigest : String
  contractVersion : String
  payloadVersion : ℤ
  season : String
  matchweekFriday : String
  assessmentDigest : String
  scheduleState : String
  policy : PolicySnapshot
  scopes : List ScopeSnapshot
  providerHealthReferences : List ProviderHealthReference
  memberships : List MembershipDecision
  membershipSetDigest : String
  createdAtUtc : String
  deriving DecidableEq

/-- The order of the decisions of a freeze. -/
def decisionKey (order : List String) (decision : MembershipDecision) : ℕ ×ₗ String :=
  toLex (order.idxOf decision.scopeId, decision.fixtureId)

variable [PyRuntime] [Calendar] [Localtime]

/-- `MatchweekMembershipFreeze.__post_init__`. -/
def FreezeFields.check (freeze : FreezeFields) : Except Failure Unit := do
  Freeze.check (freeze.contractVersion = Freeze.contractVersion &&
      freeze.payloadVersion = Freeze.payloadVersion)
    "F06 freeze contract or payload version is unsupported."
  checkDigest freeze.freezeId "F06 freeze ID"
  checkDigest freeze.freezeDigest "F06 freeze digest"
  checkDigest freeze.assessmentDigest "F01 assessment digest"
  checkDigest freeze.membershipSetDigest "F06 membership-set digest"
  Freeze.check (!blank freeze.season) "F06 season must not be empty."
  let expected ← membershipScopes freeze.season freeze.matchweekFriday freeze.policy.policyVersion
  let order := expected.map FixtureScope.scopeId
  Freeze.check (freeze.scopes.map ScopeSnapshot.scopeId = order)
    "F06 freeze scope snapshots must use the policy's exact canonical scope order."
  if freeze.policy.policyVersion = "3" then checkScopeSnapshots freeze.scopes expected
  checkCanonicalUtc freeze.createdAtUtc "F06 created_at_utc"
  let _ ← scopePlaces order (freeze.memberships.map MembershipDecision.scopeId)
  Freeze.check (sortedOn (decisionKey order) freeze.memberships = freeze.memberships)
    "F06 membership decisions must use canonical scope/fixture order."

structure MatchweekMembershipFreeze extends FreezeFields where
  accepted : toFreezeFields.check = .ok ()

/-- `MatchweekMembershipFreeze(...)`. -/
def MatchweekMembershipFreeze.make (fields : FreezeFields) :
    Except Failure MatchweekMembershipFreeze :=
  match accepted : fields.check with
  | .ok () => .ok ⟨fields, accepted⟩
  | .error failure => .error failure

end Freezes

/-! ## Observations -/

inductive ObservationCode where
  | addedInWindow
  | movedIn
  | movedOut
  | rescheduled
  | postponed
  | cancelled
  | kickoffCorrected
  | identityResolved
  | sourceConflict
  | revisionObserved
  deriving DecidableEq

structure MembershipObservationChange where
  changeCode : ObservationCode
  scopeId : String
  fixtureId : String
  candidateIds : List String
  revisionIds : List String
  revisionDigests : List String
  sourceCaptureIds : List String
  sourceAssertionIds : List String
  facts : List (String × Option String)
  deriving DecidableEq

structure ObservationFields where
  observationId : String
  observationDigest : String
  freezeId : String
  assessmentDigest : String
  assessmentState : String
  recordedAtUtc : String
  scopes : List ScopeSnapshot
  changes : List MembershipObservationChange
  deriving DecidableEq

def ObservationCode.value : ObservationCode → String
  | addedInWindow => "ADDED_IN_WINDOW"
  | movedIn => "MOVED_IN"
  | movedOut => "MOVED_OUT"
  | rescheduled => "RESCHEDULED"
  | postponed => "POSTPONED"
  | cancelled => "CANCELLED"
  | kickoffCorrected => "KICKOFF_CORRECTED"
  | identityResolved => "IDENTITY_RESOLVED"
  | sourceConflict => "SOURCE_CONFLICT"
  | revisionObserved => "REVISION_OBSERVED"

/-- The order of the changes of an observation. -/
def changeKey (order : List String) (change : MembershipObservationChange) :
    ℕ ×ₗ String ×ₗ String ×ₗ List String ×ₗ List String :=
  toLex (order.idxOf change.scopeId, toLex (change.fixtureId, toLex (change.changeCode.value,
    toLex (change.candidateIds, change.revisionIds))))

section Observations

variable [TextDigest] [PyRuntime] [Calendar] [Localtime]

/-- The scopes of the six leagues, in their season. -/
def sixScopes (first : ScopeSnapshot) : Except Failure (List FixtureScope) :=
  if first.season = activeSeason then membershipScopes first.season first.matchweekFriday "3"
  else .ok []

/-- The scopes an observation may have: of all leagues, or of the six. -/
def checkObservationScopes (first : ScopeSnapshot) (scopes : List ScopeSnapshot) :
    Except Failure Unit := do
  let actual := scopes.map ScopeSnapshot.scopeId
  let legacy ← membershipScopes first.season first.matchweekFriday "1"
  let six ← sixScopes first
  check (actual = legacy.map FixtureScope.scopeId || actual = six.map FixtureScope.scopeId)
    "F06 observation scopes must use an exact supported scope order."
  if actual = six.map FixtureScope.scopeId then checkScopeSnapshots scopes six

/-- `MatchweekMembershipObservation.__post_init__`. -/
def ObservationFields.check (observation : ObservationFields) : Except Failure Unit := do
  checkDigest observation.observationId "F06 observation ID"
  checkDigest observation.observationDigest "F06 observation digest"
  checkDigest observation.freezeId "F06 freeze ID"
  checkDigest observation.assessmentDigest "F01 assessment digest"
  checkCanonicalUtc observation.recordedAtUtc "F06 recorded_at_utc"
  Freeze.check (observation.assessmentState ≠ "")
    "F06 observation requires the later F01 aggregate state."
  match observation.scopes with
  | [] => invalid "F06 observation requires exact F01 scopes."
  | first :: _ => do
      checkObservationScopes first observation.scopes
      let order := observation.scopes.map ScopeSnapshot.scopeId
      let _ ← scopePlaces order (observation.changes.map MembershipObservationChange.scopeId)
      Freeze.check (sortedOn (changeKey order) observation.changes = observation.changes)
        "F06 observation changes must use deterministic order."

structure MatchweekMembershipObservation extends ObservationFields where
  accepted : toObservationFields.check = .ok ()

/-- `MatchweekMembershipObservation(...)`. -/
def MatchweekMembershipObservation.make (fields : ObservationFields) :
    Except Failure MatchweekMembershipObservation :=
  match accepted : fields.check with
  | .ok () => .ok ⟨fields, accepted⟩
  | .error failure => .error failure

end Observations

end MatchVet.F06.Freeze
