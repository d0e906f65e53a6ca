import MatchVet.F01.Decode
import MatchVet.F01.SlateAgreement

/-!
# Exact codecs

Every record is read back from its sorted object, so a stored assessment is read back from
its canonical text, and a decoder returns nothing whose canonical text is another one.
-/

namespace MatchVet.F01.Codec

open MatchVet.F01.CoverageStates
open MatchVet.F01.Decode
open MatchVet.F01.Payload
open MatchVet.F01.Records
open MatchVet.F01.Slate
open MatchVet.F01.SlateAgreement
open MatchVet.F01.Weekly
open MatchVet.Foundation.CanonicalJson
open MatchVet.Foundation.Gregorian
open MatchVet.Foundation.JsonDocument
open MatchVet.Foundation.JsonEquality
open MatchVet.Foundation.JsonTree
open MatchVet.Foundation.Runtime
open MatchVet.Foundation.Timestamp

/-! ## Values -/

@[simp]
theorem payloadString_str (label text : String) :
    payloadString label (sortKeys (.str text)) = .ok text := rfl

@[simp]
theorem payloadInt_int (label : String) (value : ℤ) :
    payloadInt label (sortKeys (.int value)) = .ok value := rfl

@[simp]
theorem payloadBool_bool (label : String) (value : Bool) :
    payloadBool label (sortKeys (.bool value)) = .ok value := rfl

@[simp]
theorem payloadOptionalString_text (label : String) (value : Option String) :
    payloadOptionalString label (sortKeys (optionalText value)) = .ok value := by
  cases value <;> rfl

@[simp]
theorem payloadOptionalInt_int (label : String) (value : Option ℤ) :
    payloadOptionalInt label (sortKeys (value.elim .null .int)) = .ok value := by
  cases value <;> rfl

/-- An array of records is read back. -/
theorem payloadList_map {α : Type} {write : α → Document}
    {decode : Document → Except PayloadFailure α}
    (hdecode : ∀ value, decode (sortKeys (write value)) = .ok value) (label : String)
    (values : List α) :
    payloadList decode label (sortKeys (.array (values.map write))) = .ok values := by
  have hidentity : ∀ value, decode (sortKeys (write value)) = .ok (id value) := hdecode
  rw [sortKeys, payloadList, sortItems_map, mapM_map hidentity, List.map_id]

@[simp]
theorem payloadStringTuple_texts (label : String) (values : List String) :
    payloadStringTuple label (sortKeys (texts values)) = .ok values :=
  payloadList_map (payloadString_str label) label values

/-! ## Objects -/

theorem sameKeys_iff {given expected : List String} :
    sameKeys given expected = true ↔ ∀ key, key ∈ given ↔ key ∈ expected := by
  simp only [sameKeys, Bool.and_eq_true, List.all_eq_true, List.contains_iff_mem]
  exact ⟨fun hboth key => ⟨hboth.1 key, hboth.2 key⟩,
    fun hsame => ⟨fun key => (hsame key).mp, fun key => (hsame key).mpr⟩⟩

/-- An object with the keys that a decoder expects. -/
structure Keyed (json : Document) (keys : List String) : Prop where
  isObject : json = .object json.members
  distinct : (json.members.map Prod.fst).Nodup
  same : sameKeys (json.members.map Prod.fst) keys = true

namespace Keyed

variable {json : Document} {keys : List String}

/-- An object that lists the expected keys in their order. -/
theorem of_names (isObject : json = .object json.members)
    (hnames : json.members.map Prod.fst = keys) (hdistinct : keys.Nodup) : Keyed json keys where
  isObject := isObject
  distinct := by rwa [hnames]
  same := sameKeys_iff.mpr fun key => by rw [hnames]

theorem object (hkeyed : Keyed json keys) (label : String) :
    payloadObject keys label (sortKeys json) = .ok (sortKeys json) := by
  have hperm : (((sortValues json.members).insertionSort KeyLE).map Prod.fst).Perm
      (json.members.map Prod.fst) := by
    rw [← sortValues_keys json.members]
    exact (List.perm_insertionSort KeyLE _).map Prod.fst
  have hsame : sameKeys (((sortValues json.members).insertionSort KeyLE).map Prod.fst) keys =
      true :=
    sameKeys_iff.mpr fun key => hperm.mem_iff.trans (sameKeys_iff.mp hkeyed.same key)
  rw [hkeyed.isObject, sortKeys, payloadObject, if_pos hsame]

theorem field_eq (hkeyed : Keyed json keys) {α : Type}
    (read : String → Document → Except PayloadFailure α) (key : String) :
    field read (sortKeys json) key =
      (json.get? key).elim raised fun value => read key (sortKeys value) := by
  have hget : (sortKeys json).get? key = (json.get? key).map sortKeys := by
    rw [hkeyed.isObject]
    exact get?_sortKeys key hkeyed.distinct
  unfold field
  rw [hget]
  cases json.get? key <;> rfl

end Keyed

/-! ## Constructors -/

theorem canonicalUtc_text {instant : Instant} (hrange : InRange instant) :
    canonicalUtc (gregorianText instant) = .ok ⟨instant, hrange⟩ := by
  have hzero : instant - 0 = instant := sub_zero instant
  rw [canonicalUtc, gregorianReading_gregorianText hrange]
  simp only [hzero]
  rw [dif_pos hrange]
  exact if_pos trivial

theorem sortedUnique_sorted {values : List String} (hvalues : SortedUnique values) :
    sortedUnique values = .ok ⟨values, hvalues⟩ := by
  have hdistinct : values.Nodup := hvalues.1.imp fun hlt => ne_of_lt hlt
  have hsorted : values.insertionSort (· ≤ ·) = values :=
    (hvalues.1.imp fun hlt => le_of_lt hlt).insertionSort_eq
  unfold sortedUnique
  rw [dif_pos ⟨hdistinct, hvalues.2⟩]
  simp only [hsorted]

theorem coverageBasis_fields (basis : CoverageBasis) :
    coverageBasis basis.kind basis.referenceId basis.version = .ok basis :=
  dif_pos ⟨basis.reference_text, basis.version_text, basis.versioned⟩

theorem coverageBounds_fields (bounds : CoverageBounds) :
    coverageBounds (gregorianText bounds.startUtc) (gregorianText bounds.endUtc) =
      .ok bounds := by
  rw [coverageBounds, canonicalUtc_text bounds.start_range, ok_bind,
    canonicalUtc_text bounds.end_range, ok_bind]
  exact dif_pos bounds.ordered

theorem providerAttempt_fields (attempt : ProviderAttempt) :
    providerAttempt attempt.attemptId attempt.scopeId attempt.providerId attempt.capabilityId
      attempt.state (gregorianText attempt.retrievedAtUtc) attempt.httpStatus attempt.captureId
      attempt.captureDigest = .ok attempt := by
  rw [providerAttempt, canonicalUtc_text attempt.retrieved_range, ok_bind]
  exact dif_pos ⟨attempt.named, attempt.status_range, attempt.capture_pair, attempt.captured,
    attempt.unavailable⟩

theorem coverageEvidence_fields (evidence : ProviderCoverageEvidence) :
    coverageEvidence evidence.evidenceId evidence.attemptId evidence.scopeId
      evidence.providerCompetitionKey evidence.providerSeason evidence.captureId
      evidence.captureDigest evidence.coverageBasis evidence.bounds evidence.providerUsePolicyId
      evidence.permittedForUse evidence.requiredPartitionIds evidence.accountedPartitionIds
      evidence.paginationExhausted evidence.affirmativelyEmpty = .ok evidence := by
  rw [coverageEvidence, sortedUnique_sorted evidence.required_unique, ok_bind,
    sortedUnique_sorted evidence.accounted_unique, ok_bind]
  exact dif_pos ⟨evidence.named, evidence.policy_text, evidence.permitted_policy,
    evidence.accounted_subset⟩

theorem fixtureRevision_fields (revision : FixtureRevisionReference) :
    fixtureRevision revision.scopeId revision.fixtureId revision.revisionId
      revision.revisionDigest revision.sourceCaptureIds revision.sourceAssertionIds =
      .ok revision := by
  rw [fixtureRevision, sortedUnique_sorted revision.captures_unique, ok_bind,
    sortedUnique_sorted revision.assertions_unique, ok_bind]
  exact dif_pos ⟨revision.named, revision.provenance⟩

theorem identityResolution_fields (identity : FixtureIdentityResolution) :
    identityResolution identity.candidateId identity.scopeId identity.state
      identity.canonicalFixtureId identity.revisionIds identity.reasonCode
      identity.sourceCaptureIds identity.sourceAssertionIds = .ok identity := by
  rw [identityResolution, sortedUnique_sorted identity.revisions_unique, ok_bind,
    sortedUnique_sorted identity.captures_unique, ok_bind,
    sortedUnique_sorted identity.assertions_unique, ok_bind]
  exact dif_pos ⟨identity.named, identity.resolved, identity.unresolved⟩

theorem freshnessResult_fields (result : CoverageFreshnessResult) :
    freshnessResult result.evidenceId result.policyId (gregorianText result.evaluatedAtUtc)
      result.isCurrent = .ok result := by
  rw [freshnessResult, canonicalUtc_text result.evaluated_range, ok_bind]
  exact dif_pos result.named

theorem fixtureScope_fields (scope : FixtureScope) :
    fixtureScope scope.leagueKey scope.season (dateText scope.matchweekFriday) = .ok scope := by
  rw [fixtureScope, readDate_dateText scope.date_range]
  exact dif_pos ⟨scope.league_known, scope.season_text, scope.date_range, scope.friday, rfl⟩

/-! ## States -/

theorem member_attemptState (state : ProviderAttemptState) :
    member attemptState [.captured, .unavailable, .malformed] (attemptState state) =
      .ok state := by
  cases state <;> rfl

theorem member_basisKind (kind : CoverageBasisKind) :
    member basisKind [.versionedSourceContract, .explicitProviderMetadata] (basisKind kind) =
      .ok kind := by
  cases kind <;> rfl

theorem member_identityState (state : FixtureIdentityState) :
    member identityState [.resolved, .unresolvedFixtureIdentity] (identityState state) =
      .ok state := by
  cases state <;> rfl

theorem member_scopeState (state : ScopeCoverageState) :
    member scopeState scopeStates (scopeState state) = .ok state := by
  cases state <;> rfl

theorem member_matchweekState (state : MatchweekScheduleState) :
    member matchweekState scheduleStates (matchweekState state) = .ok state := by
  cases state <;> rfl

/-! ## Keys -/

theorem keyed_basis (basis : CoverageBasis) : Keyed (basisJson basis) basisKeys :=
  .of_names rfl rfl (by simp [basisKeys])

theorem keyed_bounds (bounds : CoverageBounds) : Keyed (boundsJson bounds) boundsKeys :=
  .of_names rfl rfl (by simp [boundsKeys])

theorem keyed_attempt (attempt : ProviderAttempt) : Keyed (attemptJson attempt) attemptKeys :=
  .of_names rfl rfl (by simp [attemptKeys])

theorem keyed_evidence (evidence : ProviderCoverageEvidence) :
    Keyed (evidenceJson evidence) evidenceKeys :=
  .of_names rfl rfl (by simp [evidenceKeys])

theorem keyed_revision (revision : FixtureRevisionReference) :
    Keyed (revisionJson revision) revisionKeys :=
  .of_names rfl rfl (by simp [revisionKeys])

theorem keyed_identity (identity : FixtureIdentityResolution) :
    Keyed (identityJson identity) identityKeys :=
  .of_names rfl rfl (by simp [identityKeys])

theorem keyed_freshness (result : CoverageFreshnessResult) :
    Keyed (freshnessJson result) freshnessKeys :=
  .of_names rfl rfl (by simp [freshnessKeys])

theorem keyed_scope (scope : FixtureScope) : Keyed (scopeJson scope) scopeKeys :=
  .of_names rfl rfl (by simp [scopeKeys])

theorem keyed_scopeAssessment (item : FixtureScopeAssessment) :
    Keyed (scopeAssessmentJson item) scopeAssessmentKeys :=
  .of_names rfl rfl (by simp [scopeAssessmentKeys])

/-! ## Records -/

attribute [local simp] Document.get? Document.members List.lookup ok_bind

theorem coverageBasisFromJson_json (basis : Option CoverageBasis) :
    coverageBasisFromJson (sortKeys (basis.elim .null basisJson)) = .ok basis := by
  cases basis with
  | none => rfl
  | some basis =>
      have hkeyed := keyed_basis basis
      rw [Option.elim_some, coverageBasisFromJson, hkeyed.object, ok_bind]
      · simp only [hkeyed.field_eq]
        simp [basisJson, member_basisKind, coverageBasis_fields]
      · rw [hkeyed.isObject, sortKeys]
        exact nofun

theorem coverageBoundsFromJson_json (bounds : Option CoverageBounds) :
    coverageBoundsFromJson (sortKeys (bounds.elim .null boundsJson)) = .ok bounds := by
  cases bounds with
  | none => rfl
  | some bounds =>
      have hkeyed := keyed_bounds bounds
      rw [Option.elim_some, coverageBoundsFromJson, hkeyed.object, ok_bind]
      · simp only [hkeyed.field_eq]
        simp [boundsJson, coverageBounds_fields]
      · rw [hkeyed.isObject, sortKeys]
        exact nofun

theorem providerAttemptFromJson_json (attempt : ProviderAttempt) :
    providerAttemptFromJson (sortKeys (attemptJson attempt)) = .ok attempt := by
  have hkeyed := keyed_attempt attempt
  rw [providerAttemptFromJson, hkeyed.object, ok_bind]
  simp only [hkeyed.field_eq]
  simp [attemptJson, member_attemptState, providerAttempt_fields]

theorem coverageEvidenceFromJson_json (evidence : ProviderCoverageEvidence) :
    coverageEvidenceFromJson (sortKeys (evidenceJson evidence)) = .ok evidence := by
  have hkeyed := keyed_evidence evidence
  rw [coverageEvidenceFromJson, hkeyed.object, ok_bind]
  simp only [hkeyed.field_eq]
  simp [evidenceJson, coverageBasisFromJson_json, coverageBoundsFromJson_json,
    coverageEvidence_fields]

theorem revisionReferenceFromJson_json (revision : FixtureRevisionReference) :
    revisionReferenceFromJson (sortKeys (revisionJson revision)) = .ok revision := by
  have hkeyed := keyed_revision revision
  rw [revisionReferenceFromJson, hkeyed.object, ok_bind]
  simp only [hkeyed.field_eq]
  simp [revisionJson, fixtureRevision_fields]

theorem identityResolutionFromJson_json (identity : FixtureIdentityResolution) :
    identityResolutionFromJson (sortKeys (identityJson identity)) = .ok identity := by
  have hkeyed := keyed_identity identity
  rw [identityResolutionFromJson, hkeyed.object, ok_bind]
  simp only [hkeyed.field_eq]
  simp [identityJson, member_identityState, identityResolution_fields]

theorem freshnessResultFromJson_json (result : CoverageFreshnessResult) :
    freshnessResultFromJson (sortKeys (freshnessJson result)) = .ok result := by
  have hkeyed := keyed_freshness result
  rw [freshnessResultFromJson, hkeyed.object, ok_bind]
  simp only [hkeyed.field_eq]
  simp [freshnessJson, freshnessResult_fields]

theorem scopeFromJson_json (scope : FixtureScope) :
    scopeFromJson (sortKeys (scopeJson scope)) = .ok scope := by
  have hkeyed := keyed_scope scope
  rw [scopeFromJson, hkeyed.object, ok_bind]
  simp only [hkeyed.field_eq]
  simp [scopeJson, fixtureScope_fields]

theorem revisions_read (label : String) (revisions : List FixtureRevisionReference) :
    payloadList revisionReferenceFromJson label (sortKeys (.array (revisions.map revisionJson))) =
      .ok revisions :=
  payloadList_map revisionReferenceFromJson_json label revisions

theorem freshnessResults_read (label : String) (results : List CoverageFreshnessResult) :
    payloadList freshnessResultFromJson label (sortKeys (.array (results.map freshnessJson))) =
      .ok results :=
  payloadList_map freshnessResultFromJson_json label results

/-- The fields of a weekly scope assessment after its scope. -/
def scopeFields (item : FixtureScopeAssessment) : ScopeFields where
  coverageState := item.coverageState
  providerAttemptIds := item.providerAttemptIds
  coverageEvidenceIds := item.coverageEvidenceIds
  fixtureRevisions := item.fixtureRevisions
  identityBlockerCandidateIds := item.identityBlockerCandidateIds
  freshnessResults := item.freshnessResults
  currentCoverageEvidenceIds := item.currentCoverageEvidenceIds
  staleCoverageEvidenceIds := item.staleCoverageEvidenceIds

theorem scopeAssessmentFromJson_json (item : FixtureScopeAssessment) :
    scopeAssessmentFromJson (sortKeys (scopeAssessmentJson item)) = .ok item := by
  have hkeyed := keyed_scopeAssessment item
  have hscope : field (fun _ => scopeFromJson) (sortKeys (scopeAssessmentJson item)) "scope" =
      .ok item.scope := by
    rw [hkeyed.field_eq]
    exact scopeFromJson_json item.scope
  have hfields : scopeFieldsFromJson (sortKeys (scopeAssessmentJson item)) =
      .ok (scopeFields item) := by
    rw [scopeFieldsFromJson]
    simp only [hkeyed.field_eq]
    simp [scopeAssessmentJson, member_scopeState, revisions_read, freshnessResults_read,
      scopeFields]
  rw [scopeAssessmentFromJson, hkeyed.object, ok_bind, hscope, ok_bind, hfields]
  rfl

/-- The retained records are read back from an object that has their fields. -/
theorem recordsFromJson_fields {json : Document} {keys : List String} {records : Retained}
    (hkeyed : Keyed json keys)
    (hfields : ∀ member ∈ recordFields records, json.get? member.1 = some member.2) :
    recordsFromJson (sortKeys json) = .ok records := by
  have hattempts := payloadList_map providerAttemptFromJson_json "provider_attempts"
    records.providerAttempts
  have hevidence := payloadList_map coverageEvidenceFromJson_json "coverage_evidence"
    records.coverageEvidence
  have hidentities := payloadList_map identityResolutionFromJson_json "identity_resolutions"
    records.identityResolutions
  simp only [recordFields, List.forall_mem_cons] at hfields
  obtain ⟨hgetAttempts, hgetEvidence, hgetRevisions, hgetIdentities, hgetFreshness, -⟩ := hfields
  rw [recordsFromJson]
  simp only [hkeyed.field_eq, hgetAttempts, hgetEvidence, hgetRevisions, hgetIdentities,
    hgetFreshness]
  simp [hattempts, hevidence, hidentities, revisions_read, freshnessResults_read]

/-! ## Distinct keys -/

theorem Keyed.distinct_json {json : Document} {keys : List String} (hkeyed : Keyed json keys)
    (hvalues : ∀ member ∈ json.members, Distinct member.2) : Distinct json := by
  rw [hkeyed.isObject, distinct_object]
  exact ⟨hkeyed.distinct, hvalues⟩

/-- A record, or null. -/
theorem distinct_elim {α : Type} {write : α → Document} (hwrite : ∀ value, Distinct (write value))
    (value : Option α) : Distinct (value.elim .null write) := by
  cases value with
  | none => trivial
  | some value => exact hwrite value

theorem distinct_basis (basis : CoverageBasis) : Distinct (basisJson basis) :=
  (keyed_basis basis).distinct_json (by simp [basisJson])

theorem distinct_bounds (bounds : CoverageBounds) : Distinct (boundsJson bounds) :=
  (keyed_bounds bounds).distinct_json (by simp [boundsJson])

theorem distinct_attempt (attempt : ProviderAttempt) : Distinct (attemptJson attempt) :=
  (keyed_attempt attempt).distinct_json (by simp [attemptJson, distinct_elim distinct_int])

theorem distinct_bool (value : Bool) : Distinct (.bool value) := trivial

theorem distinct_evidence (evidence : ProviderCoverageEvidence) :
    Distinct (evidenceJson evidence) :=
  (keyed_evidence evidence).distinct_json (by
    simp [evidenceJson, distinct_elim distinct_basis, distinct_elim distinct_bounds,
      distinct_bool])

theorem distinct_revision (revision : FixtureRevisionReference) :
    Distinct (revisionJson revision) :=
  (keyed_revision revision).distinct_json (by simp [revisionJson])

theorem distinct_identity (identity : FixtureIdentityResolution) :
    Distinct (identityJson identity) :=
  (keyed_identity identity).distinct_json (by simp [identityJson])

theorem distinct_freshness (result : CoverageFreshnessResult) : Distinct (freshnessJson result) :=
  (keyed_freshness result).distinct_json (by simp [freshnessJson, distinct_bool])

theorem distinct_scope (scope : FixtureScope) : Distinct (scopeJson scope) :=
  (keyed_scope scope).distinct_json (by simp [scopeJson])

theorem distinct_scopeAssessment (item : FixtureScopeAssessment) :
    Distinct (scopeAssessmentJson item) :=
  (keyed_scopeAssessment item).distinct_json (by
    simp [scopeAssessmentJson, distinct_scope, distinct_array distinct_revision,
      distinct_array distinct_freshness])

theorem distinct_records (records : Retained) :
    ∀ member ∈ recordFields records, Distinct member.2 := by
  simp [recordFields, distinct_array distinct_attempt, distinct_array distinct_evidence,
    distinct_array distinct_revision, distinct_array distinct_identity,
    distinct_array distinct_freshness]

/-! ## Texts -/

theorem requirePayload_ok_iff {condition : Prop} [Decidable condition] {message : String}
    {done : Unit} : requirePayload condition message = .ok done ↔ condition := by
  unfold requirePayload
  split
  next hcondition => exact ⟨fun _ => hcondition, fun _ => rfl⟩
  next hcondition => exact ⟨nofun, fun htrue => absurd htrue hcondition⟩

/-- The canonical text of an object with distinct keys is read back. -/
theorem canonicalObject_canonicalJson {json : Document} {keys : List String}
    (hkeyed : Keyed json keys) (hdistinct : Distinct json) (rootMessage textMessage : String) :
    canonicalObject rootMessage textMessage (canonicalJson json) = .ok (sortKeys json) := by
  have hsame := canonicalJson_sortKeys json
  have hobject : sortKeys json = .object ((sortValues json.members).insertionSort KeyLE) := by
    rw [hkeyed.isObject, sortKeys]
    rfl
  rw [canonicalObject, loads_canonicalJson hdistinct, hobject]
  rw [hobject] at hsame
  exact if_pos hsame

/-! ## The weekly codec -/

section Weekly

variable [Hashing]

theorem keyed_weekly (assessment : WeeklyAssessment) :
    Keyed (weeklyJson assessment) weeklyKeys :=
  .of_names rfl rfl (by simp [weeklyKeys])

theorem distinct_weekly (assessment : WeeklyAssessment) : Distinct (weeklyJson assessment) := by
  refine (keyed_weekly assessment).distinct_json ?_
  intro member hmember
  change member ∈ weeklyFields assessment ++ [("digest", .str assessment.digest)] at hmember
  simp only [weeklyFields, List.mem_append] at hmember
  rcases hmember with ((hmember | hmember) | hmember) | hmember
  · revert member
    simp [distinct_array distinct_scopeAssessment]
  · exact distinct_records _ member hmember
  · revert member
    simp
  · revert member
    simp

/-- A weekly assessment that its constructor returns. -/
def Constructed (assessment : WeeklyAssessment) : Prop :=
  WeeklyAssessment.construct assessment "" = .ok assessment

/-- The versions that the codec writes and reads. -/
def Supported (assessment : WeeklyAssessment) : Prop :=
  assessment.contractVersion = contractVersion ∧ assessment.schemaVersion = schemaVersion

theorem construct_digest {assessment : WeeklyAssessment} (hmade : Constructed assessment) :
    WeeklyAssessment.construct assessment assessment.digest = .ok assessment := by
  unfold Constructed WeeklyAssessment.construct at hmade
  unfold WeeklyAssessment.construct
  obtain ⟨policy, hpolicy, hmade⟩ := bind_eq_ok.mp hmade
  obtain ⟨_, hsame, -⟩ := bind_eq_ok.mp hmade
  exact bind_eq_ok.mpr ⟨policy, hpolicy, bind_eq_ok.mpr ⟨(), hsame,
    bind_eq_ok.mpr ⟨(), if_pos (Or.inr rfl), rfl⟩⟩⟩

theorem weeklyFromJson_json {assessment : WeeklyAssessment} (hmade : Constructed assessment)
    (hsupported : Supported assessment) :
    weeklyFromJson (sortKeys (weeklyJson assessment)) = .ok assessment := by
  have hkeyed := keyed_weekly assessment
  have hrecords : recordsFromJson (sortKeys (weeklyJson assessment)) = .ok assessment.records := by
    refine recordsFromJson_fields hkeyed ?_
    simp [recordFields, weeklyJson, weeklyFields]
  have hscopes := payloadList_map scopeAssessmentFromJson_json "scope_assessments"
    assessment.scopeAssessments
  have hversions : requireSupportedVersions assessment.contractVersion assessment.schemaVersion =
      .ok () := if_pos hsupported
  rw [weeklyFromJson, hkeyed.object, ok_bind, hrecords]
  simp only [hkeyed.field_eq]
  simp [weeklyJson, weeklyFields, recordFields, hversions, hscopes, member_matchweekState,
    construct_digest hmade, constructed, Except.mapError]

theorem weeklyToCanonicalJson_ok_iff {assessment : WeeklyAssessment} {encoded : String} :
    weeklyToCanonicalJson assessment = .ok encoded ↔
      Supported assessment ∧ canonicalJson (weeklyJson assessment) = encoded := by
  unfold weeklyToCanonicalJson requireSupportedVersions
  rw [bind_eq_ok]
  simp only [requirePayload_ok_iff, Except.ok.injEq]
  exact ⟨fun ⟨_, hsupported, hencoded⟩ => ⟨hsupported, hencoded⟩,
    fun ⟨hsupported, hencoded⟩ => ⟨(), hsupported, hencoded⟩⟩

/-- What a supported assessment is written as reads back as that assessment. -/
theorem weeklyFromCanonicalJson_json {assessment : WeeklyAssessment}
    (hmade : Constructed assessment) (hsupported : Supported assessment) :
    weeklyFromCanonicalJson (canonicalJson (weeklyJson assessment)) = .ok assessment := by
  have hraw := canonicalObject_canonicalJson (keyed_weekly assessment) (distinct_weekly assessment)
  have hagain := weeklyToCanonicalJson_ok_iff.mpr ⟨hsupported, rfl⟩
  rw [weeklyFromCanonicalJson, hraw, ok_bind, weeklyFromJson_json hmade hsupported, ok_bind,
    hagain, ok_bind, requirePayload, if_pos rfl]
  rfl

/-- What is read as an assessment is what that assessment is written as. -/
theorem weeklyToCanonicalJson_of_read {encoded : String} {assessment : WeeklyAssessment}
    (hread : weeklyFromCanonicalJson encoded = .ok assessment) :
    weeklyToCanonicalJson assessment = .ok encoded := by
  rw [weeklyFromCanonicalJson, mapError_eq_ok] at hread
  obtain ⟨raw, -, hread⟩ := bind_eq_ok.mp hread
  obtain ⟨found, -, hread⟩ := bind_eq_ok.mp hread
  obtain ⟨again, hagain, hread⟩ := bind_eq_ok.mp hread
  obtain ⟨_, hsame, hread⟩ := bind_eq_ok.mp hread
  cases hread
  rw [hagain, requirePayload_ok_iff.mp hsame]

/-- `decode_f01` reads a supported weekly assessment by its own decoder. -/
theorem decodeF01_json {α : Type} {attested active : String → Except PayloadFailure α}
    {assessment : WeeklyAssessment} (hmade : Constructed assessment)
    (hsupported : Supported assessment) :
    decodeF01 attested active (canonicalJson (weeklyJson assessment)) = .ok (.inl assessment) := by
  have hkeyed := keyed_weekly assessment
  have hraw := canonicalObject_canonicalJson hkeyed (distinct_weekly assessment)
  have hget : ∀ key, (sortKeys (weeklyJson assessment)).get? key =
      ((weeklyJson assessment).get? key).map sortKeys :=
    fun key => get?_sortKeys key hkeyed.distinct
  have hcontract : (weeklyJson assessment).get? "contract_version" =
      some (.str assessment.contractVersion) := by simp [weeklyJson, weeklyFields]
  have hschema : (weeklyJson assessment).get? "schema_version" =
      some (.int assessment.schemaVersion) := by simp [weeklyJson, weeklyFields]
  have hversions : assessment.contractVersion = contractVersion ∧
      assessment.schemaVersion = schemaVersion := hsupported
  have hread := weeklyFromCanonicalJson_json hmade hsupported
  rw [decodeF01, hraw, ok_bind, hget, hget, hcontract, hschema]
  simp only [Option.map_some, sortKeys]
  rw [if_pos hversions, hread]
  rfl

theorem encodeF01_ok_iff {assessment : WeeklyAssessment} {encoded : String} :
    encodeF01 assessment = .ok encoded ↔ weeklyToCanonicalJson assessment = .ok encoded := by
  unfold encodeF01
  rw [bind_eq_ok]
  simp only [requirePayload_ok_iff]
  constructor
  · rintro ⟨_, -, hencoded⟩
    exact hencoded
  · intro hencoded
    exact ⟨(), (weeklyToCanonicalJson_ok_iff.mp hencoded).1, hencoded⟩

/-- A weekly assessment comes out of its own decoder only. -/
theorem weekly_of_decodeF01 {α : Type} {attested active : String → Except PayloadFailure α}
    {encoded : String} {assessment : WeeklyAssessment}
    (hread : decodeF01 attested active encoded = .ok (.inl assessment)) :
    weeklyFromCanonicalJson encoded = .ok assessment := by
  rw [decodeF01, mapError_eq_ok] at hread
  obtain ⟨raw, -, hread⟩ := bind_eq_ok.mp hread
  have hmap : ∀ {β : Type} {call : Except PayloadFailure β}
      {give : β → WeeklyAssessment ⊕ α} {result : WeeklyAssessment ⊕ α},
      call.map give = .ok result → ∃ value, call = .ok value ∧ give value = result := by
    intro β call give result hcall
    cases call with
    | error failure => cases hcall
    | ok value => exact ⟨value, rfl, Except.ok.inj hcall⟩
  split at hread
  · split at hread
    · obtain ⟨value, hvalue, hsame⟩ := hmap hread
      cases hsame
      exact hvalue
    · split at hread
      · obtain ⟨value, -, hsame⟩ := hmap hread
        cases hsame
      · split at hread
        · obtain ⟨value, -, hsame⟩ := hmap hread
          cases hsame
        · cases hread
  · cases hread

end Weekly

/-! ## Slate windows -/

/-- A canonical timestamp ends in its offset, not in a letter. -/
theorem zulu_not_mem_gregorianText (instant : Instant) :
    'Z' ∉ (gregorianText instant).toList := by
  have hpadded : ∀ width value, 'Z' ∉ padded width value :=
    fun width value hmem => absurd (padded_digits width value 'Z' hmem) (by decide)
  simp [gregorianText, isoChars, writeTriple, hpadded]

theorem replaceZulu_gregorianText (instant : Instant) :
    replaceZulu (gregorianText instant) = gregorianText instant := by
  have hchars : ∀ chars : List Char, 'Z' ∉ chars → (chars.flatMap fun char =>
      if char = 'Z' then "+00:00".toList else [char]) = chars := by
    intro chars hzulu
    induction chars with
    | nil => rfl
    | cons char rest ih =>
        have hhead : char ≠ 'Z' := fun heq => hzulu (heq ▸ List.mem_cons_self)
        rw [List.flatMap_cons, if_neg hhead, ih fun hmem => hzulu (List.mem_cons_of_mem _ hmem)]
        rfl
  rw [replaceZulu, hchars _ (zulu_not_mem_gregorianText instant), String.ofList_toList]

theorem windowUtc_text {instant : Instant} (hrange : InRange instant) :
    windowUtc (gregorianText instant) = .ok ⟨instant, hrange⟩ := by
  have hzero : instant - 0 = instant := sub_zero instant
  rw [windowUtc, replaceZulu_gregorianText, gregorianReading_gregorianText hrange]
  simp only [hzero]
  exact dif_pos hrange

section Slate

variable [Hashing]

theorem activeScopeContract_fields (scope : ActiveScope) :
    activeScopeContract scope.contractId scope.version scope.season scope.leagueKeys
      scope.digest = .ok scope := by
  have hfields : (scope.contractId = scope.contractId ∧ scope.season = scope.season ∧
      scope.leagueKeys = scope.leagueKeys) ∧ (scope.digest = "" ∨ scope.digest = scope.digest) :=
    ⟨⟨rfl, rfl, rfl⟩, Or.inr rfl⟩
  have hfound : [ActiveScope.legacySeven, .successorSix, .successorFive].find? (fun other =>
      (other.version : ℤ) = scope.version) = some scope := by
    cases scope <;> rfl
  rw [activeScopeContract, hfound]
  exact if_pos hfields

theorem keyed_activeScope (scope : ActiveScope) : Keyed (activeScopeJson scope) activeScopeKeys :=
  .of_names rfl rfl (by simp [activeScopeKeys])

theorem activeScopeFromJson_json (label : String) (scope : ActiveScope) :
    activeScopeFromJson label (sortKeys (activeScopeJson scope)) = .ok scope := by
  have hkeyed := keyed_activeScope scope
  rw [activeScopeFromJson, hkeyed.object, ok_bind]
  simp only [hkeyed.field_eq]
  simp [activeScopeJson, activeScopeContract_fields]

theorem keyed_window (window : SlateWindow) : Keyed (windowJson window) windowKeys :=
  .of_names rfl rfl (by simp [windowKeys])

/-- A window whose version is an integer of its own. -/
theorem slateWindow_fields {window : SlateWindow} (hplain : window.version.plain = true) :
    slateWindow (gregorianText window.startUtc) (gregorianText window.endUtc) window.activeScope
      slateWindowContractId 1 window.digest = .ok window := by
  obtain ⟨startUtc, endUtc, activeScope, version, hstart, hend, hproper, hinstalled,
    hsupported⟩ := window
  cases version with
  | bool value => cases hplain
  | int value =>
      cases hsupported
      rw [slateWindow, windowUtc_text hstart, ok_bind, windowUtc_text hend, ok_bind]
      rw [dif_pos ⟨hinstalled, rfl, rfl, hproper⟩]
      exact if_pos (Or.inr rfl)

theorem windowFromJson_json {window : SlateWindow} (hplain : window.version.plain = true) :
    windowFromJson (sortKeys (windowJson window)) = .ok window := by
  have hkeyed := keyed_window window
  have hversion : document window.version.tree = .int 1 := by
    have hsupported := window.supported
    cases hvalue : window.version with
    | bool value =>
        rw [hvalue] at hplain
        cases hplain
    | int value =>
        rw [hvalue] at hsupported
        cases hsupported
        rfl
  rw [windowFromJson, hkeyed.object, ok_bind]
  simp only [hkeyed.field_eq]
  simp [windowJson, hversion, activeScopeFromJson_json, slateWindow_fields hplain]

/-- A read window has an integer version. -/
theorem plain_of_windowFromJson {value : Document} {window : SlateWindow}
    (hread : windowFromJson value = .ok window) : window.version.plain = true := by
  unfold windowFromJson at hread
  simp only [bind_eq_ok] at hread
  obtain ⟨_, -, _, -, _, -, _, -, _, -, _, -, _, -, hwindow⟩ := hread
  unfold slateWindow at hwindow
  simp only [bind_eq_ok] at hwindow
  obtain ⟨_, -, _, -, hwindow⟩ := hwindow
  split at hwindow
  · split at hwindow
    · cases hwindow
      rfl
    · cases hwindow
  · cases hwindow

/-! ## Slate assessments -/

theorem keyed_slateScope (scope : SlateFixtureScope) :
    Keyed (slateScopeJson scope) slateScopeKeys :=
  .of_names rfl rfl (by simp [slateScopeKeys])

theorem keyed_slateItem (item : SlateFixtureScopeAssessment) :
    Keyed (slateItemJson item) scopeAssessmentKeys :=
  .of_names rfl rfl (by simp [scopeAssessmentKeys])

omit [Hashing] in
theorem slateFixtureScope_fields (scope : SlateFixtureScope) :
    slateFixtureScope scope.leagueKey scope.season scope.activeScope scope.slateWindow =
      .ok scope :=
  dif_pos ⟨scope.league_known, scope.season_matches, scope.installed⟩

omit [Hashing] in
theorem sameValue_sortKeys (value : Document) (label : String) :
    sameValue value label (sortKeys value) = .ok true := by
  rw [sameValue, same_refl]

theorem slateScopeFromJson_json (scope : SlateFixtureScope) :
    slateScopeFromJson scope.slateWindow scope.activeScope (sortKeys (slateScopeJson scope)) =
      .ok scope := by
  have hkeyed := keyed_slateScope scope
  rw [slateScopeFromJson, hkeyed.object, ok_bind]
  simp only [hkeyed.field_eq]
  simp only [slateScopeJson, Document.get?, Document.members, List.lookup, String.reduceBEq,
    Option.elim_some, sameValue_sortKeys, ok_bind, payloadString_str, slateFixtureScope_fields]
  rw [requirePayload, if_pos ⟨trivial, trivial⟩, ok_bind]

/-- The fields of a slate scope assessment after its scope. -/
def slateScopeFields (item : SlateFixtureScopeAssessment) : ScopeFields where
  coverageState := item.coverageState
  providerAttemptIds := item.providerAttemptIds
  coverageEvidenceIds := item.coverageEvidenceIds
  fixtureRevisions := item.fixtureRevisions
  identityBlockerCandidateIds := item.identityBlockerCandidateIds
  freshnessResults := item.freshnessResults
  currentCoverageEvidenceIds := item.currentCoverageEvidenceIds
  staleCoverageEvidenceIds := item.staleCoverageEvidenceIds

theorem decodeScopeAssessment_json (item : SlateFixtureScopeAssessment) :
    decodeScopeAssessment item.scope.slateWindow item.scope.activeScope
      (sortKeys (slateItemJson item)) = .ok item := by
  have hkeyed := keyed_slateItem item
  have hscope : field (fun _ => slateScopeFromJson item.scope.slateWindow item.scope.activeScope)
      (sortKeys (slateItemJson item)) "scope" = .ok item.scope := by
    rw [hkeyed.field_eq]
    exact slateScopeFromJson_json item.scope
  have hfields : scopeFieldsFromJson (sortKeys (slateItemJson item)) =
      .ok (slateScopeFields item) := by
    rw [scopeFieldsFromJson]
    simp only [hkeyed.field_eq]
    simp [slateItemJson, member_scopeState, revisions_read, freshnessResults_read,
      slateScopeFields]
  rw [decodeScopeAssessment, hkeyed.object, ok_bind, hscope, ok_bind, hfields]
  rfl

/-- Scope assessments that bind one window and active scope are read back with them. -/
theorem scopeAssessments_read {window : SlateWindow} {activeScope : ActiveScope}
    {items : List SlateFixtureScopeAssessment} (label : String)
    (hbound : ∀ item ∈ items, item.scope.slateWindow = window ∧
      item.scope.activeScope = activeScope) :
    payloadList (decodeScopeAssessment window activeScope) label
      (sortKeys (.array (items.map slateItemJson))) = .ok items := by
  rw [sortKeys, payloadList, sortItems_map]
  induction items with
  | nil => rfl
  | cons item rest ih =>
      obtain ⟨⟨rfl, rfl⟩, hrest⟩ := List.forall_mem_cons.mp hbound
      rw [List.map_cons, List.mapM_cons, decodeScopeAssessment_json, ih hrest]
      rfl

/-- A slate assessment that its constructor returns. -/
def SlateConstructed (assessment : SlateFixtureCoverageAssessment) : Prop :=
  construct assessment = .ok assessment

/-- What the constructor fixes: the active scope, the versions and the scopes. -/
theorem slateConstructed_facts {assessment : SlateFixtureCoverageAssessment}
    (hmade : SlateConstructed assessment) :
    assessment.activeScope = .successorFive ∧
      ∀ item ∈ assessment.scopeAssessments, item.scope.slateWindow = assessment.slateWindow ∧
        item.scope.activeScope = assessment.activeScope := by
  unfold SlateConstructed construct at hmade
  simp only [bind_eq_ok, require_ok_iff] at hmade
  obtain ⟨_, hactive, _, -, _, -, _, -, scopes, hscopes, _, hsame, -⟩ := hmade
  refine ⟨hactive, fun item hitem => ⟨?_, ?_⟩⟩
  · refine (mem_slateFixtureScopes hscopes).2 item.scope ?_
    rw [← hsame]
    exact List.mem_map_of_mem hitem
  · rw [hactive]
    exact item.scope.installed

/-- The constructor returns what it was given. -/
theorem construct_eq {given made : SlateFixtureCoverageAssessment}
    (hmade : construct given = .ok made) : made = given := by
  unfold construct at hmade
  simp only [bind_eq_ok] at hmade
  obtain ⟨_, -, _, -, _, -, _, -, _, -, _, -, _, -, _, -, _, -, heq⟩ := hmade
  cases heq
  rfl

theorem slateConstruct_digest {assessment : SlateFixtureCoverageAssessment}
    (hmade : SlateConstructed assessment) :
    slateConstruct assessment (slateDigest assessment) = .ok assessment :=
  bind_eq_ok.mpr ⟨assessment, hmade, bind_eq_ok.mpr ⟨(), require_ok_iff.mpr (Or.inr rfl), rfl⟩⟩

theorem slateNames (assessment : SlateFixtureCoverageAssessment) :
    (slateJson assessment).members.map Prod.fst =
      ["active_scope", "slate_window", "freshness_policy_id", "scope_assessments",
        "provider_attempts", "coverage_evidence", "fixture_revisions", "identity_resolutions",
        "freshness_results", "schedule_state", "contract_version", "schema_version", "digest"] :=
  rfl

theorem keyed_slate (assessment : SlateFixtureCoverageAssessment) :
    Keyed (slateJson assessment) slateKeys where
  isObject := rfl
  distinct := by
    rw [slateNames]
    simp
  same := by
    rw [slateNames]
    simp [slateKeys, sameKeys]

theorem slateFromJson_json {assessment : SlateFixtureCoverageAssessment}
    (hmade : SlateConstructed assessment) (hplain : assessment.slateWindow.version.plain = true) :
    slateFromJson (sortKeys (slateJson assessment)) = .ok assessment := by
  have hkeyed := keyed_slate assessment
  have hrecords : recordsFromJson (sortKeys (slateJson assessment)) = .ok assessment.records := by
    refine recordsFromJson_fields hkeyed ?_
    simp [recordFields, slateJson, slateFields]
  have hscopes := scopeAssessments_read "scope_assessments" (slateConstructed_facts hmade).2
  rw [slateFromJson, hkeyed.object, ok_bind, hrecords]
  simp only [hkeyed.field_eq]
  simp [slateJson, slateFields, recordFields, activeScopeFromJson_json,
    windowFromJson_json hplain, hscopes, member_matchweekState, slateConstruct_digest hmade,
    constructed, Except.mapError]

theorem distinct_activeScope (scope : ActiveScope) : Distinct (activeScopeJson scope) :=
  (keyed_activeScope scope).distinct_json (by simp [activeScopeJson])

theorem distinct_window (window : SlateWindow) : Distinct (windowJson window) := by
  have hversion : Distinct (document window.version.tree) := by
    cases window.version <;> trivial
  exact (keyed_window window).distinct_json (by
    simp [windowJson, distinct_activeScope, hversion])

theorem distinct_slateScope (scope : SlateFixtureScope) : Distinct (slateScopeJson scope) :=
  (keyed_slateScope scope).distinct_json (by
    simp [slateScopeJson, distinct_activeScope, distinct_window])

theorem distinct_slateItem (item : SlateFixtureScopeAssessment) :
    Distinct (slateItemJson item) :=
  (keyed_slateItem item).distinct_json (by
    simp [slateItemJson, distinct_slateScope, distinct_array distinct_revision,
      distinct_array distinct_freshness])

theorem distinct_slate (assessment : SlateFixtureCoverageAssessment) :
    Distinct (slateJson assessment) := by
  refine (keyed_slate assessment).distinct_json ?_
  intro member hmember
  change member ∈ slateFields assessment ++ [("digest", .str (slateDigest assessment))] at hmember
  simp only [slateFields, List.mem_append] at hmember
  rcases hmember with ((hmember | hmember) | hmember) | hmember
  · revert member
    simp [distinct_activeScope, distinct_window, distinct_array distinct_slateItem]
  · exact distinct_records _ member hmember
  · revert member
    simp
  · revert member
    simp

/-- What a slate assessment is written as reads back as that assessment, when its window's
version is an integer of its own. -/
theorem decodeSlateF01_json {assessment : SlateFixtureCoverageAssessment}
    (hmade : SlateConstructed assessment) (hplain : assessment.slateWindow.version.plain = true) :
    decodeSlateF01 (encodeSlateF01 assessment) = .ok assessment := by
  have hraw := canonicalObject_canonicalJson (keyed_slate assessment) (distinct_slate assessment)
  rw [decodeSlateF01, encodeSlateF01, hraw, ok_bind, slateFromJson_json hmade hplain, ok_bind,
    requirePayload, if_pos (by rw [encodeSlateF01])]
  rfl

/-- What is read as a slate assessment is what that assessment is written as. -/
theorem encodeSlateF01_of_read {encoded : String} {assessment : SlateFixtureCoverageAssessment}
    (hread : decodeSlateF01 encoded = .ok assessment) : encodeSlateF01 assessment = encoded := by
  rw [decodeSlateF01, mapError_eq_ok] at hread
  obtain ⟨raw, -, hread⟩ := bind_eq_ok.mp hread
  obtain ⟨found, -, hread⟩ := bind_eq_ok.mp hread
  obtain ⟨_, hsame, hread⟩ := bind_eq_ok.mp hread
  cases hread
  exact requirePayload_ok_iff.mp hsame

/-- A window whose version is a boolean is written with it, and refused for it. -/
theorem windowFromJson_flagged {window : SlateWindow} (hflag : window.version.plain = false) :
    windowFromJson (sortKeys (windowJson window)) =
      .error (.payload "version must be an integer.") := by
  have hkeyed := keyed_window window
  have hversion : ∃ value, document window.version.tree = .bool value := by
    cases hvalue : window.version with
    | bool value => exact ⟨value, rfl⟩
    | int value =>
        rw [hvalue] at hflag
        cases hflag
  obtain ⟨value, hversion⟩ := hversion
  rw [windowFromJson, hkeyed.object, ok_bind]
  simp only [hkeyed.field_eq]
  simp [windowJson, hversion, activeScopeFromJson_json]
  rfl

/-- A read slate assessment has a window with an integer version. -/
theorem plain_of_decodeSlateF01 {encoded : String} {assessment : SlateFixtureCoverageAssessment}
    (hread : decodeSlateF01 encoded = .ok assessment) :
    assessment.slateWindow.version.plain = true := by
  rw [decodeSlateF01, mapError_eq_ok] at hread
  obtain ⟨raw, -, hread⟩ := bind_eq_ok.mp hread
  obtain ⟨found, hfound, hread⟩ := bind_eq_ok.mp hread
  obtain ⟨_, -, hread⟩ := bind_eq_ok.mp hread
  cases hread
  unfold slateFromJson at hfound
  simp only [bind_eq_ok] at hfound
  obtain ⟨root, -, _, -, window, hwindow, _, -, _, -, _, -, _, -, _, -, _, -, _, -, _, -,
    hmade⟩ := hfound
  have hfield : window.version.plain = true := by
    unfold field at hwindow
    split at hwindow
    · exact plain_of_windowFromJson hwindow
    · cases hwindow
  rw [constructed, mapError_eq_ok, slateConstruct] at hmade
  obtain ⟨made, hmade, hrest⟩ := bind_eq_ok.mp hmade
  obtain ⟨_, -, hrest⟩ := bind_eq_ok.mp hrest
  cases hrest
  rw [construct_eq hmade]
  exact hfield

/-- The decoder refuses what is written for a window whose version is a boolean. -/
theorem decodeSlateF01_flagged {assessment : SlateFixtureCoverageAssessment}
    (hflag : assessment.slateWindow.version.plain = false) :
    decodeSlateF01 (encodeSlateF01 assessment) =
      .error (.payload "version must be an integer.") := by
  have hkeyed := keyed_slate assessment
  have hraw := canonicalObject_canonicalJson hkeyed (distinct_slate assessment)
  have hread : slateFromJson (sortKeys (slateJson assessment)) =
      .error (.payload "version must be an integer.") := by
    rw [slateFromJson, hkeyed.object, ok_bind]
    simp only [hkeyed.field_eq]
    simp [slateJson, slateFields, activeScopeFromJson_json, windowFromJson_flagged hflag]
    rfl
  rw [decodeSlateF01, encodeSlateF01, hraw, ok_bind, hread]
  rfl

end Slate

/-! ## Exactness -/

section Exactness

variable [Hashing]

/-- The codecs are exact: what a supported assessment is written as is read back as it, and
what a decoder accepts is written again as the same text.  A slate assessment is read back
exactly when the version of its window is an integer of its own and not a boolean. -/
theorem codecs_exact :
    ((∀ assessment, Constructed assessment → Supported assessment →
        ∃ encoded, weeklyToCanonicalJson assessment = .ok encoded ∧
          weeklyFromCanonicalJson encoded = .ok assessment) ∧
      ∀ encoded assessment, weeklyFromCanonicalJson encoded = .ok assessment →
        weeklyToCanonicalJson assessment = .ok encoded) ∧
    (∀ {α : Type} (attested active : String → Except PayloadFailure α),
      (∀ assessment, Constructed assessment → Supported assessment →
        ∃ encoded, encodeF01 assessment = .ok encoded ∧
          decodeF01 attested active encoded = .ok (.inl assessment)) ∧
      ∀ encoded assessment, decodeF01 attested active encoded = .ok (.inl assessment) →
        encodeF01 assessment = .ok encoded) ∧
    (∀ assessment, SlateConstructed assessment →
      (decodeSlateF01 (encodeSlateF01 assessment) = .ok assessment ↔
        assessment.slateWindow.version.plain = true)) ∧
    ∀ encoded assessment, decodeSlateF01 encoded = .ok assessment →
      encodeSlateF01 assessment = encoded := by
  refine ⟨⟨?_, ?_⟩, ?_, ?_, ?_⟩
  · intro assessment hmade hsupported
    exact ⟨_, weeklyToCanonicalJson_ok_iff.mpr ⟨hsupported, rfl⟩,
      weeklyFromCanonicalJson_json hmade hsupported⟩
  · intro encoded assessment hread
    exact weeklyToCanonicalJson_of_read hread
  · intro α attested active
    refine ⟨?_, ?_⟩
    · intro assessment hmade hsupported
      exact ⟨_, encodeF01_ok_iff.mpr (weeklyToCanonicalJson_ok_iff.mpr ⟨hsupported, rfl⟩),
        decodeF01_json hmade hsupported⟩
    · intro encoded assessment hread
      exact encodeF01_ok_iff.mpr (weeklyToCanonicalJson_of_read (weekly_of_decodeF01 hread))
  · intro assessment hmade
    constructor
    · intro hread
      exact plain_of_decodeSlateF01 hread
    · intro hplain
      exact decodeSlateF01_json hmade hplain
  · intro encoded assessment hread
    exact encodeSlateF01_of_read hread

/-- The weekly assessor returns constructed assessments of the supported version. -/
theorem assessWeekly_constructed {scopes : List FixtureScope} {records : Retained}
    {assessment : WeeklyAssessment} (haccepted : assessWeekly scopes records = .ok assessment) :
    Constructed assessment ∧ Supported assessment := by
  unfold assessWeekly at haccepted
  simp only [bind_eq_ok] at haccepted
  obtain ⟨found, hfound, first, -, hconstruct⟩ := haccepted
  unfold assessFixtureCoverage at hfound
  simp only [bind_eq_ok] at hfound
  obtain ⟨_, -, _, -, _, -, _, -, heq⟩ := hfound
  cases heq
  have hmade := hconstruct
  unfold WeeklyAssessment.construct at hmade
  simp only [bind_eq_ok] at hmade
  obtain ⟨_, -, _, -, _, -, heq⟩ := hmade
  cases heq
  exact ⟨hconstruct, rfl, rfl⟩

/-- The slate assessor returns constructed assessments of its window. -/
theorem assessSlate_constructed {window : SlateWindow} {activeScope : ActiveScope}
    {records : Retained} {assessment : SlateFixtureCoverageAssessment}
    (haccepted : assessSlateFixtureCoverage records window activeScope = .ok assessment) :
    SlateConstructed assessment ∧ assessment.slateWindow = window := by
  unfold assessSlateFixtureCoverage assessWithExistingRules at haccepted
  simp only [bind_eq_ok] at haccepted
  obtain ⟨_, -, _, -, _, -, _, -, hconstruct⟩ := haccepted
  have hsame := construct_eq hconstruct
  subst hsame
  exact ⟨hconstruct, rfl⟩

end Exactness

namespace StoredLeague

local instance : Hashing := shapeHashing

/-- The window of the owner with `True` for its version. -/
def flagged : SlateWindow := { PremierLeague.window with
  version := .bool true
  supported := rfl }

/-- No records at all. -/
def nothing : Retained := ⟨[], [], [], [], []⟩

/-- The assessors accept their records, and the window with either version. -/
theorem accepted :
    (assessWeekly [EmptyLeague.premierLeague] EmptyLeague.records).toOption.isSome = true ∧
      (assessSlateFixtureCoverage PremierLeague.records PremierLeague.window
        .successorFive).toOption.isSome = true ∧
      (assessSlateFixtureCoverage nothing flagged .successorFive).toOption.isSome = true := by
  decide +kernel

/-- A weekly and a slate assessment, stored and read back. -/
theorem stored_read :
    (∃ weekly encoded,
      assessWeekly [EmptyLeague.premierLeague] EmptyLeague.records = .ok weekly ∧
      weeklyToCanonicalJson weekly = .ok encoded ∧ weeklyFromCanonicalJson encoded = .ok weekly) ∧
    ∃ slate, assessSlateFixtureCoverage PremierLeague.records PremierLeague.window
        .successorFive = .ok slate ∧
      decodeSlateF01 (encodeSlateF01 slate) = .ok slate := by
  constructor
  · obtain ⟨weekly, hassess⟩ := exists_ok_of_isSome accepted.1
    obtain ⟨hmade, hsupported⟩ := assessWeekly_constructed hassess
    obtain ⟨encoded, hwritten, hread⟩ := codecs_exact.1.1 weekly hmade hsupported
    exact ⟨weekly, encoded, hassess, hwritten, hread⟩
  · obtain ⟨slate, hassess⟩ := exists_ok_of_isSome accepted.2.1
    obtain ⟨hmade, hwindow⟩ := assessSlate_constructed hassess
    refine ⟨slate, hassess, (codecs_exact.2.2.1 slate hmade).mpr ?_⟩
    rw [hwindow]
    rfl

/-- A constructed slate assessment that its own decoder refuses. -/
theorem flagged_refused :
    ∃ assessment, assessSlateFixtureCoverage nothing flagged .successorFive = .ok assessment ∧
      SlateConstructed assessment ∧ decodeSlateF01 (encodeSlateF01 assessment) =
        .error (.payload "version must be an integer.") := by
  obtain ⟨assessment, hassess⟩ := exists_ok_of_isSome accepted.2.2
  obtain ⟨hmade, hwindow⟩ := assessSlate_constructed hassess
  refine ⟨assessment, hassess, hmade, decodeSlateF01_flagged ?_⟩
  rw [hwindow]
  rfl

end StoredLeague

end MatchVet.F01.Codec
