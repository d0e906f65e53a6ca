import MatchVet.T10.Grader

/-!
# Reading records back

What the constructor of Settlement Evidence accepts can be read back from its own
payload, unless an optional reference is blank or padded.
-/

namespace MatchVet.T10.ReadBack

open MatchVet.Foundation.CanonicalJson
open MatchVet.Foundation.Runtime
open MatchVet.T10.Catalog
open MatchVet.T10.Evidence
open MatchVet.T10.Evidence.SettlementEvidence
open MatchVet.T10.Grade
open MatchVet.T10.Grader
open MatchVet.T10.Grading

theorem counts_not_negative (counts : Counts (Option ℕ)) :
    (counts.map fun count => count.map Int.ofNat).labelled.find? negative = none := by
  have hcount : ∀ (label : String) (count : Option ℕ),
      negative (label, count.map Int.ofNat) = false := by
    intro label count
    cases count <;> simp [negative]
  simp [Counts.labelled, Counts.map, hcount]

theorem counts_toNat (counts : Counts (Option ℕ)) :
    ((counts.map fun count => count.map Int.ofNat).map fun count => count.map Int.toNat) =
      counts := by
  have hcount : ∀ count : Option ℕ, (count.map Int.ofNat).map Int.toNat = count := by
    intro count
    cases count <;> rfl
  cases counts
  simp [Counts.map, hcount]

variable [PyRuntime]

theorem source_value (level : SettlementSource) : source (.str level.value) = .ok level := by
  have htext : text (.str level.value) "T10 value" = .ok level.value :=
    text_of_trimmed (by cases level <;> decide +kernel) _
  have htoken : token level.value = asciiUpper (String.ofList ([' '].intercalate
      (((replaceChar '-' ' ' (replaceChar '_' ' ' level.value)).toList.splitOnP isSpace).filter
        (· ≠ [])))) := PyRuntime.upper_ascii _ (by cases level <;> decide +kernel)
  rw [source, htext]
  simp only [htoken]
  cases level <;> rfl

/-- A moment in the form in which timestamps are kept. -/
def CanonicalMoment (moment : Option String) : Prop :=
  ∀ content ∈ moment, Trimmed content ∧ PyRuntime.utcText content = some (some content)

theorem CanonicalMoment.optionalText {moment : Option String} (hmoment : CanonicalMoment moment) :
    OptionalText moment :=
  fun content hcontent => (hmoment content hcontent).1

theorem optionalUtc_eq {moment : Option String} (hmoment : CanonicalMoment moment) :
    optionalUtc moment = .ok moment := by
  cases moment with
  | none => rfl
  | some content =>
      rw [optionalUtc, canonicalUtc, (hmoment content rfl).2]
      rfl

theorem canonicalMoment_of_optionalUtc {value moment : Option String}
    (hread : optionalUtc value = .ok moment) : CanonicalMoment moment := by
  intro content hcontent
  cases hcontent
  cases value with
  | none => cases hread
  | some original =>
      rw [optionalUtc, canonicalUtc] at hread
      split at hread
      · cases hread
      · cases hread
      next found hfound =>
        cases hread
        exact ⟨PyRuntime.utcText_trimmed _ _ hfound, PyRuntime.utcText_idem _ _ hfound⟩

/-! ## Evidence -/

/-- What the constructor leaves behind in a record. -/
structure Canonical (evidence : SettlementEvidence) : Prop where
  sourceKey : Trimmed evidence.sourceKey
  recordId : Trimmed evidence.recordId
  recordSetId : Trimmed evidence.recordSetId
  fixtureStatus : Trimmed evidence.fixtureStatus
  upperStatus : upper evidence.fixtureStatus = evidence.fixtureStatus
  assertionIds : TextSet evidence.sourceAssertionIds
  publishedAt : CanonicalMoment evidence.publishedAtUtc
  observedAt : CanonicalMoment evidence.observedAtUtc
  retrievedAt : CanonicalMoment evidence.retrievedAtUtc

variable [Hashing]

theorem canonical_of_create {arguments : SettlementEvidence.Arguments}
    {evidence : SettlementEvidence} (hcreate : create arguments = .ok evidence) :
    Canonical evidence := by
  unfold create at hcreate
  split at hcreate
  · cases hcreate
  next fixtureId hfixture =>
    simp only [bind_eq_ok] at hcreate
    obtain ⟨sourceKey, hkey, recordId, hrecord, level, -, status, hstatus, hrest⟩ := hcreate
    split at hrest
    · cases hrest
    · simp only [bind_eq_ok] at hrest
      obtain ⟨recordSetId, hset, assertionIds, hassertions, published, hpublished, observed,
        hobserved, retrieved, hretrieved, provenance, -, hdone⟩ := hrest
      have hkeyText := trimmed_of_text hkey
      have hrecordText : Trimmed recordId := by
        unfold recordIdOf at hrecord
        split at hrecord
        · exact trimmed_of_text hrecord
        · cases hrecord
          exact (trimmed_of_text hfixture).append hkeyText ":"
      have hsetText : Trimmed recordSetId := by
        unfold recordSetIdOf at hset
        split at hset
        · split at hset
          · cases hset
            exact hrecordText
          · exact trimmed_of_text hset
        · cases hset
          exact hrecordText
      split at hdone
      · cases hdone
      · cases hdone
        exact {
          sourceKey := hkeyText
          recordId := hrecordText
          recordSetId := hsetText
          fixtureStatus := PyRuntime.upper_trimmed _ (trimmed_of_text hstatus)
          upperStatus := PyRuntime.upper_upper status
          assertionIds := textSet_of_strings hassertions
          publishedAt := canonicalMoment_of_optionalUtc hpublished
          observedAt := canonicalMoment_of_optionalUtc hobserved
          retrievedAt := canonicalMoment_of_optionalUtc hretrieved }

/-- The constructor arguments that a record's own payload gives. -/
def argumentsOf (evidence : SettlementEvidence) : SettlementEvidence.Arguments where
  fixtureId := .str evidence.fixtureId
  sourceLevel := .str evidence.sourceLevel.value
  sourceKey := .str evidence.sourceKey
  recordId := .str evidence.recordId
  recordSetId := some evidence.recordSetId
  sourceDigest := evidence.sourceDigest
  fixtureStatus := .str evidence.fixtureStatus
  regulationCompleted := some evidence.regulationCompleted
  resumable := evidence.resumable
  administrativeAward := evidence.administrativeAward
  counts := evidence.counts.map fun count => count.map Int.ofNat
  sourceAssertionIds := textsJson evidence.sourceAssertionIds
  publishedAtUtc := evidence.publishedAtUtc
  observedAtUtc := evidence.observedAtUtc
  retrievedAtUtc := evidence.retrievedAtUtc
  predecessorId := evidence.predecessorId
  provenance := .object evidence.provenance
  evidenceDigest := evidence.evidenceDigest

/-- The constructor gives a record back from its own fields. -/
theorem create_argumentsOf {evidence : SettlementEvidence} (hevidence : Canonical evidence) :
    create (argumentsOf evidence) = .ok evidence := by
  have hrecord : recordIdOf (.str evidence.recordId) evidence.fixtureId evidence.sourceKey =
      .ok evidence.recordId := by
    have htruthy : (Json.str evidence.recordId).truthy = true :=
      decide_eq_true hevidence.recordId.2
    rw [recordIdOf, if_pos htruthy]
    exact text_of_trimmed hevidence.recordId _
  have hset : recordSetIdOf (some evidence.recordSetId) evidence.recordId =
      .ok evidence.recordSetId := by
    rw [recordSetIdOf, if_neg hevidence.recordSetId.2]
    exact text_of_trimmed hevidence.recordSetId _
  unfold create argumentsOf
  dsimp only
  split
  next error hfixture =>
    rw [evidence.fixture_text] at hfixture
    cases hfixture
  next fixtureId hfixture =>
    rw [evidence.fixture_text, Except.ok.injEq] at hfixture
    subst hfixture
    simp only [text_of_trimmed hevidence.sourceKey, hrecord, source_value,
      text_of_trimmed hevidence.fixtureStatus, counts_not_negative, hset,
      strings_eq hevidence.assertionIds, optionalUtc_eq hevidence.publishedAt,
      optionalUtc_eq hevidence.observedAt, optionalUtc_eq hevidence.retrievedAt,
      provenanceMembers, hevidence.upperStatus, counts_toNat, Option.getD_some, bind,
      Except.bind]
    exact if_neg fun hdiffers => hdiffers.2 rfl

/-- A record is read back from its payload when its optional references are texts. -/
theorem fromMapping_toDict {evidence : SettlementEvidence} (hevidence : Canonical evidence)
    (hdigest : OptionalText evidence.sourceDigest)
    (hpredecessor : OptionalText evidence.predecessorId) :
    fromMapping evidence.toDict = .ok evidence := by
  have hset : OptionalText (some evidence.recordSetId) := by
    intro content hcontent
    cases hcontent
    exact hevidence.recordSetId
  simp only [fromMapping, bind_eq_ok]
  refine ⟨evidence.fixtureId, evidence.fixture_text, some evidence.recordSetId,
    optionalText_eq hset _, evidence.sourceDigest, optionalText_eq hdigest _,
    some evidence.regulationCompleted, rfl, evidence.resumable, rfl,
    evidence.administrativeAward, rfl, _, integer_count rfl _, _, integer_count rfl _, _,
    integer_count rfl _, _, integer_count rfl _, _, integer_count rfl _, _, integer_count rfl _,
    _, integer_count rfl _, _, integer_count rfl _, _, integer_count rfl _, _,
    integer_count rfl _, evidence.sourceAssertionIds, strings_eq hevidence.assertionIds,
    evidence.publishedAtUtc, optionalText_eq hevidence.publishedAt.optionalText _,
    evidence.observedAtUtc, optionalText_eq hevidence.observedAt.optionalText _,
    evidence.retrievedAtUtc, optionalText_eq hevidence.retrievedAt.optionalText _,
    evidence.predecessorId, optionalText_eq hpredecessor _, evidence, ?_, ?_⟩
  · have hshown : display (getOr evidence.toDict "evidence_digest" (.str "")).toValue =
        evidence.evidenceDigest := PyRuntime.display_str _
    rw [hshown]
    exact create_argumentsOf hevidence
  · exact if_pos (PyRuntime.display_str evidence.evidenceId)

theorem create_references {arguments : SettlementEvidence.Arguments}
    {evidence : SettlementEvidence} (hcreate : create arguments = .ok evidence) :
    evidence.sourceDigest = arguments.sourceDigest ∧
      evidence.predecessorId = arguments.predecessorId := by
  unfold create at hcreate
  split at hcreate
  · cases hcreate
  · simp only [bind_eq_ok] at hcreate
    obtain ⟨_, -, _, -, _, -, _, -, hrest⟩ := hcreate
    split at hrest
    · cases hrest
    · simp only [bind_eq_ok] at hrest
      obtain ⟨_, -, _, -, _, -, _, -, _, -, _, -, hdone⟩ := hrest
      split at hdone
      · cases hdone
      · cases hdone
        exact ⟨rfl, rfl⟩

/-- What is read has no blank or padded reference. -/
theorem optionalText_of_fromMapping {tree : Json} {evidence : SettlementEvidence}
    (hread : fromMapping tree = .ok evidence) :
    OptionalText evidence.sourceDigest ∧ OptionalText evidence.predecessorId := by
  simp only [fromMapping, bind_eq_ok] at hread
  obtain ⟨_, -, _, -, sourceDigest, hdigest, _, -, _, -, _, -, _, -, _, -, _, -, _, -, _, -, _, -,
    _, -, _, -, _, -, _, -, _, -, _, -, _, -, _, -, predecessorId, hpredecessor, found, hcreate,
    hfound⟩ := hread
  have heq : found = evidence := by
    split at hfound
    · exact Except.ok.inj hfound
    · split at hfound
      · exact Except.ok.inj hfound
      · cases hfound
  obtain ⟨hkeptDigest, hkeptPredecessor⟩ := create_references hcreate
  rw [← heq, hkeptDigest, hkeptPredecessor]
  exact ⟨optionalText_of_ok hdigest, optionalText_of_ok hpredecessor⟩

/-- A record is read back exactly when its optional references are texts. -/
theorem fromMapping_toDict_iff {evidence : SettlementEvidence} (hevidence : Canonical evidence) :
    fromMapping evidence.toDict = .ok evidence ↔
      OptionalText evidence.sourceDigest ∧ OptionalText evidence.predecessorId :=
  ⟨optionalText_of_fromMapping, fun ⟨hdigest, hpredecessor⟩ =>
    fromMapping_toDict hevidence hdigest hpredecessor⟩

end MatchVet.T10.ReadBack
