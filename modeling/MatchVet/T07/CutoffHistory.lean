import MatchVet.T07.Conflicts
import MatchVet.T07.Preference

/-!
# Evidence valid at a cutoff

Every successful ingestion leaves one assessment of each of its assertions under its
cutoff, and no other call writes a valid one.  So what is read under a cutoff depends
only on what was ingested under it and available by then, after any calls.
-/

namespace MatchVet.T07.CutoffHistory

open MatchVet.Foundation.CanonicalJson
open MatchVet.Foundation.Identifier
open MatchVet.Foundation.KeySort
open MatchVet.Foundation.Runtime
open MatchVet.Foundation.Timestamp
open MatchVet.Foundation.Transition
open MatchVet.T07.Conflicts
open MatchVet.T07.Evidence
open MatchVet.T07.Preference
open MatchVet.T07.Recorder

/-! ## The valid assertions -/

/-- The assertions of a successful ingestion, each with its cutoff. -/
def ingestedBy : Request → Answer → List (String × Option Instant)
  | .ingest request, .ingested result =>
      result.assertions.map fun inserted => (inserted.record.content.assertionId, request.cutoffUtc)
  | _, _ => []

/-- What a history of calls ingested. -/
def ingestions [Hashing] [PyRuntime] (store : EvidenceStore) (requests : List Request) :
    List (String × Option Instant) :=
  collected call ingestedBy store requests

/-- The capture of an assertion. -/
def captureOf (store : EvidenceStore) (row : AssertionRow) : Option CaptureRow :=
  row.content.captureId.bind fun captureId =>
    store.captures.find? fun capture => capture.captureId = captureId

/-- Published by the cutoff, or without a publication time and retrieved by then. -/
def availableBy (cutoff : Instant) (capture : CaptureRow) : Bool :=
  match capture.publishedAtUtc with
  | some published => published ≤ cutoff
  | none => capture.retrievedAtUtc ≤ cutoff

def captureTime (capture : CaptureRow) : Instant :=
  capture.publishedAtUtc.getD capture.retrievedAtUtc

def sourceTime (store : EvidenceStore) (row : AssertionRow) : Instant :=
  ((captureOf store row).map captureTime).getD 0

/-- The known assertions of a topic that were ingested under the cutoff and whose
capture was available by then. -/
def validAssertions (store : EvidenceStore) (log : List (String × Option Instant))
    (topic : Topic) (cutoff : Instant) : List AssertionRow :=
  store.assertions.filter fun row => row.topic = topic && row.known &&
    ((row.assertionId, some cutoff) ∈ log && (captureOf store row).any (availableBy cutoff))

/-- Authority first, then the newest source time, then the identifier. -/
def hierarchy (store : EvidenceStore) (row : AssertionRow) : ℕ ×ₗ ℤ ×ₗ String :=
  toLex (row.content.authorityRank, toLex (-sourceTime store row, row.assertionId))

section Specification

variable [Hashing] [PyRuntime]

/-- The valid assertions after some calls. -/
def validAfter (store : EvidenceStore) (requests : List Request) (topic : Topic)
    (cutoff : Instant) : List AssertionRow :=
  validAssertions (run step store requests) (ingestions store requests) topic cutoff

/-- What is read under a cutoff after some calls is decided by the valid assertions. -/
structure RespectsCutoff [JsonValues] (store : EvidenceStore) (requests : List Request)
    (topic : Topic) (cutoff : Instant) : Prop where
  /-- The least valid assertion is preferred. -/
  preferred : ∀ best ∈ validAfter store requests topic cutoff,
    (∀ other ∈ validAfter store requests topic cutoff,
      hierarchy (run step store requests) best ≤ hierarchy (run step store requests) other) →
    (preferredAssertion (run step store requests) topic (some cutoff)).map
      EvidenceAssertionRecord.content = some best.content
  /-- Without valid assertions nothing known is preferred. -/
  silent : validAfter store requests topic cutoff = [] →
    ∀ record ∈ preferredAssertion (run step store requests) topic (some cutoff),
      record.content.asserted.state = .unknown
  /-- A value is corroborated by the distinct origins of its valid observations. -/
  corroborated : ∀ value,
    (corroboration (run step store requests) topic value (some cutoff)).originIds.Nodup ∧
    ∀ originId,
      originId ∈ (corroboration (run step store requests) topic value (some cutoff)).originIds ↔
        ∃ row ∈ validAfter store requests topic cutoff, row.state = .observed ∧
          recordValue row.content = some value ∧ row.content.originId = some originId
  /-- Calls that leave the valid assertions as they are change neither. -/
  stable : ∀ more, (∀ row, row ∈ validAfter store (requests ++ more) topic cutoff ↔
      row ∈ validAfter store requests topic cutoff) →
    (validAfter store requests topic cutoff ≠ [] →
      preferredAssertion (run step store (requests ++ more)) topic (some cutoff) =
        preferredAssertion (run step store requests) topic (some cutoff)) ∧
    ∀ value, corroboration (run step store (requests ++ more)) topic value (some cutoff) =
      corroboration (run step store requests) topic value (some cutoff)

end Specification

/-- No assertion of the best one's rank whose source time the float merges with the
best one's has a smaller identifier. -/
def TimesToldApart (store : EvidenceStore) (valid : List AssertionRow) : Prop :=
  ∀ best ∈ valid, (∀ other ∈ valid, hierarchy store best ≤ hierarchy store other) →
    ∀ other ∈ valid, other.content.authorityRank = best.content.authorityRank →
      timestampKey (sourceTime store other) = timestampKey (sourceTime store best) →
        best.assertionId ≤ other.assertionId

/-! ## The invariant -/

/-- What the provenance of an assertion says about a cutoff. -/
def provenanceEligibility (cutoff : Option Instant) : Provenance → CutoffEligibility × String
  | .capture _ _ _ _ _ _ publishedAtUtc retrievedAtUtc _ _ _ _ =>
      assessCutoffEligibility retrievedAtUtc publishedAtUtc cutoff
  | .unknownSearch _ _ => (.indeterminate, "NO_SOURCE_CAPTURE")

/-- The provenance repeats the times of a stored capture; without one nothing is known. -/
def Captured (captures : List CaptureRow) (content : AssertionContent) : Prop :=
  match content.provenance with
  | .capture _ _ _ _ _ _ publishedAtUtc retrievedAtUtc _ _ _ _ =>
      ∃ capture ∈ captures, content.captureId = some capture.captureId ∧
        capture.publishedAtUtc = publishedAtUtc ∧ capture.retrievedAtUtc = retrievedAtUtc
  | .unknownSearch _ _ => content.asserted.state = .unknown

/-- The assessment of an assertion under a cutoff. -/
structure Assesses (row : AssertionRow) (cutoff : Option Instant) (content : AssessmentContent) :
    Prop where
  assertionId : content.assertionId = row.assertionId
  cutoffUtc : content.cutoffUtc = cutoff
  eligibility : (content.eligibility, content.reason) =
    provenanceEligibility cutoff row.content.provenance

/-- The invariant of the assessments, given what was ingested so far. -/
structure Assessed (log : List (String × Option Instant)) (store : EvidenceStore) : Prop where
  ids : (store.assertions.map AssertionRow.assertionId).Nodup
  captureIds : (store.captures.map CaptureRow.captureId).Nodup
  captured : ∀ row ∈ store.assertions, Captured store.captures row.content
  complete : ∀ entry ∈ log, ∃ row ∈ store.assertions, row.assertionId = entry.1 ∧
    ∃ assessment ∈ store.assessments, Assesses row entry.2 assessment.content
  sound : ∀ assessment ∈ store.assessments, assessment.content.eligibility = .indeterminate ∨
    (assessment.content.assertionId, assessment.content.cutoffUtc) ∈ log
  unique : ∀ first ∈ store.assessments, ∀ second ∈ store.assessments,
    first.content.cutoffUtc.isSome → first.content.assertionId = second.content.assertionId →
      first.content.cutoffUtc = second.content.cutoffUtc → first = second

/-- Nothing is captured yet; anything else may be stored. -/
structure NoCaptures (store : EvidenceStore) : Prop where
  captures : store.captures = []
  assertions : store.assertions = []
  assessments : store.assessments = []

theorem NoCaptures.assessed {store : EvidenceStore} (hstore : NoCaptures store) :
    Assessed [] store := by
  refine ⟨?_, ?_, fun row hrow => ?_, nofun, fun row hrow => ?_, fun row hrow => ?_⟩
  · rw [hstore.assertions]
    exact List.nodup_nil
  · rw [hstore.captures]
    exact List.nodup_nil
  · rw [hstore.assertions] at hrow
    cases hrow
  · rw [hstore.assessments] at hrow
    cases hrow
  · rw [hstore.assessments] at hrow
    cases hrow

section Invariant

variable {log : List (String × Option Instant)} {store next : EvidenceStore}

theorem Captured.mono {captures more : List CaptureRow} {content : AssertionContent}
    (hsubset : captures ⊆ more) (hcaptured : Captured captures content) :
    Captured more content := by
  unfold Captured at hcaptured ⊢
  split
  next hprovenance =>
    rw [hprovenance] at hcaptured
    obtain ⟨capture, hcapture, htimes⟩ := hcaptured
    exact ⟨capture, hsubset hcapture, htimes⟩
  next hprovenance =>
    rw [hprovenance] at hcaptured
    exact hcaptured

theorem Assessed.congr (hstore : Assessed log store) (hassertions : next.assertions = store.assertions)
    (hcaptures : next.captures = store.captures)
    (hassessments : next.assessments = store.assessments) : Assessed log next := by
  refine ⟨?_, ?_, ?_, ?_, ?_, ?_⟩
  · rw [hassertions]
    exact hstore.ids
  · rw [hcaptures]
    exact hstore.captureIds
  · rw [hassertions, hcaptures]
    exact hstore.captured
  · rw [hassertions, hassessments]
    exact hstore.complete
  · rw [hassessments]
    exact hstore.sound
  · rw [hassessments]
    exact hstore.unique

theorem nodup_map_append {α β : Type} {key : α → β} {items : List α} {item : α}
    (hnodup : (items.map key).Nodup) (hfresh : key item ∉ items.map key) :
    ((items ++ [item]).map key).Nodup := by
  rw [List.map_append, List.map_singleton]
  exact hnodup.append (List.nodup_singleton _) (List.disjoint_singleton.mpr hfresh)

theorem Assessed.appendCapture {row : CaptureRow} (hstore : Assessed log store)
    (hfresh : row.captureId ∉ store.captures.map CaptureRow.captureId) :
    Assessed log { store with captures := store.captures ++ [row] } :=
  ⟨hstore.ids, nodup_map_append hstore.captureIds hfresh,
    fun assertion hassertion => (hstore.captured assertion hassertion).mono
      (List.subset_append_left _ _), hstore.complete, hstore.sound, hstore.unique⟩

theorem Assessed.appendAssertion {row : AssertionRow} (hstore : Assessed log store)
    (hfresh : row.assertionId ∉ store.assertions.map AssertionRow.assertionId)
    (hcaptured : Captured store.captures row.content) :
    Assessed log { store with assertions := store.assertions ++ [row] } := by
  refine ⟨nodup_map_append hstore.ids hfresh, hstore.captureIds, fun assertion hassertion => ?_,
    fun entry hentry => ?_, hstore.sound, hstore.unique⟩
  · rcases List.mem_append.mp hassertion with hold | hnew
    · exact hstore.captured assertion hold
    · rwa [List.mem_singleton.mp hnew]
  · obtain ⟨assertion, hassertion, hfound⟩ := hstore.complete entry hentry
    exact ⟨assertion, List.mem_append_left _ hassertion, hfound⟩

/-- An assessment is inserted with what it adds to the log. -/
theorem Assessed.insert [Hashing] (more : List (String × Option Instant))
    {content : AssessmentContent} {assessedAt : Instant} {row : AssessmentRow}
    (hstore : Assessed log store)
    (hinsert : insertCutoffAssessment store content assessedAt = .ok (next, row))
    (hsound : content.eligibility = .indeterminate ∨
      (content.assertionId, content.cutoffUtc) ∈ more)
    (hmore : ∀ entry ∈ more, ∃ assertion ∈ store.assertions, assertion.assertionId = entry.1 ∧
      Assesses assertion entry.2 content) :
    Assessed (log ++ more) next := by
  obtain ⟨rfl, identifiers, hcases⟩ := insertCutoffAssessment_writes hinsert
  have hadded : ∃ assessments, next =
      { store with identifiers := identifiers, assessments := assessments } ∧
      row ∈ assessments ∧ store.assessments ⊆ assessments ∧
      (∀ other ∈ assessments, other ∈ store.assessments ∨ other = row) ∧
      ∀ first ∈ assessments, ∀ second ∈ assessments,
        first.content.cutoffUtc.isSome → first.content.assertionId = second.content.assertionId →
          first.content.cutoffUtc = second.content.cutoffUtc → first = second := by
    rcases hcases with ⟨hrow, rfl⟩ | ⟨rfl, hfirst⟩
    · exact ⟨store.assessments, rfl, hrow, List.Subset.refl _, fun _ => Or.inl, hstore.unique⟩
    · refine ⟨_, rfl, List.mem_append_right _ (List.mem_singleton_self row),
        List.subset_append_left _ _, fun other hother => ?_, ?_⟩
      · exact (List.mem_append.mp hother).imp_right List.mem_singleton.mp
      · intro first hleft second hright hsome hid hcutoff
        rcases List.mem_append.mp hleft with hold | hnew
        · rcases List.mem_append.mp hright with hother | hlast
          · exact hstore.unique first hold second hother hsome hid hcutoff
          · cases List.mem_singleton.mp hlast
            exact absurd hcutoff (hfirst (hcutoff ▸ hsome) first hold hid)
        · cases List.mem_singleton.mp hnew
          rcases List.mem_append.mp hright with hother | hlast
          · exact absurd hcutoff.symm (hfirst hsome second hother hid.symm)
          · exact (List.mem_singleton.mp hlast).symm
  obtain ⟨assessments, rfl, hrow, hsubset, hall, hunique⟩ := hadded
  refine ⟨hstore.ids, hstore.captureIds, hstore.captured, fun entry hentry => ?_,
    fun other hother => ?_, hunique⟩
  · rcases List.mem_append.mp hentry with hold | hnew
    · obtain ⟨assertion, hassertion, hid, assessment, hassessment, hassesses⟩ :=
        hstore.complete entry hold
      exact ⟨assertion, hassertion, hid, assessment, hsubset hassessment, hassesses⟩
    · obtain ⟨assertion, hassertion, hid, hassesses⟩ := hmore entry hnew
      exact ⟨assertion, hassertion, hid, row, hrow, hassesses⟩
  · rcases hall other hother with hold | rfl
    · exact (hstore.sound other hold).imp_right (List.mem_append_left _)
    · exact hsound.imp_right (List.mem_append_right _)

end Invariant

/-! ## What one call keeps -/

section Calls

variable [Hashing] {log : List (String × Option Instant)} {store next : EvidenceStore}

/-- Inserting an assertion of a stored capture logs it under the cutoff. -/
theorem insertAssertionContent_assessed {context : Ingestion} {content : AssertionContent}
    {created : Instant} {inserted : InsertedAssertion}
    (hcaptured : Captured store.captures content)
    (heligible : provenanceEligibility context.cutoff content.provenance =
      assessCutoffEligibility context.record.retrievedAtUtc context.record.publishedAtUtc
        context.cutoff)
    (hinsert : insertAssertionContent context store content created = .ok (next, inserted))
    (hstore : Assessed log store) :
    Assessed (log ++ [(inserted.record.content.assertionId, context.cutoff)]) next ∧
      next.captures = store.captures := by
  simp only [insertAssertionContent, bind_eq_ok] at hinsert
  obtain ⟨placed, hplace, ⟨assessed, assessment⟩, hassess, ⟨settled, conflicts⟩, hrecord, record,
    hfound, hnext⟩ := hinsert
  cases hnext
  have hplaced : Assessed log placed ∧ placed.captures = store.captures ∧
      ∃ row ∈ placed.assertions, row.content = content := by
    rcases placeAssertion_writes hplace with ⟨rfl, hrow⟩ | ⟨identifiers, rfl, hfresh, -⟩
    · exact ⟨hstore, rfl, hrow⟩
    · have happended : Assessed log
          { store with assertions := store.assertions ++ [⟨content, created⟩] } :=
        hstore.appendAssertion hfresh hcaptured
      exact ⟨happended.congr rfl rfl rfl, rfl, _,
        List.mem_append_right _ (List.mem_singleton_self _), rfl⟩
  obtain ⟨hplaced, hcaptures, row, hrow, rfl⟩ := hplaced
  have hname : record.content.assertionId = row.content.assertionId := by
    unfold assertionById at hfound
    split at hfound
    · cases hfound
    next found hrecorded =>
      cases hfound
      exact (assertion?_eq_some hrecorded).2
  have hinserted : Assessed (log ++ [(row.content.assertionId, context.cutoff)]) assessed := by
    refine hplaced.insert [_] hassess (Or.inr (List.mem_singleton_self _)) fun entry hentry => ?_
    rw [List.mem_singleton.mp hentry]
    exact ⟨row, hrow, rfl, rfl, rfl, heligible.symm⟩
  obtain ⟨-, _, ⟨-, rfl⟩ | ⟨rfl, -⟩⟩ := insertCutoffAssessment_writes hassess
  all_goals
    obtain ⟨_, _, _, rfl⟩ := recordConflicts_writes hrecord
    rw [hname]
    exact ⟨hinserted.congr rfl rfl rfl, hcaptures⟩

/-- One turn of the loop over the assertions of a stored capture. -/
theorem ingestItem_assessed {context : Ingestion} {request : IngestRequest}
    {state last : EvidenceStore × List String} {item : EvidenceAssertionInput × ℕ}
    {inserted : InsertedAssertion}
    (hitem : ingestItem context request state item = .ok (last, inserted))
    (hstate : Assessed log state.1 ∧ context.record ∈ state.1.captures) :
    Assessed (log ++ [(inserted.record.content.assertionId, context.cutoff)]) last.1 ∧
      context.record ∈ last.1.captures := by
  unfold ingestItem at hitem
  split at hitem
  · cases hitem
  · simp only [insertAssertion, bind_eq_ok] at hitem
    obtain ⟨_, -, selected, -, _, -, ⟨store, answer⟩, hinsert, hlast⟩ := hitem
    cases hlast
    have hcaptured : Captured state.1.captures
        (assertionContent item.1 context.capture context.record selected) :=
      ⟨context.record, hstate.2, rfl, rfl, rfl⟩
    obtain ⟨hnext, hcaptures⟩ :=
      insertAssertionContent_assessed hcaptured rfl hinsert hstate.1
    exact ⟨hnext, hcaptures ▸ hstate.2⟩

theorem ingest_assessed [PyRuntime] {request : IngestRequest} {result : EvidenceIngestionResult}
    (hingest : ingest store request = .ok (next, result)) (hstore : Assessed log store) :
    Assessed (log ++ ingestedBy (.ingest request) (.ingested result)) next := by
  simp only [ingest, bind_eq_ok] at hingest
  obtain ⟨_, -, digest, -, sourced, hsource, originated, horigin, captured, hcapture, record,
    hrecord, ⟨last, inserted⟩, hbatch, hnext⟩ := hingest
  cases hnext
  obtain ⟨_, _, rfl⟩ := ensureSource_writes hsource
  obtain ⟨_, _, rfl⟩ := ensureOrigin_writes horigin
  have hcaptured : Assessed log captured := by
    rcases placeCapture_writes hcapture with rfl | ⟨_, rfl, hfresh⟩
    · exact hstore.congr rfl rfl rfl
    · exact (hstore.appendCapture hfresh).congr rfl rfl rfl
  have hpersisted : record ∈ captured.captures := by
    unfold persistedCapture at hrecord
    split at hrecord
    · cases hrecord
    next found hfound =>
      cases hrecord
      exact List.mem_of_find?_eq_some hfound
  have hitems := batch_accumulates
    (fun log (state : EvidenceStore × List String) =>
      Assessed log state.1 ∧ record ∈ state.1.captures)
    (fun answer => [(answer.record.content.assertionId, request.cutoffUtc)])
    (fun _ _ _ _ _ hstate hitem => ingestItem_assessed hitem hstate)
    ⟨hcaptured, hpersisted⟩ hbatch
  rw [← List.map_eq_flatMap] at hitems
  exact hitems.1

/-- A silence is assessed as indeterminate. -/
theorem recordUnknown_assessed [PyRuntime] {request : UnknownRequest}
    {record : EvidenceAssertionRecord} (hrecord : recordUnknown store request = .ok (next, record))
    (hstore : Assessed log store) : Assessed log next := by
  simp only [recordUnknown, bind_eq_ok] at hrecord
  obtain ⟨_, -, _, -, named, hadd, ⟨assessed, assessment⟩, hassess, found, -, hnext⟩ := hrecord
  cases hnext
  obtain ⟨identifiers, rfl⟩ := addIdentifierIfMissing_writes hadd
  have hnamed : Assessed log { store with identifiers := identifiers } :=
    hstore.congr rfl rfl rfl
  have hplaced : Assessed log (placeUnknown { store with identifiers := identifiers }
      ⟨unknownContent request, request.attemptedAtUtc.getD request.clock⟩) := by
    unfold placeUnknown
    split
    · exact hnamed
    next hnone =>
      refine hnamed.appendAssertion (assertion?_eq_none hnone) ?_
      rfl
  have hinserted := hplaced.insert [] hassess (Or.inl rfl) fun _ hmem => by cases hmem
  rwa [List.append_nil] at hinserted

theorem call_assessed [PyRuntime] {request : Request} {answer : Answer}
    (hcall : call store request = .ok (next, answer)) (hstore : Assessed log store) :
    Assessed (log ++ ingestedBy request answer) next := by
  cases request with
  | ingest request =>
      obtain ⟨outcome, hingest, hanswer⟩ := map_eq_ok.mp hcall
      cases hanswer
      exact ingest_assessed hingest hstore
  | recordUnknown request =>
      obtain ⟨outcome, hrecord, hanswer⟩ := map_eq_ok.mp hcall
      cases hanswer
      change Assessed (log ++ []) outcome.1
      rw [List.append_nil]
      exact recordUnknown_assessed hrecord hstore

theorem run_assessed [PyRuntime] (hstore : NoCaptures store) (requests : List Request) :
    Assessed (ingestions store requests) (run step store requests) := by
  have hrun := run_accumulates Assessed ingestedBy
    (fun _ _ _ _ _ hbefore hcall => call_assessed hcall hbefore) requests hstore.assessed
  exact hrun

end Calls

/-! ## What is read -/

section Reading

variable {log : List (String × Option Instant)} {store : EvidenceStore} {topic : Topic}
  {cutoff : Instant} {row : AssertionRow}

theorem Assessed.row_unique (hstore : Assessed log store) {other : AssertionRow}
    (hrow : row ∈ store.assertions) (hother : other ∈ store.assertions)
    (hid : row.assertionId = other.assertionId) : row = other :=
  List.inj_on_of_nodup_map hstore.ids hrow hother hid

theorem recordUnder_content (store : EvidenceStore) (cutoff : Option Instant) (row : AssertionRow) :
    (recordUnder store cutoff row).content = row.content := by
  unfold recordUnder
  split
  · rfl
  · rfl

theorem mem_of_latestAssessmentUnder {assertionId : String} {assessment : AssessmentRow}
    (hlatest : latestAssessmentUnder store (some cutoff) assertionId = some assessment) :
    assessment ∈ store.assessments ∧ assessment.content.assertionId = assertionId ∧
      assessment.content.cutoffUtc = some cutoff := by
  have hmem := (sortedOn_perm _ _).mem_iff.mp (List.mem_of_getLast? hlatest)
  obtain ⟨hmem, hselected⟩ := List.mem_filter.mp hmem
  simp only [Bool.and_eq_true, decide_eq_true_eq, Option.isNone_some, Bool.false_or] at hselected
  exact ⟨hmem, hselected⟩

/-- The record of an assertion that was ingested under the cutoff. -/
def recordOf (cutoff : Instant) (row : AssertionRow) : EvidenceAssertionRecord where
  content := row.content
  cutoffEligibility := (provenanceEligibility (some cutoff) row.content.provenance).1
  cutoffReason := (provenanceEligibility (some cutoff) row.content.provenance).2

/-- An ingestion leaves exactly one assessment under its cutoff, so the latest is it. -/
theorem Assessed.recordUnder_eq (hstore : Assessed log store) (hrow : row ∈ store.assertions)
    (hlogged : (row.assertionId, some cutoff) ∈ log) :
    recordUnder store (some cutoff) row = recordOf cutoff row := by
  obtain ⟨other, hother, hid, assessment, hassessment, hassesses⟩ := hstore.complete _ hlogged
  cases hstore.row_unique hother hrow hid
  unfold recordUnder
  cases hlatest : latestAssessmentUnder store (some cutoff) row.assertionId with
  | none =>
      have hempty := (List.getLast?_eq_none_iff.mp hlatest)
      have hmem : assessment ∈ store.assessments.filter fun found =>
          found.content.assertionId = row.assertionId &&
            ((some cutoff).isNone || found.content.cutoffUtc = some cutoff) := by
        refine List.mem_filter.mpr ⟨hassessment, ?_⟩
        rw [hassesses.assertionId, hassesses.cutoffUtc, decide_eq_true rfl, decide_eq_true rfl]
        rfl
      rw [← (sortedOn_perm assessmentOrder _).mem_iff, hempty] at hmem
      cases hmem
  | some found =>
      obtain ⟨hfound, hname, hcutoff⟩ := mem_of_latestAssessmentUnder hlatest
      have hsame : found = assessment :=
        hstore.unique found hfound assessment hassessment (hcutoff ▸ rfl)
          (hname.trans hassesses.assertionId.symm) (hcutoff.trans hassesses.cutoffUtc.symm)
      have heligibility := hassesses.eligibility
      rw [← hsame] at heligibility
      rw [recordOf, ← heligibility]

theorem assessCutoffEligibility_valid_iff (capture : CaptureRow) :
    (assessCutoffEligibility capture.retrievedAtUtc capture.publishedAtUtc (some cutoff)).1 =
      .cutoffValid ↔ availableBy cutoff capture = true := by
  unfold assessCutoffEligibility availableBy
  cases capture.publishedAtUtc with
  | none =>
      dsimp only
      split
      next hle => simp [hle]
      next hle => simp [hle]
  | some published =>
      dsimp only
      split
      next hle => simp [hle]
      next hle => simp [hle]

/-- A known assertion has a stored capture, whose times its provenance repeats. -/
theorem Assessed.captureOf_known (hstore : Assessed log store) (hrow : row ∈ store.assertions)
    (hknown : row.known = true) : ∃ capture, captureOf store row = some capture ∧
      (∀ limit, provenanceEligibility limit row.content.provenance =
        assessCutoffEligibility capture.retrievedAtUtc capture.publishedAtUtc limit) ∧
      sourceTimeSortKey row.content.provenance = timestampKey (captureTime capture) := by
  have hcaptured := hstore.captured row hrow
  unfold Captured at hcaptured
  split at hcaptured
  next hprovenance =>
    obtain ⟨capture, hcapture, hid, rfl, rfl⟩ := hcaptured
    refine ⟨capture, ?_, fun limit => ?_, ?_⟩
    · rw [captureOf, hid]
      exact (find?_key_iff hstore.captureIds).mpr ⟨hcapture, rfl⟩
    · rw [hprovenance]
      rfl
    · rw [hprovenance]
      rfl
  · rw [AssertionRow.known, AssertionRow.state, hcaptured] at hknown
    cases hknown

theorem mem_validAssertions : row ∈ validAssertions store log topic cutoff ↔
    row ∈ store.assertions ∧ row.topic = topic ∧ row.known = true ∧
      (row.assertionId, some cutoff) ∈ log ∧
        (captureOf store row).any (availableBy cutoff) = true := by
  unfold validAssertions
  simp only [List.mem_filter, Bool.and_eq_true, decide_eq_true_eq, and_assoc]

/-- A known assertion reads as valid if and only if it was ingested under the cutoff
and its capture was available by then. -/
theorem Assessed.isCutoffValid_iff (hstore : Assessed log store) (hrow : row ∈ store.assertions)
    (hknown : row.known = true) :
    isCutoffValid (recordUnder store (some cutoff) row) = true ↔
      (row.assertionId, some cutoff) ∈ log ∧
        (captureOf store row).any (availableBy cutoff) = true := by
  obtain ⟨capture, hcapture, heligible, -⟩ := hstore.captureOf_known hrow hknown
  have hlogged (hlogged : (row.assertionId, some cutoff) ∈ log) :
      isCutoffValid (recordUnder store (some cutoff) row) = true ↔
        (captureOf store row).any (availableBy cutoff) = true := by
    rw [hstore.recordUnder_eq hrow hlogged, isCutoffValid, decide_eq_true_iff, recordOf,
      heligible, hcapture, Option.any_some]
    exact assessCutoffEligibility_valid_iff capture
  constructor
  · intro hvalid
    have hread : (row.assertionId, some cutoff) ∈ log := by
      unfold recordUnder at hvalid
      split at hvalid
      · cases hvalid
      next assessment hlatest =>
        obtain ⟨hmem, hid, hcutoff⟩ := mem_of_latestAssessmentUnder hlatest
        have heligibility : assessment.content.eligibility = .cutoffValid :=
          of_decide_eq_true hvalid
        rcases hstore.sound assessment hmem with hindeterminate | hfound
        · rw [hindeterminate] at heligibility
          cases heligibility
        · rwa [hid, hcutoff] at hfound
    exact ⟨hread, (hlogged hread).mp hvalid⟩
  · rintro ⟨hread, havailable⟩
    exact (hlogged hread).mpr havailable

/-- The valid records among those that are kept, in creation order. -/
theorem Assessed.valid_records (hstore : Assessed log store) (topic : Topic) (cutoff : Instant)
    (includeUnknown : Bool) {keep : AssertionContent → Bool}
    (hkeep : ∀ content, keep content = true → content.asserted.state ≠ .unknown) :
    (assertions store (topicQuery topic (some cutoff) includeUnknown)).filter
        (fun item => isCutoffValid item && keep item.content) =
      (sortedOn creationOrder ((validAssertions store log topic cutoff).filter
        fun row => keep row.content)).map (recordOf cutoff) := by
  change ((sortedOn creationOrder (store.assertions.filter
    (topicQuery topic (some cutoff) includeUnknown).selects)).map
      (recordUnder store (some cutoff))).filter _ = _
  rw [List.filter_map, filter_sortedOn, List.filter_filter]
  have hrows : store.assertions.filter (fun row =>
      ((fun item => isCutoffValid item && keep item.content) ∘
        recordUnder store (some cutoff)) row &&
          (topicQuery topic (some cutoff) includeUnknown).selects row) =
      (validAssertions store log topic cutoff).filter fun row => keep row.content := by
    unfold validAssertions
    rw [List.filter_filter]
    refine List.filter_congr fun row hrow => Bool.eq_iff_iff.mpr ?_
    simp only [Function.comp_apply, Bool.and_eq_true, recordUnder_content, topicQuery_selects,
      decide_eq_true_eq]
    constructor
    · rintro ⟨⟨hvalid, hkept⟩, htopic, -⟩
      have hknown : row.known = true := decide_eq_true (hkeep row.content hkept)
      exact ⟨hkept, ⟨htopic, hknown⟩, (hstore.isCutoffValid_iff hrow hknown).mp hvalid⟩
    · rintro ⟨hkept, ⟨htopic, hknown⟩, hread⟩
      exact ⟨⟨(hstore.isCutoffValid_iff hrow hknown).mpr hread, hkept⟩, htopic, Or.inr hknown⟩
  rw [hrows]
  refine List.map_congr_left fun row hrow => ?_
  have hmem := (List.mem_filter.mp ((sortedOn_perm _ _).mem_iff.mp hrow)).1
  obtain ⟨hmem, -, -, hlogged, -⟩ := mem_validAssertions.mp hmem
  exact hstore.recordUnder_eq hmem hlogged

/-! ## The preferred assertion -/

theorem nonemptyOr_of_ne_nil {α : Type} {first second : List α} (hfirst : first ≠ []) :
    nonemptyOr first second = first := by
  rw [nonemptyOr, if_neg fun hempty => hfirst (List.isEmpty_iff.mp hempty)]

theorem mem_nonemptyOr {α : Type} {first second : List α} {item : α}
    (hitem : item ∈ nonemptyOr first second) : item ∈ first ∨ item ∈ second := by
  unfold nonemptyOr at hitem
  split at hitem
  · exact Or.inr hitem
  · exact Or.inl hitem

theorem Assessed.known_records (hstore : Assessed log store) (topic : Topic) (cutoff : Instant) :
    ((assertions store (topicQuery topic (some cutoff) true)).filter isCutoffValid).filter
        (fun item => !isUnknown item) =
      (sortedOn creationOrder (validAssertions store log topic cutoff)).map (recordOf cutoff) := by
  have hkeep (content : AssertionContent)
      (hkept : (!decide (content.asserted.state = .unknown)) = true) :
      content.asserted.state ≠ .unknown := by
    simpa using hkept
  have hall : (validAssertions store log topic cutoff).filter
      (fun row => !decide (row.content.asserted.state = .unknown)) =
        validAssertions store log topic cutoff := by
    refine List.filter_eq_self.mpr fun row hrow => ?_
    obtain ⟨-, -, hknown, -⟩ := mem_validAssertions.mp hrow
    rw [← decide_not]
    exact hknown
  have hrecords := hstore.valid_records topic cutoff true hkeep
  rw [hall] at hrecords
  rw [List.filter_filter, ← hrecords]
  exact List.filter_congr fun item _ => Bool.and_comm _ _

theorem Assessed.preferred_eq (hstore : Assessed log store)
    (hvalid : validAssertions store log topic cutoff ≠ []) :
    preferredAssertion store topic (some cutoff) =
      (sortedOn preferenceOrder ((sortedOn creationOrder
        (validAssertions store log topic cutoff)).map (recordOf cutoff))).head? := by
  have hknown := hstore.known_records topic cutoff
  have hrecords : (sortedOn creationOrder (validAssertions store log topic cutoff)).map
      (recordOf cutoff) ≠ [] := by
    intro hempty
    refine hvalid (List.eq_nil_of_length_eq_zero ?_)
    rw [← (sortedOn_perm creationOrder _).length_eq, List.map_eq_nil_iff.mp hempty,
      List.length_nil]
  have hread : (assertions store (topicQuery topic (some cutoff) true)).filter
      isCutoffValid ≠ [] := by
    intro hempty
    rw [hempty] at hknown
    exact hrecords hknown.symm
  simp only [preferredAssertion, Option.isSome_some, if_true]
  rw [nonemptyOr_of_ne_nil hread, hknown, nonemptyOr_of_ne_nil hrecords]

/-- Without valid assertions the preferred one, if any, is unknown. -/
theorem Assessed.preferred_unknown (hstore : Assessed log store)
    (hvalid : validAssertions store log topic cutoff = []) {record : EvidenceAssertionRecord}
    (hpreferred : preferredAssertion store topic (some cutoff) = some record) :
    record.content.asserted.state = .unknown := by
  have hknown := hstore.known_records topic cutoff
  rw [hvalid] at hknown
  simp only [preferredAssertion, Option.isSome_some, if_true] at hpreferred
  have hall : ∀ item ∈ nonemptyOr
      ((assertions store (topicQuery topic (some cutoff) true)).filter isCutoffValid)
      ((assertions store (topicQuery topic (some cutoff) true)).filter isUnknown),
      item.content.asserted.state = .unknown := by
    intro item hitem
    rcases mem_nonemptyOr hitem with hread | hunknown
    · have hskipped := List.filter_eq_nil_iff.mp hknown item hread
      simpa [isUnknown] using hskipped
    · exact of_decide_eq_true (List.mem_filter.mp hunknown).2
  have hmem := (least_of_head?_sortedOn preferenceOrder hpreferred).1
  rcases mem_nonemptyOr hmem with hkept | hcandidate
  · exact hall record (List.mem_of_mem_filter hkept)
  · exact hall record hcandidate

theorem Assessed.preferenceOrder_recordOf (hstore : Assessed log store)
    (hrow : row ∈ validAssertions store log topic cutoff) :
    preferenceOrder (recordOf cutoff row) = toLex (row.content.authorityRank,
      toLex (-timestampKey (sourceTime store row), row.assertionId)) := by
  obtain ⟨hmem, -, hknown, -⟩ := mem_validAssertions.mp hrow
  obtain ⟨capture, hcapture, -, hkey⟩ := hstore.captureOf_known hmem hknown
  rw [preferenceOrder, recordOf, hkey, sourceTime, hcapture]
  rfl

/-- The least valid assertion is preferred if and only if the float of its source time
does not let a smaller identifier win. -/
theorem Assessed.prefers_iff (hstore : Assessed log store) {best : AssertionRow}
    (hbest : best ∈ validAssertions store log topic cutoff)
    (hleast : ∀ other ∈ validAssertions store log topic cutoff,
      hierarchy store best ≤ hierarchy store other) :
    (preferredAssertion store topic (some cutoff)).map EvidenceAssertionRecord.content =
        some best.content ↔
      ∀ other ∈ validAssertions store log topic cutoff,
        other.content.authorityRank = best.content.authorityRank →
          timestampKey (sourceTime store other) = timestampKey (sourceTime store best) →
            best.assertionId ≤ other.assertionId := by
  rw [hstore.preferred_eq (List.ne_nil_of_mem hbest)]
  have hrecords (record : EvidenceAssertionRecord) :
      record ∈ (sortedOn creationOrder (validAssertions store log topic cutoff)).map
        (recordOf cutoff) ↔
      ∃ row ∈ validAssertions store log topic cutoff, recordOf cutoff row = record := by
    simp only [List.mem_map, (sortedOn_perm _ _).mem_iff]
  obtain ⟨record, hhead⟩ := exists_head?_sortedOn preferenceOrder
    (List.ne_nil_of_mem ((hrecords _).mpr ⟨best, hbest, rfl⟩))
  obtain ⟨hmem, hfirst⟩ := least_of_head?_sortedOn preferenceOrder hhead
  obtain ⟨row, hrow, rfl⟩ := (hrecords record).mp hmem
  have hleading (other : AssertionRow) (hother : other ∈ validAssertions store log topic cutoff) :=
    hfirst _ ((hrecords _).mpr ⟨other, hother, rfl⟩)
  have hrowMem := (mem_validAssertions.mp hrow).1
  have hbestMem := (mem_validAssertions.mp hbest).1
  rw [hhead, Option.map_some, Option.some_inj]
  constructor
  · intro hcontent other hother hrank hkey
    cases hstore.row_unique hrowMem hbestMem (congrArg AssertionContent.assertionId hcontent)
    have hle := hleading other hother
    rw [hstore.preferenceOrder_recordOf hrow, hstore.preferenceOrder_recordOf hother, hrank, hkey,
      Prod.Lex.toLex_le_toLex, Prod.Lex.toLex_le_toLex] at hle
    simpa using hle
  · intro happart
    have hle := hleading best hbest
    have hge := hleast row hrow
    rw [hstore.preferenceOrder_recordOf hrow, hstore.preferenceOrder_recordOf hbest,
      Prod.Lex.toLex_le_toLex, Prod.Lex.toLex_le_toLex] at hle
    rw [hierarchy, hierarchy, Prod.Lex.toLex_le_toLex, Prod.Lex.toLex_le_toLex] at hge
    dsimp only at hle hge
    have hrank : row.content.authorityRank = best.content.authorityRank := by omega
    have htime : sourceTime store row ≤ sourceTime store best := by
      rcases hge with hless | ⟨-, hnewer | ⟨hsame, -⟩⟩
      · omega
      · exact (neg_lt_neg_iff.mp hnewer).le
      · exact (neg_inj.mp hsame).ge
    have hkeys := timestampKey_mono htime
    have hfloat : timestampKey (sourceTime store row) = timestampKey (sourceTime store best) ∧
        row.assertionId ≤ best.assertionId := by
      rcases hle with hless | ⟨-, hnewer | ⟨hsame, hid⟩⟩
      · omega
      · omega
      · exact ⟨neg_inj.mp hsame, hid⟩
    have hid := le_antisymm hfloat.2 (happart row hrow hrank hfloat.1)
    rw [hstore.row_unique hrowMem hbestMem hid]
    rfl

/-! ## Corroboration -/

/-- What some observations in creation order corroborate. -/
def corroborationOf (topic : Topic) (value : String) (rows : List AssertionRow) :
    CorroborationRecord where
  subjectKind := topic.subjectKind
  subjectId := topic.subjectId
  evidenceType := topic.evidenceType
  predicate := topic.predicate
  value := value
  originIds := sortedSet (rows.filterMap fun row => row.content.originId)
  assertionIds := rows.map AssertionRow.assertionId

theorem observes_known [JsonValues] {value : String} {content : AssertionContent}
    (hobserves : observes value content = true) : content.asserted.state ≠ .unknown := by
  unfold observes at hobserves
  rw [Bool.and_eq_true, decide_eq_true_iff] at hobserves
  rw [hobserves.1]
  nofun

theorem Assessed.corroboration_eq [JsonValues] (hstore : Assessed log store) (topic : Topic)
    (value : String) (cutoff : Instant) : corroboration store topic value (some cutoff) =
      corroborationOf topic value (sortedOn creationOrder
        ((validAssertions store log topic cutoff).filter fun row => observes value row.content)) := by
  have hkeep (content : AssertionContent) : observes value content = true →
      content.asserted.state ≠ .unknown := observes_known
  simp only [corroboration, Option.isSome_some, if_true]
  rw [List.filter_filter, hstore.valid_records topic cutoff false hkeep, List.filterMap_map,
    List.map_map]
  rfl

/-- The origins are those of the valid observations of the value. -/
theorem Assessed.mem_originIds [JsonValues] (hstore : Assessed log store) {value originId : String} :
    originId ∈ (corroboration store topic value (some cutoff)).originIds ↔
      ∃ row ∈ validAssertions store log topic cutoff, row.state = .observed ∧
        recordValue row.content = some value ∧ row.content.originId = some originId := by
  rw [hstore.corroboration_eq, corroborationOf, mem_sortedSet, List.mem_filterMap]
  simp only [(sortedOn_perm _ _).mem_iff, List.mem_filter, observes, Bool.and_eq_true,
    decide_eq_true_eq, and_assoc]
  rfl

/-! ## Later calls -/

theorem Assessed.valid_nodup (hstore : Assessed log store) :
    (validAssertions store log topic cutoff).Nodup :=
  (List.Nodup.of_map _ hstore.ids).filter _

/-- What is read is decided by the valid assertions. -/
theorem Assessed.reads_alike [JsonValues] {later : EvidenceStore}
    {longer : List (String × Option Instant)} (hstore : Assessed log store)
    (hlater : Assessed longer later)
    (hsame : ∀ row, row ∈ validAssertions later longer topic cutoff ↔
      row ∈ validAssertions store log topic cutoff) :
    (validAssertions store log topic cutoff ≠ [] →
      preferredAssertion later topic (some cutoff) =
        preferredAssertion store topic (some cutoff)) ∧
    ∀ value, corroboration later topic value (some cutoff) =
      corroboration store topic value (some cutoff) := by
  have hperm : (validAssertions later longer topic cutoff).Perm
      (validAssertions store log topic cutoff) :=
    (List.perm_ext_iff_of_nodup hlater.valid_nodup hstore.valid_nodup).mpr hsame
  have hcreation : ∀ first ∈ validAssertions later longer topic cutoff,
      ∀ second ∈ validAssertions later longer topic cutoff,
        creationOrder first = creationOrder second → first = second := by
    intro first hfirst second hsecond heq
    refine hlater.row_unique (mem_validAssertions.mp hfirst).1 (mem_validAssertions.mp hsecond).1 ?_
    exact congrArg (fun order : ℤ ×ₗ String => (ofLex order).2) heq
  refine ⟨fun hvalid => ?_, fun value => ?_⟩
  · have hnonempty : validAssertions later longer topic cutoff ≠ [] := by
      intro hempty
      rw [hempty] at hperm
      exact hvalid hperm.nil_eq.symm
    rw [hlater.preferred_eq hnonempty, hstore.preferred_eq hvalid,
      sortedOn_eq_of_perm creationOrder hperm hcreation]
  · rw [hlater.corroboration_eq, hstore.corroboration_eq]
    refine congrArg (corroborationOf topic value) ?_
    exact sortedOn_eq_of_perm creationOrder (hperm.filter _) fun first hfirst second hsecond =>
      hcreation first (List.mem_of_mem_filter hfirst) second (List.mem_of_mem_filter hsecond)

end Reading

/-! ## Histories -/

/-- After any calls on a store without captures, reading under a cutoff respects the
valid assertions and their hierarchy if and only if no float merges the newest source
time of the best rank with that of an assertion of a smaller identifier. -/
theorem run_respectsCutoff_iff [Hashing] [PyRuntime] [JsonValues] {store : EvidenceStore}
    (hstore : NoCaptures store) (requests : List Request) (topic : Topic) (cutoff : Instant) :
    RespectsCutoff store requests topic cutoff ↔
      TimesToldApart (run step store requests) (validAfter store requests topic cutoff) := by
  have hassessed := run_assessed hstore requests
  constructor
  · intro hrespects best hbest hleast
    exact (hassessed.prefers_iff hbest hleast).mp (hrespects.preferred best hbest hleast)
  · intro happart
    refine ⟨fun best hbest hleast => ?_, fun hempty record hrecord => ?_, fun value => ?_,
      fun more hsame => ?_⟩
    · exact (hassessed.prefers_iff hbest hleast).mpr (happart best hbest hleast)
    · exact hassessed.preferred_unknown hempty hrecord
    · refine ⟨?_, fun originId => hassessed.mem_originIds⟩
      rw [hassessed.corroboration_eq]
      exact sortedSet_nodup _
    · exact hassessed.reads_alike (run_assessed hstore (requests ++ more)) hsame

/-! ## Two reports of one page -/

namespace Republished

/-- A sum that tells the names below apart. -/
def checksum (name : String) : ℕ :=
  name.toByteArray.data.toList.foldl (fun digest byte => (digest * 31 + byte.toNat) % 1000000007) 1

@[reducible]
def checksumHashing : Hashing where
  sha256 := shapeHashing.sha256
  uuid5 name := quotedName (toString (checksum name))
  uuid5_text _ := quotedName_text _

local instance : Hashing := checksumHashing

local instance : PyRuntime := plainRuntime

local instance : JsonValues := ⟨id⟩

/-- A report of the page, read under a cutoff. -/
def report (value : String) (published : Instant) : Request :=
  .ingest
    { capture := { Reports.citation "page" with
        publishedAtUtc := some published, retrievedAtUtc := 1096620760000000 }
      assertions := [Reports.report value none]
      cutoffUtc := some 1096620800000000
      researchCutoffId := none
      publishing := refuse .other "No bytes to publish."
      failureHook := fun _ => none
      clock := fun _ => 1096620760000000 }

def status : Topic := ⟨.person, Reports.person, .injury, "status"⟩

/-- The page says something else one microsecond later. -/
def reports : List Request :=
  [report "\"OUT\"" 1096620751302671, report "\"FIT\"" 1096620751302672]

/-- The page says something else one second later. -/
def slowReports : List Request :=
  [report "\"OUT\"" 1096620751302671, report "\"FIT\"" 1096620752302671]

theorem slowReports_respectsCutoff :
    RespectsCutoff Reports.noReports slowReports status 1096620800000000 :=
  (run_respectsCutoff_iff ⟨rfl, rfl, rfl⟩ slowReports status 1096620800000000).mpr
    (by unfold TimesToldApart; decide +kernel)

/-- The older report is preferred, since a float merges the two times and its
identifier is smaller. -/
theorem older_preferred :
    ¬ RespectsCutoff Reports.noReports reports status 1096620800000000 := by
  intro hrespects
  have hnewer : ∃ best ∈ validAfter Reports.noReports reports status 1096620800000000,
      (∀ other ∈ validAfter Reports.noReports reports status 1096620800000000,
        hierarchy (run step Reports.noReports reports) best ≤
          hierarchy (run step Reports.noReports reports) other) ∧
      (preferredAssertion (run step Reports.noReports reports) status
        (some 1096620800000000)).map EvidenceAssertionRecord.content ≠ some best.content := by
    decide +kernel
  obtain ⟨best, hbest, hleast, hother⟩ := hnewer
  exact hother (hrespects.preferred best hbest hleast)

end Republished

end MatchVet.T07.CutoffHistory
