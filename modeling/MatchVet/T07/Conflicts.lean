import MatchVet.T07.Recorder

/-!
# Conflict sets and correction forests

After every insertion the conflict set of the current values holds all known
assertions of the topic.  Corrections point backwards in the table, so they form
forests.  What one insertion keeps, every run of calls keeps.
-/

namespace MatchVet.T07.Conflicts

open MatchVet.Foundation.CanonicalJson
open MatchVet.Foundation.Delimited
open MatchVet.Foundation.Forest
open MatchVet.Foundation.Identifier
open MatchVet.Foundation.JsonText
open MatchVet.Foundation.KeySort
open MatchVet.Foundation.Runtime
open MatchVet.Foundation.Timestamp
open MatchVet.Foundation.Transition
open MatchVet.T07.Evidence
open MatchVet.T07.Recorder

/-! ## What a call keeps -/

/-- Assertions, conflicts and memberships are only appended to. -/
structure Kept (store next : EvidenceStore) : Prop where
  assertions : store.assertions <+: next.assertions
  conflicts : store.conflicts <+: next.conflicts
  members : store.members <+: next.members

theorem Kept.refl (store : EvidenceStore) : Kept store store :=
  ⟨List.prefix_rfl, List.prefix_rfl, List.prefix_rfl⟩

theorem Kept.trans {first second third : EvidenceStore} (hfirst : Kept first second)
    (hsecond : Kept second third) : Kept first third :=
  ⟨hfirst.assertions.trans hsecond.assertions, hfirst.conflicts.trans hsecond.conflicts,
    hfirst.members.trans hsecond.members⟩

/-- Assertions, conflicts and memberships stay as they are. -/
structure SameEvidence (store next : EvidenceStore) : Prop where
  assertions : next.assertions = store.assertions
  conflicts : next.conflicts = store.conflicts
  members : next.members = store.members

theorem SameEvidence.refl (store : EvidenceStore) : SameEvidence store store := ⟨rfl, rfl, rfl⟩

theorem SameEvidence.trans {first second third : EvidenceStore}
    (hfirst : SameEvidence first second) (hsecond : SameEvidence second third) :
    SameEvidence first third :=
  ⟨hsecond.assertions.trans hfirst.assertions, hsecond.conflicts.trans hfirst.conflicts,
    hsecond.members.trans hfirst.members⟩

theorem SameEvidence.kept {store next : EvidenceStore} (hsame : SameEvidence store next) :
    Kept store next :=
  ⟨hsame.assertions ▸ List.prefix_rfl, hsame.conflicts ▸ List.prefix_rfl,
    hsame.members ▸ List.prefix_rfl⟩

theorem addIdentifierIfMissing_writes {store next : EvidenceStore} {kind value : String}
    (hadd : addIdentifierIfMissing store kind value = .ok next) :
    ∃ identifiers, next = { store with identifiers := identifiers } := by
  unfold addIdentifierIfMissing at hadd
  split at hadd
  · cases hadd
    exact ⟨_, rfl⟩
  · split at hadd
    · cases hadd
      exact ⟨_, rfl⟩
    · cases hadd

theorem ensureSource_writes {store next : EvidenceStore} {source : SourceIdentity}
    {sourceId : String} (hensure : ensureSource store source sourceId = .ok next) :
    ∃ identifiers sources, next = { store with identifiers := identifiers, sources := sources } := by
  simp only [ensureSource, bind_eq_ok] at hensure
  obtain ⟨middle, hadd, hplace⟩ := hensure
  obtain ⟨identifiers, rfl⟩ := addIdentifierIfMissing_writes hadd
  unfold placeSource at hplace
  split at hplace
  · split at hplace
    · cases hplace
      exact ⟨_, _, rfl⟩
    · cases hplace
  · split at hplace
    · cases hplace
    · cases hplace
      exact ⟨_, _, rfl⟩

theorem ensureOrigin_writes {store next : EvidenceStore} {origin : IndependentOrigin}
    {originId : String} (hensure : ensureOrigin store origin originId = .ok next) :
    ∃ identifiers origins, next = { store with identifiers := identifiers, origins := origins } := by
  simp only [ensureOrigin, bind_eq_ok] at hensure
  obtain ⟨middle, hadd, hplace⟩ := hensure
  obtain ⟨identifiers, rfl⟩ := addIdentifierIfMissing_writes hadd
  unfold placeOrigin at hplace
  split at hplace
  · split at hplace
    · cases hplace
      exact ⟨_, _, rfl⟩
    · cases hplace
  · split at hplace
    · cases hplace
    · cases hplace
      exact ⟨_, _, rfl⟩

/-- A capture is appended under a fresh identifier, or it was there. -/
theorem placeCapture_writes {store next : EvidenceStore} {existing : Option CaptureRow}
    {row : CaptureRow} (hplace : placeCapture store existing row = .ok next) :
    next = store ∨ ∃ identifiers,
      next = { store with identifiers := identifiers, captures := store.captures ++ [row] } ∧
      row.captureId ∉ store.captures.map CaptureRow.captureId := by
  cases existing with
  | some found =>
      cases hplace
      exact Or.inl rfl
  | none =>
      right
      simp only [placeCapture, bind_eq_ok] at hplace
      obtain ⟨middle, hadd, hrow⟩ := hplace
      obtain ⟨identifiers, rfl⟩ := addIdentifierIfMissing_writes hadd
      split at hrow
      · cases hrow
      next hfresh =>
        cases hrow
        refine ⟨identifiers, rfl, fun hmem => hfresh ?_⟩
        obtain ⟨other, hother, hid⟩ := List.mem_map.mp hmem
        exact List.any_eq_true.mpr ⟨other, hother, decide_eq_true hid⟩

/-- The assessment is stored already, or it is appended as the first of its assertion
and its cutoff. -/
theorem insertCutoffAssessment_writes [Hashing] {store next : EvidenceStore}
    {content : AssessmentContent} {assessedAt : Instant} {row : AssessmentRow}
    (hinsert : insertCutoffAssessment store content assessedAt = .ok (next, row)) :
    row.content = content ∧ ∃ identifiers,
      (row ∈ store.assessments ∧ next = { store with identifiers := identifiers }) ∨
      (next = { store with
        identifiers := identifiers, assessments := store.assessments ++ [row] } ∧
        (content.cutoffUtc.isSome → ∀ other ∈ store.assessments,
          other.content.assertionId = content.assertionId →
            other.content.cutoffUtc ≠ content.cutoffUtc)) := by
  simp only [insertCutoffAssessment, bind_eq_ok] at hinsert
  obtain ⟨middle, hadd, hplace⟩ := hinsert
  obtain ⟨identifiers, rfl⟩ := addIdentifierIfMissing_writes hadd
  unfold placeAssessment at hplace
  split at hplace
  next found hfind =>
    split at hplace
    next hcontent =>
      cases hplace
      exact ⟨hcontent, identifiers, Or.inl ⟨List.mem_of_find?_eq_some hfind, rfl⟩⟩
    · cases hplace
  · split at hplace
    · cases hplace
    next hunique =>
      cases hplace
      refine ⟨rfl, identifiers, Or.inr ⟨rfl, fun hsome other hother hid hcutoff => hunique ?_⟩⟩
      rw [Bool.and_eq_true]
      refine ⟨hsome, List.any_eq_true.mpr ⟨other, hother, ?_⟩⟩
      rw [Bool.and_eq_true]
      exact ⟨decide_eq_true hid, decide_eq_true hcutoff⟩

theorem addIdentifierIfMissing_same {store next : EvidenceStore} {kind value : String}
    (hadd : addIdentifierIfMissing store kind value = .ok next) : SameEvidence store next := by
  obtain ⟨identifiers, rfl⟩ := addIdentifierIfMissing_writes hadd
  exact ⟨rfl, rfl, rfl⟩

theorem placeCapture_same {store next : EvidenceStore} {existing : Option CaptureRow}
    {row : CaptureRow} (hplace : placeCapture store existing row = .ok next) :
    SameEvidence store next := by
  rcases placeCapture_writes hplace with rfl | ⟨identifiers, rfl, -⟩
  · exact SameEvidence.refl _
  · exact ⟨rfl, rfl, rfl⟩

theorem ensureSource_same {store next : EvidenceStore} {source : SourceIdentity}
    {sourceId : String} (hensure : ensureSource store source sourceId = .ok next) :
    SameEvidence store next := by
  obtain ⟨identifiers, sources, rfl⟩ := ensureSource_writes hensure
  exact ⟨rfl, rfl, rfl⟩

theorem ensureOrigin_same {store next : EvidenceStore} {origin : IndependentOrigin}
    {originId : String} (hensure : ensureOrigin store origin originId = .ok next) :
    SameEvidence store next := by
  obtain ⟨identifiers, origins, rfl⟩ := ensureOrigin_writes hensure
  exact ⟨rfl, rfl, rfl⟩

theorem insertCutoffAssessment_same [Hashing] {store next : EvidenceStore}
    {content : AssessmentContent} {assessedAt : Instant} {row : AssessmentRow}
    (hinsert : insertCutoffAssessment store content assessedAt = .ok (next, row)) :
    SameEvidence store next := by
  obtain ⟨-, identifiers, ⟨-, rfl⟩ | ⟨rfl, -⟩⟩ := insertCutoffAssessment_writes hinsert
  · exact ⟨rfl, rfl, rfl⟩
  · exact ⟨rfl, rfl, rfl⟩

/-! ## Values of a topic -/

theorem mem_knownOf {store : EvidenceStore} {topic : Topic} {row : AssertionRow} :
    row ∈ store.knownOf topic ↔ row ∈ store.assertions ∧ row.topic = topic ∧ row.known = true := by
  rw [EvidenceStore.knownOf, (sortedOn_perm _ _).mem_iff, List.mem_filter, Bool.and_eq_true,
    decide_eq_true_iff]

theorem mem_membersOf {store : EvidenceStore} {conflictId assertionId : String} :
    assertionId ∈ store.membersOf conflictId ↔ (conflictId, assertionId) ∈ store.members := by
  rw [EvidenceStore.membersOf, List.mem_map]
  constructor
  · rintro ⟨link, hlink, rfl⟩
    obtain ⟨hmem, hid⟩ := List.mem_filter.mp hlink
    rwa [← of_decide_eq_true hid]
  · intro hmem
    exact ⟨_, List.mem_filter.mpr ⟨hmem, decide_eq_true rfl⟩, rfl⟩

theorem membersOf_nodup {store : EvidenceStore} (hnodup : store.members.Nodup) (conflictId : String) :
    (store.membersOf conflictId).Nodup := by
  refine List.Nodup.map_on ?_ (hnodup.filter _)
  intro first hfirst second hsecond heq
  have hleft := of_decide_eq_true (List.mem_filter.mp hfirst).2
  have hright := of_decide_eq_true (List.mem_filter.mp hsecond).2
  exact Prod.ext (hleft.trans hright.symm) heq

theorem distinctValues_congr {store next : EvidenceStore}
    (hassertions : next.assertions = store.assertions) (topic : Topic) :
    distinctValues next topic = distinctValues store topic := by
  rw [distinctValues, distinctValues, EvidenceStore.knownOf, EvidenceStore.knownOf, hassertions]

theorem mem_distinctValues {store : EvidenceStore} {topic : Topic} {text : String} :
    text ∈ distinctValues store topic ↔ ∃ row ∈ store.knownOf topic, valueText row = text := by
  rw [distinctValues, mem_sortedSet, List.mem_map]

/-- A longer table has at least the values of a shorter one. -/
theorem distinctValues_length_mono {store next : EvidenceStore}
    (hsubset : store.assertions ⊆ next.assertions) (topic : Topic) :
    (distinctValues store topic).length ≤ (distinctValues next topic).length := by
  refine ((sortedSet_nodup _).subperm ?_).length_le
  intro text htext
  obtain ⟨row, hrow, hvalue⟩ := mem_distinctValues.mp htext
  obtain ⟨hmem, htopic⟩ := mem_knownOf.mp hrow
  exact mem_distinctValues.mpr ⟨row, mem_knownOf.mpr ⟨hsubset hmem, htopic⟩, hvalue⟩

/-- The text tells the state and the value of an assertion. -/
theorem valueText_inj {first second : AssertionRow} (heq : valueText first = valueText second) :
    (first.state, first.normalizedValue) = (second.state, second.normalizedValue) := by
  have hmembers : [("state", some first.state.value), ("value", first.normalizedValue)] =
      [("state", some second.state.value), ("value", second.normalizedValue)] :=
    jsonObject_inj rfl heq
  simp only [List.cons.injEq, Prod.mk.injEq, Option.some.injEq, true_and, and_true] at hmembers
  rw [EvidenceState.value_injective hmembers.1, hmembers.2]

/-- Two known assertions that differ give two values. -/
theorem two_values {store : EvidenceStore} {first second : AssertionRow} {topic : Topic}
    (hfirst : first ∈ store.knownOf topic) (hsecond : second ∈ store.knownOf topic)
    (hdiffer : (first.state, first.normalizedValue) ≠ (second.state, second.normalizedValue)) :
    2 ≤ (distinctValues store topic).length := by
  have hleft := mem_distinctValues.mpr ⟨first, hfirst, rfl⟩
  have hright := mem_distinctValues.mpr ⟨second, hsecond, rfl⟩
  have hpair : [valueText first, valueText second].Nodup := by
    rw [List.nodup_cons, List.mem_singleton]
    exact ⟨fun heq => hdiffer (valueText_inj heq), List.nodup_singleton _⟩
  refine (hpair.subperm ?_).length_le
  intro text htext
  rcases List.mem_cons.mp htext with rfl | htext
  · exact hleft
  · rwa [List.mem_singleton.mp htext]

/-! ## Adding members -/

/-- Adding members changes nothing but the memberships. -/
structure MembersAdded (store next : EvidenceStore) (conflictId : String)
    (rows : List AssertionRow) : Prop where
  assertions : next.assertions = store.assertions
  conflicts : next.conflicts = store.conflicts
  kept : store.members <+: next.members
  nodup : store.members.Nodup → next.members.Nodup
  mem : ∀ link, link ∈ next.members ↔ link ∈ store.members ∨
    ∃ row ∈ rows, link = (conflictId, row.assertionId)

theorem addMember_added (store : EvidenceStore) (conflictId : String) (row : AssertionRow) :
    MembersAdded store (addMember store conflictId row.assertionId) conflictId [row] := by
  unfold addMember
  split
  next hmem =>
    refine ⟨rfl, rfl, List.prefix_rfl, id, fun link => ⟨Or.inl, ?_⟩⟩
    rintro (hlink | ⟨other, hother, rfl⟩)
    · exact hlink
    · rwa [List.mem_singleton.mp hother]
  next hmem =>
    refine ⟨rfl, rfl, List.prefix_append _ _, fun hnodup => ?_, fun link => ?_⟩
    · rw [List.nodup_append]
      refine ⟨hnodup, List.nodup_singleton _, fun link hlink other hother heq => ?_⟩
      rw [List.mem_singleton.mp hother] at heq
      exact hmem (heq ▸ hlink)
    · simp only [List.mem_append, List.mem_singleton, exists_eq_left]

theorem addMembers_added (conflictId : String) (rows : List AssertionRow) :
    ∀ store, MembersAdded store (addMembers store conflictId rows) conflictId rows := by
  induction rows with
  | nil =>
      intro store
      refine ⟨rfl, rfl, List.prefix_rfl, id, fun link => ⟨Or.inl, ?_⟩⟩
      rintro (hlink | ⟨other, hother, -⟩)
      · exact hlink
      · cases hother
  | cons row rest ih =>
      intro store
      have hfirst := addMember_added store conflictId row
      have hrest := ih (addMember store conflictId row.assertionId)
      refine ⟨hrest.assertions.trans hfirst.assertions, hrest.conflicts.trans hfirst.conflicts,
        hfirst.kept.trans hrest.kept, fun hnodup => hrest.nodup (hfirst.nodup hnodup),
        fun link => ?_⟩
      change link ∈ (addMembers (addMember store conflictId row.assertionId) conflictId
        rest).members ↔ _
      rw [hrest.mem, hfirst.mem, or_assoc]
      simp

/-! ## What an insertion does -/

/-- A new assertion is appended under a fresh identifier, after what it corrects. -/
structure AssertionAppended (store next : EvidenceStore) (row : AssertionRow) : Prop where
  assertions : next.assertions = store.assertions ++ [row]
  conflicts : next.conflicts = store.conflicts
  members : next.members = store.members
  fresh : row.assertionId ∉ store.assertions.map AssertionRow.assertionId
  corrects : ∀ name ∈ row.predecessor, ∃ other ∈ store.assertions,
    other.assertionId = name ∧ row.topic = other.topic

theorem AssertionAppended.kept {store next : EvidenceStore} {row : AssertionRow}
    (hadded : AssertionAppended store next row) : Kept store next := by
  refine ⟨?_, ?_, ?_⟩
  · rw [hadded.assertions]
    exact List.prefix_append _ _
  · rw [hadded.conflicts]
  · rw [hadded.members]

/-- An assertion of another topic, or an unknown one, changes no known assertion. -/
theorem knownOf_append {store next : EvidenceStore} {row : AssertionRow} {topic : Topic}
    (hassertions : next.assertions = store.assertions ++ [row])
    (hother : row.topic = topic → row.known = false) :
    next.knownOf topic = store.knownOf topic := by
  have hskip : (decide (row.topic = topic) && row.known) = false := by
    by_cases htopic : row.topic = topic
    · rw [hother htopic, Bool.and_false]
    · rw [decide_eq_false htopic, Bool.false_and]
  rw [EvidenceStore.knownOf, EvidenceStore.knownOf, hassertions, List.filter_append,
    List.filter_singleton, hskip, cond_false, List.append_nil]

theorem assertion?_eq_none {store : EvidenceStore} {assertionId : String}
    (hnone : store.assertion? assertionId = none) :
    assertionId ∉ store.assertions.map AssertionRow.assertionId := by
  intro hmem
  obtain ⟨row, hrow, hid⟩ := List.mem_map.mp hmem
  exact List.find?_eq_none.mp hnone row hrow (decide_eq_true hid)

theorem assertion?_eq_some {store : EvidenceStore} {assertionId : String} {row : AssertionRow}
    (hsome : store.assertion? assertionId = some row) :
    row ∈ store.assertions ∧ row.assertionId = assertionId := by
  unfold EvidenceStore.assertion? at hsome
  exact ⟨List.mem_of_find?_eq_some hsome, by simpa using List.find?_some hsome⟩

theorem conflict?_eq_some {store : EvidenceStore} {conflictId : String} {row : ConflictRow}
    (hsome : store.conflict? conflictId = some row) :
    row ∈ store.conflicts ∧ row.conflictId = conflictId := by
  unfold EvidenceStore.conflict? at hsome
  exact ⟨List.mem_of_find?_eq_some hsome, by simpa using List.find?_some hsome⟩

theorem checkCorrection_ok {store : EvidenceStore} {content : AssertionContent} {done : Unit}
    (hcheck : checkCorrection store content = .ok done) :
    ∀ name ∈ content.predecessorAssertionId, ∃ other ∈ store.assertions,
      other.assertionId = name ∧ content.topic = other.topic := by
  intro name hname
  rw [checkCorrection, Option.mem_def.mp hname] at hcheck
  dsimp only at hcheck
  cases hfind : store.assertion? name with
  | none =>
      rw [hfind] at hcheck
      cases hcheck
  | some predecessor =>
      rw [hfind] at hcheck
      obtain ⟨hmem, hid⟩ := assertion?_eq_some hfind
      exact ⟨predecessor, hmem, hid, (require_ok_iff.mp hcheck).symm⟩

/-- The assertion is stored already, or it is appended under a fresh identifier. -/
theorem placeAssertion_writes {store next : EvidenceStore} {content : AssertionContent}
    {created : Instant} (hplace : placeAssertion store content created = .ok next) :
    (next = store ∧ ∃ row ∈ store.assertions, row.content = content) ∨ ∃ identifiers,
      next = { store with
        identifiers := identifiers, assertions := store.assertions ++ [⟨content, created⟩] } ∧
      content.assertionId ∉ store.assertions.map AssertionRow.assertionId ∧
      ∀ name ∈ content.predecessorAssertionId, ∃ other ∈ store.assertions,
        other.assertionId = name ∧ content.topic = other.topic := by
  unfold placeAssertion at hplace
  cases hfind : store.assertion? content.assertionId with
  | some existing =>
      rw [hfind] at hplace
      left
      change (if existing.content = content then _ else _) = _ at hplace
      split at hplace
      next hcontent =>
        cases hplace
        exact ⟨rfl, existing, (assertion?_eq_some hfind).1, hcontent⟩
      · cases hplace
  | none =>
      rw [hfind] at hplace
      right
      simp only [bind_eq_ok] at hplace
      obtain ⟨_, hcheck, middle, hadd, hnext⟩ := hplace
      obtain ⟨identifiers, rfl⟩ := addIdentifierIfMissing_writes hadd
      cases hnext
      exact ⟨identifiers, rfl, assertion?_eq_none hfind, checkCorrection_ok hcheck⟩

theorem placeAssertion_cases {store next : EvidenceStore} {content : AssertionContent}
    {created : Instant} (hplace : placeAssertion store content created = .ok next) :
    (next = store ∧ ∃ row ∈ store.assertions, row.content = content) ∨
      AssertionAppended store next ⟨content, created⟩ := by
  refine (placeAssertion_writes hplace).imp_right ?_
  rintro ⟨identifiers, rfl, hfresh, hcorrects⟩
  exact ⟨rfl, rfl, rfl, hfresh, hcorrects⟩

/-- The conflict row is there afterwards, and only it may be new. -/
theorem placeConflict_cases {store next : EvidenceStore} {row : ConflictRow}
    (hplace : placeConflict store row = .ok next) :
    next.assertions = store.assertions ∧ next.members = store.members ∧
      (next.conflicts = store.conflicts ∨ next.conflicts = store.conflicts ++ [row]) ∧
      ∃ conflict ∈ next.conflicts, conflict.conflictId = row.conflictId := by
  unfold placeConflict at hplace
  cases hfind : store.conflict? row.conflictId with
  | some found =>
      rw [hfind] at hplace
      cases hplace
      exact ⟨rfl, rfl, Or.inl rfl, found, conflict?_eq_some hfind⟩
  | none =>
      rw [hfind] at hplace
      change (if _ then _ else _) = _ at hplace
      split at hplace
      · cases hplace
      · cases hplace
        exact ⟨rfl, rfl, Or.inr rfl, row, List.mem_append_right _ (List.mem_singleton_self row),
          rfl⟩

section Conflicts

variable [Hashing]

/-- What deriving the conflict set of a topic does: nothing without two values, else
the set of the values is stored and has all known assertions as members. -/
inductive ConflictsRecorded (store next : EvidenceStore) (topic : Topic) : Prop where
  | settled (hfew : (distinctValues store topic).length < 2) (hnext : next = store)
  | recorded (hmany : 2 ≤ (distinctValues store topic).length)
      (hassertions : next.assertions = store.assertions)
      (hconflicts : next.conflicts = store.conflicts ∨ next.conflicts = store.conflicts ++
        [⟨conflictIdOf topic (distinctValues store topic), topic,
          valueDigest (distinctValues store topic)⟩])
      (hstored : ∃ conflict ∈ next.conflicts,
        conflict.conflictId = conflictIdOf topic (distinctValues store topic))
      (hmembers : store.members <+: next.members)
      (hnodup : store.members.Nodup → next.members.Nodup)
      (hmem : ∀ link, link ∈ next.members ↔ link ∈ store.members ∨
        ∃ row ∈ store.knownOf topic,
          link = (conflictIdOf topic (distinctValues store topic), row.assertionId))

theorem recordConflicts_recorded {store next : EvidenceStore} {topic : Topic}
    {records : List EvidenceConflictRecord}
    (hrecord : recordConflicts store topic = .ok (next, records)) :
    ConflictsRecorded store next topic := by
  dsimp only [recordConflicts] at hrecord
  split at hrecord
  next hfew =>
    cases hrecord
    exact .settled hfew rfl
  next hmany =>
    simp only [bind_eq_ok] at hrecord
    obtain ⟨named, hadd, placed, hplace, record, -, hnext⟩ := hrecord
    cases hnext
    have hsame := addIdentifierIfMissing_same hadd
    obtain ⟨hassertions, hmembers, hconflicts, hstored⟩ := placeConflict_cases hplace
    have hadded := addMembers_added (conflictIdOf topic (distinctValues store topic))
      (store.knownOf topic) placed
    rw [hsame.conflicts, ← hadded.conflicts] at hconflicts
    rw [hsame.members] at hmembers
    refine .recorded (by omega) ?_ hconflicts ?_ ?_ ?_ ?_
    · rw [hadded.assertions, hassertions, hsame.assertions]
    · rw [hadded.conflicts]
      exact hstored
    · rw [← hmembers]
      exact hadded.kept
    · rw [← hmembers]
      exact hadded.nodup
    · rw [← hmembers]
      exact hadded.mem

omit [Hashing] in
theorem addMembers_writes (conflictId : String) (rows : List AssertionRow) (store : EvidenceStore) :
    ∃ members, addMembers store conflictId rows = { store with members := members } := by
  induction rows generalizing store with
  | nil => exact ⟨store.members, rfl⟩
  | cons row rest ih =>
      obtain ⟨members, hrest⟩ := ih (addMember store conflictId row.assertionId)
      refine ⟨members, hrest.trans ?_⟩
      unfold addMember
      split
      · rfl
      · rfl

/-- Deriving conflicts writes no assertion and no assessment. -/
theorem recordConflicts_writes {store next : EvidenceStore} {topic : Topic}
    {records : List EvidenceConflictRecord}
    (hrecord : recordConflicts store topic = .ok (next, records)) :
    ∃ identifiers conflicts members, next = { store with
      identifiers := identifiers, conflicts := conflicts, members := members } := by
  dsimp only [recordConflicts] at hrecord
  split at hrecord
  · cases hrecord
    exact ⟨_, _, _, rfl⟩
  · simp only [bind_eq_ok] at hrecord
    obtain ⟨named, hadd, placed, hplace, record, -, hnext⟩ := hrecord
    cases hnext
    obtain ⟨identifiers, rfl⟩ := addIdentifierIfMissing_writes hadd
    have hplaced : ∃ conflicts,
        placed = { store with identifiers := identifiers, conflicts := conflicts } := by
      unfold placeConflict at hplace
      split at hplace
      · cases hplace
        exact ⟨_, rfl⟩
      · split at hplace
        · cases hplace
        · cases hplace
          exact ⟨_, rfl⟩
    obtain ⟨conflicts, rfl⟩ := hplaced
    obtain ⟨members, hmembers⟩ := addMembers_writes _ (store.knownOf topic)
      { store with identifiers := identifiers, conflicts := conflicts }
    exact ⟨identifiers, conflicts, members, hmembers⟩

/-! ## The invariant -/

/-- The set of the current values of a topic is stored with all known assertions. -/
def Complete (store : EvidenceStore) (topic : Topic) : Prop :=
  2 ≤ (distinctValues store topic).length →
    (∃ conflict ∈ store.conflicts,
      conflict.conflictId = conflictIdOf topic (distinctValues store topic)) ∧
    ∀ row ∈ store.knownOf topic,
      (conflictIdOf topic (distinctValues store topic), row.assertionId) ∈ store.members

def SameTopic (row other : AssertionRow) : Prop := row.topic = other.topic

/-- The invariant of the evidence tables.  While an assertion is inserted its own
topic may be pending. -/
structure Recorded (pending : Option Topic) (store : EvidenceStore) : Prop where
  grounded : Grounded AssertionRow.assertionId AssertionRow.predecessor SameTopic store.assertions
  complete : ∀ topic, some topic ≠ pending → Complete store topic
  sound : ∀ link ∈ store.members, ∃ row ∈ store.assertions, row.known = true ∧
    row.assertionId = link.2 ∧ ∃ values, link.1 = conflictIdOf row.topic values
  named : ∀ conflict ∈ store.conflicts, 2 ≤ (distinctValues store conflict.topic).length ∧
    ∃ values, conflict.valueDigest = valueDigest values ∧
      conflict.conflictId = conflictIdOf conflict.topic values
  nodup : store.members.Nodup

variable {store next : EvidenceStore}

theorem Complete.congr {topic : Topic} (hcomplete : Complete store topic)
    (hknown : next.knownOf topic = store.knownOf topic)
    (hconflicts : next.conflicts = store.conflicts) (hmembers : next.members = store.members) :
    Complete next topic := by
  unfold Complete distinctValues at hcomplete ⊢
  rw [hknown, hconflicts, hmembers]
  exact hcomplete

theorem Recorded.congr {pending : Option Topic} (hstore : Recorded pending store)
    (hsame : SameEvidence store next) : Recorded pending next := by
  have hknown : ∀ topic, next.knownOf topic = store.knownOf topic := fun topic => by
    rw [EvidenceStore.knownOf, EvidenceStore.knownOf, hsame.assertions]
  refine ⟨?_, fun topic htopic => ?_, ?_, ?_, ?_⟩
  · rw [hsame.assertions]
    exact hstore.grounded
  · exact (hstore.complete topic htopic).congr (hknown topic) hsame.conflicts hsame.members
  · rw [hsame.members, hsame.assertions]
    exact hstore.sound
  · intro conflict hconflict
    rw [distinctValues_congr hsame.assertions]
    exact hstore.named conflict (hsame.conflicts ▸ hconflict)
  · rw [hsame.members]
    exact hstore.nodup

/-- After an insertion the topics with unchanged known assertions stay complete. -/
theorem Recorded.append {row : AssertionRow} {pending : Option Topic}
    (hstore : Recorded none store) (hadded : AssertionAppended store next row)
    (hpending : ∀ topic, some topic ≠ pending → row.topic = topic → row.known = false) :
    Recorded pending next := by
  have hsubset : store.assertions ⊆ next.assertions := by
    rw [hadded.assertions]
    exact List.subset_append_left _ _
  refine ⟨?_, fun topic htopic => ?_, ?_, ?_, ?_⟩
  · rw [hadded.assertions]
    exact .snoc hstore.grounded hadded.fresh hadded.corrects
  · exact (hstore.complete topic nofun).congr
      (knownOf_append hadded.assertions (hpending topic htopic)) hadded.conflicts hadded.members
  · intro link hlink
    rw [hadded.members] at hlink
    obtain ⟨other, hother, hfound⟩ := hstore.sound link hlink
    exact ⟨other, hsubset hother, hfound⟩
  · intro conflict hconflict
    rw [hadded.conflicts] at hconflict
    obtain ⟨hmany, hname⟩ := hstore.named conflict hconflict
    exact ⟨hmany.trans (distinctValues_length_mono hsubset conflict.topic), hname⟩
  · rw [hadded.members]
    exact hstore.nodup

/-- Deriving the conflict set of the pending topic completes it. -/
theorem Recorded.settle {topic : Topic} (hstore : Recorded (some topic) store)
    (hrecorded : ConflictsRecorded store next topic) : Recorded none next := by
  cases hrecorded with
  | settled hfew hnext =>
      subst hnext
      refine ⟨hstore.grounded, fun other _ => ?_, hstore.sound, hstore.named, hstore.nodup⟩
      by_cases htopic : other = topic
      · rintro hmany
        rw [htopic] at hmany
        omega
      · exact hstore.complete other fun heq => htopic (Option.some.inj heq)
  | recorded hmany hassertions hconflicts hstored hmembers hnodup hmem =>
      have hvalues := distinctValues_congr hassertions
      have hknown : ∀ topic, next.knownOf topic = store.knownOf topic := fun topic => by
        rw [EvidenceStore.knownOf, EvidenceStore.knownOf, hassertions]
      have hkept : ∀ conflict ∈ store.conflicts, conflict ∈ next.conflicts := by
        intro conflict hconflict
        rcases hconflicts with hsame | hnew
        · rwa [hsame]
        · rw [hnew]
          exact List.mem_append_left _ hconflict
      refine ⟨hassertions ▸ hstore.grounded, fun other _ => ?_, ?_, ?_, hnodup hstore.nodup⟩
      · unfold Complete
        rw [hvalues, hknown]
        by_cases htopic : other = topic
        · subst htopic
          exact fun _ => ⟨hstored, fun row hrow => (hmem _).mpr (Or.inr ⟨row, hrow, rfl⟩)⟩
        · intro hseveral
          obtain ⟨⟨conflict, hconflict, hid⟩, hlinks⟩ :=
            hstore.complete other (fun heq => htopic (Option.some.inj heq)) hseveral
          exact ⟨⟨conflict, hkept conflict hconflict, hid⟩,
            fun row hrow => hmembers.subset (hlinks row hrow)⟩
      · intro link hlink
        rw [hassertions]
        rcases (hmem link).mp hlink with hold | ⟨row, hrow, rfl⟩
        · exact hstore.sound link hold
        · obtain ⟨hrow, htopic, hstate⟩ := mem_knownOf.mp hrow
          exact ⟨row, hrow, hstate, rfl, distinctValues store topic, by rw [htopic]⟩
      · intro conflict hconflict
        rw [hvalues]
        rcases hconflicts with hsame | hnew
        · exact hstore.named conflict (hsame ▸ hconflict)
        · rw [hnew] at hconflict
          rcases List.mem_append.mp hconflict with hold | hlast
          · exact hstore.named conflict hold
          · cases List.mem_singleton.mp hlast
            exact ⟨hmany, distinctValues store topic, rfl, rfl⟩

/-! ## What one call keeps -/

theorem ConflictsRecorded.kept {topic : Topic} (hrecorded : ConflictsRecorded store next topic) :
    Kept store next := by
  cases hrecorded with
  | settled hfew hnext =>
      rw [hnext]
      exact Kept.refl store
  | recorded hmany hassertions hconflicts hstored hmembers hnodup hmem =>
      refine ⟨?_, ?_, hmembers⟩
      · rw [hassertions]
      · rcases hconflicts with hsame | hnew
        · rw [hsame]
        · rw [hnew]
          exact List.prefix_append _ _

/-- Inserting one assertion keeps the invariant and what is stored. -/
theorem insertAssertionContent_recorded {context : Ingestion} {content : AssertionContent}
    {created : Instant} {inserted : InsertedAssertion}
    (hinsert : insertAssertionContent context store content created = .ok (next, inserted)) :
    Kept store next ∧ (Recorded none store → Recorded none next) := by
  simp only [insertAssertionContent, bind_eq_ok] at hinsert
  obtain ⟨placed, hplace, ⟨assessed, assessment⟩, hassess, ⟨settled, conflicts⟩, hrecord, record,
    -, hnext⟩ := hinsert
  cases hnext
  have hsame := insertCutoffAssessment_same hassess
  have hrecorded := recordConflicts_recorded hrecord
  have hplaced : Kept store placed ∧
      (Recorded none store → Recorded (some content.topic) placed) := by
    rcases placeAssertion_cases hplace with ⟨rfl, -⟩ | hadded
    · refine ⟨Kept.refl _, fun hstore => ?_⟩
      exact ⟨hstore.grounded, fun topic _ => hstore.complete topic nofun, hstore.sound,
        hstore.named, hstore.nodup⟩
    · refine ⟨hadded.kept, fun hstore => hstore.append hadded fun topic hother htopic => ?_⟩
      exact absurd (congrArg some htopic.symm) hother
  exact ⟨hplaced.1.trans (hsame.kept.trans hrecorded.kept),
    fun hstore => ((hplaced.2 hstore).congr hsame).settle hrecorded⟩

theorem ingestItem_recorded {context : Ingestion} {request : IngestRequest}
    {state last : EvidenceStore × List String} {item : EvidenceAssertionInput × ℕ}
    {inserted : InsertedAssertion}
    (hitem : ingestItem context request state item = .ok (last, inserted)) :
    Kept state.1 last.1 ∧ (Recorded none state.1 → Recorded none last.1) := by
  unfold ingestItem at hitem
  split at hitem
  · cases hitem
  · simp only [insertAssertion, bind_eq_ok] at hitem
    obtain ⟨_, -, selected, -, _, -, ⟨inserted, answer⟩, hinsert, hlast⟩ := hitem
    cases hlast
    exact insertAssertionContent_recorded hinsert

theorem ingest_recorded [PyRuntime] {request : IngestRequest} {result : EvidenceIngestionResult}
    (hingest : ingest store request = .ok (next, result)) :
    Kept store next ∧ (Recorded none store → Recorded none next) := by
  simp only [ingest, bind_eq_ok] at hingest
  obtain ⟨_, -, digest, -, sourced, hsource, originated, horigin, captured, hcapture, record, -,
    ⟨last, inserted⟩, hbatch, hnext⟩ := hingest
  cases hnext
  have hsame := ((ensureSource_same hsource).trans (ensureOrigin_same horigin)).trans
    (placeCapture_same hcapture)
  let related (first second : EvidenceStore × List String) : Prop :=
    Kept first.1 second.1 ∧ (Recorded none first.1 → Recorded none second.1)
  have hrefl : ∀ state, related state state := fun state => ⟨Kept.refl state.1, id⟩
  have htrans : ∀ first second third, related first second → related second third →
      related first third := fun _ _ _ hfirst hsecond =>
    ⟨hfirst.1.trans hsecond.1, fun hstore => hsecond.2 (hfirst.2 hstore)⟩
  have hitems := batch_relates hrefl htrans
    (fun state item last inserted hitem => ingestItem_recorded hitem) hbatch
  exact ⟨hsame.kept.trans hitems.1, fun hstore => hitems.2 (hstore.congr hsame)⟩

/-- Recording a silence appends at most an unknown assertion. -/
theorem recordUnknown_recorded [PyRuntime] {request : UnknownRequest}
    {record : EvidenceAssertionRecord}
    (hrecord : recordUnknown store request = .ok (next, record)) :
    Kept store next ∧ (Recorded none store → Recorded none next) := by
  simp only [recordUnknown, bind_eq_ok] at hrecord
  obtain ⟨_, -, _, -, named, hadd, ⟨assessed, assessment⟩, hassess, found, -, hnext⟩ := hrecord
  cases hnext
  have hnamed := addIdentifierIfMissing_same hadd
  have hsame := insertCutoffAssessment_same hassess
  unfold placeUnknown at hsame
  split at hsame
  · have hboth := hnamed.trans hsame
    exact ⟨hboth.kept, fun hstore => hstore.congr hboth⟩
  next hnone =>
    have hadded : AssertionAppended named { named with assertions := named.assertions ++ _ } _ :=
      ⟨rfl, rfl, rfl, assertion?_eq_none hnone, nofun⟩
    exact ⟨hnamed.kept.trans (hadded.kept.trans hsame.kept), fun hstore =>
      ((hstore.congr hnamed).append hadded fun _ _ _ => rfl).congr hsame⟩

theorem call_recorded [PyRuntime] {request : Request} {answer : Answer}
    (hcall : call store request = .ok (next, answer)) :
    Kept store next ∧ (Recorded none store → Recorded none next) := by
  cases request with
  | ingest request =>
      cases hingest : ingest store request with
      | error error =>
          rw [call, hingest] at hcall
          cases hcall
      | ok outcome =>
          rw [call, hingest] at hcall
          cases hcall
          exact ingest_recorded hingest
  | recordUnknown request =>
      cases hrecord : recordUnknown store request with
      | error error =>
          rw [call, hrecord] at hcall
          cases hcall
      | ok outcome =>
          rw [call, hrecord] at hcall
          cases hcall
          exact recordUnknown_recorded hrecord

/-! ## Runs -/

/-- No evidence is recorded yet; anything else may be stored. -/
structure NoEvidence (store : EvidenceStore) : Prop where
  assertions : store.assertions = []
  conflicts : store.conflicts = []
  members : store.members = []

theorem NoEvidence.recorded (hstore : NoEvidence store) : Recorded none store := by
  refine ⟨?_, fun topic _ hmany => ?_, ?_, ?_, ?_⟩
  · rw [hstore.assertions]
    exact .nil
  · rw [distinctValues, EvidenceStore.knownOf, hstore.assertions] at hmany
    exact absurd hmany (Nat.not_succ_le_zero 1)
  · rw [hstore.members]
    nofun
  · rw [hstore.conflicts]
    nofun
  · rw [hstore.members]
    exact List.nodup_nil

section Runs

variable [PyRuntime]

theorem run_recorded (hstore : Recorded none store) (requests : List Request) :
    Recorded none (run step store requests) := by
  have hmeets : RunMeets step (fun _ _ => True) store requests :=
    RunMeets.of_forall (fun _ _ => trivial) store
  refine run_preserves (Recorded none) (fun store request hbefore _ => ?_) hmeets hstore
  exact commit_preserves (Recorded none) hbefore fun _ _ hcall => (call_recorded hcall).2 hbefore

theorem run_kept (store : EvidenceStore) (requests : List Request) :
    Kept store (run step store requests) :=
  run_relates Kept.refl (fun _ _ _ => Kept.trans)
    (fun _ _ => commit_relates Kept.refl fun _ _ hcall => (call_recorded hcall).1) store requests

end Runs

/-! ## Conflict sets -/

theorem conflictIdOf_inj (hname : Function.Injective uuid5)
    (hdigest : ∀ written, Free ':' (sha256 written)) {topic other : Topic}
    {values others : List String} (heq : conflictIdOf topic values = conflictIdOf other others) :
    topic = other := by
  have hkey := (delimited_inj_left (by decide) (by decide) (hname heq)).2
  exact Topic.text_injective (delimited_inj_right (hdigest _) (hdigest _) hkey).1

/-- What the conflict sets of a store hold. -/
structure ConflictsComplete (store : EvidenceStore) : Prop where
  /-- Known assertions of a topic that differ share a stored set. -/
  common : ∀ first ∈ store.assertions, ∀ second ∈ store.assertions,
    first.known = true → second.known = true → first.topic = second.topic →
    (first.state, first.normalizedValue) ≠ (second.state, second.normalizedValue) →
    ∃ conflict ∈ store.conflicts, conflict.topic = first.topic ∧
      first.assertionId ∈ store.membersOf conflict.conflictId ∧
      second.assertionId ∈ store.membersOf conflict.conflictId
  /-- The set of the current values has exactly the known assertions as members. -/
  named : ∀ topic, 2 ≤ (distinctValues store topic).length →
    (∃ conflict ∈ store.conflicts, conflict.topic = topic ∧
      conflict.conflictId = conflictIdOf topic (distinctValues store topic)) ∧
    (store.membersOf (conflictIdOf topic (distinctValues store topic))).Perm
      ((store.knownOf topic).map AssertionRow.assertionId)
  /-- A topic with a set has several values. -/
  several : ∀ conflict ∈ store.conflicts, 2 ≤ (distinctValues store conflict.topic).length
  /-- An unknown assertion is in no set. -/
  unknown : ∀ row ∈ store.assertions, row.known = false →
    ∀ conflictId, row.assertionId ∉ store.membersOf conflictId

theorem knownOf_ids_nodup (hstore : Recorded none store) (topic : Topic) :
    ((store.knownOf topic).map AssertionRow.assertionId).Nodup := by
  have hperm := (sortedOn_perm AssertionRow.assertionId
    (store.assertions.filter fun row => row.topic = topic && row.known)).map
      AssertionRow.assertionId
  refine hperm.nodup_iff.mpr ?_
  exact hstore.grounded.nodup.sublist (List.filter_sublist.map _)

/-- The stored set of a topic's current values carries the topic. -/
theorem Recorded.exists_conflict (hname : Function.Injective uuid5)
    (hdigest : ∀ written, Free ':' (sha256 written)) (hstore : Recorded none store) {topic : Topic}
    (hmany : 2 ≤ (distinctValues store topic).length) :
    ∃ conflict ∈ store.conflicts, conflict.topic = topic ∧
      conflict.conflictId = conflictIdOf topic (distinctValues store topic) := by
  obtain ⟨conflict, hconflict, hid⟩ := (hstore.complete topic nofun hmany).1
  obtain ⟨-, values, -, hfound⟩ := hstore.named conflict hconflict
  exact ⟨conflict, hconflict, conflictIdOf_inj hname hdigest (hfound.symm.trans hid), hid⟩

/-- The members of the set of the current values are the known assertions. -/
theorem Recorded.members_perm (hname : Function.Injective uuid5)
    (hdigest : ∀ written, Free ':' (sha256 written)) (hstore : Recorded none store) {topic : Topic}
    (hmany : 2 ≤ (distinctValues store topic).length) :
    (store.membersOf (conflictIdOf topic (distinctValues store topic))).Perm
      ((store.knownOf topic).map AssertionRow.assertionId) := by
  refine (List.perm_ext_iff_of_nodup (membersOf_nodup hstore.nodup _)
    (knownOf_ids_nodup hstore topic)).mpr fun assertionId => ?_
  rw [mem_membersOf, List.mem_map]
  constructor
  · intro hlink
    obtain ⟨row, hrow, hknown, hid, values, hset⟩ := hstore.sound _ hlink
    have htopic := conflictIdOf_inj hname hdigest hset
    exact ⟨row, mem_knownOf.mpr ⟨hrow, htopic.symm, hknown⟩, hid⟩
  · rintro ⟨row, hrow, rfl⟩
    exact (hstore.complete topic nofun hmany).2 row hrow

theorem Recorded.conflicts (hname : Function.Injective uuid5)
    (hdigest : ∀ written, Free ':' (sha256 written)) (hstore : Recorded none store) :
    ConflictsComplete store := by
  refine ⟨?_, fun topic hmany => ⟨hstore.exists_conflict hname hdigest hmany,
    hstore.members_perm hname hdigest hmany⟩, fun conflict hconflict =>
      (hstore.named conflict hconflict).1, ?_⟩
  · intro first hfirst second hsecond hknown hother htopic hdiffer
    have hleft := mem_knownOf.mpr ⟨hfirst, rfl, hknown⟩
    have hright := mem_knownOf.mpr ⟨hsecond, htopic.symm, hother⟩
    have hmany := two_values hleft hright hdiffer
    obtain ⟨conflict, hconflict, hsame, hid⟩ := hstore.exists_conflict hname hdigest hmany
    have hlinks := (hstore.complete first.topic nofun hmany).2
    refine ⟨conflict, hconflict, hsame, ?_, ?_⟩
    · rw [hid, mem_membersOf]
      exact hlinks first hleft
    · rw [hid, mem_membersOf]
      exact hlinks second hright
  · intro row hrow hunknown conflictId hmember
    obtain ⟨other, hother, hknown, hid, -⟩ := hstore.sound _ (mem_membersOf.mp hmember)
    cases hstore.grounded.row_unique hother hrow hid
    rw [hunknown] at hknown
    cases hknown

end Conflicts

/-! ## Corrections -/

/-- The first assertion corrects the second one. -/
abbrev Corrects (store : EvidenceStore) : String → String → Prop :=
  Names AssertionRow.assertionId AssertionRow.predecessor store.assertions

/-- The assertions from the given one to its root. -/
abbrev CorrectionPath (store : EvidenceStore) : String → List AssertionRow → Prop :=
  PathToRoot AssertionRow.assertionId AssertionRow.predecessor store.assertions

/-- Corrections form forests, and a chain is the path to the root. -/
structure CorrectionsForest (store : EvidenceStore) : Prop where
  /-- A correction keeps its subject, type and predicate. -/
  sameTopic : ∀ row ∈ store.assertions, ∀ name, row.predecessor = some name →
    ∃ other ∈ store.assertions, other.assertionId = name ∧ row.topic = other.topic
  acyclic : ∀ assertionId, ¬ Relation.TransGen (Corrects store) assertionId assertionId
  /-- With enough steps the chain returns the path, in creation order. -/
  chain : ∀ row ∈ store.assertions, ∃ path, CorrectionPath store row.assertionId path ∧
    ∀ fuel, path.length ≤ fuel → correctionChain store fuel row.assertionId =
      some ((sortedOn creationOrder path).map (assertionRecord store))
  /-- An identifier that is not stored has an empty chain. -/
  unstored : ∀ assertionId, (∀ row ∈ store.assertions, row.assertionId ≠ assertionId) →
    ∀ fuel, correctionChain store (fuel + 1) assertionId = some []

theorem chainRows_path {store : EvidenceStore}
    (hgrounded : Grounded AssertionRow.assertionId AssertionRow.predecessor SameTopic
      store.assertions)
    {assertionId : String} {path : List AssertionRow}
    (hpath : CorrectionPath store assertionId path) {fuel : ℕ} (hfuel : path.length ≤ fuel) :
    chainRows store fuel assertionId = some (sortedOn creationOrder path) := by
  rw [chainRows, chainQuery, hgrounded.traverse_path hpath hfuel, Option.map_some,
    hgrounded.flatMap_filter hpath.subset]

theorem chainRows_unstored {store : EvidenceStore} {assertionId : String}
    (hunstored : ∀ row ∈ store.assertions, row.assertionId ≠ assertionId) (fuel : ℕ) :
    chainRows store (fuel + 1) assertionId = some [] := by
  have hnone : store.assertions.filter (fun row => row.assertionId = assertionId) = [] :=
    List.filter_eq_nil_iff.mpr fun row hrow => by simpa using hunstored row hrow
  rw [chainRows, chainQuery, Foundation.Forest.traverse, parentsOf_eq_nil hunstored, List.append_nil, traverse_nil,
    Option.map_some, Option.map_some, List.flatMap_cons, hnone]
  rfl

theorem Recorded.corrections [Hashing] {store : EvidenceStore} (hstore : Recorded none store) :
    CorrectionsForest store := by
  refine ⟨fun row hrow name hname => hstore.grounded.parent_stored hrow hname,
    hstore.grounded.acyclic, fun row hrow => ?_, fun assertionId hunstored fuel => ?_⟩
  · obtain ⟨path, hpath⟩ := hstore.grounded.exists_path hrow
    refine ⟨path, hpath, fun fuel hfuel => ?_⟩
    rw [correctionChain, chainRows_path hstore.grounded hpath hfuel, Option.map_some]
  · rw [correctionChain, chainRows_unstored hunstored]
    rfl

/-! ## Histories -/

/-- After any calls on a store without evidence the conflict sets are complete and the
corrections form forests, and more calls change nothing that is stored. -/
theorem run_evidence [Hashing] [PyRuntime] (hname : Function.Injective uuid5)
    (hdigest : ∀ written, Free ':' (sha256 written)) {store : EvidenceStore}
    (hstore : NoEvidence store) (requests more : List Request) :
    ConflictsComplete (run step store requests) ∧ CorrectionsForest (run step store requests) ∧
      Kept (run step store requests) (run step store (requests ++ more)) := by
  have hrecorded := run_recorded hstore.recorded requests
  refine ⟨hrecorded.conflicts hname hdigest, hrecorded.corrections, ?_⟩
  have hlater := run_kept (run step store requests) more
  rwa [run, run, ← List.foldl_append] at hlater

/-! ## Two reports, a correction and a silence -/

namespace Reports

local instance : Hashing := shapeHashing

local instance : PyRuntime := plainRuntime

theorem digest_free (written : List Token) : Free ':' (sha256 written) := by
  intro hmem
  rw [show sha256 written = Nat.repr _ from rfl, Nat.toList_repr] at hmem
  exact absurd (Nat.isDigit_of_mem_toDigits (by omega) (by omega) hmem) (by decide)

theorem name_injective : Function.Injective uuid5 := by
  intro first second heq
  have hopen : "(" ++ (first ++ ")") = "(" ++ (second ++ ")") := by
    rw [← String.append_assoc, ← String.append_assoc]
    exact heq
  rwa [String.append_right_inj, String.append_left_inj] at hopen

def person : Uuid := ⟨"0b6f1c1e-8a52-5d0f-9c3e-2f4a6b8d0e1f", by decide +kernel⟩

def club : SourceIdentity where
  sourceKey := "club"
  canonicalName := "Club"
  owner := "Club"
  sourceClass := .officialClub
  accessMethod := "manual"
  baseLocator := "club"
  allowedUse := "CITATION"
  retentionStatus := "CITATION_ONLY"
  redistributable := false
  termsReference := "terms"
  sourceId := none
  termsObservedAtUtc := none

def desk : IndependentOrigin := ⟨"desk", "Club", none, "DIRECT_ORIGIN", none⟩

/-- A citation of the club's page. -/
def citation (locator : String) : SourceCaptureInput where
  source := club
  origin := desk
  locator := locator
  retrievedAtUtc := 0
  publishedAtUtc := none
  content := none
  contentSha256 := none
  captureKey := none
  accessMethod := "manual"
  responseStatus := 200
  contentType := "text/html"
  captureKind := .citationOnly
  citationNote := none
  retained := by decide
  digested := by decide

def report (value : String) (correctionOf : Option String) : EvidenceAssertionInput where
  subjectKind := .person
  subjectId := person
  evidenceType := .injury
  predicate := "status"
  asserted := .observed value
  evidenceClass := none
  eventTimeUtc := none
  effectiveTimeUtc := none
  assertionKey := some "report"
  sourceRowKey := none
  correctionOf := correctionOf

def ingestion (locator value : String) (correctionOf : Option String) : Request :=
  .ingest
    { capture := citation locator
      assertions := [report value correctionOf]
      cutoffUtc := none
      researchCutoffId := none
      publishing := refuse .other "No bytes to publish."
      failureHook := fun _ => none
      clock := fun _ => 0 }

def silence : Request :=
  .recordUnknown
    { subjectKind := .person
      subjectId := person
      evidenceType := .injury
      predicate := "status"
      reason := "No report."
      evidenceClass := none
      materiality := none
      cutoffUtc := none
      researchCutoffId := none
      attemptedAtUtc := none
      clock := 0 }

/-- The identifier of the report at a locator. -/
def reportId (locator : String) : String :=
  assertionIdOf (captureIdOf (citation locator) (sourceIdOf club) (originIdOf desk)) "report"

def noReports : EvidenceStore where
  identifiers := []
  subjects := [(.person, person.text)]
  cutoffs := []
  sourceStatus := []
  sources := []
  origins := []
  captures := []
  assertions := []
  assessments := []
  conflicts := []
  members := []

def reports : List Request :=
  [ingestion "first" "\"OUT\"" none, ingestion "second" "\"FIT\"" none, silence,
    ingestion "third" "\"FIT\"" (some (reportId "first"))]

/-- How many assertions, conflicts and memberships are stored. -/
def counts (store : EvidenceStore) : ℕ × ℕ × ℕ :=
  (store.assertions.length, store.conflicts.length, store.members.length)

/-- The first report is stored, and the history of all calls keeps the laws. -/
theorem reports_evidence :
    counts (run step noReports [ingestion "first" "\"OUT\"" none]) = (1, 0, 0) ∧
    ConflictsComplete (run step noReports reports) ∧
      CorrectionsForest (run step noReports reports) ∧
      Kept (run step noReports reports) (run step noReports (reports ++ reports)) :=
  ⟨by decide +kernel, run_evidence name_injective digest_free ⟨rfl, rfl, rfl⟩ reports reports⟩

end Reports

end MatchVet.T07.Conflicts
