import MatchVet.T10.Coherence
import MatchVet.T10.EvidenceStore

/-!
# Grading a set of evidence

Grading sorts its records, so their order does not matter.  A repeated record does:
the constructor of a grade compares the distinct identifiers with the repeated
ones, and refuses.
-/

namespace MatchVet.T10.EvidenceSet

open MatchVet.Foundation.CanonicalJson
open MatchVet.Foundation.KeySort
open MatchVet.Foundation.Runtime
open MatchVet.T10.Catalog
open MatchVet.T10.Closing (factGroup_supplies)
open MatchVet.T10.Coherence (settlePreference_eq)
open MatchVet.T10.Evidence
open MatchVet.T10.EvidenceStore (ToldApart)
open MatchVet.T10.Grade
open MatchVet.T10.GradeFrame
open MatchVet.T10.Grader
open MatchVet.T10.Grading

section Records

variable [Hashing] {first second : List SettlementEvidence}

theorem evidenceId_nodup (happart : ToldApart first) :
    (first.map SettlementEvidence.evidenceId).Nodup ↔ first.Nodup :=
  ⟨List.Nodup.of_map _, fun hnodup => hnodup.map_on happart⟩

theorem sortedRecords_perm (evidence : List SettlementEvidence) :
    (sortedRecords evidence).Perm evidence :=
  List.perm_insertionSort _ evidence

theorem evidenceId_of_recordOrder {item other : SettlementEvidence}
    (hsame : recordOrder item = recordOrder other) : item.evidenceId = other.evidenceId := by
  have hdigest : item.evidenceDigest = other.evidenceDigest :=
    congrArg (fun key => (ofLex (ofLex (ofLex (ofLex key).2).2).2).2) hsame
  rw [SettlementEvidence.evidenceId, hdigest, SettlementEvidence.evidenceId]

/-- Permuted records are sorted alike. -/
theorem sortedRecords_eq_of_perm (happart : ToldApart first) (hperm : first.Perm second) :
    sortedRecords first = sortedRecords second :=
  sortedOn_eq_of_perm recordOrder hperm fun item hitem other hother hsame =>
    happart item hitem other hother (evidenceId_of_recordOrder hsame)

/-- A contract of the catalog has an outcome on every evidence. -/
theorem gradeOutcome_total {preference : BettingPreference}
    (henabled : preference ∈ enabledPreferences) (records : List SettlementEvidence)
    (withdrawn finalize : Bool) :
    ∃ outcome, gradeOutcome records withdrawn finalize preference = .ok outcome := by
  unfold gradeOutcome
  dsimp only
  split
  · exact ⟨_, rfl⟩
  · split
    · exact ⟨_, rfl⟩
    · exact ⟨_, rfl⟩
    · split
      · exact ⟨_, rfl⟩
      · split
        · exact ⟨_, rfl⟩
        · unfold completeOutcome
          dsimp only
          split
          · exact ⟨_, rfl⟩
          · split
            · exact ⟨_, rfl⟩
            next selected hselected =>
              rw [settlePreference_eq henabled,
                if_pos (factGroup_supplies hselected).complete]
              exact ⟨_, rfl⟩

end Records

section Grades

variable [PyRuntime] [Hashing]

/-- A request with other evidence. -/
def withEvidence (request : GradeRequest) (evidence : List SettlementEvidence) : GradeRequest :=
  { request with evidence := evidence }

/-- The parts of a grade that the evidence decides. -/
structure Grading where
  gradingState : GradingState
  settlementResult : Option SettlementResult
  reasonCode : String
  evidenceIds : List String
  selectedEvidenceSetId : Option String
  selectedSourceLevel : Option SettlementSource
  selectedSourceKey : Option String
  selectedSourceRecordIds : List String

def gradingOf (graded : SettlementGrade) : Grading where
  gradingState := graded.gradingState
  settlementResult := graded.settlementResult
  reasonCode := graded.reasonCode
  evidenceIds := graded.evidenceIds
  selectedEvidenceSetId := graded.selectedEvidenceSetId
  selectedSourceLevel := graded.selectedSourceLevel
  selectedSourceKey := graded.selectedSourceKey
  selectedSourceRecordIds := graded.selectedSourceRecordIds

/-- Both calls succeed with the same grading, or both are refused. -/
def SameGrading (first second : Except T10Error SettlementGrade) : Prop :=
  first.toOption.map gradingOf = second.toOption.map gradingOf

/-- The request names no contract of the catalog, no consistent identities or no common
fixture. -/
def Refused (request : GradeRequest) : Prop :=
  ∀ preference selected fixtureId, ¬ Framed request preference selected fixtureId

omit [PyRuntime] in
theorem toOption_eq_none {call : Except T10Error SettlementGrade}
    (hfails : ¬∃ graded, call = .ok graded) : call.toOption = none := by
  cases call with
  | error error => rfl
  | ok graded => exact absurd ⟨graded, rfl⟩ hfails

omit [PyRuntime] in
theorem SameGrading.isOk {first second : Except T10Error SettlementGrade}
    (hsame : SameGrading first second) :
    (∃ graded, first = .ok graded) ↔ ∃ graded, second = .ok graded := by
  cases first <;> cases second <;> simp_all [SameGrading, Except.toOption]

/-- A framed request is graded when no evidence identifier is repeated. -/
theorem grade_isOk {request : GradeRequest} :
    (∃ graded, grade request = .ok graded) ↔
      ¬ Refused request ∧ (request.evidence.map SettlementEvidence.evidenceId).Nodup := by
  have hsorted := (sortedRecords_perm request.evidence).map SettlementEvidence.evidenceId
  constructor
  · rintro ⟨graded, hgrade⟩
    obtain ⟨preference, selected, fixtureId, outcome, framed, houtcome, hnodup, hgraded⟩ :=
      grade_eq_ok.mp hgrade
    exact ⟨fun hrefused => hrefused preference selected fixtureId framed,
      hsorted.nodup_iff.mp hnodup⟩
  · rintro ⟨hframed, hnodup⟩
    unfold Refused at hframed
    push Not at hframed
    obtain ⟨preference, selected, fixtureId, framed⟩ := hframed
    obtain ⟨outcome, houtcome⟩ := gradeOutcome_total
      (List.mem_of_find?_eq_some framed.contract) (sortedRecords request.evidence)
      request.withdrawn (closes request)
    exact ⟨_, grade_eq_ok.mpr ⟨preference, selected, fixtureId, outcome, framed, houtcome,
      hsorted.nodup_iff.mpr hnodup, rfl⟩⟩

/-- Two lists of records name the same fixtures. -/
def SameFixtures (first second : List SettlementEvidence) : Prop :=
  ∀ fixtureId, fixtureId ∈ first.map SettlementEvidence.fixtureId ↔
    fixtureId ∈ second.map SettlementEvidence.fixtureId

omit [PyRuntime] in
theorem framed_withEvidence {request : GradeRequest} {other : List SettlementEvidence}
    (hfixtures : SameFixtures request.evidence other) {preference : BettingPreference}
    {selected : Identities} {fixtureId : String}
    (framed : Framed request preference selected fixtureId) :
    Framed (withEvidence request other) preference selected fixtureId := by
  have hcommon : ∀ item ∈ other, item.fixtureId = fixtureId := by
    intro item hitem
    obtain ⟨found, hfound, hsame⟩ := List.mem_map.mp
      ((hfixtures item.fixtureId).mpr (List.mem_map_of_mem hitem))
    exact hsame ▸ framed.common found hfound
  refine ⟨framed.contract, framed.identified, ?_, hcommon⟩
  obtain ⟨given, hgiven, htext⟩ := framed.fixture
  change ∃ given, requestedFixture selected.fixtureId (sortedRecords other) = .ok given ∧ _
  cases hselected : selected.fixtureId with
  | some named =>
      rw [hselected] at hgiven
      exact ⟨given, hgiven, htext⟩
  | none =>
      rw [hselected] at hgiven
      cases hrecords : sortedRecords request.evidence with
      | nil =>
          rw [hrecords] at hgiven
          cases hgiven
      | cons first rest =>
          have hfirst : first ∈ request.evidence :=
            (sortedRecords_perm _).mem_iff.mp (hrecords ▸ List.mem_cons_self)
          obtain ⟨found, hfound, -⟩ := List.mem_map.mp
            ((hfixtures first.fixtureId).mp (List.mem_map_of_mem hfirst))
          obtain ⟨head, tail, hother⟩ := List.exists_cons_of_ne_nil
            (List.ne_nil_of_mem ((sortedRecords_perm other).mem_iff.mpr hfound))
          have hhead : head ∈ other :=
            (sortedRecords_perm other).mem_iff.mp (hother ▸ List.mem_cons_self)
          rw [hother]
          exact ⟨fixtureId, congrArg Except.ok (hcommon head hhead), framed.fixture_text⟩

omit [PyRuntime] in
theorem refused_withEvidence {request : GradeRequest} {other : List SettlementEvidence}
    (hfixtures : SameFixtures request.evidence other) :
    Refused (withEvidence request other) ↔ Refused request := by
  refine ⟨fun hrefused preference selected fixtureId framed =>
    hrefused _ _ _ (framed_withEvidence hfixtures framed), fun hrefused preference selected
    fixtureId framed => ?_⟩
  have hback : SameFixtures (withEvidence request other).evidence request.evidence :=
    fun name => (hfixtures name).symm
  exact hrefused _ _ _ (framed_withEvidence hback framed)

/-- A permutation of distinguishable records is graded alike. -/
theorem grade_eq_of_perm {request : GradeRequest} {other : List SettlementEvidence}
    (happart : ToldApart request.evidence) (hperm : request.evidence.Perm other) :
    grade (withEvidence request other) = grade request := by
  unfold Grader.grade withEvidence
  dsimp only
  rw [sortedRecords_eq_of_perm happart hperm]
  rfl

/-- Two lists of the same records are graded alike exactly when both or neither repeat a
record, or the request is refused anyway. -/
theorem sameGrading_iff {request : GradeRequest} {other : List SettlementEvidence}
    (hset : ∀ item, item ∈ other ↔ item ∈ request.evidence)
    (happart : ToldApart request.evidence) :
    SameGrading (grade request) (grade (withEvidence request other)) ↔
      ((request.evidence.Nodup ↔ other.Nodup) ∨ Refused request) := by
  have happartOther : ToldApart other := fun item hitem found hfound =>
    happart item ((hset item).mp hitem) found ((hset found).mp hfound)
  have hfixtures : SameFixtures request.evidence other := fun fixtureId => by
    simp only [List.mem_map, hset]
  have hfirst := @grade_isOk _ _ request
  have hsecond := @grade_isOk _ _ (withEvidence request other)
  rw [evidenceId_nodup happart] at hfirst
  rw [refused_withEvidence hfixtures] at hsecond
  change _ ↔ ¬ Refused request ∧ (other.map SettlementEvidence.evidenceId).Nodup at hsecond
  rw [evidenceId_nodup happartOther] at hsecond
  constructor
  · intro hsame
    have hboth := hsame.isOk
    rw [hfirst, hsecond] at hboth
    by_cases hrefused : Refused request
    · exact Or.inr hrefused
    · simp only [hrefused, not_false_eq_true, true_and] at hboth
      exact Or.inl hboth
  · intro hcase
    by_cases hok : ¬ Refused request ∧ request.evidence.Nodup
    · have hother : other.Nodup := hcase.elim (fun hnodup => hnodup.mp hok.2)
        fun hrefused => absurd hrefused hok.1
      have hperm : request.evidence.Perm other :=
        (List.perm_ext_iff_of_nodup hok.2 hother).mpr fun item => (hset item).symm
      rw [grade_eq_of_perm happart hperm]
      exact Eq.refl _
    · have hotherOk : ¬(¬ Refused request ∧ other.Nodup) := fun hother =>
        hok ⟨hother.1, hcase.elim (fun hnodup => hnodup.mpr hother.2)
          fun hrefused => absurd hrefused hother.1⟩
      rw [SameGrading, toOption_eq_none (hfirst.not.mpr hok),
        toOption_eq_none (hsecond.not.mpr hotherOk)]

end Grades

/-! ## A repeated record -/

namespace LeagueResult

open MatchVet.T10.Authority.LeagueResult

local instance : PyRuntime := plainRuntime

local instance : Hashing := shapeHashing

def league : SettlementEvidence := played .competition "league" 2 1

def club : SettlementEvidence := played .club "club" 0 1

/-- The same record given twice is refused. -/
theorem repeated_refused :
    (∀ item, item ∈ [league, league] ↔ item ∈ [league]) ∧
      ¬ SameGrading (grade (homeRequest [league]))
        (grade (withEvidence (homeRequest [league]) [league, league])) := by
  refine ⟨fun item => by simp, fun hsame => ?_⟩
  have hfirst : (grade (homeRequest [league])).toOption.isSome = true := by decide +kernel
  have hsecond : (grade (withEvidence (homeRequest [league])
      [league, league])).toOption.isSome = false := by decide +kernel
  have hboth := congrArg Option.isSome hsame
  rw [Option.isSome_map, Option.isSome_map, hfirst, hsecond] at hboth
  cases hboth

/-- Two records are graded alike in both orders. -/
theorem swapped_sameGrading :
    SameGrading (grade (homeRequest [league, club]))
      (grade (withEvidence (homeRequest [league, club]) [club, league])) := by
  have hset : ∀ item, item ∈ [club, league] ↔ item ∈ [league, club] := fun item => by
    simp [or_comm]
  have hnodup : [league, club].Nodup := by decide +kernel
  have hother : [club, league].Nodup := by decide +kernel
  have happart : ToldApart [league, club] := by
    unfold ToldApart
    decide +kernel
  exact (sameGrading_iff hset happart).mpr (Or.inl (iff_of_true hnodup hother))

end LeagueResult

end MatchVet.T10.EvidenceSet
