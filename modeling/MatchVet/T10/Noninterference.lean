import MatchVet.T10.EvidenceSet
import MatchVet.T10.Hierarchy

/-!
# Only regulation facts decide

A settlement reads the source, the record set, the status and the regulation facts of
its records.  Records that agree in these settle alike, whatever their extra time,
shootouts, provenance and timestamps say.  The order of the records follows digests
over everything, so the argument is over groups whose records may be rearranged.
-/

namespace MatchVet.T10.Noninterference

open MatchVet.Foundation.CanonicalJson
open MatchVet.Foundation.KeySort
open MatchVet.Foundation.Runtime
open MatchVet.T10.Catalog
open MatchVet.T10.Evidence
open MatchVet.T10.EvidenceSet
open MatchVet.T10.Grade
open MatchVet.T10.GradeFrame
open MatchVet.T10.Grader
open MatchVet.T10.Grading
open MatchVet.T10.Hierarchy (Verdict gradeVerdict outcomeVerdict)

/-! ## The regulation part of a record -/

/-- What a settlement may read of a record. -/
structure Regulation where
  fixtureId : String
  sourceLevel : SettlementSource
  sourceKey : String
  recordSetId : String
  statusKind : StatusKind
  fullTimeHomeGoals : Option ℕ
  fullTimeAwayGoals : Option ℕ
  halfTimeHomeGoals : Option ℕ
  halfTimeAwayGoals : Option ℕ
  cornersHome : Option ℕ
  cornersAway : Option ℕ
  deriving DecidableEq

def regulation (evidence : SettlementEvidence) : Regulation where
  fixtureId := evidence.fixtureId
  sourceLevel := evidence.sourceLevel
  sourceKey := evidence.sourceKey
  recordSetId := evidence.recordSetId
  statusKind := evidence.statusKind
  fullTimeHomeGoals := evidence.counts.fullTimeHomeGoals
  fullTimeAwayGoals := evidence.counts.fullTimeAwayGoals
  halfTimeHomeGoals := evidence.counts.halfTimeHomeGoals
  halfTimeAwayGoals := evidence.counts.halfTimeAwayGoals
  cornersHome := evidence.counts.cornersHome
  cornersAway := evidence.counts.cornersAway

namespace Regulation

def groupKey (facts : Regulation) : GroupKey :=
  (facts.sourceLevel, facts.sourceKey, facts.recordSetId)

def fact (facts : Regulation) : Fact → Option ℕ
  | .fullTimeHomeGoals => facts.fullTimeHomeGoals
  | .fullTimeAwayGoals => facts.fullTimeAwayGoals
  | .halfTimeHomeGoals => facts.halfTimeHomeGoals
  | .halfTimeAwayGoals => facts.halfTimeAwayGoals
  | .cornersHome => facts.cornersHome
  | .cornersAway => facts.cornersAway

def invalidPhaseRelationship (facts : Regulation) : Bool :=
  SettlementEvidence.halfExceeds facts.halfTimeHomeGoals facts.fullTimeHomeGoals ||
    SettlementEvidence.halfExceeds facts.halfTimeAwayGoals facts.fullTimeAwayGoals

theorem fact_regulation (evidence : SettlementEvidence) (name : Fact) :
    (regulation evidence).fact name = evidence.fact name := by
  cases name <;> rfl

end Regulation

/-- Two lists of records with the same regulation parts, in any order. -/
def SameRegulation (first second : List SettlementEvidence) : Prop :=
  (first.map regulation).Perm (second.map regulation)

section Lists

variable {first second : List SettlementEvidence}

theorem SameRegulation.symm (hsame : SameRegulation first second) : SameRegulation second first :=
  List.Perm.symm hsame

theorem SameRegulation.map {α : Type} (hsame : SameRegulation first second)
    (read : Regulation → α) :
    (first.map fun item => read (regulation item)).Perm
      (second.map fun item => read (regulation item)) := by
  have hmapped := List.Perm.map read hsame
  rw [List.map_map, List.map_map] at hmapped
  exact hmapped

theorem SameRegulation.filter (hsame : SameRegulation first second) (keep : Regulation → Bool) :
    SameRegulation (first.filter fun item => keep (regulation item))
      (second.filter fun item => keep (regulation item)) := by
  have hkept := List.Perm.filter keep hsame
  rw [List.filter_map, List.filter_map] at hkept
  exact hkept

theorem SameRegulation.any (hsame : SameRegulation first second) (check : Regulation → Bool) :
    (first.any fun item => check (regulation item)) =
      second.any fun item => check (regulation item) := by
  have hany := List.Perm.any_eq (f := check) hsame
  rw [List.any_map, List.any_map] at hany
  exact hany

end Lists

/-! ## Groups -/

/-- Two groups that a settlement cannot tell apart. -/
structure Alike (first second : EvidenceGroup) : Prop where
  sourceLevel : first.sourceLevel = second.sourceLevel
  sourceKey : first.sourceKey = second.sourceKey
  records : SameRegulation first.records second.records

/-- The first of some values, when they are all the same. -/
theorem head?_eq_of_card {values : List ℕ} (hone : ¬1 < values.toFinset.card) {number : ℕ}
    (hmem : number ∈ values) : values.head? = some number := by
  cases values with
  | nil => cases hmem
  | cons head rest =>
      have hcard : (head :: rest).toFinset.card ≤ 1 := not_lt.mp hone
      have heq := Finset.card_le_one.mp hcard head (List.mem_toFinset.mpr List.mem_cons_self)
        number (List.mem_toFinset.mpr hmem)
      rw [List.head?_cons, heq]

theorem head?_eq_of_perm {first second : List ℕ} (hperm : first.Perm second)
    (hone : ¬1 < first.toFinset.card) : first.head? = second.head? := by
  have htwo : ¬1 < second.toFinset.card := List.toFinset_eq_of_perm _ _ hperm ▸ hone
  cases hfirst : first.head? with
  | none =>
      rw [List.head?_eq_none_iff.mp hfirst] at hperm
      rw [hperm.nil_eq.symm]
      rfl
  | some number =>
      exact (head?_eq_of_card htwo (hperm.mem_iff.mp (List.mem_of_head? hfirst))).symm

namespace Alike

variable {first second : EvidenceGroup}

theorem symm (halike : Alike first second) : Alike second first :=
  ⟨halike.sourceLevel.symm, halike.sourceKey.symm, halike.records.symm⟩

theorem sourceRank (halike : Alike first second) : first.sourceRank = second.sourceRank :=
  congrArg SettlementSource.rank halike.sourceLevel

theorem statusKinds (halike : Alike first second) : first.statusKinds = second.statusKinds :=
  List.toFinset_eq_of_perm _ _ (halike.records.map Regulation.statusKind)

theorem value (halike : Alike first second) (name : Fact) :
    first.value name = second.value name := by
  have hvalues : (first.records.filterMap fun item => item.fact name).Perm
      (second.records.filterMap fun item => item.fact name) := by
    have hmapped := (halike.records.map fun facts => facts.fact name).filterMap id
    simp only [List.filterMap_map, Function.id_comp, Regulation.fact_regulation] at hmapped
    exact hmapped
  unfold EvidenceGroup.value
  dsimp only
  rw [List.toFinset_eq_of_perm _ _ hvalues]
  split
  · rfl
  next hone =>
    rw [head?_eq_of_perm hvalues (by rwa [List.toFinset_eq_of_perm _ _ hvalues])]

theorem completeFor (halike : Alike first second) (factSet : List Fact) :
    first.completeFor factSet = second.completeFor factSet := by
  have hknown : first.factKnown = second.factKnown := by
    funext name
    unfold EvidenceGroup.factKnown
    rw [halike.value name]
  unfold EvidenceGroup.completeFor EvidenceGroup.statusConflict
  rw [halike.statusKinds, hknown, halike.value, halike.value, halike.value, halike.value]

theorem conflictsFor (halike : Alike first second) (factSet : List Fact) :
    first.conflictsFor factSet = second.conflictsFor factSet := by
  unfold EvidenceGroup.conflictsFor EvidenceGroup.statusConflict
  rw [halike.statusKinds]
  simp only [halike.value]

theorem signature (halike : Alike first second) (factSet : List Fact) :
    first.signature factSet = second.signature factSet := by
  unfold EvidenceGroup.signature
  simp only [halike.value]

theorem valuesFor (halike : Alike first second) : first.valuesFor = second.valuesFor := by
  funext factSet
  unfold EvidenceGroup.valuesFor
  rw [halike.completeFor]
  simp only [halike.value]

/-- Groups that are alike settle alike. -/
theorem settlePreference (halike : Alike first second) (preference : BettingPreference) :
    settlePreference preference first = settlePreference preference second := by
  unfold Grading.settlePreference
  rw [halike.valuesFor]

end Alike

/-! ## Lists of groups -/

/-- Groups that correspond one by one. -/
def AllAlike (first second : List EvidenceGroup) : Prop := List.Forall₂ Alike first second

namespace AllAlike

variable {first second : List EvidenceGroup}

theorem symm (halike : AllAlike first second) : AllAlike second first :=
  (List.Forall₂.imp (fun _ _ heach => Alike.symm heach) halike).flip

theorem filter (halike : AllAlike first second) {keep : EvidenceGroup → Bool}
    (hkeep : ∀ {left right}, Alike left right → keep left = keep right) :
    AllAlike (first.filter keep) (second.filter keep) :=
  List.rel_filter (fun _ _ heach => by simp only [hkeep heach]) halike

theorem map {α : Type} (halike : AllAlike first second) {read : EvidenceGroup → α}
    (hread : ∀ {left right}, Alike left right → read left = read right) :
    first.map read = second.map read := by
  induction halike with
  | nil => rfl
  | cons heach _ ih => rw [List.map_cons, List.map_cons, hread heach, ih]

theorem head? (halike : AllAlike first second) : Option.Rel Alike first.head? second.head? := by
  cases halike with
  | nil => exact .none
  | cons heach _ => exact .some heach

theorem minimumRank? (halike : AllAlike first second) :
    minimumRank? (first.map EvidenceGroup.sourceRank) =
      minimumRank? (second.map EvidenceGroup.sourceRank) :=
  congrArg _ (halike.map Alike.sourceRank)

theorem atRank (halike : AllAlike first second) (rank : Option ℕ) :
    AllAlike (atRank first rank) (atRank second rank) :=
  halike.filter fun heach => by rw [heach.sourceRank]

/-- The status kinds of all records of some groups. -/
theorem kinds (halike : AllAlike first second) :
    (first.flatMap fun group => group.records.map SettlementEvidence.statusKind).toFinset =
      (second.flatMap fun group =>
        group.records.map SettlementEvidence.statusKind).toFinset := by
  refine List.toFinset_eq_of_perm _ _ ?_
  induction halike with
  | nil => exact .nil
  | cons heach _ ih =>
      rw [List.flatMap_cons, List.flatMap_cons]
      exact (heach.records.map Regulation.statusKind).append ih

theorem statusGroup (halike : AllAlike first second) :
    Option.Rel Alike (statusGroup first).1 (statusGroup second).1 ∧
      (statusGroup first).2 = (statusGroup second).2 := by
  have hhighest := halike.atRank (Grading.minimumRank? (first.map EvidenceGroup.sourceRank))
  unfold Grading.statusGroup
  dsimp only
  rw [← halike.minimumRank?, hhighest.kinds]
  split
  · exact ⟨.none, rfl⟩
  · exact ⟨hhighest.head?, rfl⟩

theorem factGroup (halike : AllAlike first second) (factSet : List Fact) :
    Option.Rel Alike (factGroup first factSet).selected (factGroup second factSet).selected ∧
      (factGroup first factSet).conflict = (factGroup second factSet).conflict := by
  have hcomplete := halike.filter fun heach => heach.completeFor factSet
  unfold Grading.factGroup
  dsimp only
  rw [← hcomplete.minimumRank?]
  cases Grading.minimumRank? ((first.filter fun group => group.completeFor factSet).map
      EvidenceGroup.sourceRank) with
  | some firstRank =>
      have hblocking : AllAlike
          (first.filter fun group => group.sourceRank ≤ firstRank && group.conflictsFor factSet)
          (second.filter fun group => group.sourceRank ≤ firstRank && group.conflictsFor factSet) :=
        halike.filter fun heach => by rw [heach.sourceRank, heach.conflictsFor]
      have hsame := hcomplete.atRank (some firstRank)
      dsimp only
      rw [← hblocking.minimumRank?]
      cases Grading.minimumRank? ((first.filter fun group =>
          group.sourceRank ≤ firstRank && group.conflictsFor factSet).map
            EvidenceGroup.sourceRank) with
      | some conflictRank => exact ⟨.none, rfl⟩
      | none =>
          dsimp only
          rw [hsame.map fun heach => heach.signature factSet]
          split
          · exact ⟨.none, rfl⟩
          · exact ⟨hsame.head?, rfl⟩
  | none =>
      have hconflicts := halike.filter fun heach => heach.conflictsFor factSet
      dsimp only
      rw [← hconflicts.minimumRank?]
      split
      · exact ⟨.none, rfl⟩
      · exact ⟨.none, rfl⟩

end AllAlike

/-! ## Grouping -/

/-- The order of a group, by its key. -/
def keyOrder (key : GroupKey) : ℕ ×ₗ String ×ₗ String :=
  toLex (key.1.rank, toLex (key.2.1, key.2.2))

theorem keyOrder_injective : Function.Injective keyOrder := by
  intro first second heq
  obtain ⟨hrank, hrest⟩ := Prod.mk.inj (toLex.injective heq)
  have hlevel : first.1 = second.1 := by
    revert hrank
    cases first.1 <;> cases second.1 <;> decide
  exact Prod.ext hlevel (Prod.ext (Prod.mk.inj (toLex.injective hrest)).1
    (Prod.mk.inj (toLex.injective hrest)).2)

/-- The group of a key. -/
def groupAt (evidence : List SettlementEvidence) (key : GroupKey) : EvidenceGroup where
  sourceLevel := key.1
  sourceKey := key.2.1
  recordSetId := key.2.2
  records := evidence.filter fun item => groupKey item = key

/-- The groups of the distinct keys, in key order. -/
theorem evidenceGroups_eq (evidence : List SettlementEvidence) :
    evidenceGroups evidence =
      (sortedOn keyOrder (evidence.map groupKey).eraseDups).map (groupAt evidence) :=
  (List.map_insertionSort (fun left right => keyOrder left ≤ keyOrder right)
    (fun left right => groupOrder left ≤ groupOrder right) (groupAt evidence) _
    fun _ _ _ _ => Iff.rfl).symm

/-- The groups correspond one by one. -/
theorem evidenceGroups_alike {first second : List SettlementEvidence}
    (hsame : SameRegulation first second) :
    AllAlike (evidenceGroups first) (evidenceGroups second) := by
  have hkeys : sortedOn keyOrder (first.map groupKey).eraseDups =
      sortedOn keyOrder (second.map groupKey).eraseDups :=
    sortedOn_eraseDups keyOrder_injective fun _ => (hsame.map Regulation.groupKey).mem_iff
  rw [evidenceGroups_eq, evidenceGroups_eq, ← hkeys, AllAlike, List.forall₂_map_left_iff,
    List.forall₂_map_right_iff, List.forall₂_same]
  exact fun key _ => ⟨rfl, rfl, hsame.filter fun facts => facts.groupKey = key⟩

/-! ## Outcomes -/

section Outcomes

variable [Hashing] {first second : List SettlementEvidence}

/-- No record names a predecessor. -/
def Unlinked (evidence : List SettlementEvidence) : Prop :=
  ∀ item ∈ evidence, item.predecessorId = none

/-- Records without predecessors are all active. -/
theorem Unlinked.active (hunlinked : Unlinked first) : (activeEvidenceRecords first).1 = first := by
  have hnone : supersededIds first = [] := by
    have hnames : first.filterMap SettlementEvidence.predecessorId = [] :=
      List.filterMap_eq_nil_iff.mpr hunlinked
    unfold supersededIds
    rw [hnames]
    rfl
  rw [activeEvidenceRecords, List.partition_eq_filter_filter, hnone]
  exact List.filter_eq_self.mpr fun _ _ => rfl

theorem Unlinked.sorted (hunlinked : Unlinked first) : Unlinked (sortedRecords first) :=
  fun item hitem => hunlinked item ((sortedRecords_perm first).mem_iff.mp hitem)

theorem SameRegulation.sorted (hsame : SameRegulation first second) :
    SameRegulation (sortedRecords first) (sortedRecords second) :=
  (((sortedRecords_perm first).map regulation).trans hsame).trans
    ((sortedRecords_perm second).map regulation).symm

/-- A complete fixture has the same verdict. -/
theorem completeOutcome_verdict {firstSuperseded secondSuperseded : List SettlementEvidence}
    {firstGroups secondGroups : List EvidenceGroup} (hsame : SameRegulation first second)
    (halike : AllAlike firstGroups secondGroups) (finalize : Bool)
    (preference : BettingPreference) (firstStatus secondStatus : EvidenceGroup) :
    (completeOutcome first firstSuperseded firstGroups finalize preference firstStatus).map
        outcomeVerdict =
      (completeOutcome second secondSuperseded secondGroups finalize preference
        secondStatus).map outcomeVerdict := by
  obtain ⟨hselected, hconflict⟩ := halike.factGroup preference.requiredFacts
  have hphase := hsame.any Regulation.invalidPhaseRelationship
  unfold completeOutcome
  dsimp only
  rw [← hconflict]
  split
  · rfl
  · cases hfirst : (factGroup firstGroups preference.requiredFacts).selected with
    | none =>
        cases hsecond : (factGroup secondGroups preference.requiredFacts).selected with
        | none =>
            change Except.ok _ = Except.ok _
            refine congrArg Except.ok ?_
            unfold outcomeVerdict unresolved
            dsimp only
            exact congrArg (fun phase : Bool => Verdict.mk _ _
              (if phase then "INVALID_PHASE_RELATIONSHIP" else "MISSING_REQUIRED_FACTS") _ _)
              hphase
        | some selected =>
            rw [hfirst, hsecond] at hselected
            cases hselected
    | some selected =>
        cases hsecond : (factGroup secondGroups preference.requiredFacts).selected with
        | none =>
            rw [hfirst, hsecond] at hselected
            cases hselected
        | some other =>
            rw [hfirst, hsecond] at hselected
            obtain heach := Option.rel_some_some.mp hselected
            dsimp only
            rw [heach.settlePreference]
            cases Grading.settlePreference preference other with
            | ok result =>
                change Except.ok _ = Except.ok _
                unfold outcomeVerdict gradedOutcome
                dsimp only
                rw [Option.map_some, Option.map_some, Option.map_some, Option.map_some,
                  heach.sourceLevel, heach.sourceKey]
            | error error => cases error <;> rfl

/-- The outcome reads the regulation parts only. -/
theorem gradeOutcome_verdict (hsame : SameRegulation first second) (hfirst : Unlinked first)
    (hsecond : Unlinked second) (withdrawn finalize : Bool) (preference : BettingPreference) :
    (gradeOutcome first withdrawn finalize preference).map outcomeVerdict =
      (gradeOutcome second withdrawn finalize preference).map outcomeVerdict := by
  have halike := evidenceGroups_alike hsame
  obtain ⟨hstatus, hconflict⟩ := halike.statusGroup
  unfold gradeOutcome
  dsimp only
  rw [hfirst.active, hsecond.active]
  by_cases hwithdrawn : withdrawn = true
  · rw [if_pos hwithdrawn, if_pos hwithdrawn]
    rfl
  rw [if_neg hwithdrawn, if_neg hwithdrawn]
  cases hleft : statusGroup (evidenceGroups first) with
  | mk firstStatus firstConflict =>
      cases hright : statusGroup (evidenceGroups second) with
      | mk secondStatus secondConflict =>
          rw [hleft, hright] at hstatus hconflict
          dsimp only at hstatus hconflict
          subst hconflict
          cases firstConflict with
          | true => rfl
          | false =>
              cases hstatus with
              | none => rfl
              | some heach =>
                  dsimp only
                  rw [heach.statusKinds]
                  split
                  · change Except.ok _ = Except.ok _
                    unfold outcomeVerdict voidOutcome
                    dsimp only
                    rw [Option.map_some, Option.map_some, Option.map_some, Option.map_some,
                      heach.sourceLevel, heach.sourceKey]
                  · split
                    · rfl
                    · exact completeOutcome_verdict hsame halike finalize preference _ _

end Outcomes

/-! ## Grades -/

section Grades

variable [PyRuntime] [Hashing]

/-- Both calls succeed with the same verdict, or both are refused. -/
def SameVerdict (first second : Except T10Error SettlementGrade) : Prop :=
  first.toOption.map gradeVerdict = second.toOption.map gradeVerdict

omit [PyRuntime] in
theorem SameVerdict.isOk {first second : Except T10Error SettlementGrade}
    (hsame : SameVerdict first second) :
    (∃ graded, first = .ok graded) ↔ ∃ graded, second = .ok graded := by
  cases first <;> cases second <;> simp_all [SameVerdict, Except.toOption]

omit [PyRuntime] [Hashing] in
theorem SameRegulation.fixtures {first second : List SettlementEvidence}
    (hsame : SameRegulation first second) : SameFixtures first second :=
  fun _ => (hsame.map Regulation.fixtureId).mem_iff

/-- Two graded requests over the same regulation parts have the same verdict. -/
theorem gradeVerdict_eq {request : GradeRequest} {other : List SettlementEvidence}
    (hsame : SameRegulation request.evidence other) (hfirst : Unlinked request.evidence)
    (hsecond : Unlinked other) {left right : SettlementGrade} (hleft : grade request = .ok left)
    (hright : grade (withEvidence request other) = .ok right) :
    gradeVerdict left = gradeVerdict right := by
  obtain ⟨preference, selected, fixtureId, outcome, framed, houtcome, _, rfl⟩ :=
    grade_eq_ok.mp hleft
  obtain ⟨samePreference, sameSelected, sameFixture, otherOutcome, sameFramed, hother, _, rfl⟩ :=
    grade_eq_ok.mp hright
  have hpreference : preference = samePreference :=
    Option.some.inj (framed.contract.symm.trans sameFramed.contract)
  subst hpreference
  have hverdict := gradeOutcome_verdict hsame.sorted hfirst.sorted hsecond.sorted
    request.withdrawn (closes request) preference
  have hother' : gradeOutcome (sortedRecords other) request.withdrawn (closes request) preference =
      .ok otherOutcome := hother
  rw [houtcome, hother'] at hverdict
  exact Except.ok.inj hverdict

/-- Requests over records with the same regulation parts have the same verdict exactly when
both or neither repeat an evidence identifier, or the request is refused anyway. -/
theorem sameVerdict_iff {request : GradeRequest} {other : List SettlementEvidence}
    (hsame : request.evidence.map regulation = other.map regulation)
    (hfirst : Unlinked request.evidence) (hsecond : Unlinked other) :
    SameVerdict (grade request) (grade (withEvidence request other)) ↔
      (((request.evidence.map SettlementEvidence.evidenceId).Nodup ↔
        (other.map SettlementEvidence.evidenceId).Nodup) ∨ Refused request) := by
  have hparts : SameRegulation request.evidence other := List.Perm.of_eq hsame
  have hleft := @grade_isOk _ _ request
  have hright := @grade_isOk _ _ (withEvidence request other)
  rw [refused_withEvidence hparts.fixtures] at hright
  change _ ↔ ¬Refused request ∧ (other.map SettlementEvidence.evidenceId).Nodup at hright
  constructor
  · intro hverdict
    have hboth := hverdict.isOk
    rw [hleft, hright] at hboth
    by_cases hrefused : Refused request
    · exact Or.inr hrefused
    · exact Or.inl (by simpa [hrefused] using hboth)
  · intro hcase
    have hboth : (∃ graded, grade request = .ok graded) ↔
        ∃ graded, grade (withEvidence request other) = .ok graded := by
      rw [hleft, hright]
      rcases hcase with hnodup | hrefused
      · rw [hnodup]
      · simp [hrefused]
    by_cases hok : ∃ graded, grade request = .ok graded
    · obtain ⟨left, hgraded⟩ := hok
      obtain ⟨right, hother⟩ := hboth.mp ⟨left, hgraded⟩
      rw [SameVerdict, hgraded, hother]
      exact congrArg some (gradeVerdict_eq hparts hfirst hsecond hgraded hother)
    · rw [SameVerdict, toOption_eq_none hok, toOption_eq_none (hboth.not.mp hok)]

end Grades

/-! ## Extra time -/

namespace ExtraTime

open MatchVet.T10.Authority.LeagueResult

local instance : PyRuntime := plainRuntime

local instance : Hashing := shapeHashing

def league : SettlementEvidence := played .competition "league" 2 1

/-- The same record with extra time and a shootout. -/
def withShootout : SettlementEvidence :=
  { league with counts := { league.counts with
      extraTimeHomeGoals := some 0
      extraTimeAwayGoals := some 1
      shootoutHomeGoals := some 3
      shootoutAwayGoals := some 5 } }

/-- Extra time and a shootout do not change the verdict. -/
theorem shootout_sameVerdict :
    SameVerdict (grade (homeRequest [league]))
      (grade (withEvidence (homeRequest [league]) [withShootout])) := by
  have hsame : (homeRequest [league]).evidence.map regulation = [withShootout].map regulation := rfl
  have hfirst : Unlinked (homeRequest [league]).evidence := by
    unfold Unlinked
    decide +kernel
  have hsecond : Unlinked [withShootout] := by
    unfold Unlinked
    decide +kernel
  have hnodup : ((homeRequest [league]).evidence.map SettlementEvidence.evidenceId).Nodup :=
    List.nodup_singleton _
  have hother : ([withShootout].map SettlementEvidence.evidenceId).Nodup :=
    List.nodup_singleton _
  exact (sameVerdict_iff hsame hfirst hsecond).mpr (Or.inl (iff_of_true hnodup hother))

/-- Records that only their extra time tells apart are refused without it. -/
theorem repeated_without_extraTime :
    [withShootout, league].map regulation = [league, league].map regulation ∧
      ¬SameVerdict (grade (homeRequest [withShootout, league]))
        (grade (withEvidence (homeRequest [withShootout, league]) [league, league])) := by
  refine ⟨rfl, fun hsame => ?_⟩
  have hfirst : (grade (homeRequest [withShootout, league])).toOption.isSome = true := by
    decide +kernel
  have hsecond : (grade (withEvidence (homeRequest [withShootout, league])
      [league, league])).toOption.isSome = false := by decide +kernel
  have hboth := congrArg Option.isSome hsame
  rw [Option.isSome_map, Option.isSome_map, hfirst, hsecond] at hboth
  cases hboth

end ExtraTime

end MatchVet.T10.Noninterference
