import MatchVet.T10.GradeHistory
import MatchVet.T10.ReadBack

/-!
# Storing evidence

A record is stored as its payload and read back at once.  The constructor leaves
the source digest and the predecessor reference as they are given, the reader
strips them and refuses blank ones, so a record survives storage when both are
texts already.
-/

namespace MatchVet.T10.EvidenceStore

open MatchVet.Foundation.CanonicalJson
open MatchVet.Foundation.Runtime
open MatchVet.Foundation.Transition
open MatchVet.T10.Evidence
open MatchVet.T10.Evidence.SettlementEvidence (create fromMapping)
open MatchVet.T10.Grade
open MatchVet.T10.ReadBack
open MatchVet.T10.Recorder

section Rows

variable [PyRuntime] [Hashing]

/-- The record is read back from its payload. -/
def Survives (evidence : SettlementEvidence) : Prop := fromMapping evidence.toDict = .ok evidence

/-- Every row was written for a record. -/
def Written (rows : List EvidenceRow) : Prop := ∀ row ∈ rows, ∃ item, row = evidenceRow item

/-- A row with the identifier of the record is the record's row. -/
def ToldApartFrom (rows : List EvidenceRow) (evidence : SettlementEvidence) : Prop :=
  ∀ row ∈ rows, row.evidenceSetId = evidence.evidenceId → row = evidenceRow evidence

omit [PyRuntime] in
/-- A record is found under its identifier, in its own row. -/
theorem find?_evidenceRow {rows : List EvidenceRow} {evidence : SettlementEvidence}
    (happart : ToldApartFrom rows evidence)
    (hknown : (rows.any fun row => row.evidenceSetId = evidence.evidenceId) = true) :
    (rows.find? fun row => row.evidenceSetId = evidence.evidenceId) =
      some (evidenceRow evidence) := by
  cases hfind : rows.find? fun row => row.evidenceSetId = evidence.evidenceId with
  | none =>
      obtain ⟨row, hrow, hsame⟩ := List.any_eq_true.mp hknown
      exact absurd hsame (List.find?_eq_none.mp hfind row hrow)
  | some row =>
      have hsame : row.evidenceSetId = evidence.evidenceId := by
        simpa using List.find?_some hfind
      rw [happart row (List.mem_of_find?_eq_some hfind) hsame]

omit [PyRuntime] in
/-- The insertion of a record leaves its row in the table. -/
theorem withEvidenceRow_eq {rows : List EvidenceRow} {evidence : SettlementEvidence}
    (hwritten : Written rows) (happart : ToldApartFrom rows evidence) :
    ∃ next, withEvidenceRow rows (evidenceRow evidence) = .ok next ∧
      (next.find? fun row => row.evidenceSetId = evidence.evidenceId) =
        some (evidenceRow evidence) ∧
      (next = rows ∨ next = rows ++ [evidenceRow evidence]) := by
  unfold withEvidenceRow
  change ∃ next, (if (rows.any fun row => row.evidenceSetId = evidence.evidenceId) = true then _
    else if (rows.any fun row => row.evidenceDigest = evidence.evidenceDigest) = true then _
    else _) = _ ∧ _
  by_cases hknown : (rows.any fun row => row.evidenceSetId = evidence.evidenceId) = true
  · rw [if_pos hknown]
    exact ⟨rows, rfl, find?_evidenceRow happart hknown, Or.inl rfl⟩
  · have hdigest : ¬ (rows.any fun row => row.evidenceDigest = evidence.evidenceDigest) = true := by
      intro hany
      obtain ⟨row, hrow, hsame⟩ := List.any_eq_true.mp hany
      obtain ⟨item, rfl⟩ := hwritten row hrow
      have hid : item.evidenceId = evidence.evidenceId :=
        congrArg (stableId "settlement_evidence") (of_decide_eq_true hsame)
      exact hknown (List.any_eq_true.mpr ⟨_, hrow, decide_eq_true hid⟩)
    rw [if_neg hknown, if_neg hdigest]
    have hnone : (rows.find? fun row => row.evidenceSetId = evidence.evidenceId) = none :=
      List.find?_eq_none.mpr fun row hrow hsame =>
        hknown (List.any_eq_true.mpr ⟨row, hrow, hsame⟩)
    refine ⟨_, rfl, ?_, Or.inr rfl⟩
    rw [List.find?_append, hnone, Option.none_or]
    exact List.find?_cons_of_pos (decide_eq_true (Eq.refl evidence.evidenceId))

theorem storedEvidenceFromRow_evidenceRow (evidence : SettlementEvidence) :
    storedEvidenceFromRow (evidenceRow evidence) = .ok evidence ↔ Survives evidence := by
  change (fromMapping evidence.toDict >>= fun found => _) = .ok evidence ↔ _
  rw [bind_eq_ok]
  constructor
  · rintro ⟨found, hfound, hcolumns⟩
    split at hcolumns
    · cases hcolumns
      exact hfound
    · cases hcolumns
  · intro hsurvives
    exact ⟨evidence, hsurvives, if_pos rfl⟩

/-- What is inserted survives. -/
theorem survives_of_insertEvidence {store next : SettlementStore} {evidence : SettlementEvidence}
    (hinsert : insertEvidence store evidence = .ok next) : Survives evidence := by
  rw [insertEvidence, bind_eq_ok] at hinsert
  obtain ⟨rows, -, hrest⟩ := hinsert
  split at hrest
  · cases hrest
  next row hfind =>
    rw [bind_eq_ok] at hrest
    obtain ⟨stored, hstored, hchecks⟩ := hrest
    split at hchecks
    · cases hchecks
    next hsame =>
      split at hchecks
      · cases hchecks
      next hpayload =>
        rw [not_not.mp hsame] at hstored
        unfold storedEvidenceFromRow at hstored
        rw [not_not.mp hpayload] at hstored
        change (fromMapping evidence.toDict >>= fun found => _) = .ok evidence at hstored
        rw [bind_eq_ok] at hstored
        obtain ⟨found, hfound, hcolumns⟩ := hstored
        split at hcolumns
        · cases hcolumns
          exact hfound
        · cases hcolumns

theorem survives_of_insertAllEvidence {store known : SettlementStore}
    {evidence : List SettlementEvidence} (hinsert : insertAllEvidence store evidence = .ok known) :
    ∀ item ∈ evidence, Survives item := by
  induction evidence generalizing store with
  | nil => exact fun item hitem => absurd hitem List.not_mem_nil
  | cons item rest ih =>
      rw [insertAllEvidence, bind_eq_ok] at hinsert
      obtain ⟨next, hitem, hrest⟩ := hinsert
      exact List.forall_mem_cons.mpr ⟨survives_of_insertEvidence hitem, ih hrest⟩

/-- What an insertion does: it needs a record that survives, and only its row can be
added. -/
theorem insertEvidence_eq_ok {store next : SettlementStore} {evidence : SettlementEvidence}
    (hwritten : Written store.evidence) (happart : ToldApartFrom store.evidence evidence) :
    insertEvidence store evidence = .ok next ↔ Survives evidence ∧
      ∃ rows, withEvidenceRow store.evidence (evidenceRow evidence) = .ok rows ∧
        next = { store with evidence := rows } := by
  obtain ⟨rows, hrows, hfind, -⟩ := withEvidenceRow_eq hwritten happart
  rw [insertEvidence, hrows, ok_bind, hfind]
  dsimp only
  rw [bind_eq_ok]
  constructor
  · rintro ⟨stored, hstored, hrest⟩
    split at hrest
    · cases hrest
    next hsame =>
      rw [not_not.mp hsame] at hstored
      split at hrest
      · cases hrest
      · cases hrest
        exact ⟨(storedEvidenceFromRow_evidenceRow evidence).mp hstored, rows, rfl, rfl⟩
  · rintro ⟨hsurvives, found, hfound, rfl⟩
    cases hfound
    refine ⟨evidence, (storedEvidenceFromRow_evidenceRow evidence).mpr hsurvives, ?_⟩
    rw [if_neg (not_not.mpr rfl)]
    exact if_neg (not_not.mpr rfl)

/-- A record is accepted exactly when it survives. -/
theorem insertEvidence_isOk_iff {store : SettlementStore} {evidence : SettlementEvidence}
    (hwritten : Written store.evidence) (happart : ToldApartFrom store.evidence evidence) :
    (∃ next, insertEvidence store evidence = .ok next) ↔ Survives evidence := by
  simp only [insertEvidence_eq_ok hwritten happart]
  obtain ⟨rows, hrows, -⟩ := withEvidenceRow_eq hwritten happart
  exact ⟨fun ⟨next, hsurvives, _⟩ => hsurvives, fun hsurvives => ⟨_, hsurvives, rows, hrows, rfl⟩⟩

/-! ## Several records -/

/-- The evidence identifiers tell the records apart. -/
def ToldApart (evidence : List SettlementEvidence) : Prop :=
  ∀ item ∈ evidence, ∀ other ∈ evidence, item.evidenceId = other.evidenceId → item = other

omit [PyRuntime] in
theorem written_withEvidenceRow {rows next : List EvidenceRow} {evidence : SettlementEvidence}
    (hwritten : Written rows)
    (hrows : withEvidenceRow rows (evidenceRow evidence) = .ok next) : Written next := by
  unfold withEvidenceRow at hrows
  split at hrows
  · cases hrows
    exact hwritten
  · split at hrows
    · cases hrows
    · cases hrows
      intro row hrow
      rcases List.mem_append.mp hrow with hrow | hrow
      · exact hwritten row hrow
      · exact ⟨evidence, List.mem_singleton.mp hrow⟩

/-- An insertion leaves rows that tell the other records apart. -/
theorem toldApart_insertEvidence {store next : SettlementStore} {item : SettlementEvidence}
    {rest : List SettlementEvidence} (hwritten : Written store.evidence)
    (happart : ToldApart (item :: rest))
    (hstored : ∀ other ∈ item :: rest, ToldApartFrom store.evidence other)
    (hinsert : insertEvidence store item = .ok next) :
    Written next.evidence ∧ ∀ other ∈ rest, ToldApartFrom next.evidence other := by
  have hitem := hstored item List.mem_cons_self
  obtain ⟨-, rows, hrows, rfl⟩ := (insertEvidence_eq_ok hwritten hitem).mp hinsert
  obtain ⟨found, hfound, -, hcase⟩ := withEvidenceRow_eq hwritten hitem
  obtain rfl : rows = found := Except.ok.inj (hrows.symm.trans hfound)
  refine ⟨written_withEvidenceRow hwritten hrows, fun other hother row hrow hsame => ?_⟩
  have hmem := List.mem_cons_of_mem item hother
  rcases hcase with rfl | rfl
  · exact hstored other hmem row hrow hsame
  · rcases List.mem_append.mp hrow with hrow | hrow
    · exact hstored other hmem row hrow hsame
    · rw [List.mem_singleton.mp hrow] at hsame ⊢
      rw [happart item List.mem_cons_self other hmem hsame]

/-- Records are all inserted exactly when each of them survives. -/
theorem insertAllEvidence_isOk_iff {store : SettlementStore} {evidence : List SettlementEvidence}
    (hwritten : Written store.evidence) (happart : ToldApart evidence)
    (hstored : ∀ item ∈ evidence, ToldApartFrom store.evidence item) :
    (∃ known, insertAllEvidence store evidence = .ok known) ↔
      ∀ item ∈ evidence, Survives item := by
  induction evidence generalizing store with
  | nil => exact ⟨fun _ _ hitem => absurd hitem List.not_mem_nil, fun _ => ⟨store, rfl⟩⟩
  | cons item rest ih =>
      have hitem := insertEvidence_isOk_iff hwritten (hstored item List.mem_cons_self)
      have hrest : ToldApart rest := fun first hfirst second hsecond =>
        happart first (List.mem_cons_of_mem _ hfirst) second (List.mem_cons_of_mem _ hsecond)
      simp only [insertAllEvidence, bind_eq_ok, List.forall_mem_cons]
      constructor
      · rintro ⟨known, next, hinsert, hothers⟩
        obtain ⟨hnextWritten, hnextApart⟩ :=
          toldApart_insertEvidence hwritten happart hstored hinsert
        exact ⟨hitem.mp ⟨next, hinsert⟩, (ih hnextWritten hrest hnextApart).mp ⟨known, hothers⟩⟩
      · rintro ⟨hsurvives, hothers⟩
        obtain ⟨next, hinsert⟩ := hitem.mpr hsurvives
        obtain ⟨hnextWritten, hnextApart⟩ :=
          toldApart_insertEvidence hwritten happart hstored hinsert
        obtain ⟨known, hknown⟩ := (ih hnextWritten hrest hnextApart).mpr hothers
        exact ⟨known, next, hinsert, hknown⟩

/-! ## Rows of reachable stores -/

theorem written_insertEvidence {store next : SettlementStore} {evidence : SettlementEvidence}
    (hwritten : Written store.evidence) (hinsert : insertEvidence store evidence = .ok next) :
    Written next.evidence := by
  rw [insertEvidence, bind_eq_ok] at hinsert
  obtain ⟨rows, hrows, hrest⟩ := hinsert
  have hnext := written_withEvidenceRow hwritten hrows
  split at hrest
  · cases hrest
  · rw [bind_eq_ok] at hrest
    obtain ⟨stored, -, hstored⟩ := hrest
    split at hstored
    · cases hstored
    · split at hstored
      · cases hstored
      · cases hstored
        exact hnext

theorem written_insertAllEvidence {store next : SettlementStore}
    {evidence : List SettlementEvidence} (hwritten : Written store.evidence)
    (hinsert : insertAllEvidence store evidence = .ok next) : Written next.evidence := by
  induction evidence generalizing store with
  | nil =>
      cases hinsert
      exact hwritten
  | cons item rest ih =>
      rw [insertAllEvidence, bind_eq_ok] at hinsert
      obtain ⟨known, hknown, hrest⟩ := hinsert
      exact ih (written_insertEvidence hwritten hknown) hrest

omit [PyRuntime] in
theorem insertGrade_evidence {store next : SettlementStore} {grade : SettlementGrade}
    (hinsert : insertGrade store grade = .ok next) : next.evidence = store.evidence := by
  unfold insertGrade at hinsert
  split at hinsert
  · cases hinsert
  · split at hinsert
    · cases hinsert
    · cases hinsert
      rfl

/-- A pass adds the evidence of its grade and no other. -/
theorem recordOne_evidence {store next : SettlementStore} {incoming answer : SettlementGrade}
    (hrecord : recordOne store incoming = .ok (next, answer)) :
    ∃ known, insertAllEvidence store incoming.evidence = .ok known ∧
      next.evidence = known.evidence := by
  simp only [recordOne, bind_eq_ok] at hrecord
  obtain ⟨known, hknown, effective, heffective, hrest⟩ := hrecord
  refine ⟨known, hknown, ?_⟩
  split at hrest
  · split at hrest
    · cases hrest
    · rw [bind_eq_ok] at hrest
      obtain ⟨inserted, hinsert, hok⟩ := hrest
      cases hok
      exact insertGrade_evidence hinsert
  · cases hrest
  · split at hrest
    · rw [bind_eq_ok] at hrest
      obtain ⟨inserted, hinsert, hok⟩ := hrest
      cases hok
      exact insertGrade_evidence hinsert
    · cases hrest
      rfl

/-- Rows that were written for records stay so. -/
def KeepsWritten (store next : SettlementStore) : Prop :=
  Written store.evidence → Written next.evidence

theorem keepsWritten_recordOne {store next : SettlementStore} {incoming answer : SettlementGrade}
    (hrecord : recordOne store incoming = .ok (next, answer)) : KeepsWritten store next := by
  intro hwritten
  obtain ⟨known, hknown, hnext⟩ := recordOne_evidence hrecord
  rw [hnext]
  exact written_insertAllEvidence hwritten hknown

/-- Every reachable row was written for a record. -/
theorem written_run (calls : List RecordCall) :
    Written (run recordStep emptyStore calls).evidence := by
  have hrefl : ∀ store, KeepsWritten store store := fun _ hwritten => hwritten
  have htrans : ∀ first second third, KeepsWritten first second → KeepsWritten second third →
      KeepsWritten first third := fun _ _ _ hfirst hsecond hwritten => hsecond (hfirst hwritten)
  have hkeeps : KeepsWritten emptyStore (run recordStep emptyStore calls) := by
    refine run_relates hrefl htrans (fun before call => ?_) emptyStore calls
    refine commit_relates hrefl fun next answers hcall => ?_
    exact batch_relates hrefl htrans (fun _ _ _ _ => keepsWritten_recordOne) (recordMany_ok hcall)
  exact hkeeps fun row hrow => absurd hrow List.not_mem_nil

/-! ## New records -/

/-- A new record is read back and accepted exactly when its references are texts. -/
theorem created_survives_iff {arguments : SettlementEvidence.Arguments}
    {evidence : SettlementEvidence} (hcreate : create arguments = .ok evidence) :
    (Survives evidence ∧ ∀ calls,
        ToldApartFrom (run recordStep emptyStore calls).evidence evidence →
          ∃ next, insertEvidence (run recordStep emptyStore calls) evidence = .ok next) ↔
      OptionalText arguments.sourceDigest ∧ OptionalText arguments.predecessorId := by
  have hsurvives : Survives evidence ↔
      OptionalText arguments.sourceDigest ∧ OptionalText arguments.predecessorId := by
    obtain ⟨hdigest, hpredecessor⟩ := create_references hcreate
    rw [← hdigest, ← hpredecessor]
    exact fromMapping_toDict_iff (canonical_of_create hcreate)
  rw [← hsurvives]
  exact ⟨fun hboth => hboth.1, fun hevidence => ⟨hevidence, fun calls happart =>
    (insertEvidence_isOk_iff (written_run calls) happart).mpr hevidence⟩⟩

end Rows

/-! ## A blank reference -/

namespace BlankReference

local instance : PyRuntime := plainRuntime

local instance : Hashing := shapeHashing

/-- The fields of a league record with some predecessor reference. -/
def leagueFields (predecessorId : Option String) : SettlementEvidence.Arguments :=
  { ReadBack.argumentsOf (Authority.LeagueResult.played .competition "league" 2 1) with
    predecessorId := predecessorId
    evidenceDigest := "" }

theorem exists_created {predecessorId : Option String} {check : SettlementEvidence → Bool}
    (hcheck : ((create (leagueFields predecessorId)).toOption.any check) = true) :
    ∃ evidence, create (leagueFields predecessorId) = .ok evidence ∧ check evidence = true := by
  cases hcreate : create (leagueFields predecessorId) with
  | error error =>
      rw [hcreate] at hcheck
      cases hcheck
  | ok evidence =>
      rw [hcreate] at hcheck
      exact ⟨evidence, rfl, hcheck⟩

/-- A record with an empty predecessor reference is accepted by the constructor, and
neither read back nor stored. -/
theorem blankReference_refused :
    ∃ evidence, create (leagueFields (some "")) = .ok evidence ∧ ¬ Survives evidence ∧
      (insertEvidence emptyStore evidence).toOption.isNone = true := by
  obtain ⟨evidence, hcreate, hrefused⟩ := @exists_created (some "")
    (fun evidence => (fromMapping evidence.toDict).toOption.isNone &&
      (insertEvidence emptyStore evidence).toOption.isNone) (by decide +kernel)
  rw [Bool.and_eq_true] at hrefused
  refine ⟨evidence, hcreate, fun hsurvives => ?_, hrefused.2⟩
  have hnone := hrefused.1
  rw [show fromMapping evidence.toDict = .ok evidence from hsurvives] at hnone
  cases hnone

/-- A record that names its predecessor is read back and stored. -/
theorem reference_survives :
    ∃ evidence, create (leagueFields (some "earlier")) = .ok evidence ∧ Survives evidence ∧
      ∃ next, insertEvidence emptyStore evidence = .ok next := by
  obtain ⟨evidence, hcreate, -⟩ := @exists_created (some "earlier") (fun _ => true)
    (by decide +kernel)
  have htexts : OptionalText (leagueFields (some "earlier")).sourceDigest ∧
      OptionalText (leagueFields (some "earlier")).predecessorId := by
    refine ⟨nofun, fun content hcontent => ?_⟩
    cases hcontent
    decide +kernel
  obtain ⟨hsurvives, hinserted⟩ := (created_survives_iff hcreate).mpr htexts
  exact ⟨evidence, hcreate, hsurvives, hinserted [] fun row hrow => absurd hrow List.not_mem_nil⟩

end BlankReference

end MatchVet.T10.EvidenceStore
