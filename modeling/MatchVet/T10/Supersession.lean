import MatchVet.T10.Authority

/-!
# Superseded evidence

A record is meant to be left out when another record of the list names it as its
predecessor, by evidence identifier or by record identifier.  The lookup by
record identifier keeps the last record only, which a source that issues a
record again under its own identifier shares with the record it corrects.
-/

namespace MatchVet.T10.Supersession

open MatchVet.Foundation.CanonicalJson
open MatchVet.T10.Evidence
open MatchVet.T10.Grading

/-! ## Lookups -/

section Lookups

variable {evidence : List SettlementEvidence}

/-- No later record of the list has the record identifier of this one. -/
def LastBearing (evidence : List SettlementEvidence) (item : SettlementEvidence) : Prop :=
  ∃ before after, evidence = before ++ item :: after ∧
    ∀ later ∈ after, later.recordId ≠ item.recordId

theorem lastNamed_some {name : SettlementEvidence → String} {key : String}
    {found : SettlementEvidence} (hfound : lastNamed evidence name key = some found) :
    found ∈ evidence ∧ name found = key := by
  constructor
  · exact List.mem_reverse.mp (List.mem_of_find?_eq_some hfound)
  · simpa using List.find?_some hfound

theorem exists_lastNamed {name : SettlementEvidence → String} {item : SettlementEvidence}
    (hitem : item ∈ evidence) : ∃ found, lastNamed evidence name (name item) = some found := by
  cases hfind : lastNamed evidence name (name item) with
  | some found => exact ⟨found, rfl⟩
  | none =>
      have hnone := List.find?_eq_none.mp hfind item (List.mem_reverse.mpr hitem)
      simp at hnone

theorem lastNamed_recordId {item : SettlementEvidence} :
    lastNamed evidence SettlementEvidence.recordId item.recordId = some item ↔
      LastBearing evidence item := by
  rw [lastNamed, List.find?_eq_some_iff_append]
  constructor
  · rintro ⟨-, later, earlier, hsplit, hlater⟩
    refine ⟨earlier.reverse, later.reverse, ?_, ?_⟩
    · have hreverse := congrArg List.reverse hsplit
      rw [List.reverse_reverse, List.reverse_append, List.reverse_cons, List.append_assoc] at hreverse
      exact hreverse
    · intro other hother
      simpa using hlater other (List.mem_reverse.mp hother)
  · rintro ⟨before, after, rfl, hafter⟩
    refine ⟨by simp, after.reverse, before.reverse, ?_, ?_⟩
    · simp
    · intro other hother
      simpa using hafter other (List.mem_reverse.mp hother)

end Lookups

section Records

variable [Hashing]

/-! ## References -/

/-- One record refers to another as its predecessor. -/
def Names (successor item : SettlementEvidence) : Prop :=
  successor.predecessorId = some item.evidenceId ∨ successor.predecessorId = some item.recordId

/-- Another record of the list refers to this one. -/
def Superseded (evidence : List SettlementEvidence) (item : SettlementEvidence) : Prop :=
  ∃ successor ∈ evidence, successor ≠ item ∧ Names successor item

/-- The records left out are those that another record of the list refers to. -/
def ExcludesSuperseded (evidence : List SettlementEvidence) : Prop :=
  ∀ item ∈ evidence, item ∈ (activeEvidenceRecords evidence).2 ↔ Superseded evidence item

/-- The references that the lookups resolve as they are meant. -/
structure SettledReferences (evidence : List SettlementEvidence) : Prop where
  /-- A record referred to by its record identifier is the last one bearing it, unless
  a record refers to it by evidence identifier. -/
  reissued : ∀ item ∈ evidence, ∀ successor ∈ evidence, successor ≠ item →
    successor.predecessorId = some item.recordId →
      LastBearing evidence item ∨ ∃ other ∈ evidence, other.predecessorId = some item.evidenceId
  /-- A record that no other one refers to does not refer to itself, unless a later
  record bears the record identifier it refers to. -/
  alone : ∀ item ∈ evidence, ¬ Superseded evidence item →
    item.predecessorId ≠ some item.evidenceId ∧
      (item.predecessorId = some item.recordId → ¬ LastBearing evidence item)

variable {evidence : List SettlementEvidence}

/-- The identifiers left out, by the lookup that finds them. -/
theorem mem_supersededIds {evidenceId : String} :
    evidenceId ∈ supersededIds evidence ↔
      ∃ successor ∈ evidence, ∃ key, successor.predecessorId = some key ∧
        ∃ found, (lastNamed evidence SettlementEvidence.evidenceId key = some found ∨
          lastNamed evidence SettlementEvidence.recordId key = some found) ∧
            found.evidenceId = evidenceId := by
  simp only [supersededIds, List.mem_flatMap, List.mem_filterMap, List.mem_map, List.mem_cons,
    List.not_mem_nil, or_false, id_eq]
  constructor
  · rintro ⟨key, ⟨successor, hsuccessor, hkey⟩, found, ⟨lookup, hlookup, rfl⟩, hfound⟩
    exact ⟨successor, hsuccessor, key, hkey, found, hlookup.imp Eq.symm Eq.symm, hfound⟩
  · rintro ⟨successor, hsuccessor, key, hkey, found, hlookup, hfound⟩
    exact ⟨key, ⟨successor, hsuccessor, hkey⟩, found,
      ⟨some found, hlookup.imp Eq.symm Eq.symm, rfl⟩, hfound⟩

/-- The records left out, by the reference that leaves them out. -/
theorem mem_superseded_iff
    (hids : ∀ first ∈ evidence, ∀ second ∈ evidence,
      first.evidenceId = second.evidenceId → first = second)
    {item : SettlementEvidence} (hitem : item ∈ evidence) :
    item ∈ (activeEvidenceRecords evidence).2 ↔
      (∃ successor ∈ evidence, successor.predecessorId = some item.evidenceId) ∨
        (∃ successor ∈ evidence, successor.predecessorId = some item.recordId) ∧
          LastBearing evidence item := by
  have hexcluded : item ∈ (activeEvidenceRecords evidence).2 ↔
      item.evidenceId ∈ supersededIds evidence := by
    rw [activeEvidenceRecords, List.partition_eq_filter_filter]
    simp [hitem]
  rw [hexcluded, mem_supersededIds]
  constructor
  · rintro ⟨successor, hsuccessor, key, hkey, found, hlookup | hlookup, hfound⟩
    · obtain ⟨hmem, rfl⟩ := lastNamed_some hlookup
      exact Or.inl ⟨successor, hsuccessor, hfound ▸ hkey⟩
    · obtain ⟨hmem, rfl⟩ := lastNamed_some hlookup
      obtain rfl := hids found hmem item hitem hfound
      exact Or.inr ⟨⟨successor, hsuccessor, hkey⟩, lastNamed_recordId.mp hlookup⟩
  · rintro (⟨successor, hsuccessor, hkey⟩ | ⟨⟨successor, hsuccessor, hkey⟩, hlast⟩)
    · obtain ⟨found, hlookup⟩ := @exists_lastNamed evidence SettlementEvidence.evidenceId item hitem
      exact ⟨successor, hsuccessor, _, hkey, found, Or.inl hlookup, (lastNamed_some hlookup).2⟩
    · exact ⟨successor, hsuccessor, _, hkey, item, Or.inr (lastNamed_recordId.mpr hlast), rfl⟩

/-! ## When the references are resolved -/

/-- The records left out are the superseded ones exactly when the references are settled. -/
theorem excludesSuperseded_iff
    (hids : ∀ first ∈ evidence, ∀ second ∈ evidence,
      first.evidenceId = second.evidenceId → first = second) :
    ExcludesSuperseded evidence ↔ SettledReferences evidence := by
  constructor
  · intro hexcludes
    constructor
    · intro item hitem successor hsuccessor hother hnames
      have hout := (hexcludes item hitem).mpr ⟨successor, hsuccessor, hother, Or.inr hnames⟩
      rcases (mem_superseded_iff hids hitem).mp hout with hid | ⟨-, hlast⟩
      · exact Or.inr hid
      · exact Or.inl hlast
    · intro item hitem halone
      have hin := mt (hexcludes item hitem).mp halone
      rw [mem_superseded_iff hids hitem, not_or] at hin
      refine ⟨fun hself => hin.1 ⟨item, hitem, hself⟩, fun hself hlast => ?_⟩
      exact hin.2 ⟨⟨item, hitem, hself⟩, hlast⟩
  · intro hsettled item hitem
    rw [mem_superseded_iff hids hitem]
    constructor
    · intro hout
      by_contra halone
      obtain ⟨hid, hrecord⟩ := hsettled.alone item hitem halone
      rcases hout with ⟨successor, hsuccessor, hkey⟩ | ⟨⟨successor, hsuccessor, hkey⟩, hlast⟩
      · by_cases hself : successor = item
        · exact hid (hself ▸ hkey)
        · exact halone ⟨successor, hsuccessor, hself, Or.inl hkey⟩
      · by_cases hself : successor = item
        · exact hrecord (hself ▸ hkey) hlast
        · exact halone ⟨successor, hsuccessor, hself, Or.inr hkey⟩
    · rintro ⟨successor, hsuccessor, hother, hkey | hkey⟩
      · exact Or.inl ⟨successor, hsuccessor, hkey⟩
      · rcases hsettled.reissued item hitem successor hsuccessor hother hkey with hlast | hid
        · exact Or.inr ⟨⟨successor, hsuccessor, hkey⟩, hlast⟩
        · exact Or.inl hid

end Records

/-! ## A record issued again under its own identifier -/

namespace Reissue

open MatchVet.T10.Authority.LeagueResult

local instance : Hashing := shapeHashing

/-- The first issue of a record. -/
def firstIssue : SettlementEvidence := played .competition "league" 2 1

/-- The corrected issue, which names the record identifier it has itself. -/
def corrected : SettlementEvidence :=
  { played .competition "league" 2 2 with predecessorId := some "record" }

/-- After the first issue, the corrected one is left out in its place. -/
theorem corrected_left_out :
    activeEvidenceRecords [firstIssue, corrected] = ([firstIssue], [corrected]) ∧
      ¬ ExcludesSuperseded [firstIssue, corrected] := by
  have hsplit : activeEvidenceRecords [firstIssue, corrected] = ([firstIssue], [corrected]) := by
    decide +kernel
  refine ⟨hsplit, fun hexcludes => ?_⟩
  have hout : Superseded [firstIssue, corrected] firstIssue :=
    ⟨corrected, by simp, by decide +kernel, Or.inr rfl⟩
  have hmem := (hexcludes firstIssue (by simp)).mpr hout
  rw [hsplit, List.mem_singleton] at hmem
  exact absurd hmem (by decide +kernel)

/-- Before the first issue, it leaves that one out. -/
theorem firstIssue_left_out : ExcludesSuperseded [corrected, firstIssue] := by
  have hids : ∀ first ∈ [corrected, firstIssue], ∀ second ∈ [corrected, firstIssue],
      first.evidenceId = second.evidenceId → first = second := by
    decide +kernel
  refine (excludesSuperseded_iff hids).mpr ⟨?_, ?_⟩
  · intro item hitem successor hsuccessor hother hnames
    have hpair : successor = corrected ∧ item = firstIssue := by
      revert hother hnames
      revert item successor
      decide +kernel
    rw [hpair.2]
    exact Or.inl ⟨[corrected], [], rfl, fun _ hlater => absurd hlater List.not_mem_nil⟩
  · intro item hitem halone
    have hout : Superseded [corrected, firstIssue] firstIssue :=
      ⟨corrected, List.mem_cons_self, by decide +kernel, Or.inr rfl⟩
    rcases List.mem_pair.mp hitem with hitem | hitem
    · rw [hitem]
      refine ⟨by decide +kernel, fun _ hlast => ?_⟩
      have hfound := lastNamed_recordId.mpr hlast
      revert hfound
      decide +kernel
    · exact absurd (hitem ▸ hout) halone

end Reissue

end MatchVet.T10.Supersession
