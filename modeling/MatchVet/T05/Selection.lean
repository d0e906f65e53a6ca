import Mathlib
import Mathlib.Data.List.MinMax
import Mathlib.Data.Prod.Lex
import MatchVet.Foundation.FixedPoint
import MatchVet.Foundation.Grouping
import MatchVet.Foundation.KeySort
import MatchVet.T05.Records

/-!
# Selecting revisions

At a boundary a fixture is controlled by its revision of highest source authority
among those whose capture was known then.  The Research Cutoff is searched from the
earliest scheduled kickoff: six hours before the earliest kickoff that the selected
revisions give, until the boundary agrees with its own selection.
-/

namespace MatchVet.T05.Selection

open MatchVet.Foundation.FixedPoint
open MatchVet.Foundation.Grouping
open MatchVet.Foundation.KeySort
open MatchVet.Foundation.Runtime
open MatchVet.Foundation.Timestamp
open MatchVet.T05.Records

/-! ## Compared instants -/

/-- An instant that may be missing, in the order that `min` and `max` compare. -/
def Moment : Type := WithBot ℤ

instance : LinearOrder Moment := @WithBot.linearOrder ℤ Int.instLinearOrder

def kickoffRank (kickoff : Option Instant) : Moment := kickoff

theorem kickoffRank_le {first second : Instant} :
    kickoffRank (some first) ≤ kickoffRank (some second) ↔ first ≤ second :=
  WithBot.coe_le_coe

/-! ## Supports -/

/-- A support that was captured, and published where it says when, by the boundary. -/
def SourceSupport.knownBy (boundary : Instant) (support : SourceSupport) : Bool :=
  support.retrievedAtUtc ≤ boundary &&
    match support.sourcePublishedAtUtc with
    | none => true
    | some published => published ≤ boundary

/-- The support of a revision that has no capture. -/
def observationSupport (candidate : RevisionCandidate) : SourceSupport where
  retrievedAtUtc := candidate.observedAtUtc
  sourcePublishedAtUtc := none
  contentSha256 := ""
  sourceKey := "fixture_revision_observed_at"
  sourceClass := "OBSERVATION"

def validSupports (candidate : RevisionCandidate) (boundary : Instant) : List SourceSupport :=
  if boundary < candidate.observedAtUtc then []
  else if candidate.supports.filter (SourceSupport.knownBy boundary) ≠ [] then
    candidate.supports.filter (SourceSupport.knownBy boundary)
  else if candidate.supports = [] then [observationSupport candidate]
  else []

def postCutoffSupports (candidate : RevisionCandidate) (cutoff asOf : Instant) :
    List SourceSupport :=
  candidate.supports.filter fun support =>
    cutoff < support.retrievedAtUtc && support.retrievedAtUtc ≤ asOf

/-! ## Authority -/

section Authority

variable [PyRuntime]

/-- `part in text`. -/
def inText (part content : String) : Bool :=
  content.toList.tails.any part.toList.isPrefixOf

/-- `_authority_rank`. -/
def authorityRank (sourceKey sourceClass : String) : ℕ :=
  let normalizedClass := replaceChar ' ' '_' (upper (strip sourceClass))
  let normalizedKey := PyRuntime.casefold (strip sourceKey)
  if normalizedClass = "OFFICIAL_COMPETITION" ∨ normalizedClass = "OFFICIAL_LEAGUE" then 500
  else if normalizedClass = "OFFICIAL_FEDERATION" ∨ normalizedClass = "OFFICIAL_ASSOCIATION" then
    490
  else if normalizedClass = "OFFICIAL_CLUB" then 480
  else if normalizedClass = "OFFICIAL" then 470
  else if normalizedClass = "STRUCTURED_PROVIDER" then 300
  else if normalizedClass = "OPEN_DATASET" ∨ normalizedClass = "OPEN_SOURCE_DATASET" then 200
  else if inText "football-data.co.uk" normalizedKey then 300
  else if inText "openfootball" normalizedKey then 200
  else 100

/-- The key that `_authority_label` sorts a support by. -/
def labelKey (support : SourceSupport) : ℕ ×ₗ String ×ₗ String :=
  toLex (authorityRank support.sourceKey support.sourceClass,
    toLex (if support.sourceClass = "" then "UNKNOWN" else support.sourceClass,
      support.sourceKey))

/-- `_authority_label`. -/
def authorityLabel (supports : List SourceSupport) : ℕ × String :=
  match supports.argmax labelKey with
  | none => (0, "UNKNOWN")
  | some support =>
      (authorityRank support.sourceKey support.sourceClass,
        (if support.sourceClass = "" then "UNKNOWN" else support.sourceClass) ++ ":" ++
          support.sourceKey)

/-! ## Selection -/

/-- The latest retrieval of some supports. -/
def latestObservation (supports : List SourceSupport) : Moment :=
  kickoffRank (supports.map (·.retrievedAtUtc)).max?

/-- `_revision_key`. -/
def revisionKey (boundary : Instant) (candidate : RevisionCandidate) :
    ℕ ×ₗ Moment ×ₗ String ×ₗ String :=
  toLex ((authorityLabel (validSupports candidate boundary)).1,
    toLex (latestObservation (validSupports candidate boundary),
      toLex (candidate.revisionId, candidate.revisionDigest)))

def isValid (boundary : Instant) (candidate : RevisionCandidate) : Bool :=
  !(validSupports candidate boundary).isEmpty

/-- `_select_revision`. -/
def selectRevision (candidates : List RevisionCandidate) (boundary : Instant) :
    Option RevisionCandidate :=
  (candidates.filter (isValid boundary)).argmax (revisionKey boundary)

/-- `_latest_candidate_by_fixture`. -/
def latestCandidateByFixture (candidates : List RevisionCandidate) (boundary : Instant) :
    List RevisionCandidate :=
  (groupsBy (·.fixtureId) candidates).filterMap fun group => selectRevision group.2 boundary

/-- The statuses that T05 reads as scheduled. -/
def isScheduled (fixtureStatus : String) : Bool :=
  upper (strip fixtureStatus) = "SCHEDULED" ∨ upper (strip fixtureStatus) = "CONFIRMED"

/-- `_eligible_schedule`. -/
def eligibleSchedule (window : MatchweekWindow) (candidate : RevisionCandidate) : Bool :=
  candidate.identityState = "CONFIRMED" && candidate.kickoffState = "OBSERVED" &&
    isScheduled candidate.fixtureStatus &&
    match candidate.kickoffUtc with
    | none => false
    | some kickoff => window.contains kickoff

/-! ## The Research Cutoff -/

/-- The order of `min` over kickoffs; an eligible candidate has one. -/
def kickoffKey (candidate : RevisionCandidate) : Moment ×ₗ String :=
  toLex (kickoffRank candidate.kickoffUtc, candidate.fixtureId)

def earliestOf (candidates : List RevisionCandidate) : Option RevisionCandidate :=
  candidates.argmin kickoffKey

/-- The kickoff of a candidate less the lead time. -/
def cutoffBefore (candidate : RevisionCandidate) : Except Fault Instant :=
  match candidate.kickoffUtc with
  | none => .error (.valueError "Timestamp must be an ISO-8601 value with a timezone offset.")
  | some kickoff => .ok (kickoff - matchweekLeadTime)

/-- The eligible ones of the revisions selected at a boundary. -/
def includedAt (candidates : List RevisionCandidate) (window : MatchweekWindow)
    (boundary : Instant) : List RevisionCandidate :=
  (latestCandidateByFixture candidates boundary).filter (eligibleSchedule window)

/-- The passes of the loop of `_derive_cutoff`. -/
def refineCutoff (candidates : List RevisionCandidate) (window : MatchweekWindow) :
    ℕ → List Instant → Instant → RevisionCandidate → Except Fault (Instant × RevisionCandidate)
  | 0, _, cutoff, earliest => .ok (cutoff, earliest)
  | passes + 1, seen, cutoff, _ => do
      match earliestOf (includedAt candidates window cutoff) with
      | none =>
          refuse "MV-T05-NO_CUTOFF_VALID_FIXTURE"
            "No scheduled fixture was known by the derived Research Cutoff."
      | some earliest =>
          let nextCutoff ← cutoffBefore earliest
          if nextCutoff = cutoff then .ok (cutoff, earliest)
          else if cutoff ∈ seen then .ok (cutoff, earliest)
          else refineCutoff candidates window passes (cutoff :: seen) nextCutoff earliest

/-- The revisions known at the observation time that are scheduled in the window. -/
def eligibleAt (candidates : List RevisionCandidate) (window : MatchweekWindow)
    (asOf : Instant) : List RevisionCandidate :=
  candidates.filter fun candidate => isValid asOf candidate && eligibleSchedule window candidate

/-- `_derive_cutoff`. -/
def deriveCutoff (candidates : List RevisionCandidate) (window : MatchweekWindow)
    (asOf : Instant) : Except Fault (Instant × RevisionCandidate) :=
  match earliestOf (eligibleAt candidates window asOf) with
  | none =>
      refuse "MV-T05-NO_ELIGIBLE_FIXTURE"
        "No cutoff candidate has a scheduled kickoff in the requested Matchweek."
  | some earliest => do
      let cutoff ← cutoffBefore earliest
      refineCutoff candidates window 8 [] cutoff earliest

/-! ## What eligibility says -/

theorem eligibleSchedule_iff {window : MatchweekWindow} {candidate : RevisionCandidate} :
    eligibleSchedule window candidate = true ↔
      candidate.identityState = "CONFIRMED" ∧ candidate.kickoffState = "OBSERVED" ∧
        isScheduled candidate.fixtureStatus = true ∧
        ∃ kickoff, candidate.kickoffUtc = some kickoff ∧ window.contains kickoff = true := by
  unfold eligibleSchedule
  cases candidate.kickoffUtc with
  | none => simp
  | some kickoff => simp [and_assoc]

theorem eligible_kickoff {window : MatchweekWindow} {candidate : RevisionCandidate}
    (heligible : eligibleSchedule window candidate = true) :
    ∃ kickoff, candidate.kickoffUtc = some kickoff ∧ window.contains kickoff = true :=
  (eligibleSchedule_iff.mp heligible).2.2.2

/-! ## The cutoff as a search -/

/-- Six hours before the earliest kickoff of the fixtures included at a boundary. -/
def nextCutoff (candidates : List RevisionCandidate) (window : MatchweekWindow)
    (boundary : Instant) : Option Instant :=
  (earliestOf (includedAt candidates window boundary)).bind fun earliest =>
    earliest.kickoffUtc.map (· - matchweekLeadTime)

/-- Six hours before the earliest kickoff scheduled by the observation time. -/
def firstCutoff (candidates : List RevisionCandidate) (window : MatchweekWindow)
    (asOf : Instant) : Option Instant :=
  (earliestOf (eligibleAt candidates window asOf)).bind fun earliest =>
    earliest.kickoffUtc.map (· - matchweekLeadTime)

variable {candidates : List RevisionCandidate} {window : MatchweekWindow}

omit [PyRuntime] in
theorem cutoffBefore_eq {candidate : RevisionCandidate} {kickoff : Instant}
    (hkickoff : candidate.kickoffUtc = some kickoff) :
    cutoffBefore candidate = .ok (kickoff - matchweekLeadTime) := by
  rw [cutoffBefore, hkickoff]

theorem eligible_of_includedAt {boundary : Instant} {candidate : RevisionCandidate}
    (hmem : candidate ∈ includedAt candidates window boundary) :
    eligibleSchedule window candidate = true :=
  (List.mem_filter.mp hmem).2

theorem refineCutoff_search (passes : ℕ) (seen : List Instant) (cutoff : Instant)
    (earliest : RevisionCandidate) :
    (refineCutoff candidates window passes seen cutoff earliest).toOption.map Prod.fst =
      search (nextCutoff candidates window) passes seen cutoff := by
  induction passes generalizing seen cutoff earliest with
  | zero => rfl
  | succ passes ih =>
      rw [refineCutoff, search]
      cases hearliest : earliestOf (includedAt candidates window cutoff) with
      | none =>
          rw [nextCutoff, hearliest]
          rfl
      | some first =>
          obtain ⟨kickoff, hkickoff, -⟩ :=
            eligible_kickoff (eligible_of_includedAt (List.argmin_mem hearliest))
          rw [nextCutoff, hearliest, Option.bind_some, hkickoff, Option.map_some]
          dsimp only
          rw [cutoffBefore_eq hkickoff, ok_bind]
          split
          · rfl
          · split
            · rfl
            · exact ih _ _ _

theorem deriveCutoff_search (asOf : Instant) :
    (deriveCutoff candidates window asOf).toOption.map Prod.fst =
      (firstCutoff candidates window asOf).bind
        (search (nextCutoff candidates window) 8 []) := by
  unfold deriveCutoff firstCutoff
  cases hearliest : earliestOf (eligibleAt candidates window asOf) with
  | none => rfl
  | some first =>
      have hmem := List.mem_filter.mp (List.argmin_mem hearliest)
      obtain ⟨kickoff, hkickoff, -⟩ := eligible_kickoff (Bool.and_eq_true_iff.mp hmem.2).2
      rw [Option.bind_some, hkickoff, Option.map_some, Option.bind_some]
      dsimp only
      rw [cutoffBefore_eq hkickoff, ok_bind]
      exact refineCutoff_search 8 [] _ first

end Authority

end MatchVet.T05.Selection
