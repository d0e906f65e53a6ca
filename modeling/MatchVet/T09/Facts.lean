import MatchVet.Foundation.CanonicalJson
import MatchVet.Foundation.Timestamp
import MatchVet.T07.Evidence

/-!
# Source facts

A source fact states one value of one subject, with its provenance and its time.
Its value is the JSON tree that its serialization writes, null for none.
-/

namespace MatchVet.T09.Facts

open MatchVet.Foundation.CanonicalJson
open MatchVet.Foundation.Runtime
open MatchVet.Foundation.Timestamp
open MatchVet.T07.Evidence (EvidenceState EvidenceClass CutoffEligibility)

inductive FreshnessState where
  | fresh
  | stale
  | unknown
  | postCutoff
  deriving DecidableEq, Repr

/-- `SourceFact` after its construction; construction sorts the assertion ids and
puts the fact id in their place when there are none. -/
structure SourceFact where
  factId : String
  subjectId : String
  evidenceType : String
  predicate : String
  state : EvidenceState
  value : Json
  evidenceClass : EvidenceClass
  sourceKey : String
  originId : Option String
  sourceAssertionIds : List String
  sourceDigest : Option String
  publishedAtUtc : Option Instant
  observedAtUtc : Option Instant
  retrievedAtUtc : Option Instant
  eventTimeUtc : Option Instant
  effectiveTimeUtc : Option Instant
  cutoffEligibility : CutoffEligibility
  sourceRowKey : Option String
  correlationGroups : List String
  unknownReason : Option String
  affirmativeBasis : Option String
  authorityRank : ℤ
  provenance : Json
  freshness : FreshnessState
  ageSecondsAtCutoff : Option ℚ
  ageSecondsAtKickoff : Option ℚ
  observed_value : state = .observed → value ≠ .null
  other_value : state ≠ .observed → value = .null
  assertions_sorted : sortedSet sourceAssertionIds = sourceAssertionIds
  assertions_ne : sourceAssertionIds ≠ []
  deriving DecidableEq

/-- `_fact_is_known`. -/
def factIsKnown (fact : SourceFact) : Bool := fact.state = .observed || fact.state = .absent

/-- `_fact_key`. -/
def factKey (fact : SourceFact) : String × String × String :=
  (fact.subjectId, fact.evidenceType, fact.predicate)

/-- `_fact_value`. -/
def factValue (fact : SourceFact) : Json :=
  .object [("state", .str fact.state.value), ("value", fact.value)]

/-- `_fact_value_digest`. -/
def factValueDigest [Hashing] (fact : SourceFact) : String := sha256 (tokens (factValue fact))

theorem state_value_injective : Function.Injective EvidenceState.value := by
  intro first second heq
  cases first <;> cases second <;> first | rfl | exact absurd heq (by decide)

/-- A collision-free digest tells the states and the values apart. -/
theorem factValueDigest_inj [Hashing] (hcollision : Function.Injective sha256)
    {first second : SourceFact} (hdigest : factValueDigest first = factValueDigest second) :
    first.state = second.state ∧ first.value = second.value := by
  have htree := tokens_injective (hcollision hdigest)
  simp only [factValue, Json.object.injEq, List.cons.injEq, Prod.mk.injEq, Json.str.injEq,
    true_and, and_true] at htree
  exact ⟨state_value_injective htree.1, htree.2⟩

end MatchVet.T09.Facts
