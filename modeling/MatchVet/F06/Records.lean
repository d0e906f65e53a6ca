import Mathlib.Data.Int.Notation

/-!
# Membership evidence

The records of one fixture revision as a membership decision sees it.  Support
times are of a type of their own: the choice of the controlling revision compares
instants, the payload codec keeps the canonical text.
-/

namespace MatchVet.F06.Records

inductive MembershipState where
  | included
  | excluded
  deriving DecidableEq, Repr

/-- One capture or assertion that supports a revision. -/
structure AuthoritySupportSnapshot (Time : Type) where
  captureId : String
  captureDigest : String
  assertionId : Option String
  retrievedAtUtc : Time
  sourceKey : String
  sourceClass : String
  authorityRank : ℤ
  deriving DecidableEq

structure AssertionIntegritySnapshot where
  assertionId : String
  contentDigest : String
  semanticValue : Option String
  mappingId : Option String
  mappingDigest : Option String
  deriving DecidableEq

structure RevisionIntegritySnapshot where
  homeTeamId : String
  awayTeamId : String
  sourceRound : Option String
  assertions : List AssertionIntegritySnapshot
  deriving DecidableEq

structure FixtureRevisionSnapshot (Time : Type) where
  scopeId : String
  fixtureId : String
  revisionId : String
  revisionDigest : String
  predecessorRevisionId : Option String
  kickoffState : String
  kickoffUtc : Option String
  kickoffLocalText : Option String
  kickoffPrecision : String
  fixtureStatus : String
  sourceCaptureIds : List String
  sourceAssertionIds : List String
  supports : List (AuthoritySupportSnapshot Time)
  authorityRank : ℤ
  latestSupportRetrievedAtUtc : Time
  integrity : Option RevisionIntegritySnapshot
  deriving DecidableEq

end MatchVet.F06.Records
