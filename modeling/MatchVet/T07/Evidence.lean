import MatchVet.Foundation.CanonicalJson
import MatchVet.Foundation.Delimited
import MatchVet.Foundation.Gregorian
import MatchVet.Foundation.Identifier
import MatchVet.Foundation.JsonText

/-!
# Source evidence

The captures and assertions that callers hand over, as their constructors leave
them: enumerations are resolved, identifiers are canonical and timestamps are
instants.
-/

namespace MatchVet.T07.Evidence

open MatchVet.Foundation.CanonicalJson
open MatchVet.Foundation.Delimited
open MatchVet.Foundation.Identifier
open MatchVet.Foundation.Timestamp

/-! ## Errors -/

/-- Which exception a refused call raises. -/
inductive ErrorKind where
  | validation
  | policy
  | integrity
  | other
  deriving DecidableEq, Repr

structure EvidenceError where
  kind : ErrorKind
  message : String
  deriving DecidableEq, Repr

def refuse {α : Type} (kind : ErrorKind) (message : String) : Except EvidenceError α :=
  .error ⟨kind, message⟩

/-- Raise unless the condition holds. -/
def require (condition : Prop) [Decidable condition] (kind : ErrorKind) (message : String) :
    Except EvidenceError Unit :=
  if condition then .ok () else refuse kind message

@[simp]
theorem require_ok_iff {condition : Prop} [Decidable condition] {kind : ErrorKind}
    {message : String} {done : Unit} : require condition kind message = .ok done ↔ condition := by
  unfold require
  split
  · exact ⟨fun _ => ‹_›, fun _ => rfl⟩
  · exact ⟨nofun, fun hcondition => absurd hcondition ‹_›⟩

/-! ## Enumerations -/

inductive EvidenceState where
  | observed
  | absent
  | unknown
  deriving DecidableEq, Repr

def EvidenceState.value : EvidenceState → String
  | .observed => "OBSERVED"
  | .absent => "ABSENT"
  | .unknown => "UNKNOWN"

inductive SubjectKind where
  | fixture
  | team
  | person
  deriving DecidableEq, Repr

def SubjectKind.value : SubjectKind → String
  | .fixture => "FIXTURE"
  | .team => "TEAM"
  | .person => "PERSON"

inductive EvidenceType where
  | injury
  | suspension
  | availability
  | expectedLineup
  | rotation
  | managerChange
  | regimeChange
  | tacticalContext
  | refereeAppointment
  | refereeContext
  deriving DecidableEq, Repr

def EvidenceType.value : EvidenceType → String
  | .injury => "INJURY"
  | .suspension => "SUSPENSION"
  | .availability => "AVAILABILITY"
  | .expectedLineup => "EXPECTED_LINEUP"
  | .rotation => "ROTATION"
  | .managerChange => "MANAGER_CHANGE"
  | .regimeChange => "REGIME_CHANGE"
  | .tacticalContext => "TACTICAL_CONTEXT"
  | .refereeAppointment => "REFEREE_APPOINTMENT"
  | .refereeContext => "REFEREE_CONTEXT"

inductive EvidenceClass where
  | critical
  | important
  | context
  deriving DecidableEq, Repr

def EvidenceClass.value : EvidenceClass → String
  | .critical => "CRITICAL"
  | .important => "IMPORTANT"
  | .context => "CONTEXT"

inductive CutoffEligibility where
  | cutoffValid
  | postCutoff
  | indeterminate
  deriving DecidableEq, Repr

inductive CaptureKind where
  | retained
  | citationOnly
  deriving DecidableEq, Repr

def CaptureKind.value : CaptureKind → String
  | .retained => "RETAINED"
  | .citationOnly => "CITATION_ONLY"

inductive SourceStatus where
  | active
  | suspended
  deriving DecidableEq, Repr

inductive SourceClass where
  | officialCompetition
  | officialFederation
  | officialLeague
  | officialClub
  | officialManager
  | officialEditorial
  | structuredProvider
  | openDataset
  | specialistReporting
  deriving DecidableEq, Repr

/-- The class of a stored assertion; a recorded silence has no source. -/
inductive AssertedClass where
  | source (sourceClass : SourceClass)
  | unknown
  deriving DecidableEq, Repr

/-! ## Rank and class of an assertion -/

/-- The rank of a source class when its evidence type has no ordering for it. -/
def defaultRank : SourceClass → ℕ
  | .officialCompetition => 20
  | .officialFederation => 30
  | .officialLeague => 40
  | .officialClub => 50
  | .officialManager => 50
  | .officialEditorial => 60
  | .structuredProvider => 100
  | .openDataset => 110
  | .specialistReporting => 200

/-- The orderings that a type has of its own. -/
def typeRank? : EvidenceType → SourceClass → Option ℕ
  | .injury, source | .availability, source | .managerChange, source | .regimeChange, source =>
      match source with
      | .officialClub => some 0
      | .officialManager => some 0
      | .officialLeague => some 10
      | .officialCompetition => some 20
      | .officialFederation => some 30
      | _ => none
  | .suspension, source =>
      match source with
      | .officialCompetition => some 0
      | .officialFederation => some 10
      | .officialClub => some 20
      | .officialLeague => some 30
      | _ => none
  | .expectedLineup, source =>
      match source with
      | .officialEditorial => some 0
      | .officialClub => some 10
      | .officialManager => some 10
      | .officialLeague => some 20
      | _ => none
  | .tacticalContext, source =>
      match source with
      | .officialManager => some 0
      | .officialClub => some 10
      | .officialCompetition => some 20
      | .officialLeague => some 30
      | _ => none
  | .refereeAppointment, source | .refereeContext, source =>
      match source with
      | .officialCompetition => some 0
      | .officialFederation => some 10
      | .officialLeague => some 20
      | _ => none
  | .rotation, _ => none

/-- The lower-is-stronger authority rank of one assertion. -/
def authorityRank (evidenceType : EvidenceType) (source : SourceClass) : ℕ :=
  (typeRank? evidenceType source).getD (defaultRank source)

/-- `_DEFAULT_EVIDENCE_CLASSES`. -/
def defaultEvidenceClass : EvidenceType → EvidenceClass
  | .tacticalContext => .context
  | .refereeAppointment => .context
  | .refereeContext => .context
  | _ => .important

def classifyEvidence (evidenceType : EvidenceType) (source : SourceClass)
    (requested : Option EvidenceClass) : Except EvidenceError EvidenceClass :=
  let selected := requested.getD (defaultEvidenceClass evidenceType)
  if source = .specialistReporting then
    if selected = .critical then
      refuse .policy ("Specialist reporting is contextual or corroborative only and cannot be " ++
        "classified as Critical Evidence.")
    else if requested = none then .ok .context
    else .ok selected
  else .ok selected

/-! ## Identifiers -/

/-- `deterministic_identifier`. -/
def deterministicIdentifier [Hashing] (kind key : String) : String :=
  uuid5 (delimited ':' kind key)

/-! ## Topics -/

/-- What an assertion is about. -/
structure Topic where
  subjectKind : SubjectKind
  subjectId : Uuid
  evidenceType : EvidenceType
  predicate : String
  deriving DecidableEq

def Topic.text (topic : Topic) : String :=
  delimited ':' topic.subjectKind.value (delimited ':' topic.subjectId.text
    (delimited ':' topic.evidenceType.value topic.predicate))

theorem SubjectKind.value_injective : Function.Injective SubjectKind.value := by
  intro first second heq
  cases first <;> cases second <;> first | rfl | exact absurd heq (by decide)

theorem EvidenceType.value_injective : Function.Injective EvidenceType.value := by
  intro first second heq
  cases first <;> cases second <;> first | rfl | exact absurd heq (by decide)

theorem EvidenceState.value_injective : Function.Injective EvidenceState.value := by
  intro first second heq
  cases first <;> cases second <;> first | rfl | exact absurd heq (by decide)

theorem SubjectKind.free (kind : SubjectKind) : Free ':' kind.value := by
  cases kind <;> decide

theorem EvidenceType.free (evidenceType : EvidenceType) : Free ':' evidenceType.value := by
  cases evidenceType <;> decide

/-- A topic can be read back from its text. -/
theorem Topic.text_injective : Function.Injective Topic.text := by
  intro first second heq
  obtain ⟨hkind, hrest⟩ := delimited_inj_left first.subjectKind.free second.subjectKind.free heq
  obtain ⟨hsubject, hrest⟩ := delimited_inj_left first.subjectId.free second.subjectId.free hrest
  obtain ⟨htype, hpredicate⟩ :=
    delimited_inj_left first.evidenceType.free second.evidenceType.free hrest
  obtain ⟨firstKind, ⟨firstId, _⟩, firstType, firstPredicate⟩ := first
  obtain ⟨secondKind, ⟨secondId, _⟩, secondType, secondPredicate⟩ := second
  cases SubjectKind.value_injective hkind
  cases EvidenceType.value_injective htype
  cases hsubject
  cases hpredicate
  rfl

/-! ## Inputs -/

structure SourceIdentity where
  sourceKey : String
  canonicalName : String
  owner : String
  sourceClass : SourceClass
  accessMethod : String
  baseLocator : String
  allowedUse : String
  retentionStatus : String
  redistributable : Bool
  termsReference : String
  sourceId : Option String
  termsObservedAtUtc : Option Instant

structure IndependentOrigin where
  originKey : String
  organization : String
  locator : Option String
  classification : String
  originId : Option String

/-- A capture; source bytes come with a retained one and with no other, and carry
their digest. -/
structure SourceCaptureInput where
  source : SourceIdentity
  origin : IndependentOrigin
  locator : String
  retrievedAtUtc : Instant
  publishedAtUtc : Option Instant
  content : Option (List UInt8)
  contentSha256 : Option String
  captureKey : Option String
  accessMethod : String
  responseStatus : ℤ
  contentType : String
  captureKind : CaptureKind
  citationNote : Option String
  retained : captureKind = .retained ↔ content.isSome
  digested : content.isSome → contentSha256.isSome

/-- What an assertion says: an observed value by its canonical JSON text, the
basis of an absence, or the reason for not knowing. -/
inductive Asserted where
  | observed (normalizedValue : String)
  | absent (affirmativeBasis : String)
  | unknown (unknownReason : String)
  deriving DecidableEq, Repr

namespace Asserted

def state : Asserted → EvidenceState
  | .observed _ => .observed
  | .absent _ => .absent
  | .unknown _ => .unknown

def normalizedValue : Asserted → Option String
  | .observed value => some value
  | _ => none

def affirmativeBasis : Asserted → Option String
  | .absent basis => some basis
  | _ => none

def unknownReason : Asserted → Option String
  | .unknown reason => some reason
  | _ => none

end Asserted

structure EvidenceAssertionInput where
  subjectKind : SubjectKind
  subjectId : Uuid
  evidenceType : EvidenceType
  predicate : String
  asserted : Asserted
  evidenceClass : Option EvidenceClass
  eventTimeUtc : Option Instant
  effectiveTimeUtc : Option Instant
  assertionKey : Option String
  sourceRowKey : Option String
  correctionOf : Option String

end MatchVet.T07.Evidence
