import MatchVet.T10.Catalog

/-!
# Settlement Evidence

One source-backed record of a fixture's played result.  The record keeps the
checked fields; its digest and its identifier are computed from them, so a
record cannot carry a digest that does not belong to it.
-/

namespace MatchVet.T10.Evidence

open MatchVet.Foundation.CanonicalJson
open MatchVet.Foundation.Runtime
open MatchVet.T10.Catalog

inductive T10Error where
  | validation (message : String)
  | integrity (message : String)
  | unexpected
  deriving DecidableEq, Repr

def invalid {α : Type} (message : String) : Except T10Error α := .error (.validation message)

def mismatch {α : Type} (message : String) : Except T10Error α := .error (.integrity message)

/-! ## The source hierarchy -/

inductive SettlementSource where
  | competition
  | federation
  | club
  | footballData
  deriving DecidableEq, Repr

namespace SettlementSource

def value : SettlementSource → String
  | .competition => "COMPETITION"
  | .federation => "FEDERATION"
  | .club => "CLUB"
  | .footballData => "FOOTBALL_DATA"

/-- `SOURCE_AUTHORITY_RANK`: a lower rank has more authority. -/
def rank : SettlementSource → ℕ
  | .competition => 0
  | .federation => 1
  | .club => 2
  | .footballData => 3

def aliases : List (String × SettlementSource) :=
  [("COMPETITION", .competition), ("LEAGUE", .competition),
    ("OFFICIAL COMPETITION", .competition), ("OFFICIAL LEAGUE", .competition),
    ("COMPETITION OR LEAGUE", .competition),
    ("OFFICIAL COMPETITION OR LEAGUE", .competition), ("FEDERATION", .federation),
    ("OFFICIAL FEDERATION", .federation), ("CLUB", .club), ("OFFICIAL CLUB", .club),
    ("FOOTBALL DATA", .footballData), ("FOOTBALL DATA CO UK", .footballData),
    ("FOOTBALL DATA CO.UK", .footballData), ("FOOTBALL-DATA", .footballData),
    ("FOOTBALL-DATA.CO.UK", .footballData)]

end SettlementSource

/-! ## Reading fields -/

/-- `_text`. -/
def text (value : Json) (label : String) : Except T10Error String :=
  match value with
  | .str content =>
      if blank content then invalid (label ++ " must be a non-empty string.")
      else .ok (strip content)
  | _ => invalid (label ++ " must be a non-empty string.")

theorem text_eq_ok {content label result : String} :
    text (.str content) label = .ok result ↔ blank content = false ∧ strip content = result := by
  unfold text
  cases hblank : blank content with
  | true => simp [hblank, invalid]
  | false => simp [hblank]

theorem trimmed_of_text {value : Json} {label result : String}
    (htext : text value label = .ok result) : Trimmed result := by
  unfold text at htext
  split at htext
  next content =>
    split at htext
    · cases htext
    next hblank =>
      cases htext
      exact trimmed_strip (by simpa using hblank)
  · cases htext

theorem text_of_trimmed {content : String} (hcontent : Trimmed content) (label : String) :
    text (.str content) label = .ok content :=
  text_eq_ok.mpr ⟨hcontent.not_blank, hcontent.1⟩

/-- Stripped text passes the check that produced it. -/
theorem text_of_text {value : Json} {label content : String}
    (htext : text value label = .ok content) : text (.str content) label = .ok content :=
  text_of_trimmed (trimmed_of_text htext) label

def optionalText (value : Json) (label : String) : Except T10Error (Option String) :=
  match value with
  | .null => .ok none
  | _ => (text value label).map some

def boolean (value : Json) (label : String) : Except T10Error Bool :=
  match value with
  | .null => .ok false
  | .bool flag => .ok flag
  | _ => invalid (label ++ " must be boolean.")

def optionalBoolean (value : Json) (label : String) : Except T10Error (Option Bool) :=
  match value with
  | .null => .ok none
  | _ => (boolean value label).map some

/-- The text an array member is, unless it is blank. -/
def memberText (item : Json) : Option String :=
  match item with
  | .str content => if blank content then none else some content
  | _ => none

/-- `_strings`: the sorted distinct members of an array of texts. -/
def strings (value : Json) : Except T10Error (List String) :=
  match value with
  | .null => .ok []
  | .array items =>
      match items.mapM memberText with
      | some texts => .ok (sortedSet texts)
      | none => invalid "T10 identifier lists must contain non-empty strings."
  | _ => invalid "T10 identifier lists must be arrays of non-empty strings."

def getOr (tree : Json) (key : String) (default : Json) : Json := (tree.get? key).getD default

/-- The nested `integer` of `from_mapping`: the first of the keys that is present. -/
def integer (tree : Json) (keys : List String) : Except T10Error (Option ℤ) :=
  match keys with
  | [] => .ok none
  | key :: rest =>
      match tree.get? key with
      | none => integer tree rest
      | some .null => .ok none
      | some (.int number) =>
          if number < 0 then
            invalid ("Settlement Evidence field " ++ key ++
              " must be a non-negative integer or null.")
          else .ok (some number)
      | some _ =>
          invalid ("Settlement Evidence field " ++ key ++
            " must be a non-negative integer or null.")

def textJson (value : Option String) : Json :=
  match value with
  | some content => .str content
  | none => .null

def countJson (value : Option ℕ) : Json :=
  match value with
  | some number => .int number
  | none => .null

def textsJson (texts : List String) : Json := .array (texts.map Json.str)

/-- An optional text that reading leaves as it is. -/
def OptionalText (value : Option String) : Prop := ∀ content ∈ value, Trimmed content

theorem optionalText_eq {value : Option String} (hvalue : OptionalText value) (label : String) :
    optionalText (textJson value) label = .ok value := by
  cases value with
  | none => rfl
  | some content =>
      rw [textJson, optionalText, text_of_trimmed (hvalue content rfl)]
      · rfl
      · nofun

theorem optionalText_of_ok {value : Json} {label : String} {result : Option String}
    (hread : optionalText value label = .ok result) : OptionalText result := by
  unfold optionalText at hread
  split at hread
  · cases hread
    nofun
  · cases htext : text value label with
    | error error =>
        rw [htext] at hread
        cases hread
    | ok content =>
        rw [htext] at hread
        cases hread
        intro found hfound
        cases hfound
        exact trimmed_of_text htext

/-- A sorted set of texts, none of them blank. -/
structure TextSet (texts : List String) : Prop where
  sorted : sortedSet texts = texts
  filled : ∀ content ∈ texts, blank content = false

theorem textSet_sortedSet {texts : List String} (hfilled : ∀ content ∈ texts, blank content = false) :
    TextSet (sortedSet texts) :=
  ⟨sortedSet_sortedSet texts, fun content hcontent => hfilled content (mem_sortedSet.mp hcontent)⟩

theorem mapM_memberText {texts : List String} (hfilled : ∀ content ∈ texts, blank content = false) :
    (texts.map Json.str).mapM memberText = some texts := by
  induction texts with
  | nil => rfl
  | cons content rest ih =>
      obtain ⟨hcontent, hrest⟩ := List.forall_mem_cons.mp hfilled
      rw [List.map_cons, List.mapM_cons, ih hrest]
      simp [memberText, hcontent]

theorem filled_of_mapM {items : List Json} {texts : List String}
    (hitems : items.mapM memberText = some texts) : ∀ content ∈ texts, blank content = false := by
  induction items generalizing texts with
  | nil =>
      cases hitems
      nofun
  | cons item rest ih =>
      rw [List.mapM_cons] at hitems
      obtain ⟨content, hcontent, hrest⟩ := Option.bind_eq_some_iff.mp hitems
      obtain ⟨others, hothers, heq⟩ := Option.bind_eq_some_iff.mp hrest
      cases heq
      refine List.forall_mem_cons.mpr ⟨?_, ih hothers⟩
      unfold memberText at hcontent
      split at hcontent
      · split at hcontent
        · cases hcontent
        next hblank =>
          cases hcontent
          simpa using hblank
      · cases hcontent

theorem strings_eq {texts : List String} (htexts : TextSet texts) :
    strings (textsJson texts) = .ok texts := by
  rw [textsJson, strings, mapM_memberText htexts.filled]
  exact congrArg Except.ok htexts.sorted

theorem textSet_of_strings {value : Json} {texts : List String}
    (hread : strings value = .ok texts) : TextSet texts := by
  unfold strings at hread
  split at hread
  · cases hread
    exact ⟨rfl, nofun⟩
  next items =>
    split at hread
    next found hfound =>
      cases hread
      exact textSet_sortedSet (filled_of_mapM hfound)
    · cases hread
  · cases hread

theorem integer_count {tree : Json} {key : String} {count : Option ℕ}
    (hcount : tree.get? key = some (countJson count)) (rest : List String) :
    integer tree (key :: rest) = .ok (count.map Int.ofNat) := by
  cases count with
  | none =>
      rw [integer, hcount]
      rfl
  | some number =>
      rw [integer, hcount]
      simp [countJson]

/-! ## Statuses -/

inductive StatusKind where
  | void
  | pending
  | complete
  deriving DecidableEq, Repr

def StatusKind.value : StatusKind → String
  | .void => "VOID"
  | .pending => "PENDING"
  | .complete => "COMPLETE"

def completedStatuses : List String := ["COMPLETED", "COMPLETE", "FINAL", "FINISHED", "PLAYED"]

def pendingStatuses : List String :=
  ["SCHEDULED", "UNKNOWN", "IN_PROGRESS", "LIVE", "SUSPENDED", "TEMPORARILY_SUSPENDED"]

def voidStatuses : List String :=
  ["POSTPONED", "CANCELLED", "CANCELED", "ABANDONED", "UNCOMPLETED", "FORFEITED", "FORFEIT",
    "WALKOVER", "AWARDED", "ADMIN_AWARDED", "ADMINISTRATIVE_AWARD", "WITHDRAWN", "VOID",
    "REPLAYED", "NOT_PLAYED"]

def playedAdminStatuses : List String :=
  ["FORFEITED", "FORFEIT", "WALKOVER", "AWARDED", "ADMIN_AWARDED", "ADMINISTRATIVE_AWARD"]

/-! ## Counts -/

/-- The ten counts of a record. -/
structure Counts (α : Type) where
  fullTimeHomeGoals : α
  fullTimeAwayGoals : α
  halfTimeHomeGoals : α
  halfTimeAwayGoals : α
  cornersHome : α
  cornersAway : α
  extraTimeHomeGoals : α
  extraTimeAwayGoals : α
  shootoutHomeGoals : α
  shootoutAwayGoals : α
  deriving DecidableEq

namespace Counts

variable {α β : Type}

/-- The counts under the labels of the constructor's messages. -/
def labelled (counts : Counts α) : List (String × α) :=
  [("full-time Home goals", counts.fullTimeHomeGoals),
    ("full-time Away goals", counts.fullTimeAwayGoals),
    ("half-time Home goals", counts.halfTimeHomeGoals),
    ("half-time Away goals", counts.halfTimeAwayGoals),
    ("Home corners", counts.cornersHome), ("Away corners", counts.cornersAway),
    ("extra-time Home goals", counts.extraTimeHomeGoals),
    ("extra-time Away goals", counts.extraTimeAwayGoals),
    ("shootout Home goals", counts.shootoutHomeGoals),
    ("shootout Away goals", counts.shootoutAwayGoals)]

def map (f : α → β) (counts : Counts α) : Counts β where
  fullTimeHomeGoals := f counts.fullTimeHomeGoals
  fullTimeAwayGoals := f counts.fullTimeAwayGoals
  halfTimeHomeGoals := f counts.halfTimeHomeGoals
  halfTimeAwayGoals := f counts.halfTimeAwayGoals
  cornersHome := f counts.cornersHome
  cornersAway := f counts.cornersAway
  extraTimeHomeGoals := f counts.extraTimeHomeGoals
  extraTimeAwayGoals := f counts.extraTimeAwayGoals
  shootoutHomeGoals := f counts.shootoutHomeGoals
  shootoutAwayGoals := f counts.shootoutAwayGoals

/-- The count a contract's fact names. -/
def fact (counts : Counts α) : Fact → α
  | .fullTimeHomeGoals => counts.fullTimeHomeGoals
  | .fullTimeAwayGoals => counts.fullTimeAwayGoals
  | .halfTimeHomeGoals => counts.halfTimeHomeGoals
  | .halfTimeAwayGoals => counts.halfTimeAwayGoals
  | .cornersHome => counts.cornersHome
  | .cornersAway => counts.cornersAway

end Counts

variable [PyRuntime]

def token (content : String) : String :=
  upper (String.ofList ([' '].intercalate
    (((replaceChar '-' ' ' (replaceChar '_' ' ' content)).toList.splitOnP isSpace).filter
      (· ≠ []))))

/-- `_source` of a text. -/
def source (value : Json) : Except T10Error SettlementSource :=
  match text value "T10 value" with
  | .error error => .error error
  | .ok content =>
      match SettlementSource.aliases.lookup (token content) with
      | some level => .ok level
      | none =>
          invalid ("Settlement sources must follow competition/league, federation, club, " ++
            "Football-Data.co.uk hierarchy.")

def canonicalUtc (value : String) : Except T10Error String :=
  match PyRuntime.utcText value with
  | none => invalid "T10 timestamps must be ISO-8601 values with a UTC offset."
  | some none => invalid "T10 timestamps must include a UTC offset."
  | some (some moment) => .ok moment

def optionalUtc (value : Option String) : Except T10Error (Option String) :=
  match value with
  | none => .ok none
  | some content => (canonicalUtc content).map some

/-! ## The record -/

/-- One checked record.  The provenance is an object with its members in key
order. -/
structure SettlementEvidence where
  fixtureId : String
  sourceLevel : SettlementSource
  sourceKey : String
  recordId : String
  recordSetId : String
  sourceDigest : Option String
  fixtureStatus : String
  regulationCompleted : Bool
  resumable : Bool
  administrativeAward : Bool
  counts : Counts (Option ℕ)
  sourceAssertionIds : List String
  publishedAtUtc : Option String
  observedAtUtc : Option String
  retrievedAtUtc : Option String
  predecessorId : Option String
  provenance : List (String × Json)
  fixture_text : text (.str fixtureId) "Settlement Evidence fixture ID" = .ok fixtureId
  deriving DecidableEq

/-- `_stable_id`. -/
def stableId [Hashing] (kind key : String) : String := uuid5 ("matchvet:" ++ kind ++ ":" ++ key)

namespace SettlementEvidence

def sourceRank (evidence : SettlementEvidence) : ℕ := evidence.sourceLevel.rank

def statusKind (evidence : SettlementEvidence) : StatusKind :=
  if voidStatuses.contains evidence.fixtureStatus &&
      (!playedAdminStatuses.contains evidence.fixtureStatus || !evidence.regulationCompleted) then
    .void
  else if evidence.administrativeAward && !evidence.regulationCompleted then .void
  else if pendingStatuses.contains evidence.fixtureStatus || !evidence.regulationCompleted then
    .pending
  else if completedStatuses.contains evidence.fixtureStatus ||
      playedAdminStatuses.contains evidence.fixtureStatus then .complete
  else .pending

def fact (evidence : SettlementEvidence) (name : Fact) : Option ℕ := evidence.counts.fact name

/-- More goals at half time than at full time. -/
def halfExceeds (half full : Option ℕ) : Bool :=
  match half, full with
  | some atHalf, some atFull => atFull < atHalf
  | _, _ => false

def invalidPhaseRelationship (evidence : SettlementEvidence) : Bool :=
  halfExceeds evidence.counts.halfTimeHomeGoals evidence.counts.fullTimeHomeGoals ||
    halfExceeds evidence.counts.halfTimeAwayGoals evidence.counts.fullTimeAwayGoals

/-! ## The payload, the digest and the identifier -/

/-- The payload with its identity, when it has one, in key order. -/
def record (evidence : SettlementEvidence) (identity : List (String × Json)) : Json :=
  .object ([("administrative_award", .bool evidence.administrativeAward),
      ("corners_away", countJson evidence.counts.cornersAway),
      ("corners_home", countJson evidence.counts.cornersHome)] ++ identity ++
    [("extra_time_away_goals", countJson evidence.counts.extraTimeAwayGoals),
      ("extra_time_home_goals", countJson evidence.counts.extraTimeHomeGoals),
      ("fixture_id", .str evidence.fixtureId),
      ("fixture_status", .str evidence.fixtureStatus),
      ("full_time_away_goals", countJson evidence.counts.fullTimeAwayGoals),
      ("full_time_home_goals", countJson evidence.counts.fullTimeHomeGoals),
      ("half_time_away_goals", countJson evidence.counts.halfTimeAwayGoals),
      ("half_time_home_goals", countJson evidence.counts.halfTimeHomeGoals),
      ("observed_at_utc", textJson evidence.observedAtUtc),
      ("predecessor_id", textJson evidence.predecessorId),
      ("provenance", .object evidence.provenance),
      ("published_at_utc", textJson evidence.publishedAtUtc),
      ("record_id", .str evidence.recordId),
      ("record_set_id", .str evidence.recordSetId),
      ("regulation_completed", .bool evidence.regulationCompleted),
      ("resumable", .bool evidence.resumable),
      ("retrieved_at_utc", textJson evidence.retrievedAtUtc),
      ("shootout_away_goals", countJson evidence.counts.shootoutAwayGoals),
      ("shootout_home_goals", countJson evidence.counts.shootoutHomeGoals),
      ("source_assertion_ids", textsJson evidence.sourceAssertionIds),
      ("source_digest", textJson evidence.sourceDigest),
      ("source_key", .str evidence.sourceKey),
      ("source_level", .str evidence.sourceLevel.value)])

def payload (evidence : SettlementEvidence) : Json := evidence.record []

variable [Hashing]

def evidenceDigest (evidence : SettlementEvidence) : String := sha256 (tokens evidence.payload)

def evidenceId (evidence : SettlementEvidence) : String :=
  stableId "settlement_evidence" evidence.evidenceDigest

def toDict (evidence : SettlementEvidence) : Json :=
  evidence.record [("evidence_digest", .str evidence.evidenceDigest),
    ("evidence_id", .str evidence.evidenceId)]

/-! ## The constructor -/

/-- The constructor arguments, before any check. -/
structure Arguments where
  fixtureId : Json
  sourceLevel : Json
  sourceKey : Json
  recordId : Json
  recordSetId : Option String
  sourceDigest : Option String
  fixtureStatus : Json
  regulationCompleted : Option Bool
  resumable : Bool
  administrativeAward : Bool
  counts : Counts (Option ℤ)
  sourceAssertionIds : Json
  publishedAtUtc : Option String
  observedAtUtc : Option String
  retrievedAtUtc : Option String
  predecessorId : Option String
  provenance : Json
  evidenceDigest : String

def negative (count : String × Option ℤ) : Bool :=
  match count.2 with
  | some number => number < 0
  | none => false

def provenanceMembers : Json → Except T10Error (List (String × Json))
  | .object members => .ok members
  | _ => invalid "Settlement Evidence provenance must be an object."

/-- The record identifier, made of fixture and source when none is given. -/
def recordIdOf (given : Json) (fixtureId sourceKey : String) : Except T10Error String :=
  if given.truthy then text given "Settlement Evidence record ID"
  else .ok (fixtureId ++ ":" ++ sourceKey)

def recordSetIdOf (given : Option String) (recordId : String) : Except T10Error String :=
  match given with
  | some content =>
      if content = "" then .ok recordId
      else text (.str content) "Settlement Evidence record set ID"
  | none => .ok recordId

/-- The constructor. -/
def create (arguments : Arguments) : Except T10Error SettlementEvidence :=
  match hfixture : text arguments.fixtureId "Settlement Evidence fixture ID" with
  | .error error => .error error
  | .ok fixtureId => do
      let sourceKey ← text arguments.sourceKey "Settlement Evidence source key"
      let recordId ← recordIdOf arguments.recordId fixtureId sourceKey
      let sourceLevel ← source arguments.sourceLevel
      let status ← text arguments.fixtureStatus "Settlement Evidence fixture status"
      match arguments.counts.labelled.find? negative with
      | some count => invalid (count.1 ++ " must be a non-negative integer or null.")
      | none => do
          let recordSetId ← recordSetIdOf arguments.recordSetId recordId
          let assertionIds ← strings arguments.sourceAssertionIds
          let publishedAtUtc ← optionalUtc arguments.publishedAtUtc
          let observedAtUtc ← optionalUtc arguments.observedAtUtc
          let retrievedAtUtc ← optionalUtc arguments.retrievedAtUtc
          let provenance ← provenanceMembers arguments.provenance
          let evidence : SettlementEvidence := {
            fixtureId := fixtureId
            sourceLevel := sourceLevel
            sourceKey := sourceKey
            recordId := recordId
            recordSetId := recordSetId
            sourceDigest := arguments.sourceDigest
            fixtureStatus := upper status
            regulationCompleted :=
              arguments.regulationCompleted.getD (completedStatuses.contains (upper status))
            resumable := arguments.resumable
            administrativeAward := arguments.administrativeAward
            counts := arguments.counts.map fun count => count.map Int.toNat
            sourceAssertionIds := assertionIds
            publishedAtUtc := publishedAtUtc
            observedAtUtc := observedAtUtc
            retrievedAtUtc := retrievedAtUtc
            predecessorId := arguments.predecessorId
            provenance := provenance
            fixture_text := text_of_text hfixture }
          if arguments.evidenceDigest ≠ "" ∧ arguments.evidenceDigest ≠ evidence.evidenceDigest then
            mismatch "Settlement Evidence digest does not match its immutable record."
          else .ok evidence

/-- `from_mapping`. -/
def fromMapping (value : Json) : Except T10Error SettlementEvidence := do
  let fixtureId ← text (getOr value "fixture_id" .null) "Settlement Evidence fixture ID"
  let recordSetId ← optionalText (getOr value "record_set_id" .null) "record_set_id"
  let sourceDigest ← optionalText (getOr value "source_digest" .null) "source_digest"
  let regulationCompleted ←
    optionalBoolean (getOr value "regulation_completed" .null) "regulation_completed"
  let resumable ← boolean (getOr value "resumable" .null) "resumable"
  let administrativeAward ←
    boolean (getOr value "administrative_award" .null) "administrative_award"
  let fullTimeHomeGoals ← integer value ["full_time_home_goals", "home_goals", "HG"]
  let fullTimeAwayGoals ← integer value ["full_time_away_goals", "away_goals", "AG"]
  let halfTimeHomeGoals ← integer value ["half_time_home_goals", "H1G"]
  let halfTimeAwayGoals ← integer value ["half_time_away_goals", "A1G"]
  let cornersHome ← integer value ["corners_home", "home_corners", "HC"]
  let cornersAway ← integer value ["corners_away", "away_corners", "AC"]
  let extraTimeHomeGoals ← integer value ["extra_time_home_goals"]
  let extraTimeAwayGoals ← integer value ["extra_time_away_goals"]
  let shootoutHomeGoals ← integer value ["shootout_home_goals"]
  let shootoutAwayGoals ← integer value ["shootout_away_goals"]
  let sourceAssertionIds ← strings (getOr value "source_assertion_ids" (.array []))
  let publishedAtUtc ← optionalText (getOr value "published_at_utc" .null) "published_at_utc"
  let observedAtUtc ← optionalText (getOr value "observed_at_utc" .null) "observed_at_utc"
  let retrievedAtUtc ← optionalText (getOr value "retrieved_at_utc" .null) "retrieved_at_utc"
  let predecessorId ← optionalText (getOr value "predecessor_id" .null) "predecessor_id"
  let evidence ← create {
    fixtureId := .str fixtureId
    sourceLevel := getOr value "source_level"
      (getOr value "source_authority" (.str "FOOTBALL_DATA"))
    sourceKey := getOr value "source_key" (.str "football-data")
    recordId := getOr value "record_id" (getOr value "source_record_id" (.str ""))
    recordSetId := recordSetId
    sourceDigest := sourceDigest
    fixtureStatus := getOr value "fixture_status" (getOr value "status" (.str "UNKNOWN"))
    regulationCompleted := regulationCompleted
    resumable := resumable
    administrativeAward := administrativeAward
    counts := ⟨fullTimeHomeGoals, fullTimeAwayGoals, halfTimeHomeGoals, halfTimeAwayGoals,
      cornersHome, cornersAway, extraTimeHomeGoals, extraTimeAwayGoals, shootoutHomeGoals,
      shootoutAwayGoals⟩
    sourceAssertionIds := textsJson sourceAssertionIds
    publishedAtUtc := publishedAtUtc
    observedAtUtc := observedAtUtc
    retrievedAtUtc := retrievedAtUtc
    predecessorId := predecessorId
    provenance := getOr value "provenance" (.object [])
    evidenceDigest := display (getOr value "evidence_digest" (.str "")).toValue }
  match getOr value "evidence_id" .null with
  | .null => .ok evidence
  | found =>
      if display found.toValue = evidence.evidenceId then .ok evidence
      else mismatch "Settlement Evidence ID does not match its immutable record."

end SettlementEvidence

end MatchVet.T10.Evidence
