import Mathlib.Data.Prod.Lex
import Mathlib.Data.String.Basic
import MatchVet.Foundation.CanonicalJson
import MatchVet.Foundation.KeySort
import MatchVet.Foundation.Timestamp

/-!
# Rolling-origin folds

Development Matchweeks are sorted by their start and their identifier, and a fold
takes a prefix of them for development and the next block for validation.  Its
boundaries are the starts of the Matchweeks that follow, so two Matchweeks that
start together must not be parted by a boundary.
-/

namespace MatchVet.T18.Folds

open MatchVet.Foundation.CanonicalJson
open MatchVet.Foundation.Dictionary
open MatchVet.Foundation.KeySort
open MatchVet.Foundation.Runtime
open MatchVet.Foundation.Timestamp

/-- `EvaluationError`. -/
structure EvaluationError where
  message : String
  deriving DecidableEq, Repr

/-- What the folds read of a `HistoricalEvaluation`; a canonical UTC text is the instant
that it writes. -/
structure HistoricalEvaluation where
  matchweekId : String
  matchweekStart : Instant
  researchCutoff : Instant
  membershipManifestDigest : String
  deriving DecidableEq, Repr

/-- A half-open UTC interval. -/
structure ChronologicalPeriod where
  start : Instant
  finish : Instant
  ordered : start < finish

namespace ChronologicalPeriod

def contains (period : ChronologicalPeriod) (instant : Instant) : Bool :=
  period.start ≤ instant && instant < period.finish

theorem contains_eq_true {period : ChronologicalPeriod} {instant : Instant} :
    period.contains instant = true ↔ period.start ≤ instant ∧ instant < period.finish := by
  rw [contains, Bool.and_eq_true, decide_eq_true_eq, decide_eq_true_eq]

end ChronologicalPeriod

/-- The split and the positive counts of the folds. -/
structure EvaluationConfig where
  development : ChronologicalPeriod
  validation : ChronologicalPeriod
  evaluation : ChronologicalPeriod
  minimumDevelopmentMatchweeks : ℕ
  rollingValidationMatchweeks : ℕ
  rollingStepMatchweeks : ℕ
  seed : ℕ
  minimum_pos : 1 ≤ minimumDevelopmentMatchweeks
  rolling_pos : 1 ≤ rollingValidationMatchweeks
  step_pos : 1 ≤ rollingStepMatchweeks

structure ChronologicalFold where
  foldId : String
  developmentStart : Instant
  developmentEnd : Instant
  validationStart : Instant
  validationEnd : Instant
  evaluationStart : Option Instant
  evaluationEnd : Option Instant
  developmentMatchweekIds : List String
  validationMatchweekIds : List String
  evaluationMatchweekIds : List String
  deriving DecidableEq, Repr

/-! ## Checks -/

/-- `_validate_period_order`. -/
def validatePeriodOrder (config : EvaluationConfig) : Except EvaluationError Unit :=
  if config.validation.start < config.development.finish ∨
      config.evaluation.start < config.validation.finish then
    .error ⟨"Development, Validation, and Final Evaluation periods must not overlap."⟩
  else .ok ()

/-- The boundary that the rows of a Matchweek share. -/
abbrev Boundary := Instant × Instant × String

def HistoricalEvaluation.boundary (observation : HistoricalEvaluation) : Boundary :=
  (observation.matchweekStart, observation.researchCutoff, observation.membershipManifestDigest)

/-- The loop of `_validate_matchweek_boundaries` over the boundaries seen so far. -/
def validateBoundaries (boundaries : List (String × Boundary)) :
    List HistoricalEvaluation → Except EvaluationError Unit
  | [] => .ok ()
  | observation :: rest =>
      let current := observation.boundary
      let previous := (boundaries.lookup observation.matchweekId).getD current
      if previous.1 ≠ current.1 then
        .error ⟨"Matchweek boundary differs across rows for " ++ observation.matchweekId ++ "."⟩
      else if previous.2.1 ≠ current.2.1 then
        .error ⟨"Research Cutoff differs across rows for " ++ observation.matchweekId ++ "."⟩
      else if previous.2.2 ≠ current.2.2 then
        .error ⟨"Membership Manifest differs across rows for " ++ observation.matchweekId ++ "."⟩
      else if (boundaries.lookup observation.matchweekId).isSome then
        validateBoundaries boundaries rest
      else validateBoundaries (boundaries ++ [(observation.matchweekId, current)]) rest

/-- `_validate_matchweek_boundaries`. -/
def validateMatchweekBoundaries (observations : List HistoricalEvaluation) :
    Except EvaluationError Unit :=
  validateBoundaries [] observations

/-! ## Folds -/

/-- A Matchweek by its start and its identifier. -/
abbrev Matchweek := Instant × String

def matchweekKey (matchweek : Matchweek) : Lex (Instant × String) := toLex matchweek

/-- The Matchweeks of the Development Period, in order. -/
def developmentMatchweeks (observations : List HistoricalEvaluation)
    (config : EvaluationConfig) : List Matchweek :=
  let starts := PyDict.ofPairs (observations.map fun observation =>
    (observation.matchweekId, observation.matchweekStart))
  sortedOn matchweekKey ((starts.entries.map fun entry => (entry.2, entry.1)).filter
    fun matchweek => config.development.contains matchweek.1)

/-- A number in three digits at least. -/
def threeDigits (number : ℕ) : String :=
  let text := toString number
  String.ofList (List.replicate (3 - text.length) '0') ++ text

section Folding

variable [Hashing]

/-- `fold_id`. -/
def foldId (config : EvaluationConfig) (number : ℕ) (development validation : List String) :
    String :=
  let payload : PyValue := .mapping [
    ("development", .array (development.map PyValue.str)),
    ("validation", .array (validation.map PyValue.str)),
    ("seed", .int config.seed)]
  let digest := sha256 ((canonicalText payload).getD [])
  "fold-" ++ threeDigits number ++ "-" ++ String.ofList (digest.toList.take 12)

/-- The fold that develops on the first Matchweeks. -/
def foldAt (config : EvaluationConfig) (matchweeks : List Matchweek)
    (number developmentCount : ℕ)
    (hfits : developmentCount + config.rollingValidationMatchweeks ≤ matchweeks.length) :
    ChronologicalFold :=
  have hrolling := config.rolling_pos
  let developmentRows := matchweeks.take developmentCount
  let validationRows :=
    (matchweeks.drop developmentCount).take config.rollingValidationMatchweeks
  let validationStart := (matchweeks.get ⟨developmentCount, by omega⟩).1
  let validationEndIndex := developmentCount + config.rollingValidationMatchweeks
  { foldId := foldId config number (developmentRows.map Prod.snd) (validationRows.map Prod.snd)
    developmentStart := (matchweeks.get ⟨0, by omega⟩).1
    developmentEnd := validationStart
    validationStart := validationStart
    validationEnd :=
      if hend : validationEndIndex < matchweeks.length then
        (matchweeks.get ⟨validationEndIndex, hend⟩).1
      else config.development.finish
    evaluationStart := none
    evaluationEnd := none
    developmentMatchweekIds := developmentRows.map Prod.snd
    validationMatchweekIds := validationRows.map Prod.snd
    evaluationMatchweekIds := [] }

/-- The loop of `generate_rolling_origin_folds`. -/
def foldsFrom (config : EvaluationConfig) (matchweeks : List Matchweek)
    (number developmentCount : ℕ) : List ChronologicalFold :=
  if hfits : developmentCount + config.rollingValidationMatchweeks ≤ matchweeks.length then
    foldAt config matchweeks number developmentCount hfits ::
      foldsFrom config matchweeks (number + 1) (developmentCount + config.rollingStepMatchweeks)
  else []
termination_by matchweeks.length + 1 - developmentCount
decreasing_by
  have hstep := config.step_pos
  omega

/-- `generate_rolling_origin_folds`. -/
def generateRollingOriginFolds (observations : List HistoricalEvaluation)
    (config : EvaluationConfig) : Except EvaluationError (List ChronologicalFold) := do
  validatePeriodOrder config
  validateMatchweekBoundaries observations
  .ok (foldsFrom config (developmentMatchweeks observations config) 1
    config.minimumDevelopmentMatchweeks)

end Folding

/-! ## Consistent boundaries -/

/-- The rows of a Matchweek share its boundary. -/
def Consistent (observations : List HistoricalEvaluation) : Prop :=
  ∀ first ∈ observations, ∀ second ∈ observations, first.matchweekId = second.matchweekId →
    first.boundary = second.boundary

theorem consistent_cons {observation : HistoricalEvaluation} {rest : List HistoricalEvaluation} :
    Consistent (observation :: rest) ↔
      (∀ other ∈ rest, other.matchweekId = observation.matchweekId →
        other.boundary = observation.boundary) ∧ Consistent rest := by
  constructor
  · intro hall
    exact ⟨fun other hother => hall other (List.mem_cons_of_mem _ hother) _ List.mem_cons_self,
      fun first hfirst second hsecond =>
        hall first (List.mem_cons_of_mem _ hfirst) second (List.mem_cons_of_mem _ hsecond)⟩
  · rintro ⟨hhead, hrest⟩ first hfirst second hsecond hid
    rcases List.mem_cons.mp hfirst with rfl | hleft
    · rcases List.mem_cons.mp hsecond with rfl | hright
      · rfl
      · exact (hhead second hright hid.symm).symm
    · rcases List.mem_cons.mp hsecond with rfl | hright
      · exact hhead first hleft hid
      · exact hrest first hleft second hright hid

/-- One row of the loop compares its boundary with the one seen first. -/
theorem validateBoundaries_cons {boundaries : List (String × Boundary)}
    {observation : HistoricalEvaluation} {rest : List HistoricalEvaluation} :
    validateBoundaries boundaries (observation :: rest) = .ok () ↔
      match boundaries.lookup observation.matchweekId with
      | some known => observation.boundary = known ∧ validateBoundaries boundaries rest = .ok ()
      | none => validateBoundaries
          (boundaries ++ [(observation.matchweekId, observation.boundary)]) rest = .ok () := by
  rw [validateBoundaries]
  cases hknown : boundaries.lookup observation.matchweekId with
  | none => simp
  | some known =>
      dsimp only [Option.getD_some, Option.isSome_some]
      constructor
      · intro hchecked
        split at hchecked
        · cases hchecked
        next hstart =>
          split at hchecked
          · cases hchecked
          next hcutoff =>
            split at hchecked
            · cases hchecked
            next hmanifest =>
              refine ⟨?_, hchecked⟩
              rw [not_not] at hstart hcutoff hmanifest
              exact (Prod.ext hstart (Prod.ext hcutoff hmanifest)).symm
      · rintro ⟨rfl, hrest⟩
        simp [hrest]

/-- The loop accepts the rows that agree with what was seen, and with one another. -/
theorem validateBoundaries_eq_ok {boundaries : List (String × Boundary)}
    {observations : List HistoricalEvaluation} :
    validateBoundaries boundaries observations = .ok () ↔
      (∀ observation ∈ observations, ∀ known,
        boundaries.lookup observation.matchweekId = some known → observation.boundary = known) ∧
      Consistent observations := by
  induction observations generalizing boundaries with
  | nil => exact ⟨fun _ => ⟨fun _ hmem => absurd hmem List.not_mem_nil,
      fun _ hmem => absurd hmem List.not_mem_nil⟩, fun _ => rfl⟩
  | cons observation rest ih =>
      rw [validateBoundaries_cons, consistent_cons, List.forall_mem_cons]
      cases hlookup : boundaries.lookup observation.matchweekId with
      | some known =>
          dsimp only
          rw [ih]
          constructor
          · rintro ⟨hknown, hrest, hconsistent⟩
            refine ⟨⟨fun found hfound => hknown.trans (Option.some.inj hfound), hrest⟩,
              fun other hother hid => ?_, hconsistent⟩
            rw [hknown]
            exact hrest other hother known (by rw [hid, hlookup])
          · rintro ⟨⟨hhead, hrest⟩, -, hconsistent⟩
            exact ⟨hhead known rfl, hrest, hconsistent⟩
      | none =>
          dsimp only
          rw [ih]
          have hextended (id : String) :
              (boundaries ++ [(observation.matchweekId, observation.boundary)]).lookup id =
                (boundaries.lookup id).or
                  (if id = observation.matchweekId then some observation.boundary else none) := by
            rw [List.lookup_append, List.lookup_cons, List.lookup_nil]
            by_cases hid : id = observation.matchweekId
            · simp [hid]
            · rw [beq_eq_false_iff_ne.mpr hid, if_neg hid]
          simp only [hextended]
          constructor
          · rintro ⟨hrest, hconsistent⟩
            refine ⟨⟨nofun, fun other hother known hknown => hrest other hother known ?_⟩,
              fun other hother hid => hrest other hother _ ?_, hconsistent⟩
            · rw [hknown, Option.some_or]
            · rw [hid, hlookup, if_pos rfl, Option.none_or]
          · rintro ⟨⟨-, hrest⟩, hhead, hconsistent⟩
            refine ⟨fun other hother known hknown => ?_, hconsistent⟩
            cases hseen : boundaries.lookup other.matchweekId with
            | some seen =>
                rw [hseen, Option.some_or, Option.some.injEq] at hknown
                rw [← hknown]
                exact hrest other hother seen hseen
            | none =>
                rw [hseen, Option.none_or] at hknown
                split at hknown
                next hid =>
                  rw [← Option.some.inj hknown]
                  exact hhead other hother hid
                next => cases hknown

theorem validateMatchweekBoundaries_eq_ok {observations : List HistoricalEvaluation} :
    validateMatchweekBoundaries observations = .ok () ↔ Consistent observations := by
  rw [validateMatchweekBoundaries, validateBoundaries_eq_ok]
  refine ⟨fun hboth => hboth.2, fun hconsistent => ⟨fun _ _ known hknown => ?_, hconsistent⟩⟩
  cases hknown

/-- The periods follow one another. -/
def PeriodsOrdered (config : EvaluationConfig) : Prop :=
  config.development.finish ≤ config.validation.start ∧
    config.validation.finish ≤ config.evaluation.start

theorem validatePeriodOrder_eq_ok {config : EvaluationConfig} :
    validatePeriodOrder config = .ok () ↔ PeriodsOrdered config := by
  unfold validatePeriodOrder PeriodsOrdered
  split
  next hoverlap =>
    exact ⟨nofun, fun hordered => absurd hoverlap
      (not_or.mpr ⟨not_lt.mpr hordered.1, not_lt.mpr hordered.2⟩)⟩
  next hordered =>
    rw [not_or, not_lt, not_lt] at hordered
    exact ⟨fun _ => hordered, fun _ => rfl⟩

/-! ## The Matchweeks in order -/

/-- The Matchweeks of a period, one for each identifier, by their starts. -/
structure Timeline (observations : List HistoricalEvaluation) (period : ChronologicalPeriod)
    (matchweeks : List Matchweek) : Prop where
  mem : ∀ observation ∈ observations, period.contains observation.matchweekStart = true →
    (observation.matchweekStart, observation.matchweekId) ∈ matchweeks
  exists_row : ∀ matchweek ∈ matchweeks, period.contains matchweek.1 = true ∧
    ∃ observation ∈ observations, observation.matchweekId = matchweek.2
  start_eq : ∀ matchweek ∈ matchweeks, ∀ observation ∈ observations,
    observation.matchweekId = matchweek.2 → observation.matchweekStart = matchweek.1
  distinct : (matchweeks.map Prod.snd).Nodup
  sorted : matchweeks.Pairwise fun earlier later => earlier.1 ≤ later.1

theorem timeline_developmentMatchweeks {observations : List HistoricalEvaluation}
    (hconsistent : Consistent observations) (config : EvaluationConfig) :
    Timeline observations config.development (developmentMatchweeks observations config) := by
  have hpairs (start : Instant) (id : String) (hentry : (id, start) ∈
      (PyDict.ofPairs (observations.map fun observation =>
        (observation.matchweekId, observation.matchweekStart))).entries) :
      ∃ observation ∈ observations, observation.matchweekId = id ∧
        observation.matchweekStart = start := by
    obtain ⟨observation, hmem, hpair⟩ := List.mem_map.mp (PyDict.mem_of_mem_ofPairs hentry)
    cases hpair
    exact ⟨observation, hmem, rfl, rfl⟩
  have hstarts {first second : HistoricalEvaluation} (hfirst : first ∈ observations)
      (hsecond : second ∈ observations) (hid : first.matchweekId = second.matchweekId) :
      first.matchweekStart = second.matchweekStart :=
    congrArg Prod.fst (hconsistent first hfirst second hsecond hid)
  have hmem (matchweek : Matchweek) : matchweek ∈ developmentMatchweeks observations config ↔
      (matchweek.2, matchweek.1) ∈ (PyDict.ofPairs (observations.map fun observation =>
        (observation.matchweekId, observation.matchweekStart))).entries ∧
        config.development.contains matchweek.1 = true := by
    rw [developmentMatchweeks, (sortedOn_perm _ _).mem_iff, List.mem_filter, List.mem_map]
    refine and_congr_left fun _ => ⟨?_, fun hentry => ⟨_, hentry, rfl⟩⟩
    rintro ⟨entry, hentry, rfl⟩
    exact hentry
  refine ⟨fun observation hobservation hcontains => ?_, fun matchweek hmatchweek => ?_,
    fun matchweek hmatchweek observation hobservation hid => ?_, ?_, ?_⟩
  · have hkey : observation.matchweekId ∈ (PyDict.ofPairs (observations.map fun observation =>
        (observation.matchweekId, observation.matchweekStart))).keys := by
      rw [PyDict.mem_keys_ofPairs, List.map_map]
      exact List.mem_map_of_mem hobservation
    obtain ⟨entry, hentry, hid⟩ := List.mem_map.mp hkey
    obtain ⟨other, hother, hsame, hstart⟩ := hpairs entry.2 entry.1 hentry
    rw [hmem]
    refine ⟨?_, hcontains⟩
    rw [← hstarts hother hobservation (hsame.trans hid), hstart, ← hid]
    exact hentry
  · obtain ⟨hentry, hcontains⟩ := (hmem matchweek).mp hmatchweek
    obtain ⟨observation, hobservation, hid, -⟩ := hpairs _ _ hentry
    exact ⟨hcontains, observation, hobservation, hid⟩
  · obtain ⟨hentry, -⟩ := (hmem matchweek).mp hmatchweek
    obtain ⟨other, hother, hsame, hstart⟩ := hpairs _ _ hentry
    rw [← hstart]
    exact hstarts hobservation hother (hid.trans hsame.symm)
  · rw [developmentMatchweeks]
    refine ((sortedOn_perm matchweekKey _).map Prod.snd).nodup_iff.mpr ?_
    refine List.Nodup.sublist (List.filter_sublist.map Prod.snd) ?_
    rw [List.map_map]
    exact (PyDict.ofPairs _).nodup
  · refine (sortedOn_pairwise matchweekKey _).imp fun hle => ?_
    rcases Prod.Lex.toLex_le_toLex.mp hle with hless | ⟨hequal, -⟩
    · exact le_of_lt hless
    · exact le_of_eq hequal

/-! ## Boundaries between blocks -/

/-- No Matchweek of the first block starts together with one behind it. -/
def Parts (matchweeks : List Matchweek) (count : ℕ) : Prop :=
  ∀ earlier ∈ matchweeks.take count, ∀ later ∈ matchweeks.drop count, earlier.1 ≠ later.1

section Blocks

variable {matchweeks : List Matchweek}

theorem start_le (hsorted : matchweeks.Pairwise fun earlier later => earlier.1 ≤ later.1)
    {first second : ℕ} (hle : first ≤ second) (hsecond : second < matchweeks.length) :
    (matchweeks[first]).1 ≤ (matchweeks[second]).1 := by
  rcases Nat.lt_or_eq_of_le hle with hlt | rfl
  · exact List.pairwise_iff_getElem.mp hsorted first second _ hsecond hlt
  · exact le_refl _

theorem start_le_of_mem_take (hsorted : matchweeks.Pairwise fun earlier later => earlier.1 ≤ later.1)
    {count index : ℕ} (hindex : index < matchweeks.length) (hcount : count ≤ index + 1)
    {matchweek : Matchweek} (hmem : matchweek ∈ matchweeks.take count) :
    matchweek.1 ≤ (matchweeks[index]).1 := by
  obtain ⟨position, hposition, rfl⟩ := List.mem_take_iff_getElem.mp hmem
  exact start_le hsorted (by omega) hindex

theorem start_le_of_mem_drop (hsorted : matchweeks.Pairwise fun earlier later => earlier.1 ≤ later.1)
    {count : ℕ} (hcount : count < matchweeks.length) {matchweek : Matchweek}
    (hmem : matchweek ∈ matchweeks.drop count) : (matchweeks[count]).1 ≤ matchweek.1 := by
  obtain ⟨position, hposition, rfl⟩ := List.mem_drop_iff_getElem.mp hmem
  exact start_le hsorted (Nat.le_add_right _ _) (by omega)

/-- The positions of a block. -/
theorem mem_block_iff {count size : ℕ} {matchweek : Matchweek} :
    matchweek ∈ (matchweeks.drop count).take size ↔
      ∃ position, ∃ hposition : position < matchweeks.length,
        count ≤ position ∧ position < count + size ∧ matchweeks[position] = matchweek := by
  rw [List.mem_take_iff_getElem]
  constructor
  · rintro ⟨offset, hoffset, rfl⟩
    rw [List.length_drop] at hoffset
    refine ⟨count + offset, by omega, by omega, by omega, ?_⟩
    rw [List.getElem_drop]
  · rintro ⟨position, hposition, hle, hlt, rfl⟩
    refine ⟨position - count, by rw [List.length_drop]; omega, ?_⟩
    rw [List.getElem_drop]
    congr 1
    omega

/-- A boundary parts the list exactly when the block before it starts before it. -/
theorem parts_iff (hsorted : matchweeks.Pairwise fun earlier later => earlier.1 ≤ later.1)
    {count : ℕ} (hcount : count < matchweeks.length) :
    Parts matchweeks count ↔
      ∀ matchweek ∈ matchweeks.take count, matchweek.1 < (matchweeks[count]).1 := by
  constructor
  · intro hparts matchweek hmem
    have hnext : matchweeks[count] ∈ matchweeks.drop count :=
      List.mem_drop_iff_getElem.mpr ⟨0, by omega, rfl⟩
    exact lt_of_le_of_ne (start_le_of_mem_take hsorted hcount (by omega) hmem)
      (hparts matchweek hmem _ hnext)
  · intro hbefore earlier hearlier later hlater
    exact ne_of_lt ((hbefore earlier hearlier).trans_le
      (start_le_of_mem_drop hsorted hcount hlater))

instance (matchweeks : List Matchweek) (count : ℕ) : Decidable (Parts matchweeks count) := by
  unfold Parts
  infer_instance

theorem parts_length : Parts matchweeks matchweeks.length := by
  intro earlier _ later hlater
  rw [List.drop_length] at hlater
  cases hlater

end Blocks

/-! ## What a fold promises -/

/-- Every Matchweek of the fold is on its side of the boundaries, and no other Matchweek of
the Development Period starts before validation. -/
structure Chronological (observations : List HistoricalEvaluation) (config : EvaluationConfig)
    (fold : ChronologicalFold) : Prop where
  known : ∀ id, id ∈ fold.developmentMatchweekIds ∨ id ∈ fold.validationMatchweekIds →
    ∃ observation ∈ observations, observation.matchweekId = id
  disjoint : ∀ id ∈ fold.developmentMatchweekIds, id ∉ fold.validationMatchweekIds
  boundary : fold.developmentEnd = fold.validationStart
  development : ∀ observation ∈ observations,
    observation.matchweekId ∈ fold.developmentMatchweekIds →
      observation.matchweekStart < fold.validationStart
  validation : ∀ observation ∈ observations,
    observation.matchweekId ∈ fold.validationMatchweekIds →
      fold.validationStart ≤ observation.matchweekStart ∧
        observation.matchweekStart < fold.validationEnd
  outside : ∀ observation ∈ observations,
    config.development.contains observation.matchweekStart = true →
      observation.matchweekId ∉ fold.developmentMatchweekIds →
        observation.matchweekId ∉ fold.validationMatchweekIds →
          fold.validationStart ≤ observation.matchweekStart

/-- The development set of the second fold is larger. -/
def Grows (first second : ChronologicalFold) : Prop :=
  (∀ id ∈ first.developmentMatchweekIds, id ∈ second.developmentMatchweekIds) ∧
    ∃ id ∈ second.developmentMatchweekIds, id ∉ first.developmentMatchweekIds

section Promises

variable [Hashing] {observations : List HistoricalEvaluation} {config : EvaluationConfig}
  {matchweeks : List Matchweek} {number count : ℕ}

omit [Hashing] in
/-- The Matchweeks of a fold are those of its block. -/
theorem Timeline.mem_block (htimeline : Timeline observations config.development matchweeks)
    {block : List Matchweek} (hblock : ∀ matchweek ∈ block, matchweek ∈ matchweeks)
    {observation : HistoricalEvaluation} (hobservation : observation ∈ observations) :
    observation.matchweekId ∈ block.map Prod.snd ↔
      (observation.matchweekStart, observation.matchweekId) ∈ block := by
  constructor
  · intro hid
    obtain ⟨matchweek, hmem, hsame⟩ := List.mem_map.mp hid
    have hstart := htimeline.start_eq matchweek (hblock matchweek hmem) observation hobservation
      hsame.symm
    rw [hstart, ← hsame]
    exact hmem
  · exact fun hmem => List.mem_map_of_mem hmem

/-- The boundary that ends validation. -/
def validationEnd (config : EvaluationConfig) (matchweeks : List Matchweek) (count : ℕ) :
    Instant :=
  if hend : count + config.rollingValidationMatchweeks < matchweeks.length then
    (matchweeks.get ⟨count + config.rollingValidationMatchweeks, hend⟩).1
  else config.development.finish

omit [Hashing] in
/-- Validation ends behind its Matchweeks exactly when its boundary parts the list. -/
theorem Timeline.validationEnd_iff
    (htimeline : Timeline observations config.development matchweeks)
    (hfits : count + config.rollingValidationMatchweeks ≤ matchweeks.length) :
    (∀ matchweek ∈ (matchweeks.drop count).take config.rollingValidationMatchweeks,
      matchweek.1 < validationEnd config matchweeks count) ↔
      Parts matchweeks (count + config.rollingValidationMatchweeks) := by
  have hrolling := config.rolling_pos
  unfold validationEnd
  by_cases hend : count + config.rollingValidationMatchweeks < matchweeks.length
  · rw [dif_pos hend, parts_iff htimeline.sorted hend]
    constructor
    · intro hblock matchweek hmem
      have hlast : count + config.rollingValidationMatchweeks - 1 < matchweeks.length := by omega
      have hmember := hblock _ (mem_block_iff.mpr ⟨_, hlast, by omega, by omega, rfl⟩)
      exact (start_le_of_mem_take htimeline.sorted hlast (by omega) hmem).trans_lt hmember
    · intro hparts matchweek hmem
      obtain ⟨position, hposition, -, hlt, rfl⟩ := mem_block_iff.mp hmem
      exact hparts _ (List.mem_take_iff_getElem.mpr ⟨position, by omega, rfl⟩)
  · rw [dif_neg hend]
    refine iff_of_true (fun matchweek hmem => ?_) ?_
    · have hcontains := (htimeline.exists_row matchweek
        (List.mem_of_mem_drop (List.mem_of_mem_take hmem))).1
      exact (ChronologicalPeriod.contains_eq_true.mp hcontains).2
    · have hlength : count + config.rollingValidationMatchweeks = matchweeks.length := by omega
      rw [hlength]
      exact parts_length

/-- A fold is chronological exactly when both of its boundaries part the Matchweeks. -/
theorem chronological_foldAt_iff
    (htimeline : Timeline observations config.development matchweeks)
    (hfits : count + config.rollingValidationMatchweeks ≤ matchweeks.length) :
    Chronological observations config (foldAt config matchweeks number count hfits) ↔
      Parts matchweeks count ∧ Parts matchweeks (count + config.rollingValidationMatchweeks) := by
  have hrolling := config.rolling_pos
  have hcount : count < matchweeks.length := by omega
  have htake : ∀ matchweek ∈ matchweeks.take count, matchweek ∈ matchweeks :=
    fun _ => List.mem_of_mem_take
  have hblock : ∀ matchweek ∈ (matchweeks.drop count).take config.rollingValidationMatchweeks,
      matchweek ∈ matchweeks := fun _ hmem => List.mem_of_mem_drop (List.mem_of_mem_take hmem)
  have hrow (matchweek : Matchweek) (hmem : matchweek ∈ matchweeks) :
      ∃ observation ∈ observations, observation.matchweekId = matchweek.2 ∧
        observation.matchweekStart = matchweek.1 := by
    obtain ⟨-, observation, hobservation, hid⟩ := htimeline.exists_row matchweek hmem
    exact ⟨observation, hobservation, hid, htimeline.start_eq matchweek hmem observation
      hobservation hid⟩
  rw [parts_iff htimeline.sorted hcount, ← htimeline.validationEnd_iff hfits]
  constructor
  · intro hfold
    constructor
    · intro matchweek hmem
      obtain ⟨observation, hobservation, hid, hstart⟩ := hrow matchweek (htake matchweek hmem)
      rw [← hstart]
      refine hfold.development observation hobservation ?_
      rw [hid]
      exact List.mem_map_of_mem hmem
    · intro matchweek hmem
      obtain ⟨observation, hobservation, hid, hstart⟩ := hrow matchweek (hblock matchweek hmem)
      rw [← hstart]
      refine (hfold.validation observation hobservation ?_).2
      rw [hid]
      exact List.mem_map_of_mem hmem
  · rintro ⟨hdevelopment, hvalidation⟩
    refine ⟨fun id hid => ?_, fun id hid hother => ?_, rfl, fun observation hobservation hid => ?_,
      fun observation hobservation hid => ?_,
      fun observation hobservation hcontains hdevelops hvalidates => ?_⟩
    · obtain ⟨matchweek, hmem, rfl⟩ : ∃ matchweek ∈ matchweeks, matchweek.2 = id := by
        rcases hid with hid | hid
        · obtain ⟨matchweek, hmem, hsame⟩ := List.mem_map.mp hid
          exact ⟨matchweek, htake matchweek hmem, hsame⟩
        · obtain ⟨matchweek, hmem, hsame⟩ := List.mem_map.mp hid
          exact ⟨matchweek, hblock matchweek hmem, hsame⟩
      obtain ⟨observation, hobservation, hid, -⟩ := hrow matchweek hmem
      exact ⟨observation, hobservation, hid⟩
    · obtain ⟨matchweek, hmem, hsame⟩ := List.mem_map.mp hid
      obtain ⟨other, hmemOther, hsameOther⟩ := List.mem_map.mp hother
      have hdistinct := htimeline.distinct
      rw [← List.take_append_drop count matchweeks, List.map_append,
        List.nodup_append] at hdistinct
      exact hdistinct.2.2 matchweek.2 (List.mem_map_of_mem hmem) other.2
        (List.mem_map_of_mem (List.mem_of_mem_take hmemOther)) (hsame.trans hsameOther.symm)
    · exact hdevelopment _ ((htimeline.mem_block htake hobservation).mp hid)
    · have hmem := (htimeline.mem_block hblock hobservation).mp hid
      exact ⟨start_le_of_mem_drop htimeline.sorted hcount (List.mem_of_mem_take hmem),
        hvalidation _ hmem⟩
    · have hmem := htimeline.mem observation hobservation hcontains
      rw [← List.take_append_drop count matchweeks] at hmem
      rcases List.mem_append.mp hmem with hmem | hmem
      · exact absurd ((htimeline.mem_block htake hobservation).mpr hmem) hdevelops
      · exact start_le_of_mem_drop htimeline.sorted hcount hmem

/-! ## All folds -/

theorem foldAt_congr {otherNumber otherCount : ℕ} (hnumber : number = otherNumber)
    (hcount : count = otherCount)
    (hfits : count + config.rollingValidationMatchweeks ≤ matchweeks.length)
    (hother : otherCount + config.rollingValidationMatchweeks ≤ matchweeks.length) :
    foldAt config matchweeks number count hfits =
      foldAt config matchweeks otherNumber otherCount hother := by
  subst hnumber hcount
  rfl

/-- The folds develop on counts that are a number of steps apart. -/
theorem mem_foldsFrom {fold : ChronologicalFold} :
    fold ∈ foldsFrom config matchweeks number count ↔
      ∃ round, ∃ hfits : count + round * config.rollingStepMatchweeks +
          config.rollingValidationMatchweeks ≤ matchweeks.length,
        fold = foldAt config matchweeks (number + round)
          (count + round * config.rollingStepMatchweeks) hfits := by
  induction number, count using foldsFrom.induct config matchweeks with
  | case1 number count hfits ih =>
      rw [foldsFrom, dif_pos hfits, List.mem_cons, ih]
      constructor
      · rintro (rfl | ⟨round, hround, rfl⟩)
        · exact ⟨0, by omega, foldAt_congr (by omega) (by omega) _ _⟩
        · refine ⟨round + 1, ?_, foldAt_congr (by omega) ?_ _ _⟩
          · rw [Nat.succ_mul]
            omega
          · rw [Nat.succ_mul]
            omega
      · rintro ⟨round, hround, rfl⟩
        cases round with
        | zero => exact Or.inl (foldAt_congr (by omega) (by omega) _ _)
        | succ round =>
            rw [Nat.succ_mul] at hround
            refine Or.inr ⟨round, by omega, foldAt_congr (by omega) ?_ _ _⟩
            rw [Nat.succ_mul]
            omega
  | case2 number count hfits =>
      rw [foldsFrom, dif_neg hfits]
      refine iff_of_false List.not_mem_nil ?_
      rintro ⟨round, hround, -⟩
      omega

theorem Timeline.grows_foldAt (htimeline : Timeline observations config.development matchweeks)
    {later laterCount : ℕ} (hlt : count < laterCount)
    (hfits : count + config.rollingValidationMatchweeks ≤ matchweeks.length)
    (hlater : laterCount + config.rollingValidationMatchweeks ≤ matchweeks.length) :
    Grows (foldAt config matchweeks number count hfits)
      (foldAt config matchweeks later laterCount hlater) := by
  have hcount : count < matchweeks.length := by omega
  constructor
  · intro id hid
    obtain ⟨matchweek, hmem, rfl⟩ := List.mem_map.mp hid
    refine List.mem_map_of_mem ?_
    obtain ⟨position, hposition, rfl⟩ := List.mem_take_iff_getElem.mp hmem
    exact List.mem_take_iff_getElem.mpr ⟨position, by omega, rfl⟩
  · refine ⟨(matchweeks[count]).2, List.mem_map_of_mem ?_, fun hid => ?_⟩
    · exact List.mem_take_iff_getElem.mpr ⟨count, by omega, rfl⟩
    · obtain ⟨matchweek, hmem, hsame⟩ := List.mem_map.mp hid
      have hdistinct := htimeline.distinct
      rw [← List.take_append_drop count matchweeks, List.map_append,
        List.nodup_append] at hdistinct
      exact hdistinct.2.2 matchweek.2 (List.mem_map_of_mem hmem) _
        (List.mem_map_of_mem (List.mem_drop_iff_getElem.mpr ⟨0, by omega, rfl⟩)) hsame

theorem Timeline.grows_foldsFrom
    (htimeline : Timeline observations config.development matchweeks) :
    (foldsFrom config matchweeks number count).Pairwise Grows := by
  induction number, count using foldsFrom.induct config matchweeks with
  | case1 number count hfits ih =>
      rw [foldsFrom, dif_pos hfits, List.pairwise_cons]
      refine ⟨fun fold hfold => ?_, ih⟩
      obtain ⟨round, hround, rfl⟩ := mem_foldsFrom.mp hfold
      have hstep := config.step_pos
      exact htimeline.grows_foldAt (by omega) hfits hround
  | case2 number count hfits =>
      rw [foldsFrom, dif_neg hfits]
      exact List.Pairwise.nil

/-! ## The folds of a list of observations -/

/-- No boundary of a fold parts two Matchweeks that start together. -/
def NoTieParted (observations : List HistoricalEvaluation) (config : EvaluationConfig) : Prop :=
  ∀ round, config.minimumDevelopmentMatchweeks + round * config.rollingStepMatchweeks +
      config.rollingValidationMatchweeks ≤ (developmentMatchweeks observations config).length →
    Parts (developmentMatchweeks observations config)
        (config.minimumDevelopmentMatchweeks + round * config.rollingStepMatchweeks) ∧
      Parts (developmentMatchweeks observations config)
        (config.minimumDevelopmentMatchweeks + round * config.rollingStepMatchweeks +
          config.rollingValidationMatchweeks)

/-- The folds of consistent observations grow, and they are chronological exactly when no
boundary parts two Matchweeks that start together. -/
theorem folds_chronological_iff (hperiods : PeriodsOrdered config)
    (hconsistent : Consistent observations) :
    ∃ folds, generateRollingOriginFolds observations config = .ok folds ∧
      ((folds.Pairwise Grows ∧ ∀ fold ∈ folds, Chronological observations config fold) ↔
        NoTieParted observations config) := by
  have htimeline := timeline_developmentMatchweeks hconsistent config
  refine ⟨foldsFrom config (developmentMatchweeks observations config) 1
    config.minimumDevelopmentMatchweeks, ?_, ?_⟩
  · rw [generateRollingOriginFolds, validatePeriodOrder_eq_ok.mpr hperiods,
      validateMatchweekBoundaries_eq_ok.mpr hconsistent]
    rfl
  · rw [and_iff_right htimeline.grows_foldsFrom]
    constructor
    · intro hfolds round hfits
      exact (chronological_foldAt_iff htimeline hfits).mp
        (hfolds _ (mem_foldsFrom.mpr ⟨round, hfits, rfl⟩))
    · intro hparted fold hfold
      obtain ⟨round, hfits, rfl⟩ := mem_foldsFrom.mp hfold
      exact (chronological_foldAt_iff htimeline hfits).mpr (hparted round hfits)

end Promises

/-! ## Two Matchweeks -/

namespace TwoMatchweeks

local instance : Hashing := textHashing

theorem one_matchweek : 1 ≤ 1 := le_rfl

/-- One Matchweek to develop on, and one to validate on. -/
def config : EvaluationConfig where
  development := ⟨0, 10, by decide⟩
  validation := ⟨10, 20, by decide⟩
  evaluation := ⟨20, 30, by decide⟩
  minimumDevelopmentMatchweeks := 1
  rollingValidationMatchweeks := 1
  rollingStepMatchweeks := 1
  seed := 7
  minimum_pos := one_matchweek
  rolling_pos := one_matchweek
  step_pos := one_matchweek

/-- A row of a Matchweek of each of two leagues. -/
def observations (second : Instant) : List HistoricalEvaluation :=
  [⟨"northern", 0, 5, "north"⟩, ⟨"southern", second, 6, "south"⟩]

theorem periodsOrdered : PeriodsOrdered config := by
  unfold PeriodsOrdered
  decide

theorem consistent (second : Instant) : Consistent (observations second) := by
  intro left hleft right hright hid
  simp only [observations, List.mem_cons, List.not_mem_nil, or_false] at hleft hright
  rcases hleft with rfl | rfl <;> rcases hright with rfl | rfl
  · rfl
  · exact absurd hid (by simp)
  · exact absurd hid (by simp)
  · rfl

/-- Matchweeks that start a day apart have a chronological fold. -/
theorem distinctStarts_chronological :
    ∃ folds, generateRollingOriginFolds (observations 1) config = .ok folds ∧
      ∀ fold ∈ folds, Chronological (observations 1) config fold := by
  obtain ⟨folds, hfolds, hiff⟩ := folds_chronological_iff periodsOrdered (consistent 1)
  refine ⟨folds, hfolds, (hiff.mpr fun round hfits => ?_).2⟩
  have hmatchweeks : developmentMatchweeks (observations 1) config =
      [(0, "northern"), (1, "southern")] := by
    decide +kernel
  rw [hmatchweeks] at hfits ⊢
  have hround : round = 0 := by
    change 1 + round * 1 + 1 ≤ 2 at hfits
    omega
  subst hround
  exact ⟨by decide, by decide⟩

/-- Matchweeks that start together have a fold that is not. -/
theorem sameStart_not_chronological :
    PeriodsOrdered config ∧ Consistent (observations 0) ∧
      ∃ folds, generateRollingOriginFolds (observations 0) config = .ok folds ∧
        ∃ fold ∈ folds, ¬ Chronological (observations 0) config fold := by
  have hmatchweeks : developmentMatchweeks (observations 0) config =
      [(0, "northern"), (0, "southern")] := by
    decide +kernel
  have hfits : config.minimumDevelopmentMatchweeks + 0 * config.rollingStepMatchweeks +
      config.rollingValidationMatchweeks ≤
        (developmentMatchweeks (observations 0) config).length := by
    rw [hmatchweeks]
    decide
  refine ⟨periodsOrdered, consistent 0,
    foldsFrom config (developmentMatchweeks (observations 0) config) 1
      config.minimumDevelopmentMatchweeks, ?_, _, mem_foldsFrom.mpr ⟨0, hfits, rfl⟩, ?_⟩
  · rw [generateRollingOriginFolds, validatePeriodOrder_eq_ok.mpr periodsOrdered,
      validateMatchweekBoundaries_eq_ok.mpr (consistent 0)]
    rfl
  · rw [chronological_foldAt_iff (timeline_developmentMatchweeks (consistent 0) config),
      hmatchweeks]
    intro hparts
    exact absurd hparts.1 (by decide)

end TwoMatchweeks

end MatchVet.T18.Folds
