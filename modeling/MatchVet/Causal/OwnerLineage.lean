import MatchVet.Causal.OwnerHistory
import MatchVet.Foundation.Gregorian

/-!
# Append-only owner histories

Every accepted list of owner records is a chain in which identities never
change, floors and root lists only grow and a withdrawal is final.  Retained
approvals under one key stand in lineage exactly when their record lists do.
-/

namespace MatchVet.Causal.OwnerLineage

open MatchVet.Causal.OwnerHistory
open MatchVet.Foundation.CanonicalJson
open MatchVet.Foundation.Gregorian
open MatchVet.Foundation.JsonEquality
open MatchVet.Foundation.JsonEquality.Json
open MatchVet.Foundation.Runtime
open MatchVet.Foundation.Timestamp

/-! ## Floors -/

/-- A floor by value: the role, the version and the digest. -/
structure Floor where
  role : String
  version : ℚ
  digest : String

def floorOf : Json → Option Floor
  | .array [.str role, version, .str digest] =>
      (numeric? version).map fun number => ⟨role, number, digest⟩
  | _ => none

def floorsOf : Json → Option (List Floor)
  | .array items => items.mapM floorOf
  | _ => none

/-- What one record may change in a floor. -/
structure FloorStep (old new : Floor) : Prop where
  role : old.role = new.role
  version : old.version ≤ new.version
  digest : old.version = new.version → old.digest = new.digest

theorem FloorStep.refl (floor : Floor) : FloorStep floor floor :=
  ⟨rfl, le_rfl, fun _ => rfl⟩

theorem FloorStep.trans {first second third : Floor} (hfirst : FloorStep first second)
    (hsecond : FloorStep second third) : FloorStep first third where
  role := hfirst.role.trans hsecond.role
  version := hfirst.version.trans hsecond.version
  digest heq := by
    have hlower : first.version = second.version :=
      le_antisymm hfirst.version (hsecond.version.trans_eq heq.symm)
    exact (hfirst.digest hlower).trans (hsecond.digest (hlower.symm.trans heq))

/-- Floors of two records, role by role. -/
abbrev FloorsAdvance : List Floor → List Floor → Prop := List.Forall₂ FloorStep

theorem FloorsAdvance.refl (floors : List Floor) : FloorsAdvance floors floors :=
  List.forall₂_same.mpr fun floor _ => .refl floor

theorem FloorsAdvance.trans {first second third : List Floor}
    (hfirst : FloorsAdvance first second) (hsecond : FloorsAdvance second third) :
    FloorsAdvance first third := by
  induction hfirst generalizing third with
  | nil => exact hsecond
  | cons hhead _ ih =>
      cases hsecond with
      | cons hnext hrest => exact .cons (hhead.trans hnext) (ih hrest)

theorem floorOf_eq_some {value : Json} {floor : Floor} (hfloor : floorOf value = some floor) :
    ∃ version, value = .array [.str floor.role, version, .str floor.digest] ∧
      numeric? version = some floor.version := by
  unfold floorOf at hfloor
  split at hfloor
  next role version digest =>
      obtain ⟨number, hnumber, rfl⟩ := Option.map_eq_some_iff.mp hfloor
      exact ⟨version, rfl, hnumber⟩
  · cases hfloor

/-- Equal values stand for equal floors. -/
theorem floorOf_of_same {first second : Json} {floor : Floor}
    (hsame : same first second = true) (hfloor : floorOf second = some floor) :
    floorOf first = some floor := by
  obtain ⟨version, rfl, hnumber⟩ := floorOf_eq_some hfloor
  obtain ⟨items, rfl, hitems⟩ := same_array_right hsame
  cases hitems with
  | cons hrole hrest =>
      cases hrest with
      | cons hversion hlast =>
          cases hlast with
          | cons hdigest hnil =>
              cases hnil
              rw [same_str_right hrole, same_str_right hdigest, floorOf,
                numeric?_of_same hnumber hversion]
              rfl

theorem mapM_some_of_forall₂ {α β : Type} {related : α → α → Prop} {f : α → Option β}
    {first second : List α} {results : List β}
    (hrelated : ∀ left right result, related left right → f right = some result →
      f left = some result)
    (hitems : List.Forall₂ related first second) (hsecond : second.mapM f = some results) :
    first.mapM f = some results := by
  induction hitems generalizing results with
  | nil => exact hsecond
  | cons hhead _ ih =>
      rw [List.mapM_cons, Option.bind_eq_bind, Option.bind_eq_some_iff] at hsecond ⊢
      obtain ⟨result, hresult, hrest⟩ := hsecond
      rw [Option.bind_eq_bind, Option.bind_eq_some_iff] at hrest
      obtain ⟨others, hothers, hdone⟩ := hrest
      refine ⟨result, hrelated _ _ _ hhead hresult, ?_⟩
      rw [Option.bind_eq_bind, ih hothers]
      exact hdone

theorem floorsOf_of_same {first second : Json} {floors : List Floor}
    (hsame : same first second = true) (hfloors : floorsOf second = some floors) :
    floorsOf first = some floors := by
  cases second with
  | array items =>
      obtain ⟨others, rfl, hitems⟩ := same_array_right hsame
      exact mapM_some_of_forall₂ (fun _ _ _ => floorOf_of_same) hitems hfloors
  | null | bool _ | int _ | number _ | str _ | object _ => cases hfloors

theorem floorsOf_versionsJson (versions : List Version) :
    ∃ floors, floorsOf (versionsJson versions) = some floors := by
  refine ⟨versions.map fun item => ⟨item.role, item.version, item.digest⟩, ?_⟩
  change (versions.map _).mapM floorOf = _
  induction versions with
  | nil => rfl
  | cons item rest ih =>
      rw [List.map_cons, List.mapM_cons, ih]
      rfl

theorem same_of_numeric {first second : Json} {number : ℚ}
    (hfirst : numeric? first = some number) (hsecond : numeric? second = some number) :
    same first second = true := by
  cases first <;> cases second <;> simp_all [same, numeric?]

/-- A floor that passes the test of the loop advances. -/
theorem checkFloor_ok {old new : Json} {oldFloor newFloor : Floor}
    (hold : floorOf old = some oldFloor) (hnew : floorOf new = some newFloor)
    (hcheck : checkFloor old new = .ok ()) : FloorStep oldFloor newFloor := by
  obtain ⟨oldVersion, rfl, holdNumber⟩ := floorOf_eq_some hold
  obtain ⟨newVersion, rfl, hnewNumber⟩ := floorOf_eq_some hnew
  unfold checkFloor at hcheck
  obtain ⟨oldItems, holdItems, hcheck⟩ := bind_eq_ok.mp hcheck
  obtain ⟨newItems, hnewItems, hcheck⟩ := bind_eq_ok.mp hcheck
  cases holdItems
  cases hnewItems
  dsimp only at hcheck
  split at hcheck
  · cases hcheck
  next hrole =>
    obtain ⟨lower, hlower, hcheck⟩ := bind_eq_ok.mp hcheck
    simp only [lessThan, hnewNumber, holdNumber, Except.ok.injEq] at hlower
    subst hlower
    split at hcheck
    · cases hcheck
    next hkeep =>
      simp only [Bool.not_eq_true, Bool.or_eq_false_iff, decide_eq_false_iff_not, not_lt,
        Bool.and_eq_false_iff, Bool.not_eq_false'] at hkeep
      have hroles := Json.str.inj (same_str (by simpa using hrole))
      refine ⟨hroles.symm, hkeep.1, fun hversion => ?_⟩
      rcases hkeep.2 with hdiffers | hdigest
      · rw [← hversion] at hnewNumber
        rw [same_of_numeric hnewNumber holdNumber] at hdiffers
        cases hdiffers
      · exact Json.str.inj (same_str hdigest)

theorem checkFloorItems_ok {old new : List Json} {oldFloors newFloors : List Floor}
    (hold : old.mapM floorOf = some oldFloors) (hnew : new.mapM floorOf = some newFloors)
    (hcheck : checkFloorItems old new = .ok ()) : FloorsAdvance oldFloors newFloors := by
  induction old generalizing new oldFloors newFloors with
  | nil =>
      cases new with
      | nil =>
          cases hold
          cases hnew
          exact .nil
      | cons => cases hcheck
  | cons item rest ih =>
      cases new with
      | nil => cases hcheck
      | cons other others =>
          rw [checkFloorItems, bind_eq_ok] at hcheck
          obtain ⟨_, hitem, hrest⟩ := hcheck
          rw [List.mapM_cons, Option.bind_eq_bind, Option.bind_eq_some_iff] at hold hnew
          obtain ⟨oldFloor, holdFloor, hold⟩ := hold
          obtain ⟨newFloor, hnewFloor, hnew⟩ := hnew
          rw [Option.bind_eq_bind, Option.bind_eq_some_iff] at hold hnew
          obtain ⟨oldRest, holdRest, hold⟩ := hold
          obtain ⟨newRest, hnewRest, hnew⟩ := hnew
          cases hold
          cases hnew
          exact .cons (checkFloor_ok holdFloor hnewFloor hitem) (ih holdRest hnewRest hrest)

/-! ## Bundles and adverse evidence -/

theorem hexBytes_eq_ok {value : Json} {raw : Bytes} (hhex : hexBytes value = .ok raw) :
    value = .str (toHex raw) := by
  cases value with
  | str content =>
      unfold hexBytes at hhex
      dsimp only at hhex
      split at hhex
      · cases hhex
      · split at hhex
        next hexact =>
          cases hhex
          rw [hexact]
        · cases hhex
  | null | bool _ | int _ | number _ | array _ | object _ => cases hhex

theorem hexBytes_of_same {first second : Json} {raw : Bytes} (hsame : same first second = true)
    (hhex : hexBytes first = .ok raw) : hexBytes second = .ok raw := by
  have hvalue := hexBytes_eq_ok hhex
  rw [hvalue] at hsame hhex
  rw [same_str hsame]
  exact hhex

theorem mapM_hexBytes_of_same {first second : List Json} {roots : List Bytes}
    (hitems : List.Forall₂ (fun item other => same item other = true) first second)
    (hhex : first.mapM hexBytes = .ok roots) : second.mapM hexBytes = .ok roots := by
  induction hitems generalizing roots with
  | nil => exact hhex
  | cons hhead _ ih =>
      rw [List.mapM_cons, bind_eq_ok] at hhex ⊢
      obtain ⟨root, hroot, hrest⟩ := hhex
      obtain ⟨others, hothers, hdone⟩ := bind_eq_ok.mp hrest
      exact ⟨root, hexBytes_of_same hhead hroot, bind_eq_ok.mpr ⟨others, ih hothers, hdone⟩⟩

/-- Equal values stand for the same bundle. -/
theorem readBundle_of_same {first second : Json} {bundle : TrustBundle}
    (hsame : same first second = true) (hbundle : readBundle first = .ok bundle) :
    readBundle second = .ok bundle := by
  unfold readBundle at hbundle ⊢
  split at hbundle
  · cases hbundle
  next hfields =>
    rw [Bool.not_eq_true, Bool.not_eq_false'] at hfields
    have hpart : ∀ name ∈ bundleFields, same (field first name) (field second name) = true :=
      fun name hname => same_field_of_hasFields hfields hsame hname
    rw [hasFields_of_same hfields hsame, Bool.not_true, if_neg Bool.false_ne_true]
    have hroots := hpart "roots" (by decide)
    generalize field first "roots" = roots at hbundle hroots
    cases roots with
    | array items =>
        obtain ⟨others, hothers, hitems⟩ := same_array hroots
        rw [hothers]
        simp only [bind_eq_ok] at hbundle ⊢
        obtain ⟨parsed, hparsed, timestamp, htimestamp, snapshot, hsnapshot, targets, htargets,
          trusted, htrusted, hdone⟩ := hbundle
        exact ⟨parsed, mapM_hexBytes_of_same hitems hparsed,
          timestamp, hexBytes_of_same (hpart "timestamp" (by decide)) htimestamp,
          snapshot, hexBytes_of_same (hpart "snapshot" (by decide)) hsnapshot,
          targets, hexBytes_of_same (hpart "targets" (by decide)) htargets,
          trusted, hexBytes_of_same (hpart "trusted_root" (by decide)) htrusted, hdone⟩
    | null | bool _ | int _ | number _ | str _ | object _ => cases hbundle

/-- A text or nothing. -/
def textOrNull : Json → Bool
  | .str _ | .null => true
  | _ => false

/-- The shape of adverse evidence: nothing, or texts under its three names. -/
structure AdverseShape (adverse : Json) : Prop where
  fields : hasFields adverse adverseFields = true
  texts : ∀ name ∈ adverseFields, textOrNull (field adverse name) = true

theorem eq_of_textOrNull {first second : Json} (htext : textOrNull first = true)
    (hsame : same first second = true) : second = first := by
  cases first with
  | str content => exact same_str hsame
  | null => exact same_null hsame
  | bool _ | int _ | number _ | array _ | object _ => cases htext

/-- The adverse evidence of two records is the same. -/
def SameAdverse (first second : Json) : Prop :=
  isNull second = isNull first ∧
    ∀ name ∈ adverseFields, field second name = field first name

theorem sameAdverse_of_same {first second : Json} (hshape : AdverseShape first)
    (hsame : same first second = true) : SameAdverse first second := by
  constructor
  · cases first <;> cases second <;> simp_all [same, isNull, numeric?]
  · intro name hname
    exact eq_of_textOrNull (hshape.texts name hname)
      (same_field_of_hasFields hshape.fields hsame hname)

/-! ## One record -/

theorem eq_str_of_utc [Calendar] {value : Json} {instant : Instant} (hutc : utc value = .ok instant) :
    ∃ content, value = .str content := by
  cases value with
  | str content => exact ⟨content, rfl⟩
  | null | bool _ | int _ | number _ | array _ | object _ => cases hutc

theorem checkAdverse_ok [Calendar] {adverse : Json} (hcheck : checkAdverse adverse = .ok ())
    (hpresent : isNull adverse = false) : AdverseShape adverse := by
  unfold checkAdverse at hcheck
  rw [hpresent, if_neg Bool.false_ne_true] at hcheck
  split at hcheck
  · cases hcheck
  next hfields =>
    rw [Bool.not_eq_true, Bool.not_eq_false'] at hfields
    obtain ⟨published, hpublished, hcheck⟩ := bind_eq_ok.mp hcheck
    obtain ⟨observed, hobserved, hcheck⟩ := bind_eq_ok.mp hcheck
    obtain ⟨publishedText, hpublishedText⟩ := eq_str_of_utc hpublished
    obtain ⟨observedText, hobservedText⟩ := eq_str_of_utc hobserved
    have heffective : textOrNull (field adverse "effective_from") = true := by
      split at hcheck
      next hnull =>
        rw [isNull_eq_true.mp hnull]
        rfl
      · obtain ⟨effective, heffective, -⟩ := bind_eq_ok.mp hcheck
        obtain ⟨content, hcontent⟩ := eq_str_of_utc heffective
        rw [hcontent]
        rfl
    refine ⟨hfields, ?_⟩
    intro name hname
    simp only [adverseFields, List.mem_cons, List.not_mem_nil, or_false] at hname
    rcases hname with rfl | rfl | rfl
    · exact heffective
    · rw [hpublishedText]
      rfl
    · rw [hobservedText]
      rfl

theorem agreeOn_mem {names : List String} {first second : Json}
    (hagree : agreeOn names first second = true) {name : String} (hname : name ∈ names) :
    same (field first name) (field second name) = true :=
  List.all_eq_true.mp hagree name hname

/-- The actions after the first one: metadata may change only before a withdrawal. -/
theorem checkAction_some {value : Json} {prior : Carried}
    (hcheck : checkAction value (some prior) = .ok ()) :
    agreeOn fixedFields prior.value value = true ∧
      (isNull (field prior.value "adverse") = false →
        agreeOn ["bundle", "floors", "adverse"] prior.value value = true) := by
  unfold checkAction at hcheck
  dsimp only at hcheck
  split at hcheck
  · cases hcheck
  next hfixed =>
    rw [Bool.not_eq_true, Bool.not_eq_false'] at hfixed
    refine ⟨hfixed, fun hpresent => ?_⟩
    split at hcheck
    · rw [hpresent] at hcheck
      cases hcheck
    · split at hcheck
      · rw [hpresent, Bool.not_false, Bool.or_true] at hcheck
        cases hcheck
      · split at hcheck
        · split at hcheck
          · cases hcheck
          next hsame => rwa [Bool.not_eq_true, Bool.not_eq_false'] at hsame
        · cases hcheck

/-- Identities and bounds are among the fields that no record may change. -/
theorem fixed_of_identity : ∀ name ∈ identityFields ++ ["not_before", "not_after"],
    name ∈ fixedFields := by
  decide +kernel

theorem mapM_rowOf_of_floors {items : List Json} {floors : List Floor}
    (hfloors : items.mapM floorOf = some floors) : ∃ rows, items.mapM rowOf = .ok rows := by
  induction items generalizing floors with
  | nil => exact ⟨[], rfl⟩
  | cons item rest ih =>
      rw [List.mapM_cons, Option.bind_eq_bind, Option.bind_eq_some_iff] at hfloors
      obtain ⟨floor, hfloor, hrest⟩ := hfloors
      rw [Option.bind_eq_bind, Option.bind_eq_some_iff] at hrest
      obtain ⟨others, hothers, -⟩ := hrest
      obtain ⟨version, rfl, -⟩ := floorOf_eq_some hfloor
      obtain ⟨rows, hrows⟩ := ih hothers
      exact ⟨_ :: rows, by rw [List.mapM_cons, hrows]; rfl⟩

theorem noPrior {holds : Carried → Prop} : ∀ carried ∈ (none : Option Carried), holds carried :=
  fun _ hcarried => absurd hcarried (by simp)

theorem approvalOf_withdrawn {state : Carried} {approval : Approval}
    (happroval : approvalOf state = .ok approval) :
    ∃ notBefore, field state.value "not_before" = .str notBefore ∧
      withdrawnFrom state.value notBefore = .ok approval.withdrawnFrom := by
  unfold approvalOf at happroval
  obtain ⟨notBefore, hbefore, hrest⟩ := bind_eq_ok.mp happroval
  obtain ⟨notAfter, -, hrest⟩ := bind_eq_ok.mp hrest
  obtain ⟨rows, -, hrest⟩ := bind_eq_ok.mp hrest
  obtain ⟨floors, -, hrest⟩ := bind_eq_ok.mp hrest
  obtain ⟨identity, -, hrest⟩ := bind_eq_ok.mp hrest
  obtain ⟨withdrawn, hwithdrawn, hdone⟩ := bind_eq_ok.mp hrest
  cases hdone
  refine ⟨notBefore, ?_, hwithdrawn⟩
  cases hvalue : field state.value "not_before" with
  | str content =>
      rw [hvalue] at hbefore
      cases hbefore
      rfl
  | null | bool _ | int _ | number _ | array _ | object _ =>
      rw [hvalue] at hbefore
      cases hbefore

section Shape

variable [OwnerServices]

/-- What the identity test says of a record's fields. -/
structure RecordShape (value : Json) (sequence : ℕ) (prior : Option Carried) : Prop where
  sequence : field value "sequence" = .int sequence
  predecessor : field value "predecessor" = predecessorOf prior
  identity : ∀ name ∈ identityFields, ∃ content, field value name = .str content
  profile : dumps (field value "profile") = dumps profileJson
  premises : dumps (field value "accepted_premises") = dumps premisesJson

theorem recordShape_of_matches {value : Json} {sequence : ℕ} {prior : Option Carried}
    (hmatches : recordMatches value sequence prior = true) :
    RecordShape value sequence prior := by
  simp only [recordMatches, Bool.and_eq_true, List.all_eq_true, decide_eq_true_eq] at hmatches
  obtain ⟨⟨⟨⟨⟨⟨⟨⟨-, hsequence⟩, hpredecessor⟩, hidentity⟩, -⟩, -⟩, -⟩, hprofile⟩, hpremises⟩ :=
    hmatches
  refine ⟨?_, ?_, ?_, hprofile, hpremises⟩
  · cases hvalue : field value "sequence" with
    | int number =>
        rw [hvalue] at hsequence
        rw [of_decide_eq_true hsequence]
    | null | bool _ | number _ | str _ | array _ | object _ =>
        rw [hvalue] at hsequence
        cases hsequence
  · cases prior with
    | none => exact same_null_right hpredecessor
    | some carried => exact same_str_right hpredecessor
  · intro name hname
    have htext := hidentity name hname
    cases hvalue : field value name with
    | str content => exact ⟨content, rfl⟩
    | null | bool _ | int _ | number _ | array _ | object _ =>
        rw [hvalue] at htext
        cases htext

/-- What a carried record keeps true. -/
structure Sound (state : Carried) : Prop where
  identity : ∀ name ∈ identityFields ++ ["not_before", "not_after"],
    ∃ content, field state.value name = .str content
  profile : dumps (field state.value "profile") = dumps profileJson
  premises : dumps (field state.value "accepted_premises") = dumps premisesJson
  adverse : isNull (field state.value "adverse") = false →
    AdverseShape (field state.value "adverse")
  bundle : readBundle (field state.value "bundle") = .ok state.bundle
  floors : ∃ floors, floorsOf (field state.value "floors") = some floors

/-- A later record of one history. -/
structure Later (first second : Json) : Prop where
  identity : ∀ name ∈ identityFields ++ ["not_before", "not_after"],
    field second name = field first name
  profile : dumps (field second "profile") = dumps (field first "profile")
  premises : dumps (field second "accepted_premises") = dumps (field first "accepted_premises")
  withdrawn : isNull (field first "adverse") = false →
    SameAdverse (field first "adverse") (field second "adverse") ∧
      readBundle (field second "bundle") = readBundle (field first "bundle") ∧
      floorsOf (field second "floors") = floorsOf (field first "floors")
  floors : ∃ old new, floorsOf (field first "floors") = some old ∧
    floorsOf (field second "floors") = some new ∧ FloorsAdvance old new
  roots : ∃ old new, readBundle (field first "bundle") = .ok old ∧
    readBundle (field second "bundle") = .ok new ∧ old.roots <+: new.roots

theorem Later.refl {state : Carried} (hsound : Sound state) : Later state.value state.value where
  identity _ _ := rfl
  profile := rfl
  premises := rfl
  withdrawn _ := ⟨⟨rfl, fun _ _ => rfl⟩, rfl, rfl⟩
  floors := by
    obtain ⟨floors, hfloors⟩ := hsound.floors
    exact ⟨floors, floors, hfloors, hfloors, .refl floors⟩
  roots := ⟨state.bundle, state.bundle, hsound.bundle, hsound.bundle, List.prefix_rfl⟩

theorem Later.trans {first second third : Json} (hfirst : Later first second)
    (hsecond : Later second third) : Later first third where
  identity name hname := (hsecond.identity name hname).trans (hfirst.identity name hname)
  profile := hsecond.profile.trans hfirst.profile
  premises := hsecond.premises.trans hfirst.premises
  withdrawn hpresent := by
    obtain ⟨⟨hnull, hfields⟩, hbundle, hfloors⟩ := hfirst.withdrawn hpresent
    obtain ⟨⟨hlaterNull, hlaterFields⟩, hlaterBundle, hlaterFloors⟩ :=
      hsecond.withdrawn (hnull.trans hpresent)
    exact ⟨⟨hlaterNull.trans hnull, fun name hname =>
      (hlaterFields name hname).trans (hfields name hname)⟩, hlaterBundle.trans hbundle,
      hlaterFloors.trans hfloors⟩
  floors := by
    obtain ⟨old, middle, hold, hmiddle, hadvance⟩ := hfirst.floors
    obtain ⟨middle', new, hmiddle', hnew, hlater⟩ := hsecond.floors
    rw [hmiddle] at hmiddle'
    cases hmiddle'
    exact ⟨old, new, hold, hnew, hadvance.trans hlater⟩
  roots := by
    obtain ⟨old, middle, hold, hmiddle, hinitial⟩ := hfirst.roots
    obtain ⟨middle', new, hmiddle', hnew, hlater⟩ := hsecond.roots
    rw [hmiddle] at hmiddle'
    cases hmiddle'
    exact ⟨old, new, hold, hnew, hinitial.trans hlater⟩

/-- The floors of an accepted record have the four parts of a floor. -/
theorem floors_of_metadata {value : Json} {candidate : TrustBundle} {prior : Option Carried}
    (hprior : ∀ carried ∈ prior, Sound carried)
    (hcheck : checkMetadata value candidate prior = .ok ()) :
    ∃ floors, floorsOf (field value "floors") = some floors := by
  unfold checkMetadata at hcheck
  split at hcheck
  · obtain ⟨versions, -, hcheck⟩ := bind_eq_ok.mp hcheck
    split at hcheck
    · cases hcheck
    · split at hcheck
      · cases hcheck
      next hsame =>
        rw [Bool.not_eq_true, Bool.not_eq_false'] at hsame
        obtain ⟨floors, hfloors⟩ := floorsOf_versionsJson versions
        exact ⟨floors, floorsOf_of_same hsame hfloors⟩
  next hbundle =>
    cases prior with
    | none => exact absurd (by simp) hbundle
    | some carried =>
        dsimp only at hcheck
        split at hcheck
        · cases hcheck
        next hsame =>
          rw [Bool.not_eq_true, Bool.not_eq_false'] at hsame
          obtain ⟨floors, hfloors⟩ := (hprior carried rfl).floors
          exact ⟨floors, floorsOf_of_same hsame hfloors⟩

/-- An unchanged bundle keeps the floors of the record before it. -/
theorem floors_of_unchanged {value : Json} {prior : Carried}
    (hcheck : checkMetadata value prior.bundle (some prior) = .ok ()) :
    same (field value "floors") (field prior.value "floors") = true := by
  unfold checkMetadata at hcheck
  rw [if_neg (by simp)] at hcheck
  dsimp only at hcheck
  split at hcheck
  · cases hcheck
  next hsame => rwa [Bool.not_eq_true, Bool.not_eq_false'] at hsame

theorem withdrawnFrom_ok {state : Carried} (hsound : Sound state) (notBefore : String) :
    ∃ withdrawn, withdrawnFrom state.value notBefore = .ok withdrawn := by
  unfold withdrawnFrom
  cases hnull : isNull (field state.value "adverse") with
  | true => exact ⟨none, rfl⟩
  | false =>
      have htext := (hsound.adverse hnull).texts "effective_from" (by decide)
      rw [if_neg Bool.false_ne_true]
      cases hfrom : field (field state.value "adverse") "effective_from" with
      | str content => exact ⟨_, rfl⟩
      | null => exact ⟨_, rfl⟩
      | bool _ | int _ | number _ | array _ | object _ =>
          rw [hfrom] at htext
          cases htext

/-- A sound record stands for an approval. -/
theorem approvalOf_ok {state : Carried} (hsound : Sound state) :
    ∃ approval, approvalOf state = .ok approval := by
  obtain ⟨notBefore, hbefore⟩ := hsound.identity "not_before" (by decide)
  obtain ⟨notAfter, hafter⟩ := hsound.identity "not_after" (by decide)
  obtain ⟨identity, hidentity⟩ := hsound.identity "history" (by decide)
  obtain ⟨floors, hfloors⟩ := hsound.floors
  obtain ⟨withdrawn, hwithdrawn⟩ := withdrawnFrom_ok hsound notBefore
  unfold approvalOf
  rw [hbefore, hafter, hidentity]
  generalize field state.value "floors" = listed at hfloors
  cases listed with
  | array items =>
      obtain ⟨rows, hrows⟩ := mapM_rowOf_of_floors hfloors
      refine ⟨_, bind_eq_ok.mpr ⟨notBefore, rfl, bind_eq_ok.mpr ⟨notAfter, rfl,
        bind_eq_ok.mpr ⟨items, rfl, bind_eq_ok.mpr ⟨rows, hrows, bind_eq_ok.mpr ⟨identity, rfl,
          bind_eq_ok.mpr ⟨withdrawn, hwithdrawn, rfl⟩⟩⟩⟩⟩⟩⟩
  | null | bool _ | int _ | number _ | str _ | object _ => cases hfloors

theorem withdrawn_of_later {first second : Carried} {original current : Approval}
    (hlater : Later first.value second.value) (horiginal : approvalOf first = .ok original)
    (hcurrent : approvalOf second = .ok current) :
    original.withdrawnFrom = none ∨ current.withdrawnFrom = original.withdrawnFrom := by
  obtain ⟨notBefore, hbefore, hfirst⟩ := approvalOf_withdrawn horiginal
  obtain ⟨notBefore', hbefore', hsecond⟩ := approvalOf_withdrawn hcurrent
  rw [hlater.identity "not_before" (by decide), hbefore] at hbefore'
  cases hbefore'
  cases hnull : isNull (field first.value "adverse") with
  | true =>
      rw [withdrawnFrom, hnull, if_pos rfl] at hfirst
      exact Or.inl (Except.ok.inj hfirst).symm
  | false =>
      obtain ⟨⟨hsameNull, hfields⟩, -, -⟩ := hlater.withdrawn hnull
      rw [withdrawnFrom, hsameNull, hfields "effective_from" (by decide)] at hsecond
      rw [withdrawnFrom, hsecond] at hfirst
      exact Or.inr (Except.ok.inj hfirst)

end Shape

section Replay

variable [Calendar] [OwnerServices]

/-- The tests that an accepted record passed. -/
structure Accepted (key : Bytes) (prior : Option Carried) (sequence : ℕ) (next : Carried) :
    Prop where
  signed : verify next.raw key = .ok next.value
  record : checkRecord next.value sequence prior = .ok ()
  action : checkAction next.value prior = .ok ()
  adverse : checkAdverse (field next.value "adverse") = .ok ()
  bundle : readBundle (field next.value "bundle") = .ok next.bundle
  roots : checkRoots next.bundle prior = .ok ()
  metadata : checkMetadata next.value next.bundle prior = .ok ()
  floors : checkFloors next.value prior = .ok ()

theorem historyStep_ok_iff {key : Bytes} {prior : Option Carried} {sequence : ℕ} {raw : Bytes}
    {next : Carried} :
    historyStep key prior sequence raw = .ok next ↔
      next.raw = raw ∧ Accepted key prior sequence next := by
  unfold historyStep
  simp only [bind_eq_ok]
  constructor
  · rintro ⟨value, hsigned, _, hrecord, _, haction, _, hadverse, candidate, hbundle, _, hroots, _,
      hmetadata, _, hfloors, hdone⟩
    cases hdone
    exact ⟨rfl, hsigned, hrecord, haction, hadverse, hbundle, hroots, hmetadata, hfloors⟩
  · rintro ⟨rfl, haccepted⟩
    exact ⟨_, haccepted.signed, (), haccepted.record, (), haccepted.action, (), haccepted.adverse,
      _, haccepted.bundle, (), haccepted.roots, (), haccepted.metadata, (), haccepted.floors, rfl⟩

theorem checkRecord_ok {value : Json} {sequence : ℕ} {prior : Option Carried}
    (hcheck : checkRecord value sequence prior = .ok ()) :
    recordMatches value sequence prior = true ∧
      (∃ content, field value "not_before" = .str content) ∧
      ∃ content, field value "not_after" = .str content := by
  unfold checkRecord at hcheck
  split at hcheck
  · cases hcheck
  next hmatches =>
    rw [Bool.not_eq_true, Bool.not_eq_false'] at hmatches
    obtain ⟨notBefore, hbefore, hcheck⟩ := bind_eq_ok.mp hcheck
    obtain ⟨notAfter, hafter, -⟩ := bind_eq_ok.mp hcheck
    exact ⟨hmatches, eq_str_of_utc hbefore, eq_str_of_utc hafter⟩

/-- The first record, and each record after a sound one, is sound. -/
theorem Accepted.sound {key : Bytes} {prior : Option Carried} {sequence : ℕ} {next : Carried}
    (haccepted : Accepted key prior sequence next) (hprior : ∀ carried ∈ prior, Sound carried) :
    Sound next := by
  obtain ⟨hmatches, hbefore, hafter⟩ := checkRecord_ok haccepted.record
  have hshape := recordShape_of_matches hmatches
  refine ⟨?_, hshape.profile, hshape.premises, checkAdverse_ok haccepted.adverse,
    haccepted.bundle, floors_of_metadata hprior haccepted.metadata⟩
  intro name hname
  rcases List.mem_append.mp hname with hidentity | hbound
  · exact hshape.identity name hidentity
  · simp only [List.mem_cons, List.not_mem_nil, or_false] at hbound
    rcases hbound with rfl | rfl
    · exact hbefore
    · exact hafter

/-- Step lemma: an accepted record continues the one before it. -/
theorem Accepted.later {key : Bytes} {prior : Carried} {sequence : ℕ} {next : Carried}
    (haccepted : Accepted key (some prior) sequence next) (hprior : Sound prior) :
    Later prior.value next.value := by
  have hnext := haccepted.sound fun carried hcarried => by
    cases hcarried
    exact hprior
  obtain ⟨hfixed, hwithdrawn⟩ := checkAction_some haccepted.action
  obtain ⟨old, hold⟩ := hprior.floors
  obtain ⟨new, hnew⟩ := hnext.floors
  refine ⟨?_, hnext.profile.trans hprior.profile.symm, hnext.premises.trans hprior.premises.symm,
    ?_, ⟨old, new, hold, hnew, ?_⟩, ⟨prior.bundle, next.bundle, hprior.bundle, hnext.bundle, ?_⟩⟩
  · intro name hname
    obtain ⟨content, hcontent⟩ := hprior.identity name hname
    have hsame := agreeOn_mem hfixed (fixed_of_identity name hname)
    rw [hcontent] at hsame
    rw [same_str hsame, hcontent]
  · intro hpresent
    have hagree := hwithdrawn hpresent
    have hbundle : readBundle (field next.value "bundle") = .ok prior.bundle :=
      readBundle_of_same (agreeOn_mem hagree (by decide)) hprior.bundle
    have hunchanged : next.bundle = prior.bundle :=
      Except.ok.inj (hnext.bundle.symm.trans hbundle)
    have hmetadata := haccepted.metadata
    rw [hunchanged] at hmetadata
    refine ⟨sameAdverse_of_same (hprior.adverse hpresent) (agreeOn_mem hagree (by decide)),
      hbundle.trans hprior.bundle.symm, ?_⟩
    rw [hold]
    exact floorsOf_of_same (floors_of_unchanged hmetadata) hold
  · have hcheck := haccepted.floors
    unfold checkFloors at hcheck
    dsimp only at hcheck
    split at hcheck
    next oldItems newItems holdItems hnewItems =>
      rw [holdItems] at hold
      rw [hnewItems] at hnew
      exact checkFloorItems_ok hold hnew hcheck
    · cases hcheck
  · have hcheck := haccepted.roots
    unfold checkRoots at hcheck
    dsimp only at hcheck
    split at hcheck
    · cases hcheck
    next hroots =>
      rw [Decidable.not_not] at hroots
      exact List.prefix_iff_eq_take.mpr hroots.symm

/-! ## Whole histories -/

/-- The states of an accepted list of records. -/
inductive Replayed (key : Bytes) : Option Carried → ℕ → List Carried → Prop where
  | nil {prior : Option Carried} {sequence : ℕ} : Replayed key prior sequence []
  | cons {prior : Option Carried} {sequence : ℕ} {next : Carried} {rest : List Carried}
      (head : Accepted key prior sequence next)
      (tail : Replayed key (some next) (sequence + 1) rest) :
      Replayed key prior sequence (next :: rest)

theorem replayRecords_ok_iff {key : Bytes} {prior : Option Carried} {sequence : ℕ}
    {records : List Bytes} {last : Option Carried} :
    replayRecords key prior sequence records = .ok last ↔
      ∃ states, states.map Carried.raw = records ∧ Replayed key prior sequence states ∧
        last = states.getLast?.or prior := by
  induction records generalizing prior sequence with
  | nil =>
      constructor
      · intro hreplay
        cases hreplay
        exact ⟨[], rfl, .nil, rfl⟩
      · rintro ⟨states, hraws, -, rfl⟩
        rw [List.map_eq_nil_iff] at hraws
        subst hraws
        rfl
  | cons raw rest ih =>
      rw [replayRecords, bind_eq_ok]
      constructor
      · rintro ⟨next, hstep, hrest⟩
        obtain ⟨rfl, haccepted⟩ := historyStep_ok_iff.mp hstep
        obtain ⟨states, hraws, hreplayed, rfl⟩ := ih.mp hrest
        refine ⟨next :: states, by rw [List.map_cons, hraws], .cons haccepted hreplayed, ?_⟩
        rw [List.getLast?_cons]
        cases states.getLast? <;> rfl
      · rintro ⟨states, hraws, hreplayed, rfl⟩
        cases hreplayed with
        | nil => cases hraws
        | cons haccepted htail =>
            rw [List.map_cons, List.cons.injEq] at hraws
            refine ⟨_, historyStep_ok_iff.mpr ⟨hraws.1, haccepted⟩,
              ih.mpr ⟨_, hraws.2, htail, ?_⟩⟩
            rw [List.getLast?_cons]
            cases List.getLast? _ <;> rfl

theorem Replayed.sound {key : Bytes} {prior : Option Carried} {sequence : ℕ}
    {states : List Carried} (hreplayed : Replayed key prior sequence states)
    (hprior : ∀ carried ∈ prior, Sound carried) : ∀ state ∈ states, Sound state := by
  induction hreplayed with
  | nil =>
      intro state hstate
      cases hstate
  | cons head _ ih =>
      have hnext := head.sound hprior
      intro state hstate
      rcases List.mem_cons.mp hstate with rfl | hrest
      · exact hnext
      · exact ih (fun carried hcarried => by
          cases hcarried
          exact hnext) state hrest

/-- Run lemma: every record continues all the records before it. -/
theorem Replayed.pairwise {key : Bytes} {prior : Option Carried} {sequence : ℕ}
    {states : List Carried} (hreplayed : Replayed key prior sequence states)
    (hprior : ∀ carried ∈ prior, Sound carried) :
    (∀ carried ∈ prior, ∀ state ∈ states, Later carried.value state.value) ∧
      states.Pairwise fun first second => Later first.value second.value := by
  induction hreplayed with
  | nil =>
      exact ⟨fun _ _ state hstate => absurd hstate List.not_mem_nil, .nil⟩
  | @cons prior sequence next rest head tail ih =>
      have hnext : ∀ carried ∈ some next, Sound carried := fun carried hcarried => by
        cases hcarried
        exact head.sound hprior
      obtain ⟨hfollow, hpairs⟩ := ih hnext
      refine ⟨?_, List.pairwise_cons.mpr ⟨hfollow next rfl, hpairs⟩⟩
      intro carried hcarried state hstate
      cases hcarried
      have hstep := head.later (hprior carried rfl)
      rcases List.mem_cons.mp hstate with rfl | hrest
      · exact hstep
      · exact hstep.trans (hfollow next rfl state hrest)

/-- Each record carries its number and names the record before it. -/
theorem Replayed.linked {key : Bytes} {prior : Option Carried} {sequence : ℕ}
    {states : List Carried} (hreplayed : Replayed key prior sequence states) {index : ℕ}
    {state : Carried} (hstate : states[index]? = some state) :
    verify state.raw key = .ok state.value ∧
      field state.value "sequence" = .int ((sequence + index : ℕ) : ℤ) ∧
      field state.value "predecessor" = predecessorOf ((prior :: states.map some)[index]?.join) := by
  induction hreplayed generalizing index with
  | nil => cases hstate
  | cons head _ ih =>
      cases index with
      | zero =>
          cases hstate
          have hshape := recordShape_of_matches (checkRecord_ok head.record).1
          exact ⟨head.signed, hshape.sequence, hshape.predecessor⟩
      | succ index =>
          obtain ⟨hsigned, hsequence, hpredecessor⟩ := ih hstate
          refine ⟨hsigned, ?_, hpredecessor⟩
          rw [hsequence, Nat.add_assoc, Nat.add_comm 1]

theorem Replayed.take {key : Bytes} {prior : Option Carried} {sequence : ℕ}
    {states : List Carried} (hreplayed : Replayed key prior sequence states) (count : ℕ) :
    Replayed key prior sequence (states.take count) := by
  induction hreplayed generalizing count with
  | nil =>
      rw [List.take_nil]
      exact .nil
  | cons head _ ih =>
      cases count with
      | zero => exact .nil
      | succ count => exact .cons head (ih count)

/-- Spec lemma: the states of an accepted history, and its approval. -/
theorem history_ok {records : List Bytes} {key : Bytes} {outcome : Approval × TrustBundle}
    (hhistory : history records key = .ok outcome) :
    ∃ states last, states.map Carried.raw = records ∧ Replayed key none 1 states ∧
      states.getLast? = some last ∧ records.length ≤ 1024 ∧
      approvalOf last = .ok outcome.1 ∧ outcome.2 = last.bundle := by
  unfold history at hhistory
  split at hhistory
  · cases hhistory
  next hlength =>
    simp only [Bool.or_eq_true, decide_eq_true_eq, not_or, not_lt] at hlength
    obtain ⟨last, hreplay, hdone⟩ := bind_eq_ok.mp hhistory
    obtain ⟨states, hraws, hreplayed, hlast⟩ := replayRecords_ok_iff.mp hreplay
    rw [Option.or_none] at hlast
    cases hfinal : states.getLast? with
    | none =>
        rw [hfinal] at hlast
        subst hlast
        cases hdone
    | some state =>
        rw [hfinal] at hlast
        subst hlast
        obtain ⟨approval, happroval, hpair⟩ := bind_eq_ok.mp hdone
        cases hpair
        exact ⟨states, state, hraws, hreplayed, hfinal, hlength.2, happroval, rfl⟩

/-- Every non-empty prefix of an accepted history is accepted. -/
theorem history_prefix {records part : List Bytes} {key : Bytes}
    {outcome : Approval × TrustBundle} (hhistory : history records key = .ok outcome)
    (hpart : part <+: records) (hne : part ≠ []) : ∃ outcome, history part key = .ok outcome := by
  obtain ⟨states, -, rfl, hreplayed, -, hlength, -⟩ := history_ok hhistory
  have htake : part = (states.take part.length).map Carried.raw := by
    rw [List.map_take]
    exact List.prefix_iff_eq_take.mp hpart
  have hkept := hreplayed.take part.length
  generalize states.take part.length = kept at htake hkept
  subst htake
  have hstates : kept ≠ [] := by
    rintro rfl
    exact hne rfl
  have hsound := hkept.sound noPrior _ (List.getLast_mem hstates)
  obtain ⟨approval, happroval⟩ := approvalOf_ok hsound
  have hreplay : replayRecords key none 1 (kept.map Carried.raw) =
      .ok (some (kept.getLast hstates)) :=
    replayRecords_ok_iff.mpr ⟨kept, rfl, hkept, by
      rw [List.getLast?_eq_some_getLast hstates]
      rfl⟩
  have hbound : ¬((kept.map Carried.raw).isEmpty || 1024 < (kept.map Carried.raw).length) = true := by
    have hle := hpart.length_le.trans hlength
    have hempty : (kept.map Carried.raw).isEmpty = false := by
      rw [List.isEmpty_eq_false_iff]
      exact hne
    rw [hempty, Bool.false_or, decide_eq_true_eq, not_lt]
    exact hle
  refine ⟨(approval, (kept.getLast hstates).bundle), ?_⟩
  unfold history
  rw [if_neg hbound]
  exact bind_eq_ok.mpr ⟨_, hreplay, bind_eq_ok.mpr ⟨approval, happroval, rfl⟩⟩

/-- The predecessor a record at a position must name. -/
def namedPredecessor (records : List Bytes) : ℕ → Json
  | 0 => .null
  | index + 1 =>
      match records[index]? with
      | some raw => .str (OwnerServices.sha256 raw)
      | none => .null

/-- An append-only list of owner records. -/
structure AppendOnly (key : Bytes) (records : List Bytes) : Prop where
  prefixes : ∀ part, part ≠ [] → part <+: records → ∃ outcome, history part key = .ok outcome
  signed : ∀ (index : ℕ) (raw : Bytes), records[index]? = some raw → ∃ value, verify raw key = .ok value ∧
    field value "sequence" = .int ((index + 1 : ℕ) : ℤ) ∧
    field value "predecessor" = namedPredecessor records index
  later : ∀ (first second : ℕ) (firstRaw secondRaw : Bytes) (firstValue secondValue : Json),
    first ≤ second →
    records[first]? = some firstRaw → records[second]? = some secondRaw →
    verify firstRaw key = .ok firstValue → verify secondRaw key = .ok secondValue →
    Later firstValue secondValue

theorem appendOnly_of_history {records : List Bytes} {key : Bytes}
    {outcome : Approval × TrustBundle} (hhistory : history records key = .ok outcome) :
    AppendOnly key records := by
  refine ⟨fun part hne hpart => history_prefix hhistory hpart hne, ?_, ?_⟩
  all_goals obtain ⟨states, -, rfl, hreplayed, -⟩ := history_ok hhistory
  · intro index raw hraw
    rw [List.getElem?_map, Option.map_eq_some_iff] at hraw
    obtain ⟨state, hstate, rfl⟩ := hraw
    obtain ⟨hsigned, hsequence, hpredecessor⟩ := hreplayed.linked hstate
    refine ⟨state.value, hsigned, ?_, ?_⟩
    · rw [hsequence, Nat.add_comm]
    · rw [hpredecessor]
      cases index with
      | zero => rfl
      | succ index =>
          rw [namedPredecessor, List.getElem?_map, List.getElem?_cons_succ, List.getElem?_map]
          cases states[index]? <;> rfl
  · intro first second firstRaw secondRaw firstValue secondValue hle hfirst hsecond hread hlater
    rw [List.getElem?_map, Option.map_eq_some_iff] at hfirst hsecond
    obtain ⟨before, hbefore, rfl⟩ := hfirst
    obtain ⟨after, hafter, rfl⟩ := hsecond
    rw [(hreplayed.linked hbefore).1] at hread
    rw [(hreplayed.linked hafter).1] at hlater
    cases hread
    cases hlater
    rcases hle.lt_or_eq with hlt | rfl
    · obtain ⟨hfirstBound, rfl⟩ := List.getElem?_eq_some_iff.mp hbefore
      obtain ⟨hsecondBound, rfl⟩ := List.getElem?_eq_some_iff.mp hafter
      exact List.pairwise_iff_getElem.mp (hreplayed.pairwise noPrior).2 _ _ _ _ hlt
    · rw [hbefore] at hafter
      cases hafter
      exact Later.refl (hreplayed.sound noPrior _ (List.mem_of_getElem? hbefore))

/-! ## Retained approvals -/

/-- Spec lemma: what an accepted retained approval consists of. -/
theorem retainedApproval_ok {raw : Bytes} {outcome : Approval × TrustBundle}
    (hretained : retainedApproval raw = .ok outcome) :
    ∃ evidence approval, readEvidence raw = .ok evidence ∧
      history evidence.records evidence.key = .ok (approval, outcome.2) ∧
      outcome.1 = { approval with ownerEvidence := some raw } := by
  unfold retainedApproval at hretained
  obtain ⟨evidence, hevidence, hrest⟩ := bind_eq_ok.mp hretained
  obtain ⟨⟨approval, bundle⟩, hhistory, hrest⟩ := bind_eq_ok.mp hrest
  obtain ⟨checkpoint, -, hrest⟩ := bind_eq_ok.mp hrest
  obtain ⟨last, -, hrest⟩ := bind_eq_ok.mp hrest
  obtain ⟨_, -, hdone⟩ := bind_eq_ok.mp hrest
  cases hdone
  exact ⟨evidence, approval, hevidence, hhistory, rfl⟩

end Replay

/-- Spec lemma: the parts of readable evidence. -/
theorem readEvidence_ok [OwnerServices] {raw : Bytes} {evidence : Evidence}
    (hread : readEvidence raw = .ok evidence) :
    parseOwner raw = .ok evidence.value ∧
      hexBytes (field evidence.value "verification_key") = .ok evidence.key ∧
      ∃ items, field evidence.value "records" = .array items ∧
        items.mapM hexBytes = .ok evidence.records := by
  unfold readEvidence at hread
  obtain ⟨value, hvalue, hread⟩ := bind_eq_ok.mp hread
  split at hread
  · cases hread
  · cases hrecords : field value "records" with
    | array items =>
        rw [hrecords] at hread
        obtain ⟨records, hitems, hread⟩ := bind_eq_ok.mp hread
        split at hread
        · cases hread
        · obtain ⟨key, hkey, hdone⟩ := bind_eq_ok.mp hread
          cases hdone
          exact ⟨hvalue, hkey, items, hrecords, hitems⟩
    | null | bool _ | int _ | number _ | str _ | object _ =>
        rw [hrecords] at hread
        cases hread

/-- Lists of hexadecimal texts are equal exactly when their bytes are. -/
theorem sameItems_hexBytes {first second : List Json} {left right : List Bytes}
    (hfirst : first.mapM hexBytes = .ok left) (hsecond : second.mapM hexBytes = .ok right) :
    sameItems first second = true ↔ left = right := by
  rw [sameItems_iff]
  have hleft := forall₂_of_mapM hfirst
  have hright := forall₂_of_mapM hsecond
  clear hfirst hsecond
  induction hleft generalizing second right with
  | nil =>
      cases hright with
      | nil => simp
      | cons => simp
  | cons hhead _ ih =>
      cases hright with
      | nil => simp
      | cons hother hothers =>
          constructor
          · intro hsame
            cases hsame with
            | cons hitem hitems =>
                have hheads := Except.ok.inj ((hexBytes_of_same hitem hhead).symm.trans hother)
                rw [hheads, (ih hothers).mp hitems]
          · intro heq
            obtain ⟨rfl, rfl⟩ := List.cons.inj heq
            have hsame : ∀ content, same (.str content) (.str content) = true := by
              simp [same]
            refine .cons ?_ ((ih hothers).mpr rfl)
            rw [hexBytes_eq_ok hhead, hexBytes_eq_ok hother]
            exact hsame _

theorem mapM_hexBytes_take {items : List Json} {records : List Bytes}
    (hitems : items.mapM hexBytes = .ok records) (count : ℕ) :
    (items.take count).mapM hexBytes = .ok (records.take count) := by
  induction items generalizing records count with
  | nil =>
      cases hitems
      simp [pure, Except.pure]
  | cons item rest ih =>
      rw [List.mapM_cons, bind_eq_ok] at hitems
      obtain ⟨record, hrecord, hrest⟩ := hitems
      obtain ⟨others, hothers, hdone⟩ := bind_eq_ok.mp hrest
      cases hdone
      cases count with
      | zero => rfl
      | succ count =>
          rw [List.take_succ_cons, List.take_succ_cons, List.mapM_cons]
          exact bind_eq_ok.mpr ⟨record, hrecord, bind_eq_ok.mpr ⟨_, ih hothers count, rfl⟩⟩

theorem length_of_mapM_hexBytes {items : List Json} {records : List Bytes}
    (hitems : items.mapM hexBytes = .ok records) : items.length = records.length :=
  (forall₂_of_mapM hitems).length_eq

/-- `_require_lineage` accepts exactly the prefixes. -/
theorem requireLineage_iff [OwnerServices] {originalRaw currentRaw : Bytes} {before after : Evidence}
    {original current : Approval} (hbefore : readEvidence originalRaw = .ok before)
    (hafter : readEvidence currentRaw = .ok after) (hkey : before.key = after.key)
    (horiginal : original.ownerEvidence = some originalRaw)
    (hcurrent : current.ownerEvidence = some currentRaw) :
    requireLineage original current = .ok () ↔ before.records <+: after.records := by
  obtain ⟨hprior, hpriorKey, priorItems, hpriorItems, hpriorRecords⟩ := readEvidence_ok hbefore
  obtain ⟨hnow, hnowKey, nowItems, hnowItems, hnowRecords⟩ := readEvidence_ok hafter
  have hsameKey : same (field before.value "verification_key")
      (field after.value "verification_key") = true := by
    rw [hexBytes_eq_ok hpriorKey, hexBytes_eq_ok hnowKey, hkey]
    simp [same]
  have hitems := sameItems_hexBytes
    (mapM_hexBytes_take hnowRecords priorItems.length) hpriorRecords
  rw [length_of_mapM_hexBytes hpriorRecords] at hitems
  have hinitial : before.records <+: after.records ↔
      after.records.take before.records.length = before.records := by
    rw [List.prefix_iff_eq_take]
    exact eq_comm
  unfold requireLineage
  rw [horiginal, hcurrent]
  simp only [hprior, hnow, bind_eq_ok, Except.ok.injEq, exists_eq_left', hsameKey, hpriorItems,
    hnowItems, Json.items, length_of_mapM_hexBytes hpriorRecords, Bool.not_true, Bool.false_or]
  rw [hinitial, ← hitems]
  cases sameItems (nowItems.take before.records.length) priorItems <;> simp [refuse]

section Lineage

variable [Calendar] [OwnerServices]

/-- The last state of a history was read from its last record. -/
theorem Replayed.getLast {key : Bytes} {states : List Carried} {last : Carried}
    (hreplayed : Replayed key none 1 states) (hlast : states.getLast? = some last) :
    verify last.raw key = .ok last.value ∧
      (states.map Carried.raw)[states.length - 1]? = some last.raw := by
  rw [List.getLast?_eq_getElem?] at hlast
  refine ⟨(hreplayed.linked hlast).1, ?_⟩
  rw [List.getElem?_map, hlast]
  rfl

/-- Along one history a withdrawal keeps its effective time. -/
theorem withdrawn_of_prefix {part records : List Bytes} {key : Bytes}
    {original current : Approval × TrustBundle} (hpart : history part key = .ok original)
    (hhistory : history records key = .ok current) (hinitial : part <+: records) :
    original.1.withdrawnFrom = none ∨
      current.1.withdrawnFrom = original.1.withdrawnFrom := by
  obtain ⟨before, first, rfl, hearlier, hfirst, -, hfirstApproval, -⟩ := history_ok hpart
  obtain ⟨after, second, rfl, hreplayed, hsecond, -, hsecondApproval, -⟩ := history_ok hhistory
  obtain ⟨hfirstSigned, hfirstRaw⟩ := hearlier.getLast hfirst
  obtain ⟨hsecondSigned, hsecondRaw⟩ := hreplayed.getLast hsecond
  have hlength : before.length ≤ after.length := by
    simpa only [List.length_map] using hinitial.length_le
  have hfound : (after.map Carried.raw)[before.length - 1]? = some first.raw := by
    obtain ⟨tail, htail⟩ := hinitial
    obtain ⟨hbound, -⟩ := List.getElem?_eq_some_iff.mp hfirstRaw
    rw [← htail, List.getElem?_append_left hbound]
    exact hfirstRaw
  have hlater := (appendOnly_of_history hhistory).later _ _ _ _ _ _
    (Nat.sub_le_sub_right hlength 1) hfound hsecondRaw hfirstSigned hsecondSigned
  exact withdrawn_of_later hlater hfirstApproval hsecondApproval

/-- Accepted owner histories are append-only with a final withdrawal, and two
retained approvals under one key stand in lineage exactly as prefixes do. -/
theorem ownerHistory_lineage :
    (∀ records key outcome, history records key = .ok outcome → AppendOnly key records) ∧
      ∀ originalRaw currentRaw before after original current,
        readEvidence originalRaw = .ok before → readEvidence currentRaw = .ok after →
        before.key = after.key →
        retainedApproval originalRaw = .ok original → retainedApproval currentRaw = .ok current →
        (requireLineage original.1 current.1 = .ok () ↔ before.records <+: after.records) ∧
          (before.records <+: after.records → original.1.withdrawnFrom = none ∨
            current.1.withdrawnFrom = original.1.withdrawnFrom) := by
  refine ⟨fun _ _ _ hhistory => appendOnly_of_history hhistory, ?_⟩
  intro originalRaw currentRaw before after original current hbefore hafter hkey horiginal hcurrent
  obtain ⟨evidence, approval, hevidence, hhistory, happroval⟩ := retainedApproval_ok horiginal
  obtain ⟨evidence', approval', hevidence', hhistory', happroval'⟩ := retainedApproval_ok hcurrent
  rw [hbefore] at hevidence
  cases hevidence
  rw [hafter] at hevidence'
  cases hevidence'
  rw [happroval, happroval']
  refine ⟨requireLineage_iff hbefore hafter hkey rfl rfl, fun hinitial => ?_⟩
  rw [hkey] at hhistory
  exact withdrawn_of_prefix hhistory hhistory' hinitial

end Lineage

namespace Withdrawal

def numberOf : Token → ℕ
  | .int value => value.toNat
  | _ => 0

/-- A short text for each value: how many lexical tokens it has and the sum of its
numbers. -/
def encoded (value : Json) : Bytes :=
  [UInt8.ofNat (tokens value).length, UInt8.ofNat ((tokens value).map numberOf).sum]

def key : Bytes := keyPrefix ++ List.replicate 32 7

def digestOf (raw : Bytes) : String :=
  if raw = [1] then target else toHex raw

def bundleJson : Json := .object [
  ("roots", .array [.str "0a"]),
  ("snapshot", .str "03"),
  ("targets", .str "04"),
  ("timestamp", .str "02"),
  ("trusted_root", .str "01")]

def signed (sequence : ℤ) (action : String) (predecessor adverse : Json) : Json := .object [
  ("accepted_premises", premisesJson),
  ("action", .str action),
  ("adverse", adverse),
  ("algorithm", .str "Ed25519"),
  ("bundle", bundleJson),
  ("catalog", .str "/catalog"),
  ("deployment", .str "deployment"),
  ("domain", .str domain),
  ("floors", versionsJson reviewedFloors),
  ("history", .str "history"),
  ("issue", .int 70),
  ("not_after", .str "2026-11-01T00:00:00Z"),
  ("not_before", .str "2026-10-01T00:00:00Z"),
  ("owner", .str (digestOf key)),
  ("predecessor", predecessor),
  ("profile", profileJson),
  ("profile_digest", .str (digestOf (encoded profileJson))),
  ("purpose", .str "RESEARCH_ONLY"),
  ("schema_version", .int 1),
  ("sequence", .int sequence)]

def envelope (value : Json) : Json :=
  .object [("signature", .str (toHex (List.replicate 64 9))), ("signed", value)]

def activation : Json := envelope (signed 1 "activate" .null .null)

def withdrawal : Json :=
  envelope (signed 2 "withdraw" (.str (digestOf (encoded activation))) (.object [
    ("effective_from", .null),
    ("observed_at", .str "2026-10-10T02:00:00Z"),
    ("published_at", .str "2026-10-10T01:00:00Z")]))

/-- The independent head of a history, and the evidence retained with it. -/
def checkpoint (records : List Json) : Json :=
  envelope (.object [
    ("action", .str "checkpoint"),
    ("algorithm", .str "Ed25519"),
    ("catalog", .str "/catalog"),
    ("continuity", .str "RECONCILED"),
    ("deployment", .str "deployment"),
    ("domain", .str domain),
    ("floors", versionsJson reviewedFloors),
    ("head", .str (digestOf (encoded (records.getLast?.getD .null)))),
    ("history", .str "history"),
    ("nonce", .str (toHex (List.replicate 32 5))),
    ("owner", .str (digestOf key)),
    ("schema_version", .int 1),
    ("sequence", .int records.length)])

def evidence (records : List Json) : Json := .object [
  ("approval_digest", .str (digestOf (encoded (records.getLast?.getD .null)))),
  ("checkpoint", .str (toHex (encoded (checkpoint records)))),
  ("records", .array (records.map fun record => .str (toHex (encoded record)))),
  ("schema_version", .int 2),
  ("verification_key", .str (toHex key))]

/-- The values that the texts of this history stand for. -/
def known : List Json :=
  [activation, withdrawal, checkpoint [activation], checkpoint [activation, withdrawal],
    evidence [activation], evidence [activation, withdrawal]]

@[reducible]
def services : OwnerServices where
  loads raw := known.find? fun value => encoded value = raw
  dumps := encoded
  sha256 := digestOf
  verifySignature _ _ signature := signature = List.replicate 64 9
  authenticate _ := .ok reviewedFloors

local instance : OwnerServices := services
local instance : Calendar := gregorianCalendar

theorem exists_of_isOk {α : Type} {call : Except OwnerError α} (hok : call.isOk = true) :
    ∃ result, call = .ok result := by
  cases call with
  | error error => cases hok
  | ok result => exact ⟨result, rfl⟩

def activeRaw : Bytes := encoded (evidence [activation])

def withdrawnRaw : Bytes := encoded (evidence [activation, withdrawal])

theorem active_retained : (retainedApproval activeRaw).isOk = true := by
  decide +kernel

theorem withdrawn_retained : (retainedApproval withdrawnRaw).isOk = true := by
  decide +kernel

theorem sameKey : (readEvidence activeRaw).toOption.map Evidence.key =
    (readEvidence withdrawnRaw).toOption.map Evidence.key := by
  decide +kernel

/-- The retained approval of an activation and that of its withdrawal. -/
theorem withdrawal_lineage :
    ∃ before after original current, readEvidence activeRaw = .ok before ∧
      readEvidence withdrawnRaw = .ok after ∧ retainedApproval activeRaw = .ok original ∧
      retainedApproval withdrawnRaw = .ok current ∧ AppendOnly after.key after.records ∧
      (requireLineage original.1 current.1 = .ok () ↔ before.records <+: after.records) := by
  obtain ⟨original, horiginal⟩ := exists_of_isOk active_retained
  obtain ⟨current, hcurrent⟩ := exists_of_isOk withdrawn_retained
  obtain ⟨before, -, hbefore, -, -⟩ := retainedApproval_ok horiginal
  obtain ⟨after, approval, hafter, hhistory, -⟩ := retainedApproval_ok hcurrent
  have hkeys := sameKey
  rw [hbefore, hafter] at hkeys
  have hkey : before.key = after.key := Option.some.inj hkeys
  exact ⟨before, after, original, current, hbefore, hafter, horiginal, hcurrent,
    ownerHistory_lineage.1 _ _ _ hhistory,
    (ownerHistory_lineage.2 _ _ _ _ _ _ hbefore hafter hkey horiginal hcurrent).1⟩

end Withdrawal

end MatchVet.Causal.OwnerLineage
