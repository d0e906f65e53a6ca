import Mathlib.Algebra.Order.Ring.Rat
import Mathlib.Data.List.Dedup
import MatchVet.Foundation.Dictionary

/-!
# Values of the host language

Functions that accept any object receive a `PyValue`.  Finite floats are
rational numbers; rounding, Unicode case mapping and the text of a value that
is not a string come from the runtime, a parameter of everything that uses
them.
-/

namespace MatchVet.Foundation.Runtime

open MatchVet.Foundation.Dictionary

inductive PyFloat where
  | finite (value : ℚ)
  | infinite (negative : Bool)
  | nan
  deriving DecidableEq, Repr

/-- `left > right`; no comparison with a NaN holds. -/
def PyFloat.exceeds : PyFloat → PyFloat → Bool
  | .finite left, .finite right => right < left
  | .finite _, .infinite negative => negative
  | .infinite negative, .finite _ => !negative
  | .infinite left, .infinite right => !left && right
  | _, _ => false

/-- `max` of a sequence: a later value replaces the best one when it exceeds it. -/
def PyFloat.maximum? : List PyFloat → Option PyFloat
  | [] => none
  | first :: rest =>
      some (rest.foldl (fun best value => if value.exceeds best then value else best) first)

/-- A dynamically typed value.  `array` is a list or a tuple, `object` any other
instance with its text, its attributes and the result of its `to_dict`. -/
inductive PyValue where
  | none
  | bool (value : Bool)
  | int (value : ℤ)
  | float (value : PyFloat)
  | str (value : String)
  | array (items : List PyValue)
  | mapping (entries : List (String × PyValue))
  | object (text : String) (attributes : List (String × PyValue)) (toDict : Option PyValue)

instance : Inhabited PyValue := ⟨.none⟩

/-! ## Text -/

def asciiOnly (text : String) : Bool := text.toList.all fun char => char.toNat < 128

def asciiUpper (text : String) : String := String.ofList (text.toList.map Char.toUpper)

def asciiLower (text : String) : String := String.ofList (text.toList.map Char.toLower)

/-- The characters `str.strip` and `str.split` treat as white space. -/
def isSpace (char : Char) : Bool :=
  (0x09 ≤ char.toNat && char.toNat ≤ 0x0D) || (0x1C ≤ char.toNat && char.toNat ≤ 0x20) ||
    (0x2000 ≤ char.toNat && char.toNat ≤ 0x200A) ||
    [0x85, 0xA0, 0x1680, 0x2028, 0x2029, 0x202F, 0x205F, 0x3000].contains char.toNat

def stripChars (chars : List Char) : List Char :=
  ((chars.dropWhile isSpace).reverse.dropWhile isSpace).reverse

def strip (text : String) : String := String.ofList (stripChars text.toList)

/-- Nothing but white space. -/
def blank (text : String) : Bool := strip text = ""

/-- Text that stripping leaves as it is, and that is not empty. -/
def Trimmed (text : String) : Prop := strip text = text ∧ text ≠ ""

instance (text : String) : Decidable (Trimmed text) := by
  unfold Trimmed
  infer_instance

theorem Trimmed.not_blank {text : String} (htext : Trimmed text) : blank text = false := by
  rw [blank, htext.1]
  exact decide_eq_false htext.2

/-- `"_".join(text.split())`. -/
def joinWords (text : String) : String :=
  String.ofList (['_'].intercalate ((text.toList.splitOnP isSpace).filter (· ≠ [])))

def replaceChar (old new : Char) (text : String) : String :=
  String.ofList (text.toList.map fun char => if char = old then new else char)

theorem dropWhile_dropWhile (p : Char → Bool) (chars : List Char) :
    (chars.dropWhile p).dropWhile p = chars.dropWhile p := by
  induction chars with
  | nil => rfl
  | cons char rest ih =>
      cases h : p char with
      | true => simpa [h] using ih
      | false => simp [h]

/-- Dropping from one end does not create work at the other. -/
theorem dropWhile_reverse_dropWhile (p : Char → Bool) (chars : List Char)
    (hstart : chars.dropWhile p = chars) :
    ((chars.reverse.dropWhile p).reverse).dropWhile p = (chars.reverse.dropWhile p).reverse := by
  cases chars with
  | nil => rfl
  | cons char rest =>
      have hkeep : p char = false := by
        by_contra hdrop
        rw [Bool.not_eq_false] at hdrop
        have hlen := congrArg List.length hstart
        rw [List.dropWhile_cons_of_pos hdrop, List.length_cons] at hlen
        have hle := (List.dropWhile_sublist p (l := rest)).length_le
        omega
      cases hshape : (((char :: rest).reverse.dropWhile p).reverse) with
      | nil => rfl
      | cons first tail =>
          have hinitial : first :: tail <+: char :: rest := by
            rw [← hshape, ← List.reverse_suffix, List.reverse_reverse]
            exact List.dropWhile_suffix p
          rw [(List.cons_prefix_cons.mp hinitial).1]
          exact List.dropWhile_cons_of_neg (by simp [hkeep])

theorem stripChars_stripChars (chars : List Char) :
    stripChars (stripChars chars) = stripChars chars := by
  have hstart := dropWhile_reverse_dropWhile isSpace (chars.dropWhile isSpace)
    (dropWhile_dropWhile isSpace chars)
  unfold stripChars
  rw [hstart, List.reverse_reverse, dropWhile_dropWhile]

@[simp]
theorem strip_strip (text : String) : strip (strip text) = strip text := by
  simp only [strip, String.toList_ofList, stripChars_stripChars]

theorem trimmed_strip {text : String} (htext : blank text = false) : Trimmed (strip text) :=
  ⟨strip_strip text, of_decide_eq_false htext⟩

/-- Stripping leaves alone what starts and ends without white space. -/
theorem stripChars_eq_self {chars : List Char} :
    stripChars chars = chars ↔
      chars.dropWhile isSpace = chars ∧ chars.reverse.dropWhile isSpace = chars.reverse := by
  constructor
  · intro hself
    have hsuffix : chars.dropWhile isSpace <:+ chars := List.dropWhile_suffix isSpace
    have hstart : chars.dropWhile isSpace = chars := by
      refine hsuffix.eq_of_length_le ?_
      have hend := (List.dropWhile_suffix isSpace (l := (chars.dropWhile isSpace).reverse)).length_le
      have hlength := congrArg List.length hself
      rw [stripChars, List.length_reverse] at hlength
      rw [List.length_reverse] at hend
      omega
    rw [stripChars, hstart] at hself
    exact ⟨hstart, List.reverse_eq_iff.mp hself⟩
  · rintro ⟨hstart, hend⟩
    rw [stripChars, hstart, hend, List.reverse_reverse]

theorem dropWhile_append_of_self {p : Char → Bool} {chars : List Char} (hchars : chars ≠ [])
    (hself : chars.dropWhile p = chars) (rest : List Char) :
    (chars ++ rest).dropWhile p = chars ++ rest := by
  cases chars with
  | nil => exact absurd rfl hchars
  | cons char tail =>
      cases hchar : p char with
      | false => simp [hchar]
      | true =>
          have hle := (List.dropWhile_suffix p (l := tail)).length_le
          rw [List.dropWhile_cons_of_pos hchar] at hself
          rw [hself, List.length_cons] at hle
          omega

theorem Trimmed.chars {text : String} (htext : Trimmed text) :
    text.toList ≠ [] ∧ text.toList.dropWhile isSpace = text.toList ∧
      text.toList.reverse.dropWhile isSpace = text.toList.reverse := by
  have hself : stripChars text.toList = text.toList := by
    have hlist := congrArg String.toList htext.1
    rwa [strip, String.toList_ofList] at hlist
  refine ⟨fun hnil => htext.2 ?_, stripChars_eq_self.mp hself⟩
  exact String.toList_inj.mp hnil

/-- What stands between two trimmed texts does not matter. -/
theorem Trimmed.append {first last : String} (hfirst : Trimmed first) (hlast : Trimmed last)
    (middle : String) : Trimmed (first ++ middle ++ last) := by
  obtain ⟨hfirstNe, hfirstStart, -⟩ := hfirst.chars
  obtain ⟨hlastNe, -, hlastEnd⟩ := hlast.chars
  refine ⟨?_, fun hempty => ?_⟩
  · rw [strip, String.toList_append, String.toList_append, stripChars_eq_self.mpr ⟨?_, ?_⟩,
      ← String.toList_append, ← String.toList_append, String.ofList_toList]
    · rw [List.append_assoc]
      exact dropWhile_append_of_self hfirstNe hfirstStart _
    · rw [List.reverse_append]
      exact dropWhile_append_of_self (mt List.reverse_eq_nil_iff.mp hlastNe) hlastEnd _
  · have hnil := congrArg String.toList hempty
    rw [String.toList_append, String.toList_append] at hnil
    exact hlastNe (List.append_eq_nil_iff.mp hnil).2

/-- A mapping that keeps white space commutes with stripping. -/
theorem stripChars_map {f : Char → Char} (hspace : ∀ char, isSpace (f char) = isSpace char)
    (chars : List Char) : stripChars (chars.map f) = (stripChars chars).map f := by
  have hcomp : isSpace ∘ f = isSpace := funext hspace
  simp only [stripChars, List.dropWhile_map, ← List.map_reverse, hcomp]

/-- An ASCII capital is 32 below its small letter; other characters stay. -/
theorem toUpper_cases (char : Char) :
    (char.toUpper = char ∧ ¬ (97 ≤ char.toNat ∧ char.toNat ≤ 122)) ∨
      (97 ≤ char.toNat ∧ char.toNat ≤ 122 ∧ char.toUpper.toNat + 32 = char.toNat) := by
  unfold Char.toUpper
  split
  next hlower =>
    right
    have hlow : 97 ≤ char.toNat := hlower.1
    have hhigh : char.toNat ≤ 122 := hlower.2
    refine ⟨hlow, hhigh, ?_⟩
    change (char.val + ('A'.val - 'a'.val)).toNat + 32 = char.toNat
    rw [UInt32.toNat_add]
    change (char.toNat + 4294967264) % 4294967296 + 32 = char.toNat
    omega
  next hlower => exact Or.inl ⟨rfl, hlower⟩

theorem isSpace_letter {char : Char} (hlow : 65 ≤ char.toNat) (hhigh : char.toNat ≤ 122) :
    isSpace char = false := by
  have hout : ¬ char.toNat ∈ [0x85, 0xA0, 0x1680, 0x2028, 0x2029, 0x202F, 0x205F, 0x3000] := by
    simp only [List.mem_cons, List.not_mem_nil, or_false]
    omega
  rw [isSpace, List.contains_eq_mem, decide_eq_false hout, Bool.or_false]
  simp only [Bool.or_eq_false_iff, Bool.and_eq_false_iff, decide_eq_false_iff_not]
  omega

theorem isSpace_toUpper (char : Char) : isSpace char.toUpper = isSpace char := by
  rcases toUpper_cases char with ⟨hsame, -⟩ | ⟨hlow, hhigh, hupper⟩
  · rw [hsame]
  · rw [isSpace_letter (by omega) (by omega), isSpace_letter (by omega) (by omega)]

theorem strip_asciiUpper (text : String) : strip (asciiUpper text) = asciiUpper (strip text) := by
  simp only [strip, asciiUpper, String.toList_ofList, stripChars_map isSpace_toUpper]

theorem asciiUpper_asciiUpper (text : String) :
    asciiUpper (asciiUpper text) = asciiUpper text := by
  have htwice : ∀ char : Char, char.toUpper.toUpper = char.toUpper := by
    intro char
    rcases toUpper_cases char with ⟨hsame, -⟩ | ⟨hlow, hhigh, hupper⟩
    · rw [hsame, hsame]
    · rcases toUpper_cases char.toUpper with ⟨hsame, -⟩ | ⟨hagain, -, -⟩
      · exact hsame
      · omega
  simp only [asciiUpper, String.toList_ofList, List.map_map]
  exact congrArg String.ofList (List.map_congr_left fun char _ => htwice char)

theorem trimmed_asciiUpper {text : String} (htext : Trimmed text) : Trimmed (asciiUpper text) := by
  refine ⟨by rw [strip_asciiUpper, htext.1], fun hempty => htext.2 ?_⟩
  have hnil := congrArg String.toList hempty
  rw [asciiUpper, String.toList_ofList] at hnil
  exact String.toList_inj.mp (List.map_eq_nil_iff.mp hnil)

/-- The sorted distinct members of a list of strings. -/
def sortedSet (texts : List String) : List String :=
  texts.dedup.insertionSort (· ≤ ·)

theorem mem_sortedSet {texts : List String} {content : String} :
    content ∈ sortedSet texts ↔ content ∈ texts := by
  rw [sortedSet, List.mem_insertionSort, List.mem_dedup]

theorem sortedSet_nodup (texts : List String) : (sortedSet texts).Nodup :=
  (List.perm_insertionSort (· ≤ ·) texts.dedup).nodup_iff.mpr (List.nodup_dedup texts)

@[simp]
theorem sortedSet_sortedSet (texts : List String) : sortedSet (sortedSet texts) = sortedSet texts := by
  conv_lhs => rw [sortedSet, (sortedSet_nodup texts).dedup]
  exact (List.pairwise_insertionSort (· ≤ ·) texts.dedup).insertionSort_eq

@[simp]
theorem sortedSet_eq_nil (texts : List String) : sortedSet texts = [] ↔ texts = [] := by
  constructor
  · intro hnil
    have hperm := List.perm_insertionSort (· ≤ ·) texts.dedup
    rw [show texts.dedup.insertionSort (· ≤ ·) = [] from hnil] at hperm
    exact (List.dedup_eq_nil texts).mp hperm.nil_eq.symm
  · rintro rfl
    rfl

/-- Membership in a list of pairs of texts. -/
instance pairMemDecidable (pair : String × String) (pairs : List (String × String)) :
    Decidable (pair ∈ pairs) :=
  List.instDecidableMemOfLawfulBEq pair pairs

/-! ## Services outside the program -/

/-- The runtime services that are not computed here: nearest-float rounding, the
float power, the Unicode case mappings, `str` and `repr` of a value, and the UTC
text of an ISO timestamp (none when it cannot be parsed, an inner none when it has
no offset). -/
class PyRuntime where
  nearest : ℚ → ℚ
  nearest_neg : ∀ value, nearest (-value) = -nearest value
  power : ℚ → ℚ → ℚ
  upper : String → String
  lower : String → String
  upper_ascii : ∀ text, asciiOnly text = true → upper text = asciiUpper text
  lower_ascii : ∀ text, asciiOnly text = true → lower text = asciiLower text
  upper_upper : ∀ text, upper (upper text) = upper text
  upper_trimmed : ∀ text, Trimmed text → Trimmed (upper text)
  casefold : String → String
  display : PyValue → String
  display_str : ∀ text, display (.str text) = text
  repr : PyValue → String
  utcText : String → Option (Option String)
  utcText_idem : ∀ text moment, utcText text = some (some moment) →
    utcText moment = some (some moment)
  utcText_trimmed : ∀ text moment, utcText text = some (some moment) → Trimmed moment

export PyRuntime (nearest upper lower display)

attribute [simp] PyRuntime.display_str

theorem map_display_str [PyRuntime] (texts : List String) :
    (texts.map PyValue.str).map display = texts := by
  rw [List.map_map]
  refine Eq.trans (List.map_congr_left fun content _ => ?_) (List.map_id texts)
  exact PyRuntime.display_str content

/-- A runtime for closed computations: exact arithmetic and ASCII case mapping. -/
@[reducible]
def plainRuntime : PyRuntime where
  nearest value := value
  nearest_neg _ := rfl
  power base exponent := base ^ exponent.num
  upper := asciiUpper
  lower := asciiLower
  upper_ascii _ _ := rfl
  lower_ascii _ _ := rfl
  upper_upper := asciiUpper_asciiUpper
  upper_trimmed _ := trimmed_asciiUpper
  casefold := asciiLower
  display
    | .str text => text
    | .object text _ _ => text
    | .bool true => "True"
    | .bool false => "False"
    | .int value => toString value
    | .none => "None"
    | _ => ""
  display_str _ := rfl
  repr _ := ""
  utcText text := if Trimmed text then some (some text) else none
  utcText_idem text moment hmoment := by
    split at hmoment
    next htext =>
      cases hmoment
      exact if_pos htext
    · cases hmoment
  utcText_trimmed text moment hmoment := by
    split at hmoment
    next htext =>
      cases hmoment
      exact htext
    · cases hmoment

/-! ## Calls that may raise -/

theorem ok_bind {ε α β : Type} (value : α) (next : α → Except ε β) :
    (Except.ok value >>= next) = next value :=
  rfl

theorem exists_ok_of_isSome {ε α : Type} {result : Except ε α}
    (hresult : result.toOption.isSome = true) : ∃ value, result = .ok value := by
  cases result with
  | error reason => cases hresult
  | ok value => exact ⟨value, rfl⟩

/-- A sequence of two calls returns when both do. -/
theorem bind_eq_ok {ε α β : Type} {first : Except ε α} {next : α → Except ε β} {result : β} :
    (first >>= next) = .ok result ↔ ∃ value, first = .ok value ∧ next value = .ok result := by
  cases first with
  | error error => exact ⟨nofun, nofun⟩
  | ok value =>
      constructor
      · intro hnext
        exact ⟨value, rfl, hnext⟩
      · rintro ⟨found, hfound, hnext⟩
        cases hfound
        exact hnext

theorem mapError_eq_ok {ε ε' α : Type} {call : Except ε α} {convert : ε → ε'} {result : α} :
    call.mapError convert = .ok result ↔ call = .ok result := by
  cases call <;> simp [Except.mapError]

theorem map_eq_ok {ε α β : Type} {call : Except ε α} {convert : α → β} {result : β} :
    call.map convert = .ok result ↔ ∃ value, call = .ok value ∧ convert value = result := by
  cases call <;> simp [Except.map]

/-- A list of calls returns when each of them does. -/
theorem forall₂_of_mapM {ε α β : Type} {call : α → Except ε β} {items : List α}
    {results : List β} (hcalls : items.mapM call = .ok results) :
    List.Forall₂ (fun item result => call item = .ok result) items results := by
  induction items generalizing results with
  | nil =>
      cases hcalls
      exact .nil
  | cons item rest ih =>
      rw [List.mapM_cons, bind_eq_ok] at hcalls
      obtain ⟨result, hresult, hrest⟩ := hcalls
      rw [bind_eq_ok] at hrest
      obtain ⟨others, hothers, hdone⟩ := hrest
      cases hdone
      exact .cons hresult (ih hothers)

/-- Related lists have related members. -/
theorem exists_of_mem_right {α β : Type} {related : α → β → Prop} {first : List α}
    {second : List β} (hrelated : List.Forall₂ related first second) {item : β}
    (hitem : item ∈ second) : ∃ other ∈ first, related other item := by
  induction hrelated with
  | nil => cases hitem
  | cons hhead htail ih =>
      rcases List.mem_cons.mp hitem with rfl | hrest
      · exact ⟨_, List.mem_cons_self, hhead⟩
      · obtain ⟨other, hother, hlinked⟩ := ih hrest
        exact ⟨other, List.mem_cons_of_mem _ hother, hlinked⟩

theorem exists_of_mem_left {α β : Type} {related : α → β → Prop} {first : List α}
    {second : List β} (hrelated : List.Forall₂ related first second) {item : α}
    (hitem : item ∈ first) : ∃ other ∈ second, related item other :=
  exists_of_mem_right hrelated.flip hitem

theorem mapM_of_forall {ε α β : Type} {call : α → Except ε β} {answer : α → β} {items : List α}
    (hcalls : ∀ item ∈ items, call item = .ok (answer item)) :
    items.mapM call = .ok (items.map answer) := by
  induction items with
  | nil => rfl
  | cons item rest ih =>
      obtain ⟨hitem, hrest⟩ := List.forall_mem_cons.mp hcalls
      rw [List.mapM_cons, hitem, ih hrest]
      rfl

/-- A list of calls on what was written. -/
theorem mapM_map {ε α β γ : Type} {write : α → β} {read : β → Except ε γ} {result : α → γ}
    (hread : ∀ value, read (write value) = .ok (result value)) (values : List α) :
    (values.map write).mapM read = .ok (values.map result) := by
  rw [List.mapM_map]
  exact mapM_of_forall fun value _ => hread value

/-- What every call of a loop keeps, the loop keeps. -/
theorem foldlM_keeps {ε α σ : Type} {call : σ → α → Except ε σ} (related : σ → σ → Prop)
    (hrefl : ∀ state, related state state)
    (htrans : ∀ first second third, related first second → related second third →
      related first third)
    {items : List α}
    (hcall : ∀ item ∈ items, ∀ state next, call state item = .ok next → related state next)
    {first last : σ} (hloop : items.foldlM call first = .ok last) : related first last := by
  induction items generalizing first with
  | nil =>
      cases hloop
      exact hrefl _
  | cons item rest ih =>
      obtain ⟨hitem, hrest⟩ := List.forall_mem_cons.mp hcall
      rw [List.foldlM_cons, bind_eq_ok] at hloop
      obtain ⟨next, hnext, hloop⟩ := hloop
      exact htrans first next last (hitem first next hnext) (ih hrest hloop)

/-- A loop that puts its items one after the other has put them all. -/
theorem foldlM_collects {ε α σ : Type} {call : σ → α → Except ε σ} (put : List α → σ)
    {items : List α} {first last : σ} (hfirst : put [] = first)
    (hcall : ∀ done item rest, items = done ++ item :: rest → ∀ next,
      call (put done) item = .ok next → next = put (done ++ [item]))
    (hloop : items.foldlM call first = .ok last) : last = put items := by
  rw [← hfirst] at hloop
  suffices hrest : ∀ rest done, items = done ++ rest → rest.foldlM call (put done) = .ok last →
      last = put items from hrest items [] rfl hloop
  intro rest
  induction rest with
  | nil =>
      intro done hitems hloop
      cases hloop
      rw [hitems, List.append_nil]
  | cons item rest ih =>
      intro done hitems hloop
      rw [List.foldlM_cons, bind_eq_ok] at hloop
      obtain ⟨next, hnext, hloop⟩ := hloop
      cases hcall done item rest hitems next hnext
      exact ih (done ++ [item]) (by rw [hitems, List.append_assoc]; rfl) hloop

theorem anyM_eq_false {ε α : Type} {test : α → Except ε Bool} {items : List α} :
    items.anyM test = .ok false ↔ ∀ item ∈ items, test item = .ok false := by
  induction items with
  | nil => exact ⟨fun _ _ hmem => absurd hmem List.not_mem_nil, fun _ => rfl⟩
  | cons item rest ih =>
      rw [List.forall_mem_cons, ← ih, List.anyM]
      cases test item with
      | error error => exact ⟨nofun, nofun⟩
      | ok found =>
          cases found with
          | false => exact ⟨fun hrest => ⟨rfl, hrest⟩, fun hboth => hboth.2⟩
          | true => exact ⟨nofun, nofun⟩

/-- `any` over `combinations(items, 2)`. -/
def anyCombination {ε α : Type} (test : α → α → Except ε Bool) : List α → Except ε Bool
  | [] => .ok false
  | item :: rest => do
      let found ← rest.anyM (test item)
      if found then .ok true else anyCombination test rest

/-- No pair meets the test when the search says so. -/
theorem anyCombination_eq_false {ε α : Type} {test : α → α → Except ε Bool} {items : List α} :
    anyCombination test items = .ok false ↔
      items.Pairwise fun first second => test first second = .ok false := by
  induction items with
  | nil => exact ⟨fun _ => .nil, fun _ => rfl⟩
  | cons item rest ih =>
      rw [List.pairwise_cons, ← ih, anyCombination, bind_eq_ok]
      constructor
      · rintro ⟨found, hfound, hrest⟩
        cases found with
        | true => exact absurd hrest nofun
        | false => exact ⟨anyM_eq_false.mp hfound, hrest⟩
      · rintro ⟨hitem, hrest⟩
        exact ⟨false, anyM_eq_false.mpr hitem, hrest⟩

/-! ## Truth value, attribute and mapping access -/

def PyValue.truthy : PyValue → Bool
  | .none => false
  | .bool value => value
  | .int value => value ≠ 0
  | .float (.finite value) => value ≠ 0
  | .float _ => true
  | .str value => value ≠ ""
  | .array items => !items.isEmpty
  | .mapping entries => !entries.isEmpty
  | .object _ _ _ => true

/-- The mapping a value is, or the empty one. -/
def PyValue.entries : PyValue → List (String × PyValue)
  | .mapping entries => entries
  | _ => []

def PyValue.isMapping : PyValue → Bool
  | .mapping _ => true
  | _ => false

/-- `getattr(value, key, None)`, read as absent when there is no such attribute. -/
def PyValue.attribute? (key : String) : PyValue → Option PyValue
  | .object _ attributes _ => attributes.lookup key
  | _ => Option.none

end MatchVet.Foundation.Runtime
