import Mathlib.Data.List.Basic
import Mathlib.Data.Nat.Notation

/-!
# JSON text of flat objects

The ASCII text that `json.dumps` writes for strings, for lists of strings and for
objects of strings, without white space.  A string can be read back from its
text.
-/

namespace MatchVet.Foundation.JsonText

/-! ## Writing -/

/-- Four hexadecimal digits. -/
def hexDigits (unit : ℕ) : List Char :=
  [unit / 4096 % 16, unit / 256 % 16, unit / 16 % 16, unit % 16].map Nat.digitChar

/-- The escape of a UTF-16 code unit. -/
def codeUnit (unit : ℕ) : List Char := '\\' :: 'u' :: hexDigits unit

/-- The characters with an escape letter of their own. -/
def escapeLetter? (char : Char) : Option Char :=
  if char = '"' then some '"'
  else if char = '\\' then some '\\'
  else if char = '\n' then some 'n'
  else if char = '\r' then some 'r'
  else if char = '\t' then some 't'
  else if char.toNat = 8 then some 'b'
  else if char.toNat = 12 then some 'f'
  else none

/-- One character of a JSON string in ASCII; above the first plane it takes two
code units. -/
def escaped (char : Char) : List Char :=
  match escapeLetter? char with
  | some letter => ['\\', letter]
  | none =>
      if 32 ≤ char.toNat ∧ char.toNat ≤ 126 then [char]
      else if char.toNat < 65536 then codeUnit char.toNat
      else codeUnit (55296 + (char.toNat - 65536) / 1024) ++
        codeUnit (56320 + (char.toNat - 65536) % 1024)

def jsonString (text : String) : String :=
  String.ofList ('"' :: (text.toList.flatMap escaped ++ ['"']))

def jsonOption (text : Option String) : String := text.elim "null" jsonString

/-- A list of strings. -/
def jsonArray (texts : List String) : String :=
  "[" ++ ",".intercalate (texts.map jsonString) ++ "]"

/-- An object whose members are given in key order. -/
def jsonObject (members : List (String × Option String)) : String :=
  "\x7b" ++ ",".intercalate (members.map fun member =>
    jsonString member.1 ++ ":" ++ jsonOption member.2) ++ "\x7d"

/-! ## Reading back -/

theorem digitChar_inj {first second : ℕ} (hfirst : first < 16) (hsecond : second < 16)
    (heq : first.digitChar = second.digitChar) : first = second := by
  have hall : ∀ left right : Fin 16, (left : ℕ).digitChar = (right : ℕ).digitChar →
      left = right := by decide
  exact congrArg Fin.val (hall ⟨first, hfirst⟩ ⟨second, hsecond⟩ heq)

theorem hexDigits_inj {first second : ℕ} (hfirst : first < 65536) (hsecond : second < 65536)
    (heq : hexDigits first = hexDigits second) : first = second := by
  simp only [hexDigits, List.map_cons, List.map_nil, List.cons.injEq, and_true] at heq
  obtain ⟨hthousands, hhundreds, htens, hones⟩ := heq
  have := digitChar_inj (Nat.mod_lt _ (by omega)) (Nat.mod_lt _ (by omega)) hthousands
  have := digitChar_inj (Nat.mod_lt _ (by omega)) (Nat.mod_lt _ (by omega)) hhundreds
  have := digitChar_inj (Nat.mod_lt _ (by omega)) (Nat.mod_lt _ (by omega)) htens
  have := digitChar_inj (Nat.mod_lt _ (by omega)) (Nat.mod_lt _ (by omega)) hones
  omega

/-- One code unit is read off the front of a text. -/
theorem codeUnit_append_inj {first second : ℕ} (hfirst : first < 65536) (hsecond : second < 65536)
    {left right : List Char} (heq : codeUnit first ++ left = codeUnit second ++ right) :
    first = second ∧ left = right := by
  rw [codeUnit, codeUnit, List.cons_append, List.cons_append, List.cons_append,
    List.cons_append] at heq
  have htail := (List.cons.inj (List.cons.inj heq).2).2
  obtain ⟨hdigits, hrest⟩ := List.append_inj htail rfl
  exact ⟨hexDigits_inj hfirst hsecond hdigits, hrest⟩

/-- The character an escape letter stands for. -/
def letterChar : Char → Char
  | 'n' => '\n'
  | 'r' => '\r'
  | 't' => '\t'
  | 'b' => Char.ofNat 8
  | 'f' => Char.ofNat 12
  | letter => letter

theorem escapeLetter?_some {char letter : Char} (hletter : escapeLetter? char = some letter) :
    char = letterChar letter ∧ letter ≠ 'u' := by
  have hcode : ∀ code : ℕ, char.toNat = code → char = Char.ofNat code := by
    rintro code rfl
    exact (Char.ofNat_toNat char).symm
  unfold escapeLetter? at hletter
  split at hletter
  · cases hletter
    exact ⟨‹_›, by decide⟩
  split at hletter
  · cases hletter
    exact ⟨‹_›, by decide⟩
  split at hletter
  · cases hletter
    exact ⟨‹_›, by decide⟩
  split at hletter
  · cases hletter
    exact ⟨‹_›, by decide⟩
  split at hletter
  · cases hletter
    exact ⟨‹_›, by decide⟩
  split at hletter
  · cases hletter
    exact ⟨hcode 8 ‹_›, by decide⟩
  split at hletter
  · cases hletter
    exact ⟨hcode 12 ‹_›, by decide⟩
  · cases hletter

theorem escapeLetter?_none {char : Char} (hletter : escapeLetter? char = none) :
    char ≠ '\\' ∧ char ≠ '"' := by
  constructor
  · rintro rfl
    exact absurd hletter (by decide)
  · rintro rfl
    exact absurd hletter (by decide)

/-- A character of the first plane is no half of a surrogate pair. -/
theorem not_surrogate (char : Char) : char.toNat < 55296 ∨ 57343 < char.toNat := by
  rcases char.valid with hlow | ⟨hhigh, -⟩
  · exact Or.inl hlow
  · exact Or.inr hhigh

/-- The four ways a character is written. -/
inductive Escape (char : Char) : List Char → Prop where
  | letter (letter : Char) (hchar : char = letterChar letter) (hunit : letter ≠ 'u') :
      Escape char ['\\', letter]
  | plain (hslash : char ≠ '\\') (hquote : char ≠ '"') : Escape char [char]
  | unit (hlow : char.toNat < 65536) : Escape char (codeUnit char.toNat)
  | pair (hhigh : 65536 ≤ char.toNat) (hlast : char.toNat < 1114112) :
      Escape char (codeUnit (55296 + (char.toNat - 65536) / 1024) ++
        codeUnit (56320 + (char.toNat - 65536) % 1024))

theorem escape_escaped (char : Char) : Escape char (escaped char) := by
  unfold escaped
  cases hletter : escapeLetter? char with
  | some letter =>
      obtain ⟨hchar, hunit⟩ := escapeLetter?_some hletter
      exact .letter letter hchar hunit
  | none =>
      change Escape char (if _ then _ else _)
      split
      · obtain ⟨hslash, hquote⟩ := escapeLetter?_none hletter
        exact .plain hslash hquote
      split
      next hlow => exact .unit hlow
      next hhigh =>
        refine .pair (by omega) ?_
        rcases char.valid with hlast | ⟨-, hlast⟩
        · exact Nat.lt_trans hlast (by decide)
        · exact hlast

/-- One character is read off the front of a text. -/
theorem Escape.append_inj {first second : Char} {head other left right : List Char}
    (hfirst : Escape first head) (hsecond : Escape second other)
    (heq : head ++ left = other ++ right) : first = second ∧ left = right := by
  cases hfirst with
  | letter letter hchar hunit =>
      cases hsecond with
      | letter found hfound hother =>
          simp only [List.cons_append, List.nil_append, List.cons.injEq, true_and] at heq
          obtain ⟨rfl, hrest⟩ := heq
          exact ⟨hchar.trans hfound.symm, hrest⟩
      | plain hslash hquote =>
          simp only [List.cons_append, List.nil_append, List.cons.injEq] at heq
          exact absurd heq.1.symm hslash
      | unit hlow =>
          simp only [codeUnit, List.cons_append, List.nil_append, List.cons.injEq] at heq
          exact absurd heq.2.1 hunit
      | pair hhigh hlast =>
          simp only [codeUnit, List.cons_append, List.nil_append, List.cons.injEq] at heq
          exact absurd heq.2.1 hunit
  | plain hslash hquote =>
      cases hsecond with
      | plain hother hend =>
          simp only [List.cons_append, List.nil_append, List.cons.injEq] at heq
          exact heq
      | letter found hfound hother =>
          simp only [List.cons_append, List.nil_append, List.cons.injEq] at heq
          exact absurd heq.1 hslash
      | unit hlow =>
          simp only [codeUnit, List.cons_append, List.nil_append, List.cons.injEq] at heq
          exact absurd heq.1 hslash
      | pair hhigh hlast =>
          simp only [codeUnit, List.cons_append, List.nil_append, List.cons.injEq] at heq
          exact absurd heq.1 hslash
  | unit hlow =>
      cases hsecond with
      | unit hother =>
          obtain ⟨hunit, hrest⟩ := codeUnit_append_inj hlow hother heq
          exact ⟨Char.toNat_inj.mp hunit, hrest⟩
      | letter found hfound hother =>
          simp only [codeUnit, List.cons_append, List.nil_append, List.cons.injEq] at heq
          exact absurd heq.2.1.symm hother
      | plain hother hquote =>
          simp only [codeUnit, List.cons_append, List.nil_append, List.cons.injEq] at heq
          exact absurd heq.1.symm hother
      | pair hhigh hlast =>
          rw [List.append_assoc] at heq
          have hunit := (codeUnit_append_inj hlow (by omega) heq).1
          have := not_surrogate first
          omega
  | pair hhigh hlast =>
      cases hsecond with
      | pair hother hend =>
          rw [List.append_assoc, List.append_assoc] at heq
          obtain ⟨hupper, htail⟩ := codeUnit_append_inj (by omega) (by omega) heq
          obtain ⟨hlower, hrest⟩ := codeUnit_append_inj (by omega) (by omega) htail
          exact ⟨Char.toNat_inj.mp (by omega), hrest⟩
      | letter found hfound hother =>
          simp only [codeUnit, List.cons_append, List.nil_append, List.cons.injEq] at heq
          exact absurd heq.2.1.symm hother
      | plain hother hquote =>
          simp only [codeUnit, List.cons_append, List.nil_append, List.cons.injEq] at heq
          exact absurd heq.1.symm hother
      | unit hlow =>
          rw [List.append_assoc] at heq
          have hunit := (codeUnit_append_inj (by omega) hlow heq).1
          have := not_surrogate second
          omega

/-- No written character starts with a quote. -/
theorem Escape.quote_ne {char : Char} {head left right : List Char} (hescape : Escape char head) :
    head ++ left ≠ '"' :: right := by
  intro heq
  cases hescape with
  | letter letter hchar hunit => exact absurd (List.cons.inj heq).1 (by decide)
  | plain hslash hquote => exact hquote (List.cons.inj heq).1
  | unit hlow => exact absurd (List.cons.inj heq).1 (by decide)
  | pair hhigh hlast => exact absurd (List.cons.inj heq).1 (by decide)

/-- The body of a string ends at its closing quote. -/
theorem body_append_inj : ∀ {first second left right : List Char},
    first.flatMap escaped ++ '"' :: left = second.flatMap escaped ++ '"' :: right →
      first = second ∧ left = right
  | [], [], _, _, heq => ⟨rfl, (List.cons.inj heq).2⟩
  | [], char :: rest, _, _, heq => by
      rw [List.flatMap_cons, List.append_assoc] at heq
      exact absurd heq.symm (escape_escaped char).quote_ne
  | char :: rest, [], _, _, heq => by
      rw [List.flatMap_cons, List.append_assoc] at heq
      exact absurd heq (escape_escaped char).quote_ne
  | char :: rest, other :: others, _, _, heq => by
      rw [List.flatMap_cons, List.flatMap_cons, List.append_assoc, List.append_assoc] at heq
      obtain ⟨rfl, htail⟩ := (escape_escaped char).append_inj (escape_escaped other) heq
      obtain ⟨rfl, hrest⟩ := body_append_inj htail
      exact ⟨rfl, hrest⟩

/-- A string is read off the front of a text. -/
theorem jsonString_append_inj {first second left right : String}
    (heq : jsonString first ++ left = jsonString second ++ right) :
    first = second ∧ left = right := by
  have hchars := congrArg String.toList heq
  simp only [jsonString, String.toList_append, String.toList_ofList, List.cons_append,
    List.append_assoc, List.cons.injEq, true_and, List.nil_append] at hchars
  obtain ⟨hbody, hrest⟩ := body_append_inj hchars
  exact ⟨String.toList_injective hbody, String.toList_injective hrest⟩

/-- Different strings have different texts. -/
theorem jsonString_injective : Function.Injective jsonString := by
  intro first second heq
  exact (jsonString_append_inj (congrArg (· ++ "") heq)).1

/-- A string is never written as `null`. -/
theorem jsonOption_append_inj {first second : Option String} {left right : String}
    (heq : jsonOption first ++ left = jsonOption second ++ right) :
    first = second ∧ left = right := by
  have hnull (text left right : String) : jsonString text ++ left ≠ "null" ++ right := by
    intro heq
    have hchars := congrArg String.toList heq
    rw [String.toList_append, jsonString, String.toList_ofList, String.toList_append] at hchars
    exact absurd (List.cons.inj hchars).1 (by decide)
  cases first with
  | none =>
      cases second with
      | none => exact ⟨rfl, (String.append_right_inj _).mp heq⟩
      | some text => exact absurd heq.symm (hnull text right left)
  | some text =>
      cases second with
      | none => exact absurd heq (hnull text left right)
      | some other =>
          obtain ⟨htext, hrest⟩ := jsonString_append_inj heq
          exact ⟨congrArg some htext, hrest⟩

/-- Items that are read off the front of a text one by one are read as a list. -/
theorem intercalate_append_inj {α β : Type} {key : α → β} {write : α → String}
    (hwrite : ∀ {item other : α} {left right : String}, key item = key other →
      write item ++ left = write other ++ right → item = other ∧ left = right)
    {items others : List α} {left right : String} (hkeys : items.map key = others.map key)
    (heq : ",".intercalate (items.map write) ++ left =
      ",".intercalate (others.map write) ++ right) : items = others ∧ left = right := by
  induction items generalizing others with
  | nil =>
      rw [List.map_eq_nil_iff.mp hkeys.symm] at heq ⊢
      exact ⟨rfl, (String.append_right_inj _).mp heq⟩
  | cons item rest ih =>
      obtain ⟨other, remaining, rfl, hkey, hrest⟩ := List.map_eq_cons_iff.mp hkeys.symm
      cases rest with
      | nil =>
          rw [List.map_eq_nil_iff.mp hrest] at heq ⊢
          simp only [List.map_cons, List.map_nil, String.intercalate_singleton] at heq
          obtain ⟨rfl, htail⟩ := hwrite hkey.symm heq
          exact ⟨rfl, htail⟩
      | cons next following =>
          obtain ⟨next', following', rfl, -, -⟩ := List.map_eq_cons_iff.mp hrest
          simp only [List.map_cons, String.intercalate_cons_cons, String.append_assoc] at heq
          obtain ⟨rfl, htail⟩ := hwrite hkey.symm heq
          rw [String.append_right_inj, ← List.map_cons, ← List.map_cons] at htail
          obtain ⟨hitems, hsame⟩ := ih hrest.symm htail
          exact ⟨congrArg (item :: ·) hitems, hsame⟩

/-- Objects of the same keys have different texts. -/
theorem jsonObject_inj {members others : List (String × Option String)}
    (hkeys : members.map Prod.fst = others.map Prod.fst)
    (heq : jsonObject members = jsonObject others) : members = others := by
  unfold jsonObject at heq
  rw [String.append_assoc, String.append_assoc, String.append_right_inj] at heq
  refine (intercalate_append_inj (fun {member other} _ _ hkey htext => ?_) hkeys heq).1
  simp only [hkey, String.append_assoc, String.append_right_inj] at htext
  obtain ⟨hvalue, htail⟩ := jsonOption_append_inj htext
  exact ⟨Prod.ext hkey hvalue, htail⟩

end MatchVet.Foundation.JsonText
