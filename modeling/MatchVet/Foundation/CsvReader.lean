import Mathlib.Data.List.Perm.Subperm
import MatchVet.Foundation.Dictionary

/-!
# Reading delimited text

The strict reader of delimited text takes characters and ends of lines one at a
time.  A dictionary row pairs the names of the header with the fields of a
record: a repeated name keeps its first position and its last field, so the
positions of later names move.
-/

namespace MatchVet.Foundation.CsvReader

open MatchVet.Foundation.Dictionary
open MatchVet.Foundation.Dictionary.PyDict

/-! ## Records -/

inductive Phase where
  | startRecord
  | startField
  | inField
  | inQuoted
  | quoteInQuoted
  | eatNewline
  deriving DecidableEq, Repr

/-- The record that is being read: the open field and the fields before it, both reversed. -/
structure Scan where
  phase : Phase
  field : List Char
  fields : List String
  deriving DecidableEq, Repr

def Scan.start : Scan := ⟨.startRecord, [], []⟩

/-- `csv.field_size_limit()`. -/
def fieldLimit : ℕ := 131072

def Scan.addChar (scan : Scan) (char : Char) (phase : Phase) : Option Scan :=
  if scan.field.length < fieldLimit then some { scan with phase, field := char :: scan.field }
  else none

def Scan.saveField (scan : Scan) (phase : Phase) : Scan :=
  ⟨phase, [], String.ofList scan.field.reverse :: scan.fields⟩

def isNewline (char : Char) : Bool := char = '\n' || char = '\r'

/-- A character at the start of a field; `none` is the end of a line. -/
def Scan.startField (delimiter : Char) (scan : Scan) : Option Char → Option Scan
  | none => some (scan.saveField .startRecord)
  | some char =>
      if isNewline char then some (scan.saveField .eatNewline)
      else if char = '"' then some { scan with phase := .inQuoted }
      else if char = delimiter then some (scan.saveField .startField)
      else scan.addChar char .inField

/-- One character of the strict reader. -/
def Scan.step (delimiter : Char) (scan : Scan) (event : Option Char) : Option Scan :=
  match scan.phase, event with
  | .startRecord, none => some scan
  | .startRecord, some char =>
      if isNewline char then some { scan with phase := .eatNewline }
      else scan.startField delimiter event
  | .startField, _ => scan.startField delimiter event
  | .inField, none => some (scan.saveField .startRecord)
  | .inField, some char =>
      if isNewline char then some (scan.saveField .eatNewline)
      else if char = delimiter then some (scan.saveField .startField)
      else scan.addChar char .inField
  | .inQuoted, none => some scan
  | .inQuoted, some char =>
      if char = '"' then some { scan with phase := .quoteInQuoted }
      else scan.addChar char .inQuoted
  | .quoteInQuoted, none => some (scan.saveField .startRecord)
  | .quoteInQuoted, some char =>
      if char = '"' then scan.addChar char .inQuoted
      else if char = delimiter then some (scan.saveField .startField)
      else if isNewline char then some (scan.saveField .eatNewline)
      else none
  | .eatNewline, none => some { scan with phase := .startRecord }
  | .eatNewline, some char => if isNewline char then some scan else none

/-- The lines of a text, each with its line feed. -/
def lines : List Char → List (List Char)
  | [] => []
  | char :: rest =>
      if char = '\n' then [char] :: lines rest
      else
        match lines rest with
        | [] => [[char]]
        | line :: more => (char :: line) :: more

/-- The records of some lines, and whether the reader failed after them. -/
def recordsFrom (delimiter : Char) : Scan → List (List Char) → List (List String) × Bool
  | scan, [] => ([], scan.phase ≠ .startRecord)
  | scan, line :: rest =>
      match (line.map some ++ [none]).foldlM (Scan.step delimiter) scan with
      | none => ([], true)
      | some next =>
          if next.phase = .startRecord then
            let (records, failed) := recordsFrom delimiter .start rest
            (next.fields.reverse :: records, failed)
          else recordsFrom delimiter next rest

def records (delimiter : Char) (text : String) : List (List String) × Bool :=
  recordsFrom delimiter .start (lines text.toList)

/-! ## Dictionary rows -/

/-- A value of a dictionary row; the fields beyond the header are one list. -/
inductive Cell where
  | missing
  | text (content : String)
  | rest (contents : List String)
  deriving DecidableEq, Repr

/-- The field under a column. -/
def cellAt (row : List String) (column : ℕ) : Cell := row[column]?.elim .missing .text

/-- `dict(zip(fieldnames, row))` with the further names mapped to nothing. -/
def dictRow (names row : List String) : PyDict Cell :=
  (names.drop row.length).foldl (fun dict name => dict.insert name .missing)
    (ofPairs (names.zip (row.map .text)))

/-- The values of a dictionary row, in order. -/
def rowValues (names row : List String) : List Cell :=
  (dictRow names row).values ++
    if names.length < row.length then [.rest (row.drop names.length)] else []

/-- A name and the field under it, for every column. -/
def columns (names row : List String) : List (String × Cell) :=
  names.zipIdx.map fun name => (name.1, cellAt row name.2)

theorem zip_append_drop (names row : List String) :
    names.zip (row.map Cell.text) ++ (names.drop row.length).map (fun name => (name, .missing)) =
      columns names row := by
  have hshift : ∀ (names : List String) (row : List String) (start : ℕ) (whole : List String),
      (∀ index, row[index]? = whole[start + index]?) →
      names.zip (row.map Cell.text) ++ (names.drop row.length).map (fun name => (name, .missing)) =
        (names.zipIdx start).map fun name => (name.1, cellAt whole name.2) := by
    intro names
    induction names with
    | nil => intro row start whole _; simp
    | cons name names ih =>
        intro row start whole hrow
        have hhead := hrow 0
        rw [Nat.add_zero] at hhead
        cases row with
        | nil =>
            have hrest := ih [] (start + 1) whole fun index => by
              rw [Nat.add_assoc, Nat.add_comm 1, ← hrow (index + 1)]
              rfl
            rw [List.zipIdx_cons, List.map_cons, ← hrest]
            simp [cellAt, ← hhead]
        | cons field row =>
            have hrest := ih row (start + 1) whole fun index => by
              rw [Nat.add_assoc, Nat.add_comm 1, ← hrow (index + 1)]
              rfl
            rw [List.zipIdx_cons, List.map_cons (f := fun name : String × ℕ => _), ← hrest]
            simp [cellAt, ← hhead]
  exact hshift names row 0 row fun index => by rw [Nat.zero_add]

theorem dictRow_eq_ofPairs (names row : List String) :
    dictRow names row = ofPairs (columns names row) := by
  rw [← zip_append_drop, ofPairs, List.foldl_append, List.foldl_map]
  rfl

theorem columns_keys (names row : List String) : (columns names row).map Prod.fst = names := by
  rw [columns, List.map_map]
  exact List.zipIdx_map_fst 0 names

/-! ## Positions of values -/

theorem insertEntry_getElem? {key name : String} {value cell : Cell}
    {entries : List (String × Cell)} {position : ℕ} (hne : key ≠ name)
    (hentry : entries[position]? = some (name, cell)) :
    (insertEntry key value entries)[position]? = some (name, cell) := by
  induction entries generalizing position with
  | nil => cases hentry
  | cons entry rest ih =>
      by_cases hkey : entry.1 = key
      · rw [insertEntry, if_pos hkey]
        cases position with
        | zero =>
            obtain rfl := Option.some.inj hentry
            exact absurd hkey.symm hne
        | succ position => exact hentry
      · rw [insertEntry, if_neg hkey]
        cases position with
        | zero => exact hentry
        | succ position => exact ih hentry

/-- Other names leave the position and the value of a name. -/
theorem foldl_insert_getElem? {pairs : List (String × Cell)} {dict : PyDict Cell} {name : String}
    {cell : Cell} {position : ℕ} (hpairs : name ∉ pairs.map Prod.fst)
    (hentry : dict.entries[position]? = some (name, cell)) :
    (pairs.foldl (fun dict pair => dict.insert pair.1 pair.2) dict).entries[position]? =
      some (name, cell) := by
  induction pairs generalizing dict with
  | nil => exact hentry
  | cons pair rest ih =>
      rw [List.map_cons, List.mem_cons, not_or] at hpairs
      exact ih hpairs.2 (insertEntry_getElem? (Ne.symm hpairs.1) hentry)

/-- The keys of a comprehension are no more than its pairs, and as many only without repeats. -/
theorem length_ofPairs_lt {pairs : List (String × Cell)} (hrepeat : ¬(pairs.map Prod.fst).Nodup) :
    (ofPairs pairs).entries.length < pairs.length := by
  have hsub : (ofPairs pairs).keys.Subperm (pairs.map Prod.fst) :=
    List.subperm_of_subset (ofPairs pairs).nodup fun _ => mem_keys_ofPairs.mp
  have hlength := hsub.length_le
  rw [keys, List.length_map, List.length_map] at hlength
  refine lt_of_le_of_ne hlength fun heq => hrepeat ?_
  have hperm := hsub.perm_of_length_le (by rw [keys, List.length_map, List.length_map, heq])
  exact hperm.nodup_iff.mp (ofPairs pairs).nodup

/-- Where the comprehension stands once a fresh name has been inserted. -/
theorem ofPairs_split {pairs : List (String × Cell)} {column : ℕ} {name : String} {cell : Cell}
    (hpair : pairs[column]? = some (name, cell))
    (hbefore : name ∉ (pairs.take column).map Prod.fst)
    (hafter : name ∉ (pairs.drop (column + 1)).map Prod.fst) :
    (ofPairs pairs).entries[(ofPairs (pairs.take column)).entries.length]? = some (name, cell) := by
  obtain ⟨hlt, hget⟩ := List.getElem?_eq_some_iff.mp hpair
  have hsplit : pairs = pairs.take column ++ (name, cell) :: pairs.drop (column + 1) := by
    rw [← hget, List.getElem_cons_drop, List.take_append_drop]
  have hfresh : name ∉ (ofPairs (pairs.take column)).entries.map Prod.fst := by
    change name ∉ (ofPairs (pairs.take column)).keys
    rw [mem_keys_ofPairs]
    exact hbefore
  have hinserted : ((ofPairs (pairs.take column)).insert name cell).entries =
      (ofPairs (pairs.take column)).entries ++ [(name, cell)] :=
    insertEntry_of_not_mem cell hfresh
  have hfold : ofPairs pairs = (pairs.drop (column + 1)).foldl
      (fun dict pair => dict.insert pair.1 pair.2)
      ((ofPairs (pairs.take column)).insert name cell) := by
    conv_lhs => rw [hsplit, ofPairs, List.foldl_append, List.foldl_cons]
    rfl
  rw [hfold]
  refine foldl_insert_getElem? hafter ?_
  rw [hinserted, List.getElem?_append_right le_rfl, Nat.sub_self]
  rfl

section
variable {names : List String} {name : String} {column : ℕ}

/-- A column whose name stands nowhere else. -/
structure Once (names : List String) (name : String) (column : ℕ) : Prop where
  at_column : names[column]? = some name
  before : name ∉ names.take column
  after : name ∉ names.drop (column + 1)

theorem Once.lt (honce : Once names name column) : column < names.length :=
  (List.getElem?_eq_some_iff.mp honce.at_column).1

theorem Once.entry (honce : Once names name column) (row : List String) :
    (ofPairs (columns names row)).entries[
      (ofPairs ((columns names row).take column)).entries.length]? =
        some (name, cellAt row column) := by
  refine ofPairs_split ?_ ?_ ?_
  · rw [columns, List.getElem?_map, List.getElem?_zipIdx, honce.at_column]
    simp
  · rw [List.map_take, columns_keys]
    exact honce.before
  · rw [List.map_drop, columns_keys]
    exact honce.after

theorem values_getElem? (names row : List String) (position : ℕ) :
    (dictRow names row).values[position]? =
      ((ofPairs (columns names row)).entries[position]?).map Prod.snd := by
  rw [dictRow_eq_ofPairs, values, List.getElem?_map]

/-- Without a repeat to its left, a column keeps its position. -/
theorem rowValues_of_nodup (honce : Once names name column) (hleft : (names.take column).Nodup)
    (row : List String) : (rowValues names row)[column]? = some (cellAt row column) := by
  have hkeys : (((columns names row).take column).map Prod.fst).Nodup := by
    rw [List.map_take, columns_keys]
    exact hleft
  have hlength : (ofPairs ((columns names row).take column)).entries.length = column := by
    rw [entries_ofPairs hkeys, List.length_take, columns, List.length_map, List.length_zipIdx]
    exact min_eq_left honce.lt.le
  have hentry := honce.entry row
  rw [hlength] at hentry
  have hvalue : (dictRow names row).values[column]? = some (cellAt row column) := by
    rw [values_getElem?, hentry]
    rfl
  exact List.getElem?_append_left (List.getElem?_eq_some_iff.mp hvalue).1 |>.trans hvalue

/-- A record that tells one column from the others. -/
def marked (names : List String) (name : String) : List String :=
  names.map fun other => if other = name then "7" else "8"

/-- With a repeat to its left, the marked record has another value at the column. -/
theorem rowValues_of_repeat (honce : Once names name column)
    (hleft : ¬(names.take column).Nodup) :
    (rowValues names (marked names name))[column]? ≠ some (.text "7") := by
  intro hvalue
  have hshort : ¬names.length < (marked names name).length := by simp [marked]
  rw [rowValues, if_neg hshort, List.append_nil, values_getElem?] at hvalue
  obtain ⟨entry, hentry, hmark⟩ := Option.map_eq_some_iff.mp hvalue
  have hmem : entry ∈ columns names (marked names name) :=
    mem_of_mem_ofPairs (List.mem_of_getElem? hentry)
  obtain ⟨⟨other, index⟩, hindex, rfl⟩ := List.mem_map.mp hmem
  have hother := List.mem_zipIdx_iff_getElem?.mp hindex
  have hname : other = name := by
    dsimp only at hmark hother
    rw [cellAt, marked, List.getElem?_map, hother] at hmark
    by_contra hne
    rw [Option.map_some, if_neg hne] at hmark
    exact absurd (Cell.text.inj hmark) (by decide)
  have hrepeat : ¬(((columns names (marked names name)).take column).map Prod.fst).Nodup := by
    rw [List.map_take, columns_keys]
    exact hleft
  have hlength := length_ofPairs_lt hrepeat
  rw [List.length_take] at hlength
  have hat := honce.entry (marked names name)
  have hsame : (ofPairs ((columns names (marked names name)).take column)).entries.length =
      column := by
    have hkeys := (ofPairs (columns names (marked names name))).nodup
    refine (List.getElem?_inj ?_ hkeys).mp ?_
    · rw [List.length_map]
      exact (List.getElem?_eq_some_iff.mp hat).1
    · rw [List.getElem?_map, List.getElem?_map, hat, hentry, ← hname]
      rfl
  omega

end

end MatchVet.Foundation.CsvReader
