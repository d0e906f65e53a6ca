import Mathlib.Data.List.Infix
import Mathlib.Tactic.Common

/-!
# Passes over a table that writes each key once

A write keeps the row under its key, or appends one.  The row that an item asks for
depends on a flag that the rows raise for it, and a new row raises no flag but that of
its own item.  A second pass over the same items then writes what the flags of the
first pass ask for, and from there a pass changes nothing.
-/

namespace MatchVet.Foundation.WriteOnce

variable {ρ ι κ ε : Type}

/-- What items write: the row each asks for by its flag, and what forbids a new row. -/
structure Table (ρ ι κ ε : Type) where
  key : ρ → κ
  raises : ι → ρ → Bool
  make : ι → Except ε (Bool → ρ)
  blocked : List ρ → ρ → Option ε

namespace Table

variable [DecidableEq κ] {table : Table ρ ι κ ε} {rows later next base : List ρ} {row : ρ}
  {item : ι} {items : List ι} {entries : List ρ}

/-- Whether some row raises the flag of an item. -/
def raised (table : Table ρ ι κ ε) (item : ι) (rows : List ρ) : Bool :=
  rows.any (table.raises item)

/-- The row under a key. -/
def find (table : Table ρ ι κ ε) (rows : List ρ) (name : κ) : Option ρ :=
  rows.find? (table.key · = name)

/-- Keep the row under the key, or append one. -/
def put (table : Table ρ ι κ ε) (rows : List ρ) (row : ρ) : Except ε (List ρ × ρ) :=
  match table.find rows (table.key row) with
  | some existing => .ok (rows, existing)
  | none =>
      match table.blocked rows row with
      | some fault => .error fault
      | none => .ok (rows ++ [row], row)

/-- Write the row that an item asks for. -/
def write (table : Table ρ ι κ ε) (rows : List ρ) (item : ι) : Except ε (List ρ × ρ) :=
  match table.make item with
  | .error fault => .error fault
  | .ok make => table.put rows (make (table.raised item rows))

/-- Write the rows of some items; a fault leaves what was written before it. -/
def pass (table : Table ρ ι κ ε) : List ρ → List ι → List ρ × Except ε (List ρ)
  | rows, [] => (rows, .ok [])
  | rows, item :: rest =>
      match table.write rows item with
      | .error fault => (rows, .error fault)
      | .ok (next, row) =>
          ((table.pass next rest).1, (table.pass next rest).2.map (row :: ·))

/-! ## One write -/

theorem find_of_grown {name : κ} (hkept : rows <+: later)
    (hfind : table.find rows name = some row) : table.find later name = some row := by
  obtain ⟨added, rfl⟩ := hkept
  unfold find at hfind ⊢
  rw [List.find?_append, hfind, Option.some_or]

omit [DecidableEq κ] in
theorem raised_of_grown (hkept : rows <+: later) (hraised : table.raised item rows = true) :
    table.raised item later = true := by
  obtain ⟨added, rfl⟩ := hkept
  unfold raised at hraised ⊢
  rw [List.any_append, hraised, Bool.true_or]

theorem put_of_find {existing : ρ} (hfind : table.find rows (table.key row) = some existing) :
    table.put rows row = .ok (rows, existing) := by
  unfold put
  rw [hfind]

theorem put_of_blocked {fault : ε} (hfind : table.find rows (table.key row) = none)
    (hblocked : table.blocked rows row = some fault) : table.put rows row = .error fault := by
  unfold put
  rw [hfind]
  dsimp only
  rw [hblocked]

theorem put_of_free (hfind : table.find rows (table.key row) = none)
    (hblocked : table.blocked rows row = none) : table.put rows row = .ok (rows ++ [row], row) := by
  unfold put
  rw [hfind]
  dsimp only
  rw [hblocked]

theorem write_of_fault {fault : ε} (hmake : table.make item = .error fault) :
    table.write rows item = .error fault := by
  unfold write
  rw [hmake]

theorem write_of_make {make : Bool → ρ} (hmake : table.make item = .ok make) :
    table.write rows item = table.put rows (make (table.raised item rows)) := by
  unfold write
  rw [hmake]

theorem write_cases (hwrite : table.write rows item = .ok (next, row)) :
    ∃ make, table.make item = .ok make ∧
      ((next = rows ∧ table.find rows (table.key (make (table.raised item rows))) = some row) ∨
      (table.find rows (table.key (make (table.raised item rows))) = none ∧
        next = rows ++ [make (table.raised item rows)] ∧
        row = make (table.raised item rows))) := by
  cases hmake : table.make item with
  | error fault =>
      unfold write at hwrite
      rw [hmake] at hwrite
      cases hwrite
  | ok make =>
      refine ⟨make, rfl, ?_⟩
      rw [write_of_make hmake] at hwrite
      cases hfind : table.find rows (table.key (make (table.raised item rows))) with
      | some existing =>
          rw [put_of_find hfind] at hwrite
          cases hwrite
          exact Or.inl ⟨rfl, rfl⟩
      | none =>
          cases hblocked : table.blocked rows (make (table.raised item rows)) with
          | some fault =>
              rw [put_of_blocked hfind hblocked] at hwrite
              cases hwrite
          | none =>
              rw [put_of_free hfind hblocked] at hwrite
              cases hwrite
              exact Or.inr ⟨rfl, rfl, rfl⟩

/-- After a write the row it returned is found under the key it was asked for. -/
theorem write_find (hwrite : table.write rows item = .ok (next, row)) :
    ∃ make, table.make item = .ok make ∧ rows <+: next ∧
      table.find next (table.key (make (table.raised item rows))) = some row := by
  obtain ⟨make, hmake, ⟨rfl, hfind⟩ | ⟨hnone, rfl, rfl⟩⟩ := write_cases hwrite
  · exact ⟨make, hmake, List.prefix_rfl, hfind⟩
  · refine ⟨make, hmake, List.prefix_append _ _, ?_⟩
    unfold find at hnone ⊢
    rw [List.find?_append, hnone, Option.none_or, List.find?_singleton, decide_eq_true rfl]
    rfl

theorem write_of_find {make : Bool → ρ} (hmake : table.make item = .ok make)
    (hfind : table.find rows (table.key (make (table.raised item rows))) = some row) :
    table.write rows item = .ok (rows, row) := by
  rw [write_of_make hmake, put_of_find hfind]

/-! ## Passes -/

theorem pass_cons_ok {rest : List ι}
    (hpass : table.pass rows (item :: rest) = (later, .ok entries)) :
    ∃ next row others, table.write rows item = .ok (next, row) ∧
      table.pass next rest = (later, .ok others) ∧ entries = row :: others := by
  rw [pass] at hpass
  cases hwrite : table.write rows item with
  | error fault =>
      rw [hwrite] at hpass
      cases hpass
  | ok result =>
      obtain ⟨next, row⟩ := result
      rw [hwrite] at hpass
      dsimp only at hpass
      obtain ⟨hlater, hentries⟩ := Prod.mk.inj hpass
      cases hrest : (table.pass next rest).2 with
      | error fault =>
          rw [hrest] at hentries
          cases hentries
      | ok others =>
          rw [hrest] at hentries
          exact ⟨next, row, others, rfl, Prod.ext hlater hrest, (Except.ok.inj hentries).symm⟩

theorem pass_cons_of_write {rest : List ι} {others : List ρ}
    (hwrite : table.write rows item = .ok (next, row))
    (hrest : table.pass next rest = (later, .ok others)) :
    table.pass rows (item :: rest) = (later, .ok (row :: others)) := by
  rw [pass, hwrite]
  dsimp only
  rw [hrest]
  rfl

/-- A pass over two lists is a pass over the second from where the first ended. -/
theorem pass_append_ok {others : List ι} {middle : List ρ}
    (hpass : table.pass rows items = (middle, .ok entries)) :
    table.pass rows (items ++ others) =
      ((table.pass middle others).1, (table.pass middle others).2.map (entries ++ ·)) := by
  induction items generalizing rows entries with
  | nil =>
      obtain ⟨rfl, hentries⟩ := Prod.mk.inj hpass
      obtain rfl := Except.ok.inj hentries
      rw [List.nil_append]
      refine Prod.ext rfl ?_
      cases (table.pass rows others).2 with
      | error fault => rfl
      | ok written => rfl
  | cons item rest ih =>
      obtain ⟨next, row, after, hwrite, hrest, rfl⟩ := pass_cons_ok hpass
      rw [List.cons_append, pass, hwrite]
      dsimp only
      rw [ih hrest]
      refine Prod.ext rfl ?_
      cases (table.pass middle others).2 with
      | error fault => rfl
      | ok written => rfl

theorem pass_append_fault {others : List ι} {middle : List ρ} {fault : ε}
    (hpass : table.pass rows items = (middle, .error fault)) :
    table.pass rows (items ++ others) = (middle, .error fault) := by
  induction items generalizing rows with
  | nil => cases (Prod.mk.inj hpass).2
  | cons item rest ih =>
      rw [List.cons_append, pass]
      rw [pass] at hpass
      cases hwrite : table.write rows item with
      | error stopped =>
          rw [hwrite] at hpass
          exact hpass
      | ok result =>
          obtain ⟨next, row⟩ := result
          rw [hwrite] at hpass
          dsimp only at hpass ⊢
          obtain ⟨hmiddle, hfault⟩ := Prod.mk.inj hpass
          cases hrest : (table.pass next rest).2 with
          | ok entries =>
              rw [hrest] at hfault
              cases hfault
          | error stopped =>
              rw [hrest] at hfault
              obtain rfl := Except.error.inj hfault
              rw [ih (Prod.ext hmiddle hrest)]
              rfl

theorem pass_grows (hpass : table.pass rows items = (later, .ok entries)) : rows <+: later := by
  induction items generalizing rows entries with
  | nil =>
      obtain ⟨rfl, -⟩ := Prod.mk.inj hpass
      exact List.prefix_rfl
  | cons item rest ih =>
      obtain ⟨next, row, others, hwrite, hrest, -⟩ := pass_cons_ok hpass
      obtain ⟨-, -, hkept, -⟩ := write_find hwrite
      exact hkept.trans (ih hrest)

/-- Every item has a row under the key that some earlier flag asked for. -/
theorem pass_found (hpass : table.pass rows items = (later, .ok entries)) (hitem : item ∈ items) :
    ∃ make middle row, table.make item = .ok make ∧ middle <+: later ∧
      table.find later (table.key (make (table.raised item middle))) = some row := by
  induction items generalizing rows entries with
  | nil => cases hitem
  | cons first rest ih =>
      obtain ⟨next, row, others, hwrite, hrest, -⟩ := pass_cons_ok hpass
      rcases List.mem_cons.mp hitem with rfl | hin
      · obtain ⟨make, hmake, hkept, hfind⟩ := write_find hwrite
        exact ⟨make, rows, row, hmake, hkept.trans (pass_grows hrest),
          find_of_grown (pass_grows hrest) hfind⟩
      · exact ih hrest hin

/-- A table that grew without raising a flag. -/
structure Steady (table : Table ρ ι κ ε) (rows later : List ρ) : Prop where
  grown : rows <+: later
  flags : ∀ item, table.raised item later = table.raised item rows

omit [DecidableEq κ] in
theorem Steady.refl (rows : List ρ) : table.Steady rows rows := ⟨List.prefix_rfl, fun _ => rfl⟩

omit [DecidableEq κ] in
theorem Steady.trans (hfirst : table.Steady rows next) (hsecond : table.Steady next later) :
    table.Steady rows later :=
  ⟨hfirst.grown.trans hsecond.grown, fun item => (hsecond.flags item).trans (hfirst.flags item)⟩

/-- A new row raises no flag but that of its own item. -/
def Own (table : Table ρ ι κ ε) : Prop :=
  ∀ item make flag other, table.make item = .ok make →
    table.raises other (make flag) = true → table.raises other = table.raises item

/-- A write is steady where the row that an unraised flag asks for is found. -/
theorem write_steady (hown : table.Own) (hbase : table.Steady base rows)
    (hstored : ∀ make, table.make item = .ok make → table.raised item base = false →
      ∃ row, table.find base (table.key (make false)) = some row)
    (hwrite : table.write rows item = .ok (next, row)) : table.Steady rows next := by
  obtain ⟨make, hmake, ⟨rfl, -⟩ | ⟨hnone, rfl, rfl⟩⟩ := write_cases hwrite
  · exact Steady.refl _
  · refine ⟨List.prefix_append _ _, fun other => ?_⟩
    have hraised : table.raised item rows = true := by
      by_contra hunraised
      have hflag := Bool.eq_false_iff.mpr hunraised
      obtain ⟨stored, hfind⟩ := hstored make hmake ((hbase.flags item).symm.trans hflag)
      rw [hflag, find_of_grown hbase.grown hfind] at hnone
      cases hnone
    have hsplit : table.raised other (rows ++ [make (table.raised item rows)]) =
        (table.raised other rows || table.raises other (make (table.raised item rows))) := by
      rw [raised, List.any_append, List.any_cons, List.any_nil, Bool.or_false]
      rfl
    rw [hsplit]
    cases hraises : table.raises other (make (table.raised item rows)) with
    | false => rw [Bool.or_false]
    | true =>
        have hsame : table.raised other rows = table.raised item rows := by
          rw [raised, raised, hown item make _ other hmake hraises]
        rw [hsame, hraised, Bool.true_or]

/-- A pass that is steady is given back by every steady growth of where it ended. -/
theorem pass_again (hown : table.Own) (hbase : table.Steady base rows)
    (hstored : ∀ item ∈ items, ∀ make, table.make item = .ok make →
      table.raised item base = false → ∃ row, table.find base (table.key (make false)) = some row)
    (hpass : table.pass rows items = (next, .ok entries)) :
    table.Steady rows next ∧
      ∀ later, table.Steady next later → table.pass later items = (later, .ok entries) := by
  induction items generalizing rows entries with
  | nil =>
      obtain ⟨rfl, hentries⟩ := Prod.mk.inj hpass
      obtain rfl := Except.ok.inj hentries
      exact ⟨Steady.refl _, fun later _ => rfl⟩
  | cons item rest ih =>
      obtain ⟨middle, row, others, hwrite, hrest, rfl⟩ := pass_cons_ok hpass
      have hsteady := write_steady hown hbase (hstored item List.mem_cons_self) hwrite
      obtain ⟨htail, hagain⟩ := ih (hbase.trans hsteady)
        (fun other hother => hstored other (List.mem_cons_of_mem item hother)) hrest
      refine ⟨hsteady.trans htail, fun later hlater => ?_⟩
      obtain ⟨make, hmake, -, hfind⟩ := write_find hwrite
      have hgrown := htail.trans hlater
      have hflag : table.raised item later = table.raised item rows :=
        (hgrown.flags item).trans (hsteady.flags item)
      refine pass_cons_of_write (write_of_find hmake ?_) (hagain later hlater)
      rw [hflag]
      exact find_of_grown hgrown.grown hfind

/-- After two passes over the same items, a pass changes nothing and returns what the
second returned. -/
theorem pass_settles {first second : List ρ} {again : List ρ} (hown : table.Own)
    (hfirst : table.pass rows items = (first, .ok entries))
    (hsecond : table.pass first items = (second, .ok again)) :
    table.pass second items = (second, .ok again) := by
  refine (pass_again hown (Steady.refl first) (fun item hitem make hmake hunraised => ?_)
    hsecond).2 second (Steady.refl second)
  obtain ⟨made, middle, row, hmade, hmiddle, hfind⟩ := pass_found hfirst hitem
  obtain rfl := Except.ok.inj (hmade.symm.trans hmake)
  have hflag : table.raised item middle = false := by
    cases hraised : table.raised item middle with
    | false => rfl
    | true =>
        have hlater := raised_of_grown hmiddle hraised
        rw [hunraised] at hlater
        cases hlater
  exact ⟨row, hflag ▸ hfind⟩

end Table

end MatchVet.Foundation.WriteOnce
