import Mathlib.Algebra.BigOperators.Group.Finset.Piecewise
import Mathlib.Algebra.BigOperators.Group.List.Lemmas
import Mathlib.Algebra.Order.BigOperators.Group.List
import Mathlib.Algebra.Order.Ring.Defs

/-!
# Weighted surfaces

A surface is a list of rows of weights, read at pairs of indices.  A
classification of the pairs splits the total mass of a surface, and one pass
that adds each weight to the bucket of its class computes the mass of every
class.
-/

namespace MatchVet.Foundation.Surface

universe u v w

variable {M : Type w} {L : Type u} {E : Type v}

/-- One weight and the pair of indices it stands at. -/
structure Cell (M : Type w) where
  row : ℕ
  column : ℕ
  weight : M

/-- The cells of a surface in reading order. -/
def cells (surface : List (List M)) : List (Cell M) :=
  surface.zipIdx.flatMap fun row =>
    row.1.zipIdx.map fun entry => ⟨row.2, entry.2, entry.1⟩

theorem weight_mem_of_cell {surface : List (List M)} {cell : Cell M}
    (hcell : cell ∈ cells surface) :
    ∃ row ∈ surface, cell.weight ∈ row := by
  obtain ⟨row, hrow, hentry⟩ := List.mem_flatMap.mp hcell
  obtain ⟨entry, hmem, rfl⟩ := List.mem_map.mp hentry
  exact ⟨row.1, List.fst_mem_of_mem_zipIdx hrow, List.fst_mem_of_mem_zipIdx hmem⟩

/-! ## Masses of classes -/

section Mass

variable [AddCommMonoid M]

/-- The whole mass of some cells. -/
def mass (entries : List (Cell M)) : M :=
  (entries.map Cell.weight).sum

/-- The mass of the cells of one class. -/
def classMass [DecidableEq L] (label : ℕ → ℕ → L) (entries : List (Cell M)) (value : L) : M :=
  mass (entries.filter fun cell => label cell.row cell.column = value)

@[simp]
theorem mass_nil : mass ([] : List (Cell M)) = 0 := rfl

@[simp]
theorem mass_cons (cell : Cell M) (entries : List (Cell M)) :
    mass (cell :: entries) = cell.weight + mass entries := by
  simp [mass]

@[simp]
theorem classMass_nil [DecidableEq L] (label : ℕ → ℕ → L) (value : L) :
    classMass label ([] : List (Cell M)) value = 0 := rfl

theorem classMass_cons [DecidableEq L] (label : ℕ → ℕ → L) (cell : Cell M)
    (entries : List (Cell M)) (value : L) :
    classMass label (cell :: entries) value =
      (if label cell.row cell.column = value then cell.weight else 0) +
        classMass label entries value := by
  unfold classMass
  by_cases hlabel : label cell.row cell.column = value
  · simp [hlabel]
  · simp [hlabel]

/-- The mass of a surface is the sum of its rows. -/
theorem mass_cells (surface : List (List M)) :
    mass (cells surface) = (surface.map List.sum).sum := by
  have hrow : ∀ (row : List M) (index start : ℕ),
      ((row.zipIdx start).map fun entry => (⟨index, entry.2, entry.1⟩ : Cell M).weight) = row := by
    intro row index start
    exact List.zipIdx_map_fst start row
  have hrows : ∀ (rows : List (List M)) (start : ℕ),
      mass ((rows.zipIdx start).flatMap fun row =>
        row.1.zipIdx.map fun entry => (⟨row.2, entry.2, entry.1⟩ : Cell M)) =
        (rows.map List.sum).sum := by
    intro rows
    induction rows with
    | nil => exact fun _ => rfl
    | cons row rest ih =>
        intro start
        have hrest := ih (start + 1)
        unfold mass at hrest ⊢
        rw [List.zipIdx_cons, List.flatMap_cons, List.map_append, List.sum_append, hrest,
          List.map_map, List.map_cons, List.sum_cons]
        exact congrArg (· + _) (congrArg List.sum (hrow row start 0))
  exact hrows surface 0

/-- Labels that agree on the cells give the same masses. -/
theorem classMass_congr [DecidableEq L] {first second : ℕ → ℕ → L} {entries : List (Cell M)}
    (hlabel : ∀ cell ∈ entries, first cell.row cell.column = second cell.row cell.column)
    (value : L) :
    classMass first entries value = classMass second entries value := by
  unfold classMass
  congr 1
  apply List.filter_congr
  intro cell hcell
  rw [hlabel cell hcell]

/-- Renaming the classes injectively keeps the masses. -/
theorem classMass_rename {K : Type*} [DecidableEq L] [DecidableEq K] {rename : L → K}
    (hinjective : Function.Injective rename) (label : ℕ → ℕ → L) (entries : List (Cell M))
    (value : L) :
    classMass (fun row column => rename (label row column)) entries (rename value) =
      classMass label entries value := by
  unfold classMass
  congr 1
  apply List.filter_congr
  intro cell _
  simp only [hinjective.eq_iff]

/-- The classes of the cells split the whole mass. -/
theorem sum_classMass [DecidableEq L] {classes : Finset L} (label : ℕ → ℕ → L)
    {entries : List (Cell M)}
    (hclasses : ∀ cell ∈ entries, label cell.row cell.column ∈ classes) :
    ∑ value ∈ classes, classMass label entries value = mass entries := by
  induction entries with
  | nil => simp
  | cons cell rest ih =>
      have hrest : ∀ other ∈ rest, label other.row other.column ∈ classes :=
        fun other hother => hclasses other (List.mem_cons_of_mem _ hother)
      have hhead : label cell.row cell.column ∈ classes := hclasses cell List.mem_cons_self
      simp only [classMass_cons, Finset.sum_add_distrib, Finset.sum_ite_eq, mass_cons]
      rw [if_pos hhead, ih hrest]

end Mass

theorem mass_nonneg [AddCommMonoid M] [PartialOrder M] [IsOrderedAddMonoid M]
    {entries : List (Cell M)} (hweights : ∀ cell ∈ entries, 0 ≤ cell.weight) :
    0 ≤ mass entries := by
  apply List.sum_nonneg
  intro weight hweight
  obtain ⟨cell, hcell, rfl⟩ := List.mem_map.mp hweight
  exact hweights cell hcell

theorem classMass_nonneg [AddCommMonoid M] [PartialOrder M] [IsOrderedAddMonoid M]
    [DecidableEq L] (label : ℕ → ℕ → L) {entries : List (Cell M)}
    (hweights : ∀ cell ∈ entries, 0 ≤ cell.weight) (value : L) :
    0 ≤ classMass label entries value := by
  apply mass_nonneg
  intro cell hcell
  exact hweights cell (List.mem_filter.mp hcell).1

/-! ## One pass over a surface -/

section Pass

variable [AddCommMonoid M] {Buckets : Type u}

/-- Buckets that hold one mass for each class and take weights one at a time. -/
structure Accumulator (Buckets L : Type u) (M : Type w) [AddCommMonoid M] where
  empty : Buckets
  add : Buckets → L → M → Buckets
  read : Buckets → L → M
  read_empty : ∀ value, read empty value = 0
  read_add : ∀ [DecidableEq L] buckets label weight value,
    read (add buckets label weight) value =
      read buckets value + if label = value then weight else 0

/-- Add every cell to the bucket of its class; a cell without a class stops the
pass. -/
def pass (accumulator : Accumulator Buckets L M) (classify : ℕ → ℕ → Except E L)
    (entries : List (Cell M)) (start : Buckets) : Except E Buckets :=
  entries.foldlM (fun buckets cell => do
    let label ← classify cell.row cell.column
    .ok (accumulator.add buckets label cell.weight)) start

variable [DecidableEq L]

/-- A pass over classified cells succeeds, and each bucket gains exactly the mass
of its class. -/
theorem pass_ok (accumulator : Accumulator Buckets L M) {classify : ℕ → ℕ → Except E L}
    {label : ℕ → ℕ → L} {entries : List (Cell M)}
    (hclass : ∀ cell ∈ entries, classify cell.row cell.column = .ok (label cell.row cell.column))
    (start : Buckets) :
    ∃ buckets, pass accumulator classify entries start = .ok buckets ∧
      ∀ value, accumulator.read buckets value =
        accumulator.read start value + classMass label entries value := by
  induction entries generalizing start with
  | nil => exact ⟨start, rfl, by simp⟩
  | cons cell rest ih =>
      have hhead := hclass cell List.mem_cons_self
      have htail : ∀ other ∈ rest,
          classify other.row other.column = .ok (label other.row other.column) :=
        fun other hother => hclass other (List.mem_cons_of_mem _ hother)
      obtain ⟨buckets, hpass, hread⟩ :=
        ih htail (accumulator.add start (label cell.row cell.column) cell.weight)
      refine ⟨buckets, ?_, ?_⟩
      · rw [pass, List.foldlM_cons, hhead]
        exact hpass
      · intro value
        rw [hread, accumulator.read_add, classMass_cons, add_assoc]

theorem pass_empty (accumulator : Accumulator Buckets L M) {classify : ℕ → ℕ → Except E L}
    {label : ℕ → ℕ → L} {entries : List (Cell M)}
    (hclass : ∀ cell ∈ entries,
      classify cell.row cell.column = .ok (label cell.row cell.column)) :
    ∃ buckets, pass accumulator classify entries accumulator.empty = .ok buckets ∧
      ∀ value, accumulator.read buckets value = classMass label entries value := by
  obtain ⟨buckets, hpass, hread⟩ := pass_ok accumulator hclass accumulator.empty
  refine ⟨buckets, hpass, fun value => ?_⟩
  rw [hread, accumulator.read_empty, zero_add]

end Pass

end MatchVet.Foundation.Surface
