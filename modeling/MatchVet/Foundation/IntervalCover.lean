import Mathlib.Data.List.Sort
import Mathlib.Data.Prod.Lex
import Mathlib.Order.Interval.Set.Basic

/-!
# Covering an interval

A sweep over ranges in the order of their starts decides whether their union
covers a half-open interval.
-/

namespace MatchVet.Foundation.IntervalCover

variable {α : Type*} [LinearOrder α]

/-- Every point of a half-open interval lies in some range. -/
def CoveredBy (start finish : α) (ranges : List (α × α)) : Prop :=
  ∀ point ∈ Set.Ico start finish, ∃ range ∈ ranges, point ∈ Set.Ico range.1 range.2

theorem CoveredBy.mono {start finish : α} {ranges others : List (α × α)}
    (hcovered : CoveredBy start finish ranges) (hsubset : ranges ⊆ others) :
    CoveredBy start finish others := by
  intro point hpoint
  obtain ⟨range, hrange, hmem⟩ := hcovered point hpoint
  exact ⟨range, hsubset hrange, hmem⟩

theorem CoveredBy.congr {start finish : α} {ranges others : List (α × α)}
    (hmem : ∀ range, range ∈ ranges ↔ range ∈ others) :
    CoveredBy start finish ranges ↔ CoveredBy start finish others :=
  ⟨fun hcovered => hcovered.mono fun range => (hmem range).mp,
    fun hcovered => hcovered.mono fun range => (hmem range).mpr⟩

/-- Advance a cursor over the ranges; a gap or an early end is a failure. -/
def sweep (cursor finish : α) : List (α × α) → Bool
  | [] => false
  | range :: rest =>
      if range.2 ≤ cursor then sweep cursor finish rest
      else if cursor < range.1 then false
      else if finish ≤ max cursor range.2 then true
      else sweep (max cursor range.2) finish rest

/-- A range that ends at or before the cursor covers nothing from there on. -/
theorem coveredBy_skip {cursor finish : α} {range : α × α} {rest : List (α × α)}
    (hskip : range.2 ≤ cursor) :
    CoveredBy cursor finish (range :: rest) ↔ CoveredBy cursor finish rest := by
  constructor
  · intro hcovered point hpoint
    obtain ⟨found, hfound, hmem⟩ := hcovered point hpoint
    rcases List.mem_cons.mp hfound with rfl | hrest
    · exact absurd (hmem.2.trans_le hskip) (not_lt.mpr hpoint.1)
    · exact ⟨found, hrest, hmem⟩
  · intro hcovered
    exact hcovered.mono (List.subset_cons_self range rest)

/-- A range that starts at or before the cursor covers up to its end. -/
theorem coveredBy_advance {cursor finish : α} {range : α × α} {rest : List (α × α)}
    (hstart : range.1 ≤ cursor) :
    CoveredBy cursor finish (range :: rest) ↔ CoveredBy (max cursor range.2) finish rest := by
  constructor
  · intro hcovered point hpoint
    have hcursor : cursor ≤ point := (le_max_left ..).trans hpoint.1
    obtain ⟨found, hfound, hmem⟩ := hcovered point ⟨hcursor, hpoint.2⟩
    rcases List.mem_cons.mp hfound with rfl | hrest
    · exact absurd ((le_max_right ..).trans hpoint.1) (not_le.mpr hmem.2)
    · exact ⟨found, hrest, hmem⟩
  · intro hcovered point hpoint
    by_cases hend : point < range.2
    · exact ⟨range, List.mem_cons_self, hstart.trans hpoint.1, hend⟩
    · have hnext : max cursor range.2 ≤ point := max_le hpoint.1 (not_lt.mp hend)
      obtain ⟨found, hfound, hmem⟩ := hcovered point ⟨hnext, hpoint.2⟩
      exact ⟨found, List.mem_cons_of_mem _ hfound, hmem⟩

/-- The sweep over ranges in order of their starts is exact. -/
theorem sweep_eq_true_iff {cursor finish : α} {ranges : List (α × α)}
    (hsorted : ranges.Pairwise fun first second => first.1 ≤ second.1)
    (hcursor : cursor < finish) :
    sweep cursor finish ranges = true ↔ CoveredBy cursor finish ranges := by
  induction ranges generalizing cursor with
  | nil =>
      constructor
      · intro hfalse
        cases hfalse
      · intro hcovered
        obtain ⟨_, hnone, -⟩ := hcovered cursor ⟨le_rfl, hcursor⟩
        cases hnone
  | cons range rest ih =>
      obtain ⟨hfirst, hrest⟩ := List.pairwise_cons.mp hsorted
      unfold sweep
      by_cases hskip : range.2 ≤ cursor
      · rw [if_pos hskip, ih hrest hcursor, coveredBy_skip hskip]
      · rw [if_neg hskip]
        by_cases hgap : cursor < range.1
        · rw [if_pos hgap]
          constructor
          · intro hfalse
            cases hfalse
          · intro hcovered
            obtain ⟨found, hfound, hmem⟩ := hcovered cursor ⟨le_rfl, hcursor⟩
            have hstart : range.1 ≤ found.1 := by
              rcases List.mem_cons.mp hfound with rfl | hlater
              · exact le_rfl
              · exact hfirst found hlater
            exact absurd (hstart.trans hmem.1) (not_le.mpr hgap)
        · have hstart := not_lt.mp hgap
          rw [if_neg hgap, coveredBy_advance hstart]
          by_cases hdone : finish ≤ max cursor range.2
          · rw [if_pos hdone]
            refine ⟨fun _ point hpoint => ?_, fun _ => rfl⟩
            exact absurd (hdone.trans hpoint.1) (not_le.mpr hpoint.2)
          · rw [if_neg hdone]
            exact ih hrest (not_le.mp hdone)

/-- `sorted` over ranges: by start, then by end. -/
def inOrder (ranges : List (α × α)) : List (α × α) :=
  ranges.insertionSort fun first second => toLex first ≤ toLex second

theorem inOrder_starts (ranges : List (α × α)) :
    (inOrder ranges).Pairwise fun first second => first.1 ≤ second.1 := by
  have hsorted := List.pairwise_insertionSort
    (fun first second : α × α => toLex first ≤ toLex second) ranges
  refine hsorted.imp fun {first second} hle => ?_
  rcases Prod.Lex.le_iff.mp hle with hlt | ⟨heq, -⟩
  · exact hlt.le
  · exact heq.le

theorem mem_inOrder (ranges : List (α × α)) (range : α × α) :
    range ∈ inOrder ranges ↔ range ∈ ranges := List.mem_insertionSort _

/-- Sorting and sweeping decides coverage. -/
theorem sweep_inOrder_iff {start finish : α} (ranges : List (α × α)) (hproper : start < finish) :
    sweep start finish (inOrder ranges) = true ↔ CoveredBy start finish ranges :=
  (sweep_eq_true_iff (inOrder_starts ranges) hproper).trans
    (CoveredBy.congr (mem_inOrder ranges))

end MatchVet.Foundation.IntervalCover
