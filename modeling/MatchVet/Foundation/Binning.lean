import Mathlib

/-!
# Half-open bins

Consecutive edges cut a range into bins that are closed below and open above,
except the last one, which holds its upper edge.  Strictly increasing edges put
every value of the range into exactly one bin.
-/

namespace MatchVet.Foundation.Binning

variable {K : Type*} [LinearOrder K]

/-- A bin between two edges; the last bin is closed. -/
structure Bin (K : Type*) where
  start : K
  finish : K
  isLast : Bool
  deriving DecidableEq, Repr

def Bin.holds (bin : Bin K) (value : K) : Bool :=
  decide (bin.start ≤ value) &&
    if bin.isLast then decide (value ≤ bin.finish) else decide (value < bin.finish)

def Bin.interval (bin : Bin K) : K × K := (bin.start, bin.finish)

/-- The bins of consecutive edges. -/
def binsOf : List K → List (Bin K)
  | start :: finish :: rest => ⟨start, finish, rest.isEmpty⟩ :: binsOf (finish :: rest)
  | _ => []

theorem Bin.holds_iff {bin : Bin K} {value : K} :
    bin.holds value = true ↔
      bin.start ≤ value ∧ (value < bin.finish ∨ bin.isLast = true ∧ value ≤ bin.finish) := by
  unfold Bin.holds
  cases hlast : bin.isLast with
  | false => simp
  | true =>
      simp only [↓reduceIte, Bool.and_eq_true, decide_eq_true_eq, true_and]
      exact and_congr_right fun _ => (or_iff_right_of_imp le_of_lt).symm

/-! ## Intervals -/

omit [LinearOrder K] in
theorem intervals_binsOf (edges : List K) :
    (binsOf edges).map Bin.interval = edges.zip edges.tail := by
  induction edges with
  | nil => rfl
  | cons start rest ih =>
      cases rest with
      | nil => rfl
      | cons finish rest => exact congrArg ((start, finish) :: ·) ih

omit [LinearOrder K] in
theorem isLast_binsOf (edges : List K) {number : ℕ} {bin : Bin K}
    (hbin : (binsOf edges)[number]? = some bin) :
    bin.isLast = decide (number + 2 = edges.length) := by
  induction edges generalizing number with
  | nil => exact absurd hbin (by simp [binsOf])
  | cons start rest ih =>
      cases rest with
      | nil => exact absurd hbin (by simp [binsOf])
      | cons finish rest =>
          cases number with
          | zero =>
              obtain rfl : (⟨start, finish, rest.isEmpty⟩ : Bin K) = bin := Option.some.inj hbin
              cases rest <;> simp
          | succ number =>
              rw [ih hbin]
              exact decide_eq_decide.mpr (by simp only [List.length_cons]; omega)

/-- Consecutive edges by their positions. -/
def enumerated (edges : List K) : List (Bin K) :=
  (edges.zip edges.tail).zipIdx.map fun entry =>
    ⟨entry.1.1, entry.1.2, decide (entry.2 + 2 = edges.length)⟩

omit [LinearOrder K] in
theorem enumerated_eq_binsOf (edges : List K) : enumerated edges = binsOf edges := by
  apply List.ext_getElem?
  intro number
  unfold enumerated
  rw [List.getElem?_map, List.getElem?_zipIdx, ← intervals_binsOf, List.getElem?_map]
  cases hbin : (binsOf edges)[number]? with
  | none => rfl
  | some bin =>
      have hlast := isLast_binsOf edges hbin
      simp only [Option.map_some, Bin.interval, Nat.zero_add, ← hlast]

/-! ## One bin for each value -/

omit [LinearOrder K] in
theorem start_mem_of_mem_binsOf {edges : List K} {bin : Bin K} (hbin : bin ∈ binsOf edges) :
    bin.start ∈ edges := by
  have hmem : bin.interval ∈ edges.zip edges.tail :=
    intervals_binsOf edges ▸ List.mem_map_of_mem hbin
  exact (List.of_mem_zip hmem).1

/-- No bin from an edge on holds a value below it. -/
theorem countP_holds_of_lt {edges : List K} {value : K} (hbelow : ∀ edge ∈ edges, value < edge) :
    (binsOf edges).countP (·.holds value) = 0 := by
  refine List.countP_eq_zero.mpr fun bin hbin hholds => ?_
  exact absurd (Bin.holds_iff.mp hholds).1 (not_le.mpr (hbelow _ (start_mem_of_mem_binsOf hbin)))

/-- A value between the first and the last edge lies in exactly one bin. -/
theorem countP_holds {first last value : K} {inner : List K}
    (hincreasing : (first :: (inner ++ [last])).Pairwise (· < ·)) (hfirst : first ≤ value)
    (hlast : value ≤ last) :
    (binsOf (first :: (inner ++ [last]))).countP (·.holds value) = 1 := by
  induction inner generalizing first with
  | nil =>
      have hholds : (⟨first, last, true⟩ : Bin K).holds value = true :=
        Bin.holds_iff.mpr ⟨hfirst, Or.inr ⟨rfl, hlast⟩⟩
      simp [binsOf, hholds]
  | cons next rest ih =>
      obtain ⟨_, hrest⟩ := List.pairwise_cons.mp hincreasing
      obtain ⟨hnext, _⟩ := List.pairwise_cons.mp hrest
      have hopen : (rest ++ [last]).isEmpty = false := by simp
      change (⟨first, next, (rest ++ [last]).isEmpty⟩ ::
        binsOf (next :: (rest ++ [last]))).countP (·.holds value) = 1
      rw [List.countP_cons, hopen]
      rcases lt_or_ge value next with hlower | hupper
      · have hbelow : ∀ edge ∈ next :: (rest ++ [last]), value < edge := by
          intro edge hedge
          rcases List.mem_cons.mp hedge with rfl | hedge
          · exact hlower
          · exact hlower.trans (hnext edge hedge)
        have hholds : (⟨first, next, false⟩ : Bin K).holds value = true :=
          Bin.holds_iff.mpr ⟨hfirst, Or.inl hlower⟩
        rw [countP_holds_of_lt hbelow, if_pos hholds]
      · have hholds : ¬(⟨first, next, false⟩ : Bin K).holds value = true := by
          rw [Bin.holds_iff]
          rintro ⟨-, hlt | ⟨hfalse, -⟩⟩
          · exact absurd hlt (not_lt.mpr hupper)
          · exact Bool.false_ne_true hfalse
        rw [ih hrest hupper, if_neg hholds]

/-- The closed bin is the one that ends with the last edge. -/
theorem isLast_iff_finish {first last : K} {inner : List K} {bin : Bin K}
    (hincreasing : (first :: (inner ++ [last])).Pairwise (· < ·))
    (hbin : bin ∈ binsOf (first :: (inner ++ [last]))) :
    bin.isLast = true ↔ bin.finish = last := by
  induction inner generalizing first with
  | nil =>
      obtain rfl : bin = ⟨first, last, true⟩ := List.mem_singleton.mp hbin
      exact iff_of_true rfl rfl
  | cons next rest ih =>
      obtain ⟨_, hrest⟩ := List.pairwise_cons.mp hincreasing
      rcases List.mem_cons.mp hbin with rfl | hbin
      · have hnext : next < last := (List.pairwise_cons.mp hrest).1 last (by simp)
        exact iff_of_false (by simp) hnext.ne
      · exact ih hrest hbin

/-! ## Counting -/

theorem sum_countP_cons {α β : Type*} (tests : List β) (test : β → α → Bool) (item : α)
    (items : List α) :
    (tests.map fun choice => (item :: items).countP (test choice)).sum =
      (tests.map fun choice => items.countP (test choice)).sum + tests.countP (test · item) := by
  induction tests with
  | nil => rfl
  | cons choice others ih =>
      rw [List.map_cons, List.sum_cons, ih, List.map_cons, List.sum_cons, List.countP_cons,
        List.countP_cons]
      omega

/-- Items that each satisfy exactly one of some tests are counted once in all. -/
theorem sum_countP {α β : Type*} {tests : List β} {test : β → α → Bool} {items : List α}
    (honce : ∀ item ∈ items, tests.countP (test · item) = 1) :
    (tests.map fun choice => items.countP (test choice)).sum = items.length := by
  induction items with
  | nil => simp
  | cons item rest ih =>
      have hrest := ih fun other hother => honce other (List.mem_cons_of_mem _ hother)
      have hhead := honce item List.mem_cons_self
      rw [sum_countP_cons, hrest, hhead, List.length_cons]

end MatchVet.Foundation.Binning
