import Mathlib.Data.List.Nodup

/-!
# Chains of records

A chain numbers its records from zero, and every record but the first names the
identifier of the one before it.
-/

namespace MatchVet.Foundation.Chain

open List

/-- Where a record keeps its identifier, its number and its predecessor. -/
structure Linking (α ι : Type) where
  ident : α → ι
  sequence : α → ℕ
  predecessor : α → Option ι

variable {α ι : Type} (links : Linking α ι)

/-- The records continue a chain that has `count` records and ends in `last`. -/
def ChainFrom (count : ℕ) (last : Option ι) : List α → Prop
  | [] => True
  | record :: rest =>
      links.sequence record = count ∧ links.predecessor record = last ∧
        ChainFrom (count + 1) (some (links.ident record)) rest

def Chained (records : List α) : Prop := ChainFrom links 0 none records

variable {links} {records : List α} {count : ℕ} {last : Option ι}

/-- A record that names the end of a chain continues it. -/
theorem ChainFrom.concat {record : α} (hchain : ChainFrom links count last records)
    (hsequence : links.sequence record = count + records.length)
    (hpredecessor : links.predecessor record =
      (records.getLast?.map links.ident).or last) :
    ChainFrom links count last (records ++ [record]) := by
  induction records generalizing count last with
  | nil => exact ⟨hsequence, hpredecessor, trivial⟩
  | cons head rest ih =>
      refine ⟨hchain.1, hchain.2.1, ih hchain.2.2 ?_ ?_⟩
      · rw [hsequence, length_cons]
        omega
      · rw [hpredecessor]
        cases rest with
        | nil => rfl
        | cons second tail => simp [getLast?_cons]

/-- A first record starts a chain. -/
theorem Chained.singleton {record : α} (hsequence : links.sequence record = 0)
    (hpredecessor : links.predecessor record = none) : Chained links [record] :=
  ⟨hsequence, hpredecessor, trivial⟩

theorem Chained.concat {record tail : α} (hchain : Chained links records)
    (hlast : records.getLast? = some tail)
    (hsequence : links.sequence record = links.sequence tail + 1)
    (htail : links.sequence tail + 1 = records.length)
    (hpredecessor : links.predecessor record = some (links.ident tail)) :
    Chained links (records ++ [record]) := by
  refine ChainFrom.concat hchain ?_ ?_
  · omega
  · rw [hpredecessor, hlast]
    rfl

theorem ChainFrom.map_sequence (hchain : ChainFrom links count last records) :
    records.map links.sequence = List.range' count records.length := by
  induction records generalizing count last with
  | nil => rfl
  | cons head rest ih =>
      rw [map_cons, length_cons, range'_succ, hchain.1, ih hchain.2.2]

/-- The numbers of a chain are `0, 1, ..., n`, without a gap or a repeat. -/
theorem Chained.map_sequence (hchain : Chained links records) :
    records.map links.sequence = List.range records.length := by
  rw [List.range_eq_range']
  exact ChainFrom.map_sequence hchain

theorem Chained.sequence_injOn (hchain : Chained links records) {first second : α}
    (hfirst : first ∈ records) (hsecond : second ∈ records)
    (heq : links.sequence first = links.sequence second) : first = second := by
  have hnodup : (records.map links.sequence).Nodup := by
    rw [hchain.map_sequence]
    exact nodup_range
  exact inj_on_of_nodup_map hnodup hfirst hsecond heq

theorem Chained.sequence_getLast (hchain : Chained links records) {tail : α}
    (hlast : records.getLast? = some tail) : links.sequence tail + 1 = records.length := by
  have hmap := congrArg List.getLast? hchain.map_sequence
  rw [getLast?_map, hlast] at hmap
  cases hlength : records.length with
  | zero => simp [hlength] at hmap
  | succ length =>
      rw [hlength, range_succ, getLast?_append] at hmap
      simpa using hmap

end MatchVet.Foundation.Chain
