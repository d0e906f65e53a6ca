import Mathlib.Data.List.Nodup
import Mathlib.Logic.Relation

/-!
# Forests of appended rows

Rows have a key and may name a parent by its key.  When a row is appended only
after its parent, under a fresh key, the parents form a forest: every row has one
path to its root, and a traversal along the parents returns that path.
-/

namespace MatchVet.Foundation.Forest

variable {α κ : Type*} (key : α → κ) (parent : α → Option κ)
  (related : α → α → Prop)

/-! ## Grounded rows -/

/-- Every row came under a fresh key, after a parent it is related to. -/
inductive Grounded : List α → Prop where
  | nil : Grounded []
  | snoc {rows : List α} {row : α} (hrows : Grounded rows) (hfresh : key row ∉ rows.map key)
      (hparent : ∀ name ∈ parent row, ∃ other ∈ rows, key other = name ∧ related row other) :
      Grounded (rows ++ [row])

/-- The rows from the one with the key up to its root. -/
inductive PathToRoot (rows : List α) : κ → List α → Prop where
  | root {row : α} (hmem : row ∈ rows) (hroot : parent row = none) :
      PathToRoot rows (key row) [row]
  | link {row : α} {name : κ} {rest : List α} (hmem : row ∈ rows) (hparent : parent row = some name)
      (hrest : PathToRoot rows name rest) : PathToRoot rows (key row) (row :: rest)

/-- The row with the first key names the second one. -/
def Names (rows : List α) (first second : κ) : Prop :=
  ∃ row ∈ rows, key row = first ∧ parent row = some second

variable {key parent related} {rows : List α}

theorem Grounded.nodup (hrows : Grounded key parent related rows) : (rows.map key).Nodup := by
  induction hrows with
  | nil => exact List.nodup_nil
  | snoc hrows hfresh hparent ih =>
      rw [List.map_append, List.map_singleton, List.nodup_append]
      refine ⟨ih, List.nodup_singleton _, ?_⟩
      intro name hname other hother heq
      rw [List.mem_singleton.mp hother] at heq
      exact hfresh (heq ▸ hname)

/-- A key tells its row. -/
theorem Grounded.row_unique (hrows : Grounded key parent related rows) {first second : α}
    (hfirst : first ∈ rows) (hsecond : second ∈ rows) (hkey : key first = key second) :
    first = second :=
  List.inj_on_of_nodup_map hrows.nodup hfirst hsecond hkey

/-- A parent is stored and related to the row that names it. -/
theorem Grounded.parent_stored (hrows : Grounded key parent related rows) {row : α}
    (hmem : row ∈ rows) {name : κ} (hname : parent row = some name) :
    ∃ other ∈ rows, key other = name ∧ related row other := by
  induction hrows with
  | nil => cases hmem
  | snoc hrows hfresh hparent ih =>
      rcases List.mem_append.mp hmem with hold | hnew
      · obtain ⟨other, hother, hfound⟩ := ih hold
        exact ⟨other, List.mem_append_left _ hother, hfound⟩
      · cases List.mem_singleton.mp hnew
        obtain ⟨other, hother, hfound⟩ := hparent name hname
        exact ⟨other, List.mem_append_left _ hother, hfound⟩

/-! ## Paths -/

theorem PathToRoot.append {name : κ} {path : List α} (hpath : PathToRoot key parent rows name path)
    (more : List α) : PathToRoot key parent (rows ++ more) name path := by
  induction hpath with
  | root hmem hroot => exact .root (List.mem_append_left _ hmem) hroot
  | link hmem hparent hrest ih => exact .link (List.mem_append_left _ hmem) hparent ih

theorem PathToRoot.subset {name : κ} {path : List α}
    (hpath : PathToRoot key parent rows name path) : ∀ row ∈ path, row ∈ rows := by
  induction hpath with
  | root hmem hroot =>
      rintro row hrow
      rwa [List.mem_singleton.mp hrow]
  | link hmem hparent hrest ih =>
      rintro row hrow
      rcases List.mem_cons.mp hrow with rfl | hrow
      · exact hmem
      · exact ih row hrow

/-- Every row has a path to its root. -/
theorem Grounded.exists_path (hrows : Grounded key parent related rows) {row : α}
    (hmem : row ∈ rows) : ∃ path, PathToRoot key parent rows (key row) path := by
  induction hrows generalizing row with
  | nil => cases hmem
  | @snoc rows new hrows hfresh hparent ih =>
      rcases List.mem_append.mp hmem with hold | hnew
      · obtain ⟨path, hpath⟩ := ih hold
        exact ⟨path, hpath.append _⟩
      · cases List.mem_singleton.mp hnew
        cases hname : parent new with
        | none => exact ⟨[new], .root hmem hname⟩
        | some name =>
            obtain ⟨other, hother, rfl, -⟩ := hparent name hname
            obtain ⟨path, hpath⟩ := ih hother
            exact ⟨new :: path, .link hmem hname (hpath.append _)⟩

/-- A key has one path to its root. -/
theorem Grounded.path_unique (hrows : Grounded key parent related rows) {name other : κ}
    {first second : List α} (hfirst : PathToRoot key parent rows name first)
    (hsecond : PathToRoot key parent rows other second) (hname : name = other) :
    first = second := by
  induction hfirst generalizing other second with
  | root hmem hroot =>
      cases hsecond with
      | root hother hnone => rw [hrows.row_unique hmem hother hname]
      | link hother hparent hrest =>
          cases hrows.row_unique hmem hother hname
          rw [hroot] at hparent
          cases hparent
  | link hmem hparent hrest ih =>
      cases hsecond with
      | root hother hnone =>
          cases hrows.row_unique hmem hother hname
          rw [hparent] at hnone
          cases hnone
      | link hother hfound hothers =>
          cases hrows.row_unique hmem hother hname
          rw [hparent] at hfound
          rw [ih hothers (Option.some.inj hfound)]

/-- The path of a row goes on with the path of its parent. -/
theorem Grounded.path_of_names (hrows : Grounded key parent related rows) {first second : κ}
    (hnames : Names key parent rows first second) {path rest : List α}
    (hpath : PathToRoot key parent rows first path)
    (hrest : PathToRoot key parent rows second rest) : rest.length < path.length := by
  obtain ⟨row, hmem, rfl, hparent⟩ := hnames
  rw [hrows.path_unique hpath (.link hmem hparent hrest) rfl]
  exact Nat.lt_succ_self _

/-- Both ends of a link are stored. -/
theorem Grounded.names_stored (hrows : Grounded key parent related rows) {first second : κ}
    (hnames : Names key parent rows first second) :
    (∃ row ∈ rows, key row = first) ∧ ∃ other ∈ rows, key other = second := by
  obtain ⟨row, hmem, hkey, hparent⟩ := hnames
  obtain ⟨other, hother, hname, -⟩ := hrows.parent_stored hmem hparent
  exact ⟨⟨row, hmem, hkey⟩, other, hother, hname⟩

/-- Along the parents paths get shorter. -/
theorem Grounded.path_lt (hrows : Grounded key parent related rows) {first second : κ}
    (hnames : Relation.TransGen (Names key parent rows) first second) :
    ∀ {path rest : List α}, PathToRoot key parent rows first path →
      PathToRoot key parent rows second rest → rest.length < path.length := by
  induction hnames with
  | single hnames => exact hrows.path_of_names hnames
  | tail hbefore hnames ih =>
      intro path rest hpath hrest
      obtain ⟨⟨row, hmem, rfl⟩, -⟩ := hrows.names_stored hnames
      obtain ⟨middle, hmiddle⟩ := hrows.exists_path hmem
      have hlong := ih hpath hmiddle
      have hshort := hrows.path_of_names hnames hmiddle hrest
      omega

/-- No row is its own ancestor. -/
theorem Grounded.acyclic (hrows : Grounded key parent related rows) (name : κ) :
    ¬ Relation.TransGen (Names key parent rows) name name := by
  intro hcycle
  have hstored : ∃ row ∈ rows, key row = name := by
    cases hcycle with
    | single hnames => exact (hrows.names_stored hnames).1
    | tail hbefore hnames => exact (hrows.names_stored hnames).2
  obtain ⟨row, hmem, rfl⟩ := hstored
  obtain ⟨path, hpath⟩ := hrows.exists_path hmem
  exact Nat.lt_irrefl _ (hrows.path_lt hcycle hpath hpath)

/-! ## Traversals -/

/-- A recursive query: the first entry of the queue is taken out, and what follows it
is queued.  None when the fuel ends first. -/
def traverse (next : κ → List κ) : ℕ → List κ → Option (List κ)
  | _, [] => some []
  | 0, _ :: _ => none
  | fuel + 1, name :: queue => (traverse next fuel (queue ++ next name)).map (name :: ·)

@[simp]
theorem traverse_nil (next : κ → List κ) (fuel : ℕ) : traverse next fuel [] = some [] := by
  cases fuel <;> rfl

variable [DecidableEq κ]

/-- The parents that the rows with a key name. -/
def parentsOf (key : α → κ) (parent : α → Option κ) (rows : List α) (name : κ) : List κ :=
  (rows.filter fun row => key row = name).filterMap parent

/-- The rows with a stored key. -/
theorem Grounded.filter_key (hrows : Grounded key parent related rows) {row : α}
    (hmem : row ∈ rows) : rows.filter (fun other => key other = key row) = [row] := by
  induction hrows with
  | nil => cases hmem
  | @snoc rows new hrows hfresh hparent ih =>
      rcases List.mem_append.mp hmem with hold | hnew
      · have hother : key new ≠ key row := fun heq =>
          hfresh (heq ▸ List.mem_map_of_mem hold)
        rw [List.filter_append, ih hold, List.filter_singleton, decide_eq_false hother]
        rfl
      · cases List.mem_singleton.mp hnew
        have hnone : rows.filter (fun other => key other = key row) = [] := by
          refine List.filter_eq_nil_iff.mpr fun other hother hkey => ?_
          exact hfresh (of_decide_eq_true hkey ▸ List.mem_map_of_mem hother)
        rw [List.filter_append, hnone, List.filter_singleton, decide_eq_true rfl]
        rfl

/-- With enough fuel the traversal returns the keys of the path. -/
theorem Grounded.traverse_path (hrows : Grounded key parent related rows) {name : κ}
    {path : List α} (hpath : PathToRoot key parent rows name path) {fuel : ℕ}
    (hfuel : path.length ≤ fuel) :
    traverse (parentsOf key parent rows) fuel [name] = some (path.map key) := by
  induction hpath generalizing fuel with
  | root hmem hroot =>
      obtain ⟨fuel, rfl⟩ := Nat.exists_eq_add_one_of_ne_zero (Nat.ne_of_gt hfuel)
      rw [traverse, List.nil_append, parentsOf, hrows.filter_key hmem, List.filterMap_cons, hroot]
      change (traverse (parentsOf key parent rows) fuel []).map _ = _
      rw [traverse_nil]
      rfl
  | link hmem hparent hrest ih =>
      rw [List.length_cons] at hfuel
      obtain ⟨fuel, rfl⟩ := Nat.exists_eq_add_one_of_ne_zero (by omega : fuel ≠ 0)
      rw [traverse, List.nil_append, parentsOf, hrows.filter_key hmem, List.filterMap_cons, hparent]
      change (traverse (parentsOf key parent rows) fuel [_]).map _ = _
      rw [ih (by omega), Option.map_some, List.map_cons]

/-- The rows of a path are found by their keys. -/
theorem Grounded.flatMap_filter (hrows : Grounded key parent related rows) {path : List α}
    (hpath : ∀ row ∈ path, row ∈ rows) :
    ((path.map key).flatMap fun name => rows.filter fun row => key row = name) = path := by
  induction path with
  | nil => rfl
  | cons row rest ih =>
      obtain ⟨hrow, hrest⟩ := List.forall_mem_cons.mp hpath
      rw [List.map_cons, List.flatMap_cons, hrows.filter_key hrow, ih hrest, List.singleton_append]

/-- A key that is not stored has no parents. -/
theorem parentsOf_eq_nil {name : κ} (hname : ∀ row ∈ rows, key row ≠ name) :
    parentsOf key parent rows name = [] := by
  rw [parentsOf, List.filter_eq_nil_iff.mpr fun row hrow => by simpa using hname row hrow]
  rfl

end MatchVet.Foundation.Forest
