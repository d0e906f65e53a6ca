import Mathlib.Data.List.Basic
import Mathlib.Data.List.Pairwise
import Mathlib.Data.Multiset.MapFold
import Mathlib.Logic.Relation
import Mathlib.Tactic.Common

/-!
# Connected components of lists

Items are joined when a chain of links between listed items leads from one to
the other.  A family of clusters is the family of components when it splits the
items, each cluster is joined and no link leaves a cluster.  Merging all clusters
that a new item meets keeps this.
-/

namespace MatchVet.Foundation.Components

variable {α : Type*} {linked : α → α → Bool}

/-- A chain of links between listed items. -/
def Joined (linked : α → α → Bool) (items : List α) : α → α → Prop :=
  Relation.EqvGen fun first second =>
    first ∈ items ∧ second ∈ items ∧ linked first second = true

theorem Joined.mono {first second : List α} (hsubset : ∀ item ∈ first, item ∈ second)
    {left right : α} (hjoined : Joined linked first left right) :
    Joined linked second left right :=
  Relation.EqvGen.mono
    (fun _ _ hlink => ⟨hsubset _ hlink.1, hsubset _ hlink.2.1, hlink.2.2⟩) left right hjoined

/-- No item of one cluster is linked with an item of the other. -/
def Apart (linked : α → α → Bool) (first second : List α) : Prop :=
  ∀ left ∈ first, ∀ right ∈ second, linked left right = false

/-- The clusters are the connected components of the items. -/
structure IsComponents (linked : α → α → Bool) (items : List α) (clusters : List (List α)) :
    Prop where
  splits : clusters.flatten.Perm items
  nonempty : ∀ cluster ∈ clusters, cluster ≠ []
  joined : ∀ cluster ∈ clusters, ∀ left ∈ cluster, ∀ right ∈ cluster, Joined linked items left right
  apart : clusters.Pairwise (Apart linked)

/-- The links of an undirected graph with loops. -/
structure Undirected (linked : α → α → Bool) : Prop where
  loop : ∀ item, linked item item = true
  symmetric : ∀ first second, linked first second = linked second first

theorem Apart.symm (hlinked : Undirected linked) {first second : List α}
    (hapart : Apart linked first second) : Apart linked second first := by
  intro left hleft right hright
  rw [hlinked.symmetric]
  exact hapart right hright left hleft

theorem Apart.disjoint (hlinked : Undirected linked) {first second : List α}
    (hapart : Apart linked first second) {item : α} (hfirst : item ∈ first) : item ∉ second := by
  intro hsecond
  exact Bool.false_ne_true ((hapart item hfirst item hsecond).symm.trans (hlinked.loop item))

namespace IsComponents

variable {items : List α} {clusters : List (List α)}

theorem nil : IsComponents linked [] [] :=
  ⟨List.Perm.nil, by simp, by simp, List.Pairwise.nil⟩

theorem mem_items (hcomponents : IsComponents linked items clusters) {cluster : List α}
    (hcluster : cluster ∈ clusters) {item : α} (hitem : item ∈ cluster) : item ∈ items :=
  hcomponents.splits.mem_iff.mp (List.mem_flatten.mpr ⟨cluster, hcluster, hitem⟩)

theorem exists_cluster (hcomponents : IsComponents linked items clusters) {item : α}
    (hitem : item ∈ items) : ∃ cluster ∈ clusters, item ∈ cluster :=
  List.mem_flatten.mp (hcomponents.splits.mem_iff.mpr hitem)

/-- The order of the clusters does not matter. -/
theorem perm (hlinked : Undirected linked) {others : List (List α)}
    (hcomponents : IsComponents linked items clusters) (hperm : clusters.Perm others) :
    IsComponents linked items others where
  splits := hperm.symm.flatten.trans hcomponents.splits
  nonempty := fun cluster hcluster => hcomponents.nonempty cluster (hperm.mem_iff.mpr hcluster)
  joined := fun cluster hcluster => hcomponents.joined cluster (hperm.mem_iff.mpr hcluster)
  apart := (hperm.pairwise_iff fun hapart => hapart.symm hlinked).mp hcomponents.apart

/-- Joined items are in the same clusters. -/
theorem mem_iff_of_joined (hlinked : Undirected linked)
    (hcomponents : IsComponents linked items clusters) {cluster : List α}
    (hcluster : cluster ∈ clusters) {left right : α} (hjoined : Joined linked items left right) :
    left ∈ cluster ↔ right ∈ cluster := by
  have hsame : ∀ first second, first ∈ items → linked second first = true → second ∈ cluster →
      first ∈ cluster := by
    intro first second hfirst hlink hsecond
    obtain ⟨other, hother, hmem⟩ := hcomponents.exists_cluster hfirst
    by_cases heq : cluster = other
    · exact heq ▸ hmem
    · have hsymmetric : Std.Symm (Apart linked) := ⟨fun _ _ hapart => hapart.symm hlinked⟩
      have hapart : Apart linked cluster other :=
        hcomponents.apart.forall hcluster hother heq
      exact absurd ((hapart second hsecond first hmem).symm.trans hlink) Bool.false_ne_true
  induction hjoined with
  | rel first second hlink =>
      obtain ⟨hfirst, hsecond, htrue⟩ := hlink
      constructor
      · exact hsame second first hsecond htrue
      · exact hsame first second hfirst (hlinked.symmetric second first ▸ htrue)
  | refl => exact Iff.rfl
  | symm _ _ _ ih => exact ih.symm
  | trans _ _ _ _ _ ihLeft ihRight => exact ihLeft.trans ihRight

/-- A cluster is the component of each of its items. -/
theorem mem_iff (hlinked : Undirected linked) (hcomponents : IsComponents linked items clusters)
    {cluster : List α} (hcluster : cluster ∈ clusters) {item other : α} (hitem : item ∈ cluster) :
    other ∈ cluster ↔ other ∈ items ∧ Joined linked items item other := by
  constructor
  · intro hother
    exact ⟨hcomponents.mem_items hcluster hother,
      hcomponents.joined cluster hcluster item hitem other hother⟩
  · rintro ⟨_, hjoined⟩
    exact (hcomponents.mem_iff_of_joined hlinked hcluster hjoined).mp hitem

open Classical in
/-- A cluster lists the component of each of its items, with repetitions. -/
theorem perm_filter (hlinked : Undirected linked)
    (hcomponents : IsComponents linked items clusters) {cluster : List α}
    (hcluster : cluster ∈ clusters) {item : α} (hitem : item ∈ cluster) :
    cluster.Perm (items.filter fun other => Joined linked items item other) := by
  obtain ⟨before, after, rfl⟩ := List.append_of_mem hcluster
  have houtside : ∀ other ∈ before ++ after, ∀ member ∈ other,
      ¬Joined linked items item member := by
    intro other hother member hmember hjoined
    have hin : member ∈ cluster :=
      (hcomponents.mem_iff_of_joined hlinked hcluster hjoined).mp hitem
    have hapart : Apart linked cluster other := by
      have hsplit := (List.perm_middle.pairwise_iff
        fun happly => Apart.symm hlinked happly).mp hcomponents.apart
      exact (List.pairwise_cons.mp hsplit).1 other hother
    exact hapart.disjoint hlinked hin hmember
  have hdrop : ∀ others : List (List α), (∀ other ∈ others, other ∈ before ++ after) →
      others.flatten.filter (fun other => Joined linked items item other) = [] := by
    intro others hothers
    refine List.filter_eq_nil_iff.mpr fun member hmember => ?_
    obtain ⟨other, hother, hin⟩ := List.mem_flatten.mp hmember
    rw [decide_eq_true_eq]
    exact houtside other (hothers other hother) member hin
  have hkeep : cluster.filter (fun other => Joined linked items item other) = cluster := by
    refine List.filter_eq_self.mpr fun member hmember => ?_
    exact decide_eq_true ((hcomponents.mem_iff hlinked hcluster hitem).mp hmember).2
  have hperm := hcomponents.splits.filter fun other => decide (Joined linked items item other)
  rw [List.flatten_append, List.flatten_cons, List.filter_append, List.filter_append,
    hdrop before fun other hother => List.mem_append_left _ hother,
    hdrop after fun other hother => List.mem_append_right _ hother, hkeep, List.nil_append,
    List.append_nil] at hperm
  exact hperm

end IsComponents

/-! ## Merging around a new item -/

/-- The cluster holds an item that the new item is linked with. -/
def meets (linked : α → α → Bool) (item : α) (cluster : List α) : Bool := cluster.any (linked item)

theorem meets_eq_true {item : α} {cluster : List α} :
    meets linked item cluster = true ↔ ∃ other ∈ cluster, linked item other = true :=
  List.any_eq_true

/-- All clusters that a new item meets become one, with the item. -/
def absorb (linked : α → α → Bool) (clusters : List (List α)) (item : α) : List (List α) :=
  ((clusters.filter (meets linked item)).flatten ++ [item]) ::
    clusters.filter fun cluster => !meets linked item cluster

/-- Every item that a new item absorbs is joined with it. -/
theorem joined_of_absorbed {items : List α} {clusters : List (List α)}
    (hcomponents : IsComponents linked items clusters) {item member : α}
    (hmember : member ∈ (clusters.filter (meets linked item)).flatten ++ [item]) :
    Joined linked (items ++ [item]) item member := by
  rcases List.mem_append.mp hmember with hold | hnew
  · obtain ⟨cluster, hcluster, hin⟩ := List.mem_flatten.mp hold
    obtain ⟨hkept, hmeets⟩ := List.mem_filter.mp hcluster
    obtain ⟨other, hother, hlink⟩ := meets_eq_true.mp hmeets
    have hfirst : Joined linked (items ++ [item]) item other :=
      .rel _ _ ⟨by simp, List.mem_append_left _ (hcomponents.mem_items hkept hother), hlink⟩
    have hrest : Joined linked (items ++ [item]) other member :=
      (hcomponents.joined cluster hkept other hother member hin).mono fun _ hmem =>
        List.mem_append_left _ hmem
    exact hfirst.trans _ _ _ hrest
  · obtain rfl := List.mem_singleton.mp hnew
    exact .refl _

/-- Merging keeps the clusters the components. -/
theorem IsComponents.absorb (hlinked : Undirected linked) {items : List α}
    {clusters : List (List α)} (hcomponents : IsComponents linked items clusters) (item : α) :
    IsComponents linked (items ++ [item]) (absorb linked clusters item) where
  splits := by
    have hparts : (clusters.filter (meets linked item)).flatten ++
        (clusters.filter fun cluster => !meets linked item cluster).flatten |>.Perm items := by
      rw [← List.flatten_append]
      exact (List.filter_append_perm (meets linked item) clusters).flatten.trans hcomponents.splits
    rw [Components.absorb, List.flatten_cons, List.append_assoc]
    refine (List.Perm.append_left _ List.perm_append_comm).trans ?_
    rw [← List.append_assoc]
    exact hparts.append_right _
  nonempty := by
    intro cluster hcluster
    rcases List.mem_cons.mp hcluster with rfl | hold
    · simp
    · exact hcomponents.nonempty cluster (List.mem_filter.mp hold).1
  joined := by
    intro cluster hcluster left hleft right hright
    rcases List.mem_cons.mp hcluster with rfl | hold
    · exact (joined_of_absorbed hcomponents hleft).symm.trans _ _ _
        (joined_of_absorbed hcomponents hright)
    · exact (hcomponents.joined cluster (List.mem_filter.mp hold).1 left hleft right hright).mono
        fun _ hmem => List.mem_append_left _ hmem
  apart := by
    have hsymmetric : Std.Symm (Apart linked) := ⟨fun _ _ hapart => hapart.symm hlinked⟩
    refine List.pairwise_cons.mpr ⟨?_, hcomponents.apart.filter _⟩
    intro other hother left hleft right hright
    obtain ⟨hkept, hunmet⟩ := List.mem_filter.mp hother
    rw [Bool.not_eq_true'] at hunmet
    rcases List.mem_append.mp hleft with hold | hnew
    · obtain ⟨cluster, hcluster, hin⟩ := List.mem_flatten.mp hold
      obtain ⟨hclusterKept, hmeets⟩ := List.mem_filter.mp hcluster
      have hne : cluster ≠ other := by
        rintro rfl
        exact Bool.false_ne_true (hunmet.symm.trans hmeets)
      exact hcomponents.apart.forall hclusterKept hkept hne left hin right hright
    · obtain rfl := List.mem_singleton.mp hnew
      refine Bool.eq_false_iff.mpr fun hlink => ?_
      exact Bool.false_ne_true (hunmet.symm.trans (meets_eq_true.mpr ⟨right, hright, hlink⟩))

/-! ## The components do not depend on the order of the items -/

namespace IsComponents

variable {items : List α} {clusters : List (List α)}

theorem nodup (hlinked : Undirected linked) (hcomponents : IsComponents linked items clusters) :
    (clusters.map Multiset.ofList).Nodup := by
  refine List.pairwise_map.mpr (hcomponents.apart.imp_of_mem ?_)
  intro first second hfirst _ hapart heq
  obtain ⟨item, hitem⟩ := List.exists_mem_of_ne_nil first (hcomponents.nonempty first hfirst)
  exact hapart.disjoint hlinked hitem ((Multiset.coe_eq_coe.mp heq).mem_iff.mp hitem)

open Classical in
theorem mem_map_iff (hlinked : Undirected linked)
    (hcomponents : IsComponents linked items clusters) {component : Multiset α} :
    component ∈ clusters.map Multiset.ofList ↔
      ∃ item ∈ items,
        component = ↑(items.filter fun other => Joined linked items item other) := by
  constructor
  · intro hcomponent
    obtain ⟨cluster, hcluster, rfl⟩ := List.mem_map.mp hcomponent
    obtain ⟨item, hitem⟩ :=
      List.exists_mem_of_ne_nil cluster (hcomponents.nonempty cluster hcluster)
    exact ⟨item, hcomponents.mem_items hcluster hitem,
      Multiset.coe_eq_coe.mpr (hcomponents.perm_filter hlinked hcluster hitem)⟩
  · rintro ⟨item, hitem, rfl⟩
    obtain ⟨cluster, hcluster, hin⟩ := hcomponents.exists_cluster hitem
    exact List.mem_map.mpr ⟨cluster, hcluster,
      Multiset.coe_eq_coe.mpr (hcomponents.perm_filter hlinked hcluster hin)⟩

/-- Two families of components of the same items are the same up to order. -/
theorem unique (hlinked : Undirected linked) {others : List α} {families : List (List α)}
    (hcomponents : IsComponents linked items clusters)
    (hothers : IsComponents linked others families) (hperm : items.Perm others) :
    (clusters.map Multiset.ofList).Perm
      (families.map Multiset.ofList) := by
  refine (List.perm_ext_iff_of_nodup (hcomponents.nodup hlinked) (hothers.nodup hlinked)).mpr ?_
  intro component
  have hjoined : Joined linked items = Joined linked others := by
    funext left right
    exact propext ⟨Joined.mono fun _ hmem => hperm.mem_iff.mp hmem,
      Joined.mono fun _ hmem => hperm.mem_iff.mpr hmem⟩
  rw [hcomponents.mem_map_iff hlinked, hothers.mem_map_iff hlinked, hjoined]
  refine exists_congr fun item => and_congr hperm.mem_iff ?_
  rw [Multiset.coe_eq_coe.mpr (hperm.filter _)]

end IsComponents

end MatchVet.Foundation.Components
