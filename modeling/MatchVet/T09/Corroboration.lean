import Mathlib.Data.Multiset.Bind
import Mathlib.Data.Prod.Lex
import MatchVet.Foundation.Components
import MatchVet.Foundation.Grouping
import MatchVet.Foundation.KeySort
import MatchVet.T09.Facts

/-!
# Independent corroboration

Facts that say the same are counted once for each independent class: facts that
share an origin, a source row or an assertion belong together.  The classes are
collected in one pass that merges clusters as facts arrive.
-/

namespace MatchVet.T09.Corroboration

open MatchVet.Foundation.CanonicalJson
open MatchVet.Foundation.Components
open MatchVet.Foundation.Grouping
open MatchVet.Foundation.KeySort
open MatchVet.Foundation.Runtime
open MatchVet.T09.Facts

structure IndependentCorroboration where
  subjectId : String
  evidenceType : String
  predicate : String
  value : Json
  originIds : List String
  assertionIds : List String
  correlatedAssertionIds : List String
  correlationGroups : List String
  deriving DecidableEq

def IndependentCorroboration.independentOriginCount (entry : IndependentCorroboration) : ℕ :=
  entry.originIds.length

/-! ## Clusters -/

/-- The link between a new fact and a prior one. -/
def linked (fact prior : SourceFact) : Bool :=
  (fact.originId ≠ none && fact.originId = prior.originId) ||
    (fact.sourceRowKey ≠ none && fact.sourceRowKey = prior.sourceRowKey) ||
    fact.sourceAssertionIds.any fun assertion => prior.sourceAssertionIds.contains assertion

/-- Put a fact into the first cluster that it matches; the other matching clusters
are appended to that one and removed by list equality. -/
def place (clusters : List (List SourceFact)) (fact : SourceFact) : List (List SourceFact) :=
  match clusters.findIdx? (meets linked fact) with
  | none => clusters ++ [[fact]]
  | some position =>
      let matching := clusters.filter (meets linked fact)
      let merged := matching.tail.foldl
        (fun current other => (current.modify position (· ++ other)).erase other) clusters
      merged.modify position (· ++ [fact])

def clustersOf (members : List SourceFact) : List (List SourceFact) :=
  members.foldl place []

/-- The origin of a cluster: that of its first fact with one, by fact id. -/
def originOf (cluster : List SourceFact) : Option String :=
  (sortedOn SourceFact.factId cluster).findSome? SourceFact.originId

/-! ## Groups -/

/-- Subject, evidence type, predicate and the digest of the value. -/
abbrev GroupKey := String × String × String × String

/-- Tuples are compared from the left. -/
def keyOrder (key : GroupKey) : String ×ₗ String ×ₗ String ×ₗ String :=
  toLex (key.1, toLex (key.2.1, toLex (key.2.2.1, key.2.2.2)))

def groupKey [Hashing] (fact : SourceFact) : GroupKey :=
  (fact.subjectId, fact.evidenceType, fact.predicate, factValueDigest fact)

/-- Fresh known facts corroborate. -/
def counted (fact : SourceFact) : Bool := factIsKnown fact && fact.freshness = .fresh

/-- The value that an entry shows for a fact. -/
def shownValue (fact : SourceFact) : Json :=
  if fact.state = .observed then fact.value else .str fact.state.value

/-- What one group adds to the result. -/
def corroborationOf (key : GroupKey) (members : List SourceFact) :
    Option IndependentCorroboration :=
  match members with
  | first :: _ :: _ =>
      let clusters := clustersOf members
      let origins := (clusters.filterMap originOf).insertionSort (· ≤ ·)
      if origins.length < 2 then none
      else some {
        subjectId := key.1
        evidenceType := key.2.1
        predicate := key.2.2.1
        value := shownValue first
        originIds := origins
        assertionIds := (members.map SourceFact.factId).insertionSort (· ≤ ·)
        correlatedAssertionIds :=
          ((clusters.filter fun cluster => 1 < cluster.length).flatten.map
            SourceFact.factId).insertionSort (· ≤ ·)
        correlationGroups := sortedSet (members.flatMap SourceFact.correlationGroups) }
  | _ => none

/-- `EvidenceResearcher._corroboration`. -/
def corroboration [Hashing] (facts : List SourceFact) : List IndependentCorroboration :=
  let groups := groupsBy groupKey (facts.filter counted)
  (sortedOn (fun group => keyOrder group.1) groups).filterMap fun group =>
    corroborationOf group.1 group.2

/-! ## Clusters are components -/

theorem linked_undirected : Undirected linked where
  loop fact := by
    obtain ⟨assertion, hassertion⟩ := List.exists_mem_of_ne_nil _ fact.assertions_ne
    have hany : (fact.sourceAssertionIds.any fun assertion =>
        fact.sourceAssertionIds.contains assertion) = true :=
      List.any_eq_true.mpr ⟨assertion, hassertion, List.contains_iff_mem.mpr hassertion⟩
    rw [linked, hany, Bool.or_true]
  symmetric first second := by
    have hfield : ∀ left right : Option String,
        (decide (left ≠ none) && decide (left = right)) =
          (decide (right ≠ none) && decide (right = left)) := by
      intro left right
      rw [Bool.eq_iff_iff]
      simp only [Bool.and_eq_true, decide_eq_true_eq]
      constructor
      · rintro ⟨hsome, rfl⟩
        exact ⟨hsome, rfl⟩
      · rintro ⟨hsome, rfl⟩
        exact ⟨hsome, rfl⟩
    have hassertions : (first.sourceAssertionIds.any fun assertion =>
        second.sourceAssertionIds.contains assertion) =
        second.sourceAssertionIds.any fun assertion =>
          first.sourceAssertionIds.contains assertion := by
      rw [Bool.eq_iff_iff, List.any_eq_true, List.any_eq_true]
      simp only [List.contains_iff_mem]
      exact exists_congr fun _ => and_comm
    rw [linked, linked, hfield first.originId, hfield first.sourceRowKey, hassertions]

theorem modify_append {α : Type*} (before after : List α) (item : α) (f : α → α) :
    (before ++ item :: after).modify before.length f = before ++ f item :: after := by
  induction before with
  | nil => rfl
  | cons first rest ih => exact congrArg (first :: ·) ih

/-- Appending and removing the later matching clusters one by one. -/
theorem foldl_merge {fact : SourceFact} {before : List (List SourceFact)}
    (hbefore : ∀ cluster ∈ before, meets linked fact cluster = false)
    {cluster : List SourceFact} (hcluster : cluster ≠ []) {kept : List (List SourceFact)}
    (hkept : ∀ other ∈ kept, meets linked fact other = false) (rest : List (List SourceFact)) :
    (rest.filter (meets linked fact)).foldl
        (fun current other => (current.modify before.length (· ++ other)).erase other)
        (before ++ cluster :: (kept ++ rest)) =
      before ++ (cluster ++ (rest.filter (meets linked fact)).flatten) ::
        (kept ++ rest.filter fun other => !meets linked fact other) := by
  induction rest generalizing cluster kept with
  | nil => simp
  | cons other rest ih =>
      cases hmeets : meets linked fact other with
      | false =>
          have hall : ∀ item ∈ kept ++ [other], meets linked fact item = false := by
            intro item hitem
            rcases List.mem_append.mp hitem with hold | hnew
            · exact hkept item hold
            · exact List.mem_singleton.mp hnew ▸ hmeets
          have hih := ih hcluster hall
          rw [List.append_assoc, List.append_assoc, List.singleton_append,
            List.singleton_append] at hih
          rw [List.filter_cons_of_neg (by simp [hmeets]), hih,
            List.filter_cons_of_pos (by simp [hmeets])]
      | true =>
          have hfresh : ∀ others : List (List SourceFact),
              (∀ item ∈ others, meets linked fact item = false) → other ∉ others := by
            intro others hothers hmem
            exact Bool.false_ne_true ((hothers other hmem).symm.trans hmeets)
          have hlonger : cluster ++ other ≠ other := by
            intro heq
            have hlength := congrArg List.length heq
            rw [List.length_append] at hlength
            exact hcluster (List.length_eq_zero_iff.mp (by omega))
          have hjoined : cluster ++ other ≠ [] := by simp [hcluster]
          rw [List.filter_cons_of_pos hmeets, List.foldl_cons, modify_append,
            List.erase_append_right _ (hfresh before hbefore), List.erase_cons_tail (by simpa using hlonger),
            List.erase_append_right _ (hfresh kept hkept), List.erase_cons_head,
            ih hjoined hkept, List.filter_cons_of_neg (by simp [hmeets]), List.flatten_cons,
            List.append_assoc]

/-- A position found splits the list at the first match. -/
theorem split_of_findIdx? {α : Type*} {test : α → Bool} {items : List α} {position : ℕ}
    (hfound : items.findIdx? test = some position) :
    ∃ before item after, items = before ++ item :: after ∧ before.length = position ∧
      test item = true ∧ ∀ other ∈ before, test other = false := by
  induction items generalizing position with
  | nil => cases hfound
  | cons first rest ih =>
      rw [List.findIdx?_cons] at hfound
      cases hfirst : test first with
      | true =>
          rw [hfirst, if_pos rfl] at hfound
          obtain rfl : 0 = position := Option.some.inj hfound
          exact ⟨[], first, rest, rfl, rfl, hfirst, by simp⟩
      | false =>
          rw [hfirst, if_neg Bool.false_ne_true] at hfound
          obtain ⟨index, hindex, rfl⟩ := Option.map_eq_some_iff.mp hfound
          obtain ⟨before, item, after, rfl, rfl, hitem, hbefore⟩ := ih hindex
          refine ⟨first :: before, item, after, rfl, rfl, hitem, ?_⟩
          intro other hother
          rcases List.mem_cons.mp hother with rfl | hother
          · exact hfirst
          · exact hbefore other hother

/-- A placed fact merges exactly the clusters that it meets. -/
theorem place_perm {clusters : List (List SourceFact)}
    (hnonempty : ∀ cluster ∈ clusters, cluster ≠ []) (fact : SourceFact) :
    (place clusters fact).Perm (absorb linked clusters fact) := by
  unfold place
  cases hfound : clusters.findIdx? (meets linked fact) with
  | none =>
      have hunmet := List.findIdx?_eq_none_iff.mp hfound
      have hnone : clusters.filter (meets linked fact) = [] :=
        List.filter_eq_nil_iff.mpr fun cluster hcluster => by simp [hunmet cluster hcluster]
      have hall : clusters.filter (fun cluster => !meets linked fact cluster) = clusters :=
        List.filter_eq_self.mpr fun cluster hcluster => by simp [hunmet cluster hcluster]
      rw [absorb, hnone, hall]
      exact List.perm_append_comm
  | some position =>
      obtain ⟨before, cluster, after, rfl, rfl, hmeets, hbefore⟩ := split_of_findIdx? hfound
      have hcluster : cluster ≠ [] := hnonempty cluster (by simp)
      have hnone : before.filter (meets linked fact) = [] :=
        List.filter_eq_nil_iff.mpr fun other hother => by simp [hbefore other hother]
      have hall : before.filter (fun other => !meets linked fact other) = before :=
        List.filter_eq_self.mpr fun other hother => by simp [hbefore other hother]
      have hmatching : (before ++ cluster :: after).filter (meets linked fact) =
          cluster :: after.filter (meets linked fact) := by
        rw [List.filter_append, hnone, List.nil_append, List.filter_cons_of_pos hmeets]
      have hothers : (before ++ cluster :: after).filter (fun other => !meets linked fact other) =
          before ++ after.filter fun other => !meets linked fact other := by
        rw [List.filter_append, hall, List.filter_cons_of_neg (by simp [hmeets])]
      have hmerged := foldl_merge hbefore hcluster
        (fun other (hother : other ∈ []) => absurd hother List.not_mem_nil) after
      rw [List.nil_append, List.nil_append] at hmerged
      dsimp only
      rw [hmatching, List.tail_cons, hmerged, modify_append, absorb, hmatching, hothers,
        List.flatten_cons]
      exact List.perm_middle

/-- The clusters of some facts are their connected components. -/
theorem clustersOf_components (members : List SourceFact) :
    IsComponents linked members (clustersOf members) := by
  induction members using List.reverseRecOn with
  | nil => exact IsComponents.nil
  | append_singleton members fact ih =>
      have hstep : clustersOf (members ++ [fact]) = place (clustersOf members) fact := by
        rw [clustersOf, List.foldl_append, List.foldl_cons, List.foldl_nil, clustersOf]
      rw [hstep]
      exact (ih.absorb linked_undirected fact).perm linked_undirected
        (place_perm ih.nonempty fact).symm

/-! ## Origins -/

/-- A cluster with a fact that names its origin. -/
def HasOrigin (cluster : List SourceFact) : Prop := ∃ fact ∈ cluster, fact.originId ≠ none

/-- The origins of the components of some facts. -/
def independentOrigins (members : List SourceFact) : List String :=
  (clustersOf members).filterMap originOf

theorem originOf_eq_none {cluster : List SourceFact} :
    originOf cluster = none ↔ ¬HasOrigin cluster := by
  rw [originOf, List.findSome?_eq_none_iff, HasOrigin]
  push Not
  exact forall_congr' fun fact => by rw [(sortedOn_perm SourceFact.factId cluster).mem_iff]

theorem originOf_isSome {cluster : List SourceFact} :
    (originOf cluster).isSome ↔ HasOrigin cluster := by
  rw [Option.isSome_iff_ne_none, ne_eq, originOf_eq_none, not_not]

theorem exists_of_originOf {cluster : List SourceFact} {origin : String}
    (horigin : originOf cluster = some origin) :
    ∃ fact ∈ cluster, fact.originId = some origin := by
  obtain ⟨fact, hfact, heq⟩ := List.exists_of_findSome?_eq_some horigin
  exact ⟨fact, (sortedOn_perm SourceFact.factId cluster).mem_iff.mp hfact, heq⟩

/-- Facts of one origin are linked. -/
theorem linked_of_origin {first second : SourceFact} {origin : String}
    (hfirst : first.originId = some origin) (hsecond : second.originId = some origin) :
    linked first second = true := by
  simp [linked, hfirst, hsecond]

/-- Components have different origins. -/
theorem independentOrigins_nodup (members : List SourceFact) :
    (independentOrigins members).Nodup := by
  refine List.Pairwise.filterMap originOf ?_ (clustersOf_components members).apart
  intro first second hapart left hleft right hright heq
  obtain ⟨fact, hfact, horigin⟩ := exists_of_originOf hleft
  obtain ⟨other, hother, hsame⟩ := exists_of_originOf hright
  have hlink := linked_of_origin horigin (heq ▸ hsame)
  exact Bool.false_ne_true ((hapart fact hfact other hother).symm.trans hlink)

/-- A component with an origin is represented by exactly one of the origins. -/
theorem independentOrigins_unique {members cluster : List SourceFact}
    (hcluster : cluster ∈ clustersOf members) (horigin : HasOrigin cluster) :
    ∃! origin, origin ∈ independentOrigins members ∧
      ∃ fact ∈ cluster, fact.originId = some origin := by
  obtain ⟨origin, hfound⟩ := Option.isSome_iff_exists.mp (originOf_isSome.mpr horigin)
  refine ⟨origin, ⟨List.mem_filterMap.mpr ⟨cluster, hcluster, hfound⟩, exists_of_originOf hfound⟩,
    ?_⟩
  rintro other ⟨hother, fact, hfact, hsame⟩
  obtain ⟨represented, hrepresented, hchosen⟩ := List.mem_filterMap.mp hother
  obtain ⟨chosen, hmem, hchosenOrigin⟩ := exists_of_originOf hchosen
  have hlink := linked_of_origin hsame hchosenOrigin
  have hsymmetric : Std.Symm (Apart linked) :=
    ⟨fun _ _ hapart => hapart.symm linked_undirected⟩
  have heq : cluster = represented := by
    by_contra hne
    have hapart : Apart linked cluster represented :=
      (clustersOf_components members).apart.forall hcluster hrepresented hne
    exact Bool.false_ne_true ((hapart fact hfact chosen hmem).symm.trans hlink)
  exact Option.some.inj (hchosen.symm.trans (heq ▸ hfound))

/-! ## The order of the facts -/

/-- One fact id names one fact. -/
def UniqueIds (facts : List SourceFact) : Prop :=
  ∀ first ∈ facts, ∀ second ∈ facts, first.factId = second.factId → first = second

theorem originOf_perm {first second : List SourceFact} (hunique : UniqueIds first)
    (hperm : first.Perm second) : originOf first = originOf second := by
  rw [originOf, originOf, sortedOn_eq_of_perm SourceFact.factId hperm hunique]

theorem origins_perm {first second : List (List SourceFact)}
    (hunique : ∀ cluster ∈ first ++ second, UniqueIds cluster)
    (hperm : (first.map Multiset.ofList).Perm (second.map Multiset.ofList)) :
    (first.filterMap originOf).Perm (second.filterMap originOf) := by
  have hlift : ∀ clusters : List (List SourceFact), (∀ cluster ∈ clusters, UniqueIds cluster) →
      clusters.filterMap originOf =
        (clusters.map Multiset.ofList).filterMap fun component => originOf component.toList := by
    intro clusters hclusters
    rw [List.filterMap_map]
    refine List.filterMap_congr fun cluster hcluster => ?_
    exact originOf_perm (hclusters cluster hcluster)
      (Multiset.coe_eq_coe.mp (Multiset.coe_toList _).symm)
  rw [hlift first fun cluster hcluster => hunique cluster (List.mem_append_left _ hcluster),
    hlift second fun cluster hcluster => hunique cluster (List.mem_append_right _ hcluster)]
  exact hperm.filterMap _

/-- The facts of the clusters with several facts. -/
def correlated (clusters : List (List SourceFact)) : List SourceFact :=
  (clusters.filter fun cluster => 1 < cluster.length).flatten

theorem correlated_perm {first second : List (List SourceFact)}
    (hperm : (first.map Multiset.ofList).Perm (second.map Multiset.ofList)) :
    (correlated first).Perm (correlated second) := by
  have hlift : ∀ clusters : List (List SourceFact),
      (correlated clusters : Multiset SourceFact) =
        Multiset.join (Multiset.ofList
          ((clusters.map Multiset.ofList).filter fun component => 1 < component.card)) := by
    intro clusters
    rw [correlated, List.filter_map, Multiset.coe_join]
    rfl
  refine Multiset.coe_eq_coe.mp ?_
  rw [hlift, hlift, Multiset.coe_eq_coe.mpr (hperm.filter _)]

theorem sortedSet_eq_of_perm {first second : List String} (hperm : first.Perm second) :
    sortedSet first = sortedSet second :=
  insertionSort_eq_of_perm hperm.dedup

/-- A group gives the same entry in every order of its facts. -/
theorem corroborationOf_perm {key : GroupKey} {first second : List SourceFact}
    (hunique : UniqueIds first)
    (hvalue : ∀ left ∈ first, ∀ right ∈ first, shownValue left = shownValue right)
    (hperm : first.Perm second) : corroborationOf key first = corroborationOf key second := by
  have hcomponents := (clustersOf_components first).unique linked_undirected
    (clustersOf_components second) hperm
  have hclusters : ∀ cluster ∈ clustersOf first ++ clustersOf second, UniqueIds cluster := by
    intro cluster hcluster left hleft right hright
    rcases List.mem_append.mp hcluster with hmem | hmem
    · exact hunique left ((clustersOf_components first).mem_items hmem hleft) right
        ((clustersOf_components first).mem_items hmem hright)
    · exact hunique left (hperm.mem_iff.mpr ((clustersOf_components second).mem_items hmem hleft))
        right (hperm.mem_iff.mpr ((clustersOf_components second).mem_items hmem hright))
  have horigins := insertionSort_eq_of_perm (origins_perm hclusters hcomponents)
  have hcorrelated := insertionSort_eq_of_perm
    ((correlated_perm hcomponents).map SourceFact.factId)
  have hassertions := insertionSort_eq_of_perm (hperm.map SourceFact.factId)
  have hgroups := sortedSet_eq_of_perm (hperm.flatMap_right SourceFact.correlationGroups)
  have hlength := hperm.length_eq
  match first, second with
  | [], [] => rfl
  | [_], [_] => rfl
  | left :: one :: rest, right :: two :: others =>
      have hshown : shownValue left = shownValue right :=
        hvalue left (by simp) right (hperm.mem_iff.mpr (by simp))
      unfold correlated at hcorrelated
      dsimp only [corroborationOf]
      rw [horigins, hcorrelated, hassertions, hgroups, hshown]
  | [], _ :: _ => simp at hlength
  | _ :: _, [] => simp at hlength
  | [_], _ :: _ :: _ => simp at hlength
  | _ :: _ :: _, [_] => simp at hlength

/-! ## One more fact -/

theorem length_independentOrigins (members : List SourceFact) :
    (independentOrigins members).length =
      (clustersOf members).countP fun cluster => (originOf cluster).isSome :=
  List.length_filterMap_eq_countP

/-- A fact adds an origin only to a component that had none. -/
theorem independentOrigins_append_le {members : List SourceFact} {fact : SourceFact}
    (hcomponent : fact.originId = none ∨ ∃ prior ∈ members,
      Joined linked (members ++ [fact]) fact prior ∧ prior.originId ≠ none) :
    (independentOrigins (members ++ [fact])).length ≤ (independentOrigins members).length := by
  have hold := clustersOf_components members
  have hmerged := hold.absorb linked_undirected fact
  have hstep : clustersOf (members ++ [fact]) = place (clustersOf members) fact := by
    rw [clustersOf, List.foldl_append, List.foldl_cons, List.foldl_nil, clustersOf]
  have hperm := place_perm hold.nonempty fact
  rw [length_independentOrigins, length_independentOrigins, hstep, hperm.countP_eq, absorb,
    List.countP_cons,
    List.countP_eq_countP_filter_add (clustersOf members)
      (fun cluster => (originOf cluster).isSome) (meets linked fact), Nat.add_comm]
  refine Nat.add_le_add_right ?_ _
  split
  next hsome =>
    obtain ⟨holder, hholder, horigin⟩ := originOf_isSome.mp hsome
    obtain ⟨prior, hprior, hpriorOrigin⟩ :
        ∃ prior ∈ ((clustersOf members).filter (meets linked fact)).flatten,
          prior.originId ≠ none := by
      rcases List.mem_append.mp hholder with hmem | hmem
      · exact ⟨holder, hmem, horigin⟩
      · obtain rfl := List.mem_singleton.mp hmem
        rcases hcomponent with hnone | ⟨prior, hprior, hjoined, hpriorOrigin⟩
        · exact absurd hnone horigin
        · refine ⟨prior, ?_, hpriorOrigin⟩
          have hhead : prior ∈
              ((clustersOf members).filter (meets linked holder)).flatten ++ [holder] :=
            (hmerged.mem_iff_of_joined linked_undirected List.mem_cons_self hjoined).mp
              (by simp)
          rcases List.mem_append.mp hhead with hin | hself
          · exact hin
          · obtain rfl := List.mem_singleton.mp hself
            obtain ⟨cluster, hcluster, hin⟩ := hold.exists_cluster hprior
            exact List.mem_flatten.mpr ⟨cluster, List.mem_filter.mpr
              ⟨hcluster, meets_eq_true.mpr ⟨prior, hin, linked_undirected.loop prior⟩⟩, hin⟩
    obtain ⟨cluster, hcluster, hin⟩ := List.mem_flatten.mp hprior
    exact List.countP_pos_iff.mpr
      ⟨cluster, hcluster, originOf_isSome.mpr ⟨prior, hin, hpriorOrigin⟩⟩
  next => exact Nat.zero_le _

/-! ## The result -/

section Result

variable [Hashing]

/-- The facts of one group. -/
def groupMembers (facts : List SourceFact) (key : GroupKey) : List SourceFact :=
  (facts.filter counted).filter fun fact => groupKey fact = key

omit [Hashing] in
theorem keyOrder_injective : Function.Injective keyOrder := by
  rintro ⟨a, b, c, d⟩ ⟨a', b', c', d'⟩ heq
  simpa [keyOrder] using heq

/-- The result lists the entries of the groups in the order of their keys. -/
theorem corroboration_eq (facts : List SourceFact) :
    ∃ keys : List GroupKey, keys.Nodup ∧
      (∀ key, key ∈ keys ↔ ∃ fact ∈ facts.filter counted, groupKey fact = key) ∧
      corroboration facts = (sortedOn keyOrder keys).filterMap fun key =>
        corroborationOf key (groupMembers facts key) := by
  obtain ⟨keys, hnodup, hkeys, hgroups⟩ := groupsBy_spec groupKey (facts.filter counted)
  refine ⟨keys, hnodup, hkeys, ?_⟩
  rw [corroboration, hgroups]
  change (sortedOn _ (keys.map fun key => (key, groupMembers facts key))).filterMap _ = _
  rw [sortedOn_map, List.filterMap_map]
  rfl

theorem exists_fact_of_entry {facts : List SourceFact} {key : GroupKey}
    {entry : IndependentCorroboration}
    (hentry : corroborationOf key (groupMembers facts key) = some entry) :
    ∃ fact ∈ facts.filter counted, groupKey fact = key := by
  have hmembers : groupMembers facts key ≠ [] := by
    intro hnil
    rw [hnil] at hentry
    cases hentry
  obtain ⟨fact, hfact⟩ := List.exists_mem_of_ne_nil _ hmembers
  obtain ⟨hmem, hkey⟩ := List.mem_filter.mp hfact
  exact ⟨fact, hmem, of_decide_eq_true hkey⟩

theorem mem_corroboration {facts : List SourceFact} {entry : IndependentCorroboration} :
    entry ∈ corroboration facts ↔
      ∃ key, corroborationOf key (groupMembers facts key) = some entry := by
  obtain ⟨keys, -, hkeys, heq⟩ := corroboration_eq facts
  rw [heq, List.mem_filterMap]
  constructor
  · rintro ⟨key, _, hentry⟩
    exact ⟨key, hentry⟩
  · rintro ⟨key, hentry⟩
    refine ⟨key, (sortedOn_perm keyOrder keys).mem_iff.mpr ?_, hentry⟩
    exact (hkeys key).mpr (exists_fact_of_entry hentry)

/-- The result does not depend on the order of the facts. -/
theorem corroboration_perm (hcollision : Function.Injective sha256) {first second : List SourceFact}
    (hunique : UniqueIds first) (hperm : first.Perm second) :
    corroboration first = corroboration second := by
  obtain ⟨keys, hnodup, hkeys, hfirst⟩ := corroboration_eq first
  obtain ⟨others, hothers, hotherKeys, hsecond⟩ := corroboration_eq second
  have hsame : keys.Perm others := by
    refine (List.perm_ext_iff_of_nodup hnodup hothers).mpr fun key => ?_
    rw [hkeys, hotherKeys]
    exact exists_congr fun fact => and_congr_left' (hperm.filter counted).mem_iff
  rw [hfirst, hsecond, sortedOn_eq_of_perm keyOrder hsame fun _ _ _ _ heq => keyOrder_injective heq]
  refine List.filterMap_congr fun key _ => ?_
  have hmember : ∀ fact ∈ groupMembers first key, fact ∈ first ∧ groupKey fact = key := by
    intro fact hfact
    obtain ⟨hmem, hkey⟩ := List.mem_filter.mp hfact
    exact ⟨(List.mem_filter.mp hmem).1, of_decide_eq_true hkey⟩
  refine corroborationOf_perm ?_ ?_ ((hperm.filter counted).filter _)
  · intro left hleft right hright
    exact hunique left (hmember left hleft).1 right (hmember right hright).1
  · intro left hleft right hright
    have hkey := (hmember left hleft).2.trans (hmember right hright).2.symm
    have hdigest : factValueDigest left = factValueDigest right :=
      congrArg (fun key => key.2.2.2) hkey
    obtain ⟨hstate, hvalue⟩ := factValueDigest_inj hcollision hdigest
    rw [shownValue, shownValue, hstate, hvalue]

/-- What an entry tells of the components of its group. -/
structure EntryOf (key : GroupKey) (members : List SourceFact)
    (entry : IndependentCorroboration) : Prop where
  subject : (entry.subjectId, entry.evidenceType, entry.predicate) = (key.1, key.2.1, key.2.2.1)
  nodup : entry.originIds.Nodup
  unique : ∀ cluster ∈ clustersOf members, HasOrigin cluster →
    ∃! origin, origin ∈ entry.originIds ∧ ∃ fact ∈ cluster, fact.originId = some origin
  represents : ∀ origin ∈ entry.originIds, ∃ cluster ∈ clustersOf members,
    ∃ fact ∈ cluster, fact.originId = some origin
  correlated : entry.correlatedAssertionIds.Perm
    ((correlated (clustersOf members)).map SourceFact.factId)

omit [Hashing] in
theorem origins_length (origins : List String) :
    (origins.insertionSort (· ≤ ·)).length = origins.length :=
  (List.perm_insertionSort (· ≤ ·) origins).length_eq

omit [Hashing] in
/-- An entry is reported exactly for two components with an origin. -/
theorem corroborationOf_isSome {key : GroupKey} {members : List SourceFact} :
    (∃ entry, corroborationOf key members = some entry) ↔
      2 ≤ (clustersOf members).countP fun cluster =>
        cluster.any fun fact => fact.originId ≠ none := by
  have hcount : ((clustersOf members).countP fun cluster =>
      cluster.any fun fact => fact.originId ≠ none) = (independentOrigins members).length := by
    rw [length_independentOrigins]
    refine List.countP_congr fun cluster _ => ?_
    rw [originOf_isSome, List.any_eq_true]
    simp [HasOrigin]
  rw [hcount]
  match members with
  | [] => exact iff_of_false (by simp [corroborationOf]) (by simp [independentOrigins, clustersOf])
  | [only] =>
      refine iff_of_false (by simp [corroborationOf]) ?_
      have hle : (independentOrigins [only]).length ≤ (clustersOf [only]).length :=
        List.length_filterMap_le _ _
      exact not_le.mpr (hle.trans_lt (by simp [clustersOf, place]))
  | first :: second :: rest =>
      dsimp only [corroborationOf]
      split
      next hfew =>
        rw [origins_length] at hfew
        exact iff_of_false (by simp) (not_le.mpr hfew)
      next hmany =>
        rw [origins_length] at hmany
        exact iff_of_true ⟨_, rfl⟩ (not_lt.mp hmany)

omit [Hashing] in
theorem entryOf {key : GroupKey} {members : List SourceFact} {entry : IndependentCorroboration}
    (hentry : corroborationOf key members = some entry) : EntryOf key members entry := by
  match members with
  | [] => cases hentry
  | [_] => cases hentry
  | first :: second :: rest =>
      dsimp only [corroborationOf] at hentry
      split at hentry
      next => cases hentry
      next =>
        obtain rfl := Option.some.inj hentry
        have horigins : ∀ origin, origin ∈ List.insertionSort (· ≤ ·)
            ((clustersOf (first :: second :: rest)).filterMap originOf) ↔
              origin ∈ independentOrigins (first :: second :: rest) :=
          fun origin => List.mem_insertionSort (· ≤ ·)
        refine ⟨rfl, ?_, ?_, ?_, List.perm_insertionSort _ _⟩
        · exact (List.perm_insertionSort (· ≤ ·) _).nodup_iff.mpr (independentOrigins_nodup _)
        · intro cluster hcluster horigin
          have hunique := independentOrigins_unique hcluster horigin
          simpa only [horigins] using hunique
        · intro origin horigin
          obtain ⟨cluster, hcluster, hfound⟩ := List.mem_filterMap.mp ((horigins origin).mp horigin)
          exact ⟨cluster, hcluster, exists_of_originOf hfound⟩

/-- Corroboration counts the independent classes of every group of fresh known facts. -/
theorem corroboration_classes (facts : List SourceFact) :
    (∀ key, IsComponents linked (groupMembers facts key) (clustersOf (groupMembers facts key)) ∧
      (∀ cluster ∈ clustersOf (groupMembers facts key), ∀ fact ∈ cluster, ∀ other,
        other ∈ cluster ↔ other ∈ groupMembers facts key ∧
          Joined linked (groupMembers facts key) fact other) ∧
      ((∃ entry, corroborationOf key (groupMembers facts key) = some entry) ↔
        2 ≤ (clustersOf (groupMembers facts key)).countP fun cluster =>
          cluster.any fun fact => fact.originId ≠ none) ∧
      ∀ entry, corroborationOf key (groupMembers facts key) = some entry →
        EntryOf key (groupMembers facts key) entry) ∧
    (∀ entry, entry ∈ corroboration facts ↔
      ∃ key, corroborationOf key (groupMembers facts key) = some entry) ∧
    (Function.Injective (sha256 : List Token → String) → UniqueIds facts → ∀ others,
      facts.Perm others → corroboration facts = corroboration others) ∧
    ∀ fact, counted fact = true →
      (fact.originId = none ∨ ∃ prior ∈ groupMembers facts (groupKey fact),
        Joined linked (groupMembers (facts ++ [fact]) (groupKey fact)) fact prior ∧
          prior.originId ≠ none) →
      (independentOrigins (groupMembers (facts ++ [fact]) (groupKey fact))).length ≤
        (independentOrigins (groupMembers facts (groupKey fact))).length := by
  refine ⟨fun key => ⟨clustersOf_components _, ?_, corroborationOf_isSome, fun entry => entryOf⟩,
    fun entry => mem_corroboration, ?_, ?_⟩
  · intro cluster hcluster fact hfact other
    exact (clustersOf_components _).mem_iff linked_undirected hcluster hfact
  · intro hcollision hunique others hperm
    exact corroboration_perm hcollision hunique hperm
  · intro fact hcounted hcomponent
    have happend : groupMembers (facts ++ [fact]) (groupKey fact) =
        groupMembers facts (groupKey fact) ++ [fact] := by
      rw [groupMembers, List.filter_append, List.filter_append, groupMembers]
      simp [hcounted]
    rw [happend] at hcomponent ⊢
    exact independentOrigins_append_le hcomponent

end Result

/-! ## Two facts under one id -/

namespace SharedId

/-- An observed fact about a player, fresh at the cutoff. -/
def observed (factId origin assertion : String) : SourceFact where
  factId := factId
  subjectId := "player-1"
  evidenceType := "AVAILABILITY"
  predicate := "status"
  state := .observed
  value := .str "OUT"
  evidenceClass := .context
  sourceKey := "press"
  originId := some origin
  sourceAssertionIds := [assertion]
  sourceDigest := none
  publishedAtUtc := none
  observedAtUtc := none
  retrievedAtUtc := none
  eventTimeUtc := none
  effectiveTimeUtc := none
  cutoffEligibility := .cutoffValid
  sourceRowKey := none
  correlationGroups := []
  unknownReason := none
  affirmativeBasis := none
  authorityRank := 900
  provenance := .object []
  freshness := .fresh
  ageSecondsAtCutoff := none
  ageSecondsAtKickoff := none
  observed_value := by decide
  other_value := by decide
  assertions_sorted := by simp [sortedSet]
  assertions_ne := by simp

def facts : List SourceFact :=
  [observed "fact-1" "agency" "note-1", observed "fact-1" "club" "note-1",
    observed "fact-2" "league" "note-2"]

def swapped : List SourceFact :=
  [observed "fact-1" "club" "note-1", observed "fact-1" "agency" "note-1",
    observed "fact-2" "league" "note-2"]

/-- Two facts of one id in one component: the first of them in the list names the
origin, so the result depends on the order. -/
theorem corroboration_ordered :
    ¬∀ (_ : Hashing) (first second : List SourceFact), first.Perm second →
      corroboration first = corroboration second := by
  intro hclaim
  have heq := hclaim textHashing facts swapped (List.Perm.swap _ _ _)
  have horigins := congrArg (fun result => result.map IndependentCorroboration.originIds) heq
  revert horigins
  decide +kernel

end SharedId

end MatchVet.T09.Corroboration
