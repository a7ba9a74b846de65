import Mathlib.Data.List.Nodup
import Mathlib.Data.List.Perm.Basic
import Workflow.Proofs.Graph.WellFormed
import Workflow.Proofs.Tree

/-!
# The forest of a graph

The nodes of a graph name their parents; a forest has them nested. A forest is **the forest of
a graph** if its roots are the nodes at the top level and the children of each tree are the
nodes that stand in its root, all in the order of the graph. It is not asked that every node is
in it, or that no node is in it twice: for a well-formed graph both follow, by going up from a
node to the top level and counting.

## Main results

* `count_forestKeys_eq_one`: every node of a well-formed graph is in its forest exactly once.
* `IsForestOf.values_perm`: the values of the forest are the nodes, in another order.
* `IsForestOf.parent_eq`: a value of the forest stands in what it names as its parent.
* `IsForestOf.filter_values`: nodes with the same parent have kept their order.
-/

namespace Workflow.Graph

variable {g : Graph} {forest : List (Tree Node)}

/-- The forest of a graph: its nodes, nested as they name their parents. -/
structure IsForestOf (g : Graph) (forest : List (Tree Node)) : Prop where
  /-- The roots are the nodes at the top level. -/
  roots : forest.map Tree.value = g.topLevel
  /-- The children of a tree are the nodes that stand in its root. -/
  children : ∀ s ∈ Tree.forestPreorder forest,
    s.children.map Tree.value = g.childrenOf s.value.id

/-- The nodes of a forest, in pre-order. -/
def forestValues (forest : List (Tree Node)) : List Node :=
  (Tree.forestPreorder forest).map Tree.value

/-- The ids of a forest are those of its nodes. -/
theorem forestKeys_eq_map (forest : List (Tree Node)) :
    Tree.forestKeys Node.id forest = (forestValues forest).map (·.id) := by
  rw [Tree.forestKeys, forestValues, List.map_map]
  rfl

/-! ### Every node, once -/

/-- A node is among the children of what it names as its parent, and of nothing else. -/
theorem mem_childIds_iff (distinct : g.nodeIds.Nodup) {n : Node} (hn : n ∈ g.nodes)
    {id : String} : n.id ∈ g.childIds id ↔ n.parent? = some id := by
  rw [childIds, List.mem_map]
  constructor
  · rintro ⟨m, hm, same⟩
    obtain ⟨hm, hp⟩ := mem_childrenOf.1 hm
    rwa [← node_eq_of_id_eq distinct hm hn same]
  · exact fun hp => ⟨n, mem_childrenOf.2 ⟨hn, hp⟩, rfl⟩

/-- No node is twice among the children of another. -/
theorem nodup_childIds (distinct : g.nodeIds.Nodup) (id : String) : (g.childIds id).Nodup := by
  rw [childIds, childrenOf_eq_filter]
  exact distinct.sublist (List.filter_sublist.map _)

/-- How often a node is among the children of several others: as often as its parent is one of
them. -/
theorem count_flatMap_childIds (distinct : g.nodeIds.Nodup) {n : Node} (hn : n ∈ g.nodes)
    (ids : List String) :
    (ids.flatMap g.childIds).count n.id = (n.parent?.map fun p => ids.count p).getD 0 := by
  induction ids with
  | nil => cases n.parent? <;> rfl
  | cons id rest ih =>
    rw [List.flatMap_cons, List.count_append, ih, (nodup_childIds distinct id).count,
      if_congr (mem_childIds_iff distinct hn) rfl rfl]
    cases hp : n.parent? with
    | none => simp
    | some p =>
      by_cases here : id = p
      · simp [here, Nat.add_comm]
      · have other : some p ≠ some id := fun same => here (Option.some.inj same).symm
        simp [here, other]

/-- The ids of the forest of a graph are those of the top level and the children of all ids. -/
theorem IsForestOf.keys_perm (isForest : g.IsForestOf forest) :
    (Tree.forestKeys Node.id forest).Perm
      (g.topLevel.map (·.id) ++ (Tree.forestKeys Node.id forest).flatMap g.childIds) := by
  have whole := (Tree.forestPreorder_perm forest).map fun t => t.value.id
  have roots : forest.map (fun t => t.value.id) = g.topLevel.map (·.id) := by
    rw [← isForest.roots, List.map_map]
    rfl
  have inner : ((Tree.forestPreorder forest).flatMap Tree.children).map (fun t => t.value.id)
      = (Tree.forestKeys Node.id forest).flatMap g.childIds := by
    rw [List.map_flatMap, Tree.forestKeys, List.flatMap_map]
    refine List.flatMap_congr fun s hs => ?_
    rw [childIds, ← isForest.children s hs, List.map_map]
    rfl
  rwa [List.map_append, roots, inner] at whole

/-- **Every node of a well-formed graph is in its forest exactly once.** The induction goes up
the chain of parents, and counts in the pre-order what it counts among roots and children. -/
theorem count_forestKeys_eq_one (wf : g.WellFormed) (isForest : g.IsForestOf forest) {n : Node}
    (rooted : Rooted g n) : (Tree.forestKeys Node.id forest).count n.id = 1 := by
  have distinct := wf.nodeIds_nodup
  have top_nodup : (g.topLevel.map (·.id)).Nodup :=
    distinct.sublist (List.filter_sublist.map _)
  have at_top : ∀ m ∈ g.nodes, m.id ∈ g.topLevel.map (·.id) ↔ m.parent? = none := by
    intro m hm
    rw [List.mem_map]
    constructor
    · rintro ⟨k, hk, same⟩
      obtain ⟨hk, hp⟩ := mem_topLevel.1 hk
      rwa [← node_eq_of_id_eq distinct hk hm same]
    · exact fun hp => ⟨m, mem_topLevel.2 ⟨hm, hp⟩, rfl⟩
  induction rooted with
  | top hn hp =>
    rw [isForest.keys_perm.count_eq, List.count_append, count_flatMap_childIds distinct hn,
      top_nodup.count, if_pos ((at_top _ hn).2 hp), hp]
    rfl
  | child hn hp _ ih =>
    have below : ¬ _ ∈ g.topLevel.map (·.id) := fun h => by
      rw [(at_top _ hn).1 h] at hp
      cases hp
    rw [isForest.keys_perm.count_eq, List.count_append, count_flatMap_childIds distinct hn,
      top_nodup.count, if_neg below, hp]
    simpa using ih

/-- The forest of a graph holds nothing but nodes of the graph. -/
theorem IsForestOf.mem_nodes (isForest : g.IsForestOf forest) {t : Tree Node}
    (ht : t ∈ Tree.forestPreorder forest) : t.value ∈ g.nodes := by
  have held := (Tree.forestPreorder_perm forest).mem_iff.1 ht
  rcases List.mem_append.1 held with root | inner
  · have listed := List.mem_map_of_mem (f := Tree.value) root
    rw [isForest.roots] at listed
    exact (mem_topLevel.1 listed).1
  · obtain ⟨s, hs, hc⟩ := List.mem_flatMap.1 inner
    have listed := List.mem_map_of_mem (f := Tree.value) hc
    rw [isForest.children s hs] at listed
    exact (mem_childrenOf.1 listed).1

/-- What holds others in the forest of a well-formed graph is a container. -/
theorem IsForestOf.isContainer_of_children (isForest : g.IsForestOf forest) (wf : g.WellFormed)
    {t : Tree Node} (ht : t ∈ Tree.forestPreorder forest) (some_inside : t.children ≠ []) :
    isContainer t.value.type = true := by
  refine wf.isContainer_of_childrenOf (isForest.mem_nodes ht) ?_
  rwa [← isForest.children t ht, Ne, List.map_eq_nil_iff]

/-- Every node of a well-formed graph is in its forest. -/
theorem IsForestOf.mem_keys_iff (isForest : g.IsForestOf forest) (wf : g.WellFormed)
    {id : String} : id ∈ Tree.forestKeys Node.id forest ↔ id ∈ g.nodeIds := by
  constructor
  · intro hid
    obtain ⟨t, ht, rfl⟩ := List.mem_map.1 hid
    exact List.mem_map_of_mem (isForest.mem_nodes ht)
  · intro hid
    obtain ⟨n, hn, rfl⟩ := List.mem_map.1 hid
    rw [← List.count_pos_iff, count_forestKeys_eq_one wf isForest (wf.rooted n hn)]
    exact Nat.one_pos

/-- No id is twice in the forest of a well-formed graph. -/
theorem IsForestOf.nodup_keys (isForest : g.IsForestOf forest) (wf : g.WellFormed) :
    (Tree.forestKeys Node.id forest).Nodup := by
  rw [List.nodup_iff_count_le_one]
  intro id
  by_cases hid : id ∈ Tree.forestKeys Node.id forest
  · obtain ⟨n, hn, rfl⟩ := List.mem_map.1 ((isForest.mem_keys_iff wf).1 hid)
    exact Nat.le_of_eq (count_forestKeys_eq_one wf isForest (wf.rooted n hn))
  · rw [List.count_eq_zero_of_not_mem hid]
    exact Nat.zero_le 1

/-- **The values of the forest of a well-formed graph are its nodes**, in another order. -/
theorem IsForestOf.values_perm (isForest : g.IsForestOf forest) (wf : g.WellFormed) :
    (forestValues forest).Perm g.nodes := by
  have distinct := isForest.nodup_keys wf
  rw [forestKeys_eq_map] at distinct
  refine (List.perm_ext_iff_of_nodup distinct.of_map wf.nodeIdsDistinct.of_map).2 fun n => ?_
  constructor
  · intro hn
    obtain ⟨t, ht, rfl⟩ := List.mem_map.1 hn
    exact isForest.mem_nodes ht
  · intro hn
    have hid : n.id ∈ (forestValues forest).map (·.id) := by
      rw [← forestKeys_eq_map, isForest.mem_keys_iff wf]
      exact List.mem_map_of_mem hn
    obtain ⟨m, hm, same⟩ := List.mem_map.1 hid
    obtain ⟨t, ht, rfl⟩ := List.mem_map.1 hm
    rwa [← node_eq_of_id_eq wf.nodeIds_nodup (isForest.mem_nodes ht) hn same]

/-! ### Parents and order -/

/-- **A value of the forest of a graph stands in what it names as its parent.** -/
theorem IsForestOf.parent_eq (isForest : g.IsForestOf forest) {e : Node × Option Node}
    (he : e ∈ Tree.forestPlaced none forest) : e.1.parent? = e.2.map (·.id) := by
  rcases (Tree.mem_forestPlaced_iff forest).1 he with ⟨t, ht, rfl⟩ | ⟨s, hs, c, hc, rfl⟩
  · have listed := List.mem_map_of_mem (f := Tree.value) ht
    rw [isForest.roots] at listed
    exact (mem_topLevel.1 listed).2
  · have listed := List.mem_map_of_mem (f := Tree.value) hc
    rw [isForest.children s hs] at listed
    exact (mem_childrenOf.1 listed).2

/-- Nodes with the same parent stand together in the placement as in the forest. -/
theorem IsForestOf.filter_values_eq_under (isForest : g.IsForestOf forest)
    (parent? : Option String) :
    (forestValues forest).filter (·.parent? == parent?)
      = (Tree.under Node.id parent? (Tree.forestPlaced none forest)).map (·.1) := by
  rw [forestValues, ← Tree.forestPlaced_fst none forest, List.filter_map, Tree.under]
  refine congrArg _ (List.filter_congr fun e he => ?_)
  rw [Function.comp_apply, isForest.parent_eq he]

/-- **Nodes with the same parent have kept their order** in the forest of a well-formed
graph. -/
theorem IsForestOf.filter_values (isForest : g.IsForestOf forest) (wf : g.WellFormed)
    (parent? : Option String) :
    (forestValues forest).filter (·.parent? == parent?)
      = g.nodes.filter (·.parent? == parent?) := by
  cases parent? with
  | none =>
    have outside : ∀ k ∈ Tree.forestKeys Node.id forest,
        (none : Option Node).map Node.id ≠ some k := by simp
    have roots : Tree.under Node.id none (Tree.forestPlaced none forest)
        = forest.map fun t => (t.value, none) :=
      Tree.under_forestPlaced_roots outside
    rw [isForest.filter_values_eq_under, roots, List.map_map, ← g.topLevel_eq_filter]
    exact isForest.roots
  | some id =>
    by_cases hid : id ∈ Tree.forestKeys Node.id forest
    · obtain ⟨s, hs, rfl⟩ := List.mem_map.1 hid
      rw [isForest.filter_values_eq_under,
        Tree.under_forestPlaced (by simp) forest (isForest.nodup_keys wf) hs, List.map_map]
      exact (isForest.children s hs).trans (g.childrenOf_eq_filter _)
    · -- the parent of a node is a node, so that no node names `id`
      have unnamed : ∀ n ∈ g.nodes, ¬ (n.parent? == some id) = true := by
        intro n hn hp
        rw [beq_iff_eq] at hp
        exact hid ((isForest.mem_keys_iff wf).2 (wf.parentsExist n hn id hp))
      have held : ∀ n ∈ forestValues forest, n ∈ g.nodes :=
        fun n hn => (isForest.values_perm wf).subset hn
      rw [List.filter_eq_nil_iff.2 unnamed,
        List.filter_eq_nil_iff.2 fun n hn => unnamed n (held n hn)]

end Workflow.Graph
