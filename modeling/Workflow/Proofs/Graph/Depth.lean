import Workflow.Proofs.Graph.Acceptance
import Workflow.Proofs.Graph.Forest

/-!
# How deep nodes stand

The depth of a node is the number of containers it stands in, counted by the walk upwards. In a
well-formed graph it grows by one from a container to what stands in it, so that the depth of a
node is also the number of steps from its tree's root in the forest of the graph.

## Main results

* `depth_eq_zero`, `depth_eq_succ`: the depth at the top level, and inside a container.
* `depth_lt_length`: no node stands deeper than there are other nodes.
* `IsForestOf.depth_child`: in the forest of a graph the depth grows by one with every level.
-/

namespace Workflow.Graph

variable {g : Graph} {forest : List (Tree Node)}

/-- How many containers a node stands in. -/
def depth (g : Graph) (n : Node) : Nat :=
  (g.ancestors n.id).length

/-- With distinct ids, a node without a parent stands in nothing. -/
theorem depth_eq_zero (distinct : g.nodeIds.Nodup) {n : Node} (hn : n ∈ g.nodes)
    (top : n.parent? = none) : g.depth n = 0 := by
  rw [depth, ancestors, parentOf?_eq distinct hn, top]
  rfl

/-- The containers of a node are its parent and the containers of its parent. -/
theorem ancestors_perm_cons (wf : g.WellFormed) {n m : Node} (hn : n ∈ g.nodes)
    (hm : m ∈ g.nodes) (hp : n.parent? = some m.id) :
    (g.ancestors n.id).Perm (m.id :: g.ancestors m.id) := by
  have apart : m.id ∉ g.ancestors m.id :=
    fun loop => wf.acyclic hm (inside_of_mem_ancestors loop)
  refine (List.perm_ext_iff_of_nodup (g.nodup_ancestors _)
    (List.nodup_cons.2 ⟨apart, g.nodup_ancestors _⟩)).2 fun top => ?_
  have distinct := wf.nodeIds_nodup
  have exist := wf.parentsExist
  rw [mem_ancestors_iff_inside distinct exist, inside_iff distinct hn, List.mem_cons,
    mem_ancestors_iff_inside distinct exist]
  simp [hp, eq_comm]

/-- **A node stands one deeper than its parent.** -/
theorem depth_eq_succ (wf : g.WellFormed) {n m : Node} (hn : n ∈ g.nodes) (hm : m ∈ g.nodes)
    (hp : n.parent? = some m.id) : g.depth n = g.depth m + 1 :=
  (ancestors_perm_cons wf hn hm hp).length_eq

/-- No node stands deeper than there are other nodes. -/
theorem depth_lt_length (wf : g.WellFormed) {n : Node} (hn : n ∈ g.nodes) :
    g.depth n < g.nodes.length := by
  have distinct : (n.id :: g.ancestors n.id).Nodup :=
    List.nodup_cons.2 ⟨fun loop => wf.acyclic hn (inside_of_mem_ancestors loop),
      g.nodup_ancestors _⟩
  have known : n.id :: g.ancestors n.id ⊆ g.nodeIds := by
    intro id hid
    rcases List.mem_cons.1 hid with rfl | above
    · exact List.mem_map_of_mem hn
    · exact (inside_of_mem_ancestors above).mem_nodeIds wf.parentsExist
  have room := distinct.length_le_of_subset known
  rwa [nodeIds, List.length_map] at room

/-- **In the forest of a graph the depth grows by one** from a tree to its children. -/
theorem IsForestOf.depth_child (isForest : g.IsForestOf forest) (wf : g.WellFormed)
    {s c : Tree Node} (hs : s ∈ Tree.forestPreorder forest) (hc : c ∈ s.children) :
    g.depth c.value = g.depth s.value + 1 := by
  have listed := List.mem_map_of_mem (f := Tree.value) hc
  rw [isForest.children s hs] at listed
  obtain ⟨hn, hp⟩ := mem_childrenOf.1 listed
  exact depth_eq_succ wf hn (isForest.mem_nodes hs) hp

/-- The roots of the forest of a graph stand in nothing. -/
theorem IsForestOf.depth_root (isForest : g.IsForestOf forest) (wf : g.WellFormed)
    {t : Tree Node} (ht : t ∈ forest) : g.depth t.value = 0 := by
  have listed := List.mem_map_of_mem (f := Tree.value) ht
  rw [isForest.roots] at listed
  obtain ⟨hn, top⟩ := mem_topLevel.1 listed
  exact depth_eq_zero wf.nodeIds_nodup hn top

end Workflow.Graph
