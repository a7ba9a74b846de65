import Workflow.Proofs.Graph.Preservation
import Workflow.Proofs.Graph.Removal

/-!
# Removing nodes one by one

When a node is removed alone, its children move up to where it stood. So if a node and all that
stands in it are removed piece by piece, the forest changes on the way: what is still to be removed
comes to stand elsewhere, even beside the node itself. In the end this cannot be seen. Ids that hold
the children of each of their nodes keep doing so when one of the nodes is removed
(`ClosedBelow.minus`), so that no other node ever moves, and whatever the order is, the nodes go as
they go in a cascade.

## Main results

* `WellFormed.removeEach_eq`: ids with the children of their nodes are taken away as they stand, in
  any order.
* `removeEach_eq_cascade`: **a cascade is a removal one by one, in any order**.
-/

namespace Workflow

namespace Graph

variable {g : Graph} {n m : Node} {id : String} {order rest : List String}

/-- Removes nodes one after the other, each one alone. -/
def removeEach (g : Graph) : List String → Except GraphError Graph
  | [] => .ok g
  | id :: rest =>
    match g.removeNode id .reparent with
    | .error e => .error e
    | .ok (_, g') => removeEach g' rest

/-! ### One removal -/

/-- The graph after `n` was removed alone. -/
def minus (g : Graph) (n : Node) : Graph :=
  without (g.nodes.map (movedUp n .reparent)) g.edges [n.id]

/-- A node that exists can be removed alone. -/
theorem WellFormed.exists_removeNode_reparent (wf : g.WellFormed) (hn : n ∈ g.nodes) :
    ∃ removed, g.removeNode n.id .reparent = .ok (removed, g.minus n) :=
  ⟨_, removeNode_eq ((node?_eq_some_iff wf.nodeIds_nodup).2 ⟨hn, rfl⟩) .reparent⟩

/-- A node that exists can be removed with all that stands in it. -/
theorem WellFormed.exists_removeNode_cascade (wf : g.WellFormed) (hn : n ∈ g.nodes) :
    ∃ removed, g.removeNode n.id .cascade
      = .ok (removed, Graph.without g.nodes g.edges (n.id :: g.descendants n.id)) := by
  have done := removeNode_eq ((node?_eq_some_iff wf.nodeIds_nodup).2 ⟨hn, rfl⟩) .cascade
  rw [List.map_id'' (movedUp_cascade n)] at done
  exact ⟨_, done⟩

/-- The nodes that are left are the others, moved up where they stood in `n`. -/
theorem mem_nodes_minus :
    m ∈ (g.minus n).nodes ↔ ∃ k ∈ g.nodes, k.id ≠ n.id ∧ movedUp n .reparent k = m := by
  rw [minus, (mem_without _ _ _).1, List.mem_map, List.mem_singleton]
  constructor
  · rintro ⟨⟨k, hk, rfl⟩, apart⟩
    exact ⟨k, hk, by rwa [id_movedUp] at apart, rfl⟩
  · rintro ⟨k, hk, apart, rfl⟩
    exact ⟨⟨k, hk, rfl⟩, by rwa [id_movedUp]⟩

/-- The ids that are left are the others. -/
theorem mem_nodeIds_minus : id ∈ (g.minus n).nodeIds ↔ id ∈ g.nodeIds ∧ id ≠ n.id := by
  simp only [nodeIds, List.mem_map, mem_nodes_minus]
  constructor
  · rintro ⟨_, ⟨k, hk, apart, rfl⟩, rfl⟩
    rw [id_movedUp]
    exact ⟨⟨k, hk, rfl⟩, apart⟩
  · rintro ⟨⟨k, hk, rfl⟩, apart⟩
    exact ⟨_, ⟨k, hk, apart, rfl⟩, id_movedUp n .reparent k⟩

/-! ### The ids to be removed -/

/-- The ids hold the children of each of their nodes. -/
def ClosedBelow (g : Graph) (ids : List String) : Prop :=
  ∀ m ∈ g.nodes, ∀ p ∈ ids, m.parent? = some p → m.id ∈ ids

/-- **The ids that are left hold the children of their nodes** after the first node was removed.
What moved up then was among the ids, as its parent was. -/
theorem ClosedBelow.minus (closed : g.ClosedBelow (n.id :: rest)) :
    (g.minus n).ClosedBelow rest := by
  intro m hm p hp parent
  obtain ⟨k, hk, apart, rfl⟩ := mem_nodes_minus.1 hm
  have among : k.id ∈ n.id :: rest := by
    by_cases child : k.parent? = some n.id
    · exact closed k hk n.id List.mem_cons_self child
    · rw [movedUp_of_ne child] at parent
      exact closed k hk p (List.mem_cons_of_mem _ hp) parent
  rw [id_movedUp]
  exact (List.mem_cons.1 among).resolve_left apart

/-- Taking nothing away changes nothing. -/
theorem without_nil (g : Graph) : without g.nodes g.edges [] = g :=
  ext_lists (by simp [without, ofLists]) (by simp [without, ofLists])

/-- Taking some away and then others is taking all of them away. -/
theorem without_without (nodes : List Node) (edges : List Edge) (first second : List String) :
    without (without nodes edges first).nodes (without nodes edges first).edges second
      = without nodes edges (first ++ second) := by
  have both : ∀ id, (!(first ++ second).contains id)
      = (!second.contains id && !first.contains id) := by
    intro id
    rw [List.contains_append, Bool.not_or, Bool.and_comm]
  refine ext_lists ?_ ?_
  · simp only [without, ofLists, List.filter_filter, both]
  · simp only [without, ofLists, List.filter_filter, both]
    refine List.filter_congr fun e _ => ?_
    ac_rfl

/-- **Nothing that stays has moved up** when a node was removed alone, if all its children are to be
taken away. -/
theorem ClosedBelow.without_movedUp (closed : g.ClosedBelow (n.id :: rest)) :
    Graph.without (g.nodes.map (movedUp n .reparent)) g.edges (n.id :: rest)
      = Graph.without g.nodes g.edges (n.id :: rest) := by
  refine ext_lists ?_ rfl
  have stays : ∀ m ∈ g.nodes.filter (fun m => !(n.id :: rest).contains m.id),
      movedUp n .reparent m = m := by
    intro m hm
    obtain ⟨hm, kept⟩ := List.mem_filter.1 hm
    refine movedUp_of_ne (fun child => ?_) .reparent
    rw [List.contains_iff_mem.2 (closed m hm n.id List.mem_cons_self child)] at kept
    cases kept
  calc (g.nodes.map (movedUp n .reparent)).filter (fun m => !(n.id :: rest).contains m.id)
      = (g.nodes.filter fun m => !(n.id :: rest).contains m.id).map (movedUp n .reparent) :=
        filter_map_movedUp n .reparent (fun id => !(n.id :: rest).contains id) g.nodes
    _ = g.nodes.filter fun m => !(n.id :: rest).contains m.id := by
        rw [List.map_congr_left stays, List.map_id']

/-- **Ids that hold the children of their nodes are taken away as they stand**, in any order. The
induction is on the order, over all graphs. -/
theorem WellFormed.removeEach_eq (wf : g.WellFormed) (distinct : order.Nodup)
    (known : order ⊆ g.nodeIds) (closed : g.ClosedBelow order) :
    g.removeEach order = .ok (Graph.without g.nodes g.edges order) := by
  induction order generalizing g with
  | nil => rw [removeEach, without_nil]
  | cons id rest ih =>
    obtain ⟨n, hn, rfl⟩ := List.mem_map.1 (known List.mem_cons_self)
    obtain ⟨removed, done⟩ := wf.exists_removeNode_reparent hn
    obtain ⟨new, distinct⟩ := List.nodup_cons.1 distinct
    have left : rest ⊆ (g.minus n).nodeIds := by
      intro id hid
      refine mem_nodeIds_minus.2 ⟨known (List.mem_cons_of_mem _ hid), ?_⟩
      rintro rfl
      exact new hid
    rw [removeEach, done]
    calc removeEach (g.minus n) rest
        = .ok (Graph.without (g.minus n).nodes (g.minus n).edges rest) :=
          ih (wf.removeNode done) distinct left closed.minus
      _ = .ok (Graph.without g.nodes g.edges (n.id :: rest)) := by
          rw [Graph.minus, without_without, List.singleton_append, closed.without_movedUp]

/-! ### A node with all that stands in it -/

/-- **A cascade is a removal one by one, in any order.** On a graph with which nothing is wrong, a
node that exists and all that stands in it can be removed alone one after the other, whichever comes
first, and what is left is the graph that a cascade leaves. -/
theorem removeEach_eq_cascade (clean : g.violations = []) (known : id ∈ g.nodeIds)
    (distinct : order.Nodup) (whole : ∀ other, other ∈ order ↔ other = id ∨ Inside g other id) :
    ∃ removed g', g.removeNode id .cascade = .ok (removed, g') ∧ g.removeEach order = .ok g' := by
  have wf := wellFormed_of_violations_eq_nil clean
  have same : ∀ other, other ∈ order ↔ other ∈ id :: g.descendants id := by
    simp only [whole, mem_cons_descendants_iff, implies_true]
  have nodes : order ⊆ g.nodeIds := by
    intro other listed
    obtain rfl | inside := (whole other).1 listed
    · exact known
    · exact inside.left_mem_nodeIds
  have closed : g.ClosedBelow order := by
    intro m hm p hp parent
    obtain rfl | inside := (whole p).1 hp
    · exact (whole m.id).2 (.inr (.step hm parent))
    · exact (whole m.id).2 (.inr (.trans hm parent inside))
  obtain ⟨n, hn, rfl⟩ := List.mem_map.1 known
  obtain ⟨removed, done⟩ := wf.exists_removeNode_cascade hn
  refine ⟨removed, _, done, ?_⟩
  rw [wf.removeEach_eq distinct nodes closed, without_congr same]

/-- The outer loop is removed first, so that its step and the inner loop move to the top level; then
the step of the inner loop, which leaves it empty. -/
theorem removeEach_eq_cascade_retryGraph :
    retryGraph.violations = [] ∧ "each" ∈ retryGraph.nodeIds
      ∧ ["each", "call", "done", "retry"].Nodup
      ∧ (∀ other, other ∈ ["each", "call", "done", "retry"]
        ↔ other = "each" ∨ Inside retryGraph other "each")
      ∧ ∃ removed g', retryGraph.removeNode "each" .cascade = .ok (removed, g')
        ∧ retryGraph.removeEach ["each", "call", "done", "retry"] = .ok g' := by
  have clean : retryGraph.violations = [] := by decide +kernel
  have known : "each" ∈ retryGraph.nodeIds := by decide +kernel
  have distinct : ["each", "call", "done", "retry"].Nodup := by decide
  have perm : ["each", "call", "done", "retry"].Perm ("each" :: retryGraph.descendants "each") := by
    decide +kernel
  have whole : ∀ other, other ∈ ["each", "call", "done", "retry"]
      ↔ other = "each" ∨ Inside retryGraph other "each" :=
    fun _ => perm.mem_iff.trans mem_cons_descendants_iff
  exact ⟨clean, known, distinct, whole, removeEach_eq_cascade clean known distinct whole⟩

end Graph

end Workflow
