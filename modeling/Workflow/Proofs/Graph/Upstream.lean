import Workflow.Proofs.Graph.Acceptance
import Workflow.Proofs.Search.Queue
import Workflow.Scope

/-!
# What lies upstream

The predecessors of a node are listed in the order in which a search along the edges, backwards,
discovers them, and this order is that of the list of edges. Which nodes are listed has nothing
to do with the search: they are those from which edges lead to the node, one after the other.
Nor has the bound of the search: a queue that is worked off until it is empty discovers the same.

## Main results

* `drains_predecessors_iff`: **the search with a queue ends** on every graph, and discovers the
  predecessors.
* `mem_predecessors_iff`: **the predecessors of a node**, on every graph, are the other nodes from
  which edges lead to it.
-/

namespace Workflow.Graph

variable {g : Graph}

/-- An edge leads straight from a node to another id. -/
def LeadsTo (g : Graph) (source target : String) : Prop :=
  source ∈ g.nodeIds ∧ ∃ handle, (source, handle, target) ∈ g.links

/-- The step of the search goes to the nodes from which an edge leads. -/
theorem mem_sources_iff {id source : String} : source ∈ g.sources id ↔ g.LeadsTo source id := by
  simp only [sources, incoming_eq_filter, LeadsTo, links, List.mem_filter, List.mem_map,
    beq_iff_eq, contains_iff_mem_nodeIds, Prod.mk.injEq]
  constructor
  · rintro ⟨⟨e, ⟨he, target⟩, source⟩, node⟩
    exact ⟨node, e.handle, e, he, source, rfl, target⟩
  · rintro ⟨node, handle, e, he, source, -, target⟩
    exact ⟨⟨e, ⟨he, target⟩, source⟩, node⟩

/-- The predecessors are what the search finds without its start. -/
theorem cons_predecessors (g : Graph) (id : String) :
    id :: g.predecessors id = reachable g.sources (g.nodes.length + 2) [id] := by
  rw [predecessors, reachable_singleton, List.drop_one, List.tail_cons]

/-- A step of the search goes to a node. -/
theorem sources_subset_nodeIds (g : Graph) (id : String) : g.sources id ⊆ g.nodeIds :=
  fun _ source => (mem_sources_iff.1 source).1

/-- No step of a search leads out of its start and the nodes. -/
theorem sources_subset_cons_nodeIds (id : String) :
    ∀ a ∈ id :: g.nodeIds, ∀ b ∈ g.sources a, b ∈ id :: g.nodeIds :=
  fun a _ _ source => List.mem_cons_of_mem id (g.sources_subset_nodeIds a source)

/-- **The search with a queue ends** on every graph, and discovers the predecessors in the order
in which they are listed. -/
theorem drains_predecessors_iff {id : String} {listed : List String} :
    Drains g.sources [id] [id] listed ↔ listed = g.predecessors id :=
  drains_singleton_iff g.sources_subset_nodeIds (g.length_cons_nodeIds_lt id)
    (g.cons_predecessors id)

/-- The node itself and its predecessors are the ids from which edges, or none, lead to it. -/
theorem mem_cons_predecessors_iff {id other : String} :
    other ∈ id :: g.predecessors id ↔ Relation.ReflTransGen g.LeadsTo other id := by
  have start : [id] ⊆ id :: g.nodeIds := by simp
  have backwards : (fun a b => b ∈ g.sources a) = Function.swap g.LeadsTo := by
    funext a b
    exact propext mem_sources_iff
  rw [cons_predecessors, mem_reachable_iff (sources_subset_cons_nodeIds id) start
    (g.length_cons_nodeIds_lt id), backwards]
  simp only [List.mem_singleton, exists_eq_left, Relation.reflTransGen_swap]

/-- **The predecessors of a node** are the other nodes from which edges lead to it, one after the
other. -/
theorem mem_predecessors_iff {id other : String} :
    other ∈ g.predecessors id ↔ other ≠ id ∧ Relation.TransGen g.LeadsTo other id := by
  have either : other = id ∨ other ∈ g.predecessors id
      ↔ id = other ∨ Relation.TransGen g.LeadsTo other id := by
    rw [← List.mem_cons, mem_cons_predecessors_iff, Relation.reflTransGen_iff_eq_or_transGen]
  constructor
  · intro upstream
    have apart : other ≠ id := by
      rintro rfl
      exact g.not_mem_predecessors_self other upstream
    exact ⟨apart, (either.1 (.inr upstream)).resolve_left apart.symm⟩
  · rintro ⟨apart, path⟩
    exact (either.2 (.inr path)).resolve_left apart

/-- Predecessors are nodes. -/
theorem predecessors_subset_nodeIds (g : Graph) (id : String) : g.predecessors id ⊆ g.nodeIds := by
  intro other upstream
  obtain ⟨_, first, -⟩ := Relation.TransGen.head'_iff.1 (mem_predecessors_iff.1 upstream).2
  exact first.1

end Workflow.Graph
