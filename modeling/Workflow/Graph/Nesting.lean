import Workflow.Graph.Basic
import Workflow.Search

/-!
# Nesting

Which containers a node stands in, and which nodes stand in a container, at any depth. Both
walks end on every graph, also on one whose parents form a cycle: upwards, the walk stops
where it would come back to a node; downwards, it is a breadth-first search.

The walks are bounded by the number of nodes. Each step upwards but the last is taken from
another node of the list, and each layer downwards holds a node that was not met before.

## Main results

* `nodup_descendants`, `not_mem_descendants_self`: no node is listed twice, and none below
  itself.
-/

namespace Workflow.Graph

/-- The chain of parents from `current?` upwards, until it ends or comes back to an id. -/
def ancestorsFrom (g : Graph) : Nat → List String → Option String → List String
  | 0, _, _ => []
  | _ + 1, _, none => []
  | bound + 1, seen, some id =>
    if id ∈ seen then [] else id :: ancestorsFrom g bound (id :: seen) (g.parentOf? id)

/-- The containers a node stands in, the nearest first. -/
def ancestors (g : Graph) (id : String) : List String :=
  g.ancestorsFrom (g.nodes.length + 1) [] (g.parentOf? id)

/-- The ids of the nodes that stand directly in a container. -/
def childIds (g : Graph) (id : String) : List String :=
  (g.childrenOf id).map (·.id)

/-- The nodes that stand in a container at any depth, the nearest first. -/
def descendants (g : Graph) (id : String) : List String :=
  (reachable g.childIds (g.nodes.length + 2) [id]).drop 1

/-! ### What the walks list -/

/-- A search starts with its start. -/
theorem reachable_singleton (next : String → List String) (bound : Nat) (id : String) :
    reachable next (bound + 1) [id]
      = id :: layersFrom next bound [id] (fresh [id] (next id)) := by
  simp [reachable, fresh, layersFrom]

/-- No node is listed twice below another. -/
theorem nodup_descendants (g : Graph) (id : String) : (g.descendants id).Nodup := by
  have whole := nodup_reachable g.childIds (g.nodes.length + 2) [id]
  rw [reachable_singleton] at whole
  rw [descendants, reachable_singleton]
  exact (List.nodup_cons.1 whole).2

/-- No node is listed below itself. -/
theorem not_mem_descendants_self (g : Graph) (id : String) : id ∉ g.descendants id := by
  have whole := nodup_reachable g.childIds (g.nodes.length + 2) [id]
  rw [reachable_singleton] at whole
  rw [descendants, reachable_singleton]
  exact (List.nodup_cons.1 whole).1

/-- No id is listed twice above a node, and none that was seen before. -/
theorem nodup_ancestorsFrom (g : Graph) (bound : Nat) (seen : List String)
    (current? : Option String) :
    (g.ancestorsFrom bound seen current?).Nodup
      ∧ ∀ a ∈ g.ancestorsFrom bound seen current?, a ∉ seen := by
  induction bound generalizing seen current? with
  | zero => simp [ancestorsFrom]
  | succ bound ih =>
    cases current? with
    | none => simp [ancestorsFrom]
    | some id =>
      by_cases hs : id ∈ seen
      · simp [ancestorsFrom, hs]
      · obtain ⟨distinct, apart⟩ := ih (id :: seen) (g.parentOf? id)
        simp only [ancestorsFrom, hs, if_false, List.nodup_cons, List.mem_cons,
          forall_eq_or_imp, not_false_eq_true, true_and]
        refine ⟨⟨fun h => apart id h List.mem_cons_self, distinct⟩, ?_⟩
        intro a ha h
        exact apart a ha (List.mem_cons_of_mem id h)

/-- No id is listed twice above a node. -/
theorem nodup_ancestors (g : Graph) (id : String) : (g.ancestors id).Nodup :=
  (g.nodup_ancestorsFrom _ _ _).1

end Workflow.Graph
