import Workflow.Proofs.Graph.Walk
import Workflow.Proofs.Search.Queue

/-!
# Upwards against downwards

The walk upwards goes from an id to the parent of the first node that has it, the walk downwards
from an id to all nodes that name it as their parent, through a table of its own. Neither counts
its turns: what makes both end, on every graph, is that they go on from nothing twice.

On a graph that was read from a text they need not tell the same. Of two nodes with one id the walk
upwards knows only the first, and where parents form a cycle a node is listed above itself, but
never below itself. One half holds all the same: whatever is listed above a node leads down to it.
On a well-formed graph the other half holds too.

## Main results

* `drains_descendants_iff`: **the search downwards ends** on every graph, and discovers what is
  listed.
* `eq_or_mem_descendants_of_mem_ancestors`: the walk downwards leads back, on every graph.
* `WellFormed.mem_descendants_iff_mem_ancestors`: the walks are dual on a well-formed graph.
* `ancestors_dual_descendants`: **both walks end on every graph, and are dual where nothing is
  reported.**
-/

namespace Workflow.Graph

variable {g : Graph}

/-- **The search downwards ends** on every graph, and discovers what stands in a node in the order
in which it is listed. -/
theorem drains_descendants_iff {id : String} {below : List String} :
    Drains g.childIds [id] [id] below ↔ below = g.descendants id :=
  drains_singleton_iff g.childIds_subset_nodeIds (g.length_cons_nodeIds_lt id)
    (g.cons_descendants id)

/-- **The walk downwards leads back**, on every graph, from what is listed above a node to the
node, unless that is where it starts. -/
theorem eq_or_mem_descendants_of_mem_ancestors {x y : String} (above : x ∈ g.ancestors y) :
    y = x ∨ y ∈ g.descendants x := by
  rw [mem_descendants_iff]
  by_cases same : y = x
  · exact .inl same
  · exact .inr ⟨same, inside_of_mem_ancestors above⟩

/-- Nothing stands in itself in a well-formed graph, be it a node or not. -/
theorem WellFormed.not_inside_self (wf : g.WellFormed) (id : String) : ¬ Inside g id id := by
  intro loop
  obtain ⟨n, hn, rfl⟩ := List.mem_map.1 loop.left_mem_nodeIds
  exact wf.acyclic hn loop

/-- The walk upwards lists what a node stands in, if the graph is well formed. -/
theorem WellFormed.mem_ancestors_iff (wf : g.WellFormed) {x y : String} :
    x ∈ g.ancestors y ↔ Inside g y x :=
  mem_ancestors_iff_inside wf.nodeIds_nodup wf.parentsExist

/-- **The walks are dual** on a well-formed graph. -/
theorem WellFormed.mem_descendants_iff_mem_ancestors (wf : g.WellFormed) {x y : String} :
    y ∈ g.descendants x ↔ x ∈ g.ancestors y := by
  rw [mem_descendants_iff, wf.mem_ancestors_iff, and_iff_right_iff_imp]
  -- what stands in `x` is not `x`, because nothing stands in itself
  rintro inside rfl
  exact wf.not_inside_self y inside

/-- **Both walks end on every graph**, each in one way, and list nothing twice; the walk downwards
never lists its start. **Where nothing is reported they are dual**: an id is listed below another
exactly if that is listed above it, which is to say that it stands in it, and no id is listed above
itself. -/
theorem ancestors_dual_descendants (g : Graph) :
    (∀ id,
        (∀ above, Climbs g [] (g.parentOf? id) above ↔ above = g.ancestors id)
        ∧ (∀ below, Drains g.childIds [id] [id] below ↔ below = g.descendants id)
        ∧ (g.ancestors id).Nodup ∧ (g.descendants id).Nodup ∧ id ∉ g.descendants id)
      ∧ (g.violations = [] → ∀ x y,
        (y ∈ g.descendants x ↔ x ∈ g.ancestors y) ∧ (x ∈ g.ancestors y ↔ Inside g y x)
          ∧ x ∉ g.ancestors x) := by
  constructor
  · intro id
    exact ⟨fun _ => climbs_ancestors_iff, fun _ => drains_descendants_iff, g.nodup_ancestors id,
      g.nodup_descendants id, g.not_mem_descendants_self id⟩
  · intro clean x y
    have wf := wellFormed_of_violations_eq_nil clean
    refine ⟨wf.mem_descendants_iff_mem_ancestors, wf.mem_ancestors_iff, fun above => ?_⟩
    exact wf.not_inside_self x (inside_of_mem_ancestors above)

/-- An approval in a condition in one of two parallel parts of a bot, listed from the inside
out. -/
def approvalGraph : Graph :=
  .ofLists
    [{ id := "ask", type := "logging.log", label := "Ask", category := .logging,
        parent? := some "amount" },
      { id := "amount", type := "control.if", label := "Amount", category := .control,
        parent? := some "approval" },
      { id := "approval", type := "control.try_catch", label := "Approval", category := .control,
        parent? := some "both" },
      { id := "archive", type := "logging.log", label := "Archive", category := .logging,
        parent? := some "both" },
      { id := "both", type := "control.parallel", label := "Both", category := .control }]
    []

/-- The question is listed at the end of what stands in the parallel parts, so that these are
listed above it. -/
theorem ancestors_dual_descendants_approvalGraph :
    approvalGraph.violations = []
      ∧ approvalGraph.descendants "both" = ["approval", "archive", "amount", "ask"]
      ∧ "both" ∈ approvalGraph.ancestors "ask" ∧ Inside approvalGraph "ask" "both" := by
  have clean : approvalGraph.violations = [] := by decide +kernel
  have listed : approvalGraph.descendants "both" = ["approval", "archive", "amount", "ask"] := by
    decide +kernel
  obtain ⟨dual, inside, -⟩ := (ancestors_dual_descendants approvalGraph).2 clean "both" "ask"
  have above : "both" ∈ approvalGraph.ancestors "ask" := dual.1 (by simp [listed])
  exact ⟨clean, listed, above, inside.1 above⟩

/-- Two loops that are each said to stand in the other. -/
def tangledGraph : Graph :=
  .ofLists
    [{ id := "a", type := "control.loop", label := "A", category := .control,
        parent? := some "b" },
      { id := "b", type := "control.loop", label := "B", category := .control,
        parent? := some "a" }]
    []

-- each loop is listed above itself, but not below itself
example : tangledGraph.ancestors "a" = ["b", "a"] ∧ tangledGraph.descendants "a" = ["b"] := by
  decide +kernel

end Workflow.Graph
