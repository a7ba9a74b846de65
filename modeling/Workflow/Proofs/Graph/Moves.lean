import Workflow.Proofs.Graph.Preservation

/-!
# Moving nodes

A node is moved into another container, or to the top level, together with all that stands in it.
Whether it may be moved is found out by a walk from the new parent upwards, which stops where it
would come back to a node. Told without the walk, a move is refused exactly if it would not leave a
forest of containers: the new parent has to be one, and must neither be the node nor stand in it.
The other chains of parents do not count, so that a node can be moved between any two branches.

## Main results

* `WellFormed.inside_setParent_iff`: what stands in a node goes along with it.
* `setParent_decided`: **which moves are refused, and what the others change**, on every graph with
  which nothing is wrong.
-/

namespace Workflow

namespace Graph

variable {g g' : Graph} {id other : String} {parent? : Option String}

/-! ### What goes along -/

/-- What stands in a node still does after the node was moved: no chain of parents that leads to
the node goes through it. -/
theorem WellFormed.inside_moved (wf : g.WellFormed)
    (nodes : g'.nodes = g.nodes.map fun n => if n.id = id then { n with parent? } else n)
    (before : Inside g other id) : Inside g' other id := by
  have stays : ∀ n ∈ g.nodes, Inside g n.id id → n ∈ g'.nodes := by
    intro n hn below
    have apart : n.id ≠ id := fun same => wf.acyclic hn (same ▸ below)
    rw [nodes, List.mem_map]
    exact ⟨n, hn, if_neg apart⟩
  clear nodes
  induction before with
  | step hn hp => exact .step (stays _ hn (.step hn hp)) hp
  | trans hn hp above ih => exact .trans (stays _ hn (.trans hn hp above)) hp (ih stays)

/-- **What stands in a node goes along with it**, and nothing else comes to stand in it. -/
theorem WellFormed.inside_setParent_iff (wf : g.WellFormed)
    (done : g.setParent id parent? = .ok g') : Inside g' other id ↔ Inside g other id := by
  obtain ⟨-, legal, result⟩ := (setParent_eq_ok_iff wf.nodeIds_nodup wf.parentsExist).1 done
  have nodes : g'.nodes = g.nodes.map fun n => if n.id = id then { n with parent? } else n :=
    result ▸ rfl
  refine ⟨fun after => ?_, wf.inside_moved nodes⟩
  obtain before | ⟨-, p, hp, same | above⟩ := inside_of_moved nodes after
  · exact before
  · exact absurd same (legal p hp).2.1
  · exact absurd above (legal p hp).2.2

/-! ### Which moves are refused -/

/-- **Which moves are refused, and what the others change.** On a graph with which nothing is wrong
a node can be moved into a container exactly if both exist and the container neither is the node nor
stands in it at any depth, and to the top level if it exists. A move changes the parent of the node
and nothing else, and what stood in the node before is what stands in it then. -/
theorem setParent_decided (clean : g.violations = []) (id : String) :
    (∀ p, (∃ g', g.setParent id (some p) = .ok g') ↔
        id ∈ g.nodeIds ∧ g.HasContainer p ∧ p ≠ id ∧ ¬ Inside g p id)
      ∧ ((∃ g', g.setParent id none = .ok g') ↔ id ∈ g.nodeIds)
      ∧ ∀ parent? g', g.setParent id parent? = .ok g' →
        g'.nodes = g.nodes.map (fun n => if n.id = id then { n with parent? } else n)
          ∧ g'.edges = g.edges
          ∧ ∀ other, Inside g' other id ↔ Inside g other id := by
  have wf := wellFormed_of_violations_eq_nil clean
  refine ⟨fun p => ?_, ?_, fun parent? g' done => ?_⟩
  · simp [setParent_eq_ok_iff wf.nodeIds_nodup wf.parentsExist]
  · simp [setParent_eq_ok_iff wf.nodeIds_nodup wf.parentsExist]
  · have along : ∀ other, Inside g' other id ↔ Inside g other id :=
      fun _ => wf.inside_setParent_iff done
    obtain ⟨-, -, rfl⟩ := (setParent_eq_ok_iff wf.nodeIds_nodup wf.parentsExist).1 done
    exact ⟨rfl, rfl, along⟩

/-- A condition in a guarded part of a bot, with a step in it, and a loop beside. -/
def guardedGraph : Graph :=
  .ofLists
    [{ id := "guard", type := "control.try_catch", label := "Guard", category := .control },
      { id := "check", type := "control.if", label := "Check", category := .control,
        parent? := some "guard" },
      { id := "inner", type := "logging.log", label := "Inner", category := .logging,
        parent? := some "check" },
      { id := "each", type := "control.loop", label := "Each", category := .control }]
    [.canonical "guard" "each" .success]

/-- The guarded part cannot be moved into its condition, but the condition can be moved into the
loop, and its step goes along. -/
theorem setParent_decided_guardedGraph :
    guardedGraph.violations = []
      ∧ (¬ ∃ g', guardedGraph.setParent "guard" (some "check") = .ok g')
      ∧ ∃ g', guardedGraph.setParent "check" (some "each") = .ok g'
        ∧ Inside g' "inner" "check" := by
  have clean : guardedGraph.violations = [] := by decide +kernel
  have guarded : Inside guardedGraph "check" "guard" := inside_of_mem_ancestors (by decide +kernel)
  have step : Inside guardedGraph "inner" "check" := inside_of_mem_ancestors (by decide +kernel)
  have moves : (guardedGraph.setParent "check" (some "each")).toOption.isSome = true := by
    decide +kernel
  obtain ⟨g', moved⟩ := exists_eq_ok_of_toOption moves
  refine ⟨clean, ?_, g', moved, ?_⟩
  · rw [(setParent_decided clean "guard").1 "check"]
    exact fun legal => legal.2.2.2 guarded
  · obtain ⟨-, -, along⟩ := (setParent_decided clean "check").2.2 _ _ moved
    exact (along "inner").2 step

end Graph

end Workflow
