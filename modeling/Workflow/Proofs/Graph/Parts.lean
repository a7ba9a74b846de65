import Workflow.Proofs.Graph.Stuck

/-!
# Parts in any order

A graph is built of its parts one by one, and the first addition that fails ends it. All the same
the order in which nodes come has no say in whether they make a graph. Passes over compatible nodes
get stuck only at nodes whose chain of parents does not end, and in a well-formed graph there are
none. So the passes end with all of its nodes.

## Main results

* `WellFormed.exists_passes`: all nodes of a well-formed graph are placed, in whatever order.
* `ofParts_decided`: **parts make a graph exactly if they are those of a well-formed graph**, and
  nodes that come after their parents keep their order.
-/

namespace Workflow.Graph

variable {g g' whole : Graph} {nodes waiting : List Node}

/-- **All nodes of a well-formed graph are placed**, in whatever order they come. -/
theorem WellFormed.exists_passes (whole_wf : whole.WellFormed) (wf : g.WellFormed)
    (perm : (g.nodes ++ waiting).Perm whole.nodes) : ∃ g', Passes g waiting g' := by
  have compatible := whole_wf.compatible.perm perm.symm
  refine (compatible.passes_or_stalls wf).resolve_right ?_
  rintro ⟨stuck, stalls⟩
  obtain ⟨placed, left⟩ := stalls.leaves wf (.refl _) (List.sublist_append_right g.nodes waiting)
  obtain ⟨n, hn⟩ := List.exists_mem_of_ne_nil stuck left.some_stuck
  obtain ⟨listed, endless⟩ := (left.mem_stuck_iff []).1 hn
  exact endless ((whole_wf.rooted n (perm.subset listed)).mono perm.symm.subset)

/-! ### Parts of a graph -/

/-- The parts of a well-formed graph make a graph, in whatever order the nodes come. -/
theorem WellFormed.exists_ofParts {edges : List Edge} (wf : (ofLists nodes edges).WellFormed) :
    ∃ g, ofParts nodes edges = .ok g := by
  have all_wait : (empty.nodes ++ nodes).Perm (ofLists nodes edges).nodes := .refl _
  obtain ⟨placed, passes⟩ := wf.exists_passes wellFormed_empty all_wait
  have places := passes.places
  have perm : placed.nodes.Perm nodes := by simpa [empty, ofLists] using places.perm
  have none_yet : placed.edges = [] := places.edges
  have ids : placed.nodeIds.Perm (nodes.map (·.id)) := perm.map _
  obtain ⟨g, added⟩ : ∃ g, placed.addEdges edges = .ok g := by
    refine exists_addEdges_eq_ok (fun e he => ?_) ?_ ?_
    · obtain ⟨source, target⟩ := wf.edgesAttached e he
      exact ⟨ids.mem_iff.2 source, ids.mem_iff.2 target⟩
    · simpa [edgeIds, none_yet, ofLists] using wf.edgeIdsDistinct
    · simpa [takenHandles, none_yet, ofLists] using wf.handlesDistinct
  exact ⟨g, ofParts_eq_ok_iff.2 ⟨placed, passes, added⟩⟩

/-- **Parts make a graph exactly if they are those of a well-formed graph**, in whatever order the
nodes come. The graph has the nodes in another order, every one behind its parent, and the edges
as they were given; nodes that come after their parents keep their order, so that a graph of parts
is that of its own parts. -/
theorem ofParts_decided (nodes : List Node) (edges : List Edge) :
    ((∃ g, ofParts nodes edges = .ok g) ↔ (ofLists nodes edges).WellFormed)
      ∧ ∀ g, ofParts nodes edges = .ok g →
        g.nodes.Perm nodes ∧ ParentsFirst g.nodes ∧ g.edges = edges
          ∧ (ParentsFirst nodes → g.nodes = nodes)
          ∧ ofParts g.nodes g.edges = .ok g := by
  have whole : ∀ g, ofParts nodes edges = .ok g → (ofLists nodes edges).WellFormed := by
    intro g built
    obtain ⟨-, perm, edges_eq⟩ := ofParts_ok built
    exact (wellFormed_of_ofParts built).of_perm perm edges_eq.symm
  refine ⟨⟨fun ⟨g, built⟩ => whole g built, WellFormed.exists_ofParts⟩, fun g built => ?_⟩
  obtain ⟨first, perm, edges_eq⟩ := ofParts_ok built
  refine ⟨perm, first, edges_eq, fun in_order => ?_, ?_⟩
  · have unchanged := ofParts_eq_self_iff.2 ⟨whole g built, in_order⟩
    obtain rfl := Except.ok.inj (built.symm.trans unchanged)
    rfl
  · exact ofParts_eq_self_iff.2 ⟨wellFormed_of_ofParts built, first⟩

/-- Parts that come from the inside out: each node stands in the one behind it. -/
def nestedParts : List Node :=
  [{ id := "notify", type := "logging.log", label := "Notify", category := .logging,
     parent? := some "check" },
    { id := "check", type := "control.if", label := "Check", category := .control,
      parent? := some "guard" },
    { id := "guard", type := "control.try_catch", label := "Guard", category := .control }]

-- one pass for every level, each of which places a single node
example : (ofParts nestedParts [.canonical "guard" "guard" .error]).toOption.map nodeIds
    = some ["guard", "check", "notify"] := by decide +kernel

end Workflow.Graph
