import Workflow.Proofs.Compile

/-!
# What is handed over

What a compiled document says of the graph, told without the compiler. Each node is one block of
the document, with the fields of the node and the edges of the graph as its outputs. It stands in
the block of its parent, after the nodes with the same parent that were created before it.

A block is matched with its node by `IsBlockOf`, a document with its graph by `Renders`. Neither
looks anything up by an index: nodes are filtered by the parent they name, edges by their ends.

## Main results

* `isBlockOf_block`: where handles are used once, the block of a node says what the node says.
* `renders_of_compile`: **a compiled document renders its graph.**
-/

namespace Workflow.Graph

variable {g : Graph} {s : Settings} {d : Document} {forest : List (Tree Node)}

/-! ### Blocks -/

/-- A block that says what a node says, and where the edges of its graph lead. -/
structure IsBlockOf (g : Graph) (n : Node) (b : Block) : Prop where
  id : b.id = n.id
  type : b.type = n.type
  config : b.config = n.config
  label : b.label = n.label
  position : b.position = n.position
  description : b.description? = n.description?
  /-- An edge of the node is the output of its handle. -/
  connected : ∀ e ∈ g.edges, e.source = n.id → b.outputs.get e.handle = .node e.target
  /-- A handle without an edge ends the flow. -/
  finished : ∀ handle, (∀ e ∈ g.edges, e.source = n.id → e.handle ≠ handle) →
    b.outputs.get handle = .finish

/-- Where handles are used once, the block of a node says what the node says. -/
theorem isBlockOf_block (distinct : g.takenHandles.Nodup) (n : Node) :
    g.IsBlockOf n (g.block n) where
  id := rfl
  type := rfl
  config := rfl
  label := rfl
  position := rfl
  description := rfl
  connected := by
    intro e he starts
    rw [get_outputs_block, targetOf_eq_node_iff distinct]
    exact List.mem_map.2 ⟨e, he, by rw [starts]⟩
  finished := by
    intro handle free
    have none_found : g.outgoing? n.id handle = none := by
      rw [outgoing?_eq_find?, List.find?_eq_none]
      intro e he
      simpa using free e he
    rw [get_outputs_block, targetOf, none_found]

/-! ### Documents -/

/-- A document that says what a graph says under the templates of a registry. -/
structure Renders (g : Graph) (r : Registry) (d : Document) : Prop where
  /-- The blocks are those of the nodes, each node once, and stand in the block of the parent
  that the node names. -/
  placed : ∃ nodes, nodes.Perm g.nodes
    ∧ List.Forall₂ (fun n e => g.IsBlockOf n e.1 ∧ n.parent? = e.2.map Block.id) nodes
      (Tree.forestPlaced none d.nodes)
  /-- The outermost blocks are those of the nodes without a parent, in the order of creation. -/
  outermost : List.Forall₂ g.IsBlockOf (g.nodes.filter (·.parent? == none))
    (d.nodes.map Tree.value)
  /-- The blocks in a block are those of the nodes with this parent, in the order of creation. -/
  children : ∀ t ∈ Tree.forestPreorder d.nodes,
    List.Forall₂ g.IsBlockOf (g.nodes.filter (·.parent? == some t.value.id))
      (t.children.map Tree.value)
  /-- Only containers hold blocks. -/
  contain : ∀ t ∈ Tree.forestPreorder d.nodes, t.children ≠ [] → isContainer t.value.type = true
  /-- The triggers are the nodes at the top level whose template is one of a trigger, in the
  order of creation. -/
  triggers : d.triggers = (g.nodes.filter fun n =>
    n.parent? == none && (r.find? n.type).any (·.category == .trigger)).map (·.id)
  /-- The flow begins with the first trigger, or without one with the first node at the top
  level. -/
  start : d.startNode? = d.triggers.head?.or
    ((g.nodes.filter (·.parent? == none)).head?.map (·.id))

/-- The outermost blocks of a forest are those of the nodes at the top level. -/
theorem IsForestOf.values_forestMap (isForest : g.IsForestOf forest) :
    (Tree.forestMap g.block forest).map Tree.value
      = (g.nodes.filter (·.parent? == none)).map g.block := by
  rw [← g.topLevel_eq_filter, ← isForest.roots, Tree.forestMap_eq_map, List.map_map, List.map_map]
  exact List.map_congr_left fun t _ => Tree.value_map g.block t

/-- The blocks in the block of a node are those of the nodes that name it as their parent. -/
theorem IsForestOf.children_map (isForest : g.IsForestOf forest) {u : Tree Node}
    (hu : u ∈ Tree.forestPreorder forest) :
    (u.map g.block).children.map Tree.value
      = (g.nodes.filter (·.parent? == some u.value.id)).map g.block := by
  rw [Tree.children_map, ← g.childrenOf_eq_filter, ← isForest.children u hu,
    Tree.forestMap_eq_map, List.map_map, List.map_map]
  exact List.map_congr_left fun t _ => Tree.value_map g.block t

/-- Nodes are matched with their blocks. -/
theorem forall₂_isBlockOf (distinct : g.takenHandles.Nodup) (nodes : List Node) :
    List.Forall₂ g.IsBlockOf nodes (nodes.map g.block) :=
  List.forall₂_map_right_iff.2 (List.forall₂_same.2 fun n _ => isBlockOf_block distinct n)

/-- The nodes of a forest are matched with their blocks, each under the parent it names. -/
theorem IsForestOf.forall₂_placed (isForest : g.IsForestOf forest)
    (distinct : g.takenHandles.Nodup) :
    List.Forall₂ (fun n e => g.IsBlockOf n e.1 ∧ n.parent? = e.2.map Block.id)
      (forestValues forest) (Tree.forestPlaced none (Tree.forestMap g.block forest)) := by
  have placed : Tree.forestPlaced none (Tree.forestMap g.block forest)
      = (Tree.forestPlaced none forest).map fun e => (g.block e.1, e.2.map g.block) :=
    Tree.forestPlaced_map g.block none forest
  rw [placed, forestValues, ← Tree.forestPlaced_fst none forest, List.forall₂_map_left_iff,
    List.forall₂_map_right_iff, List.forall₂_same]
  intro e he
  refine ⟨isBlockOf_block distinct e.1, ?_⟩
  rw [isForest.parent_eq he, Option.map_map]
  rfl

/-- The triggers at the top level, as a single choice among the nodes. -/
theorem topLevel_filter_isTrigger (g : Graph) (r : Registry) :
    g.topLevel.filter (isTrigger r) = g.nodes.filter fun n =>
      n.parent? == none && (r.find? n.type).any (·.category == .trigger) := by
  rw [topLevel_eq_filter, List.filter_filter]
  refine List.filter_congr fun n _ => ?_
  rw [Bool.and_comm, isTrigger]
  cases r.find? n.type <;> rfl

/-- **A compiled document renders its graph**: every node is one block of it, under the parent
that the node names and among its siblings in the order of creation, with the fields of the node
and the edges of the graph, and the document begins where the graph begins. -/
theorem renders_of_compile (compiled : g.compile s = .ok d) : g.Renders s.registry d := by
  have wf := wellFormed_of_compile compiled
  have distinct := wf.handlesDistinct
  obtain ⟨forest, isForest, -, rfl⟩ := exists_forest_of_compile compiled
  -- a tree of the document is a tree of the forest with other values
  have trees : ∀ t ∈ Tree.forestPreorder (g.assemble s (Tree.forestMap g.block forest)).nodes,
      ∃ u ∈ Tree.forestPreorder forest, u.map g.block = t :=
    fun t => Tree.mem_forestPreorder_map.1
  constructor
  case placed =>
    exact ⟨_, isForest.values_perm wf, isForest.forall₂_placed distinct⟩
  case outermost =>
    rw [assemble, isForest.values_forestMap]
    exact forall₂_isBlockOf distinct _
  case children =>
    intro t ht
    obtain ⟨u, hu, rfl⟩ := trees t ht
    rw [isForest.children_map hu, Tree.value_map]
    exact forall₂_isBlockOf distinct _
  case contain =>
    intro t ht holds
    obtain ⟨u, hu, rfl⟩ := trees t ht
    rw [Tree.value_map]
    exact isForest.isContainer_of_children wf hu (mt Tree.children_map_eq_nil_iff.2 holds)
  case triggers =>
    rw [assemble, topLevel_filter_isTrigger]
  case start =>
    rw [assemble, topLevel_eq_filter]

/-- Branches that run together with a trigger in them, and a trigger outside. One edge leads into
the container, one out of it, and one back to where it starts. -/
def crossingGraph : Graph :=
  .ofLists
    [{ id := "inner", type := "trigger.manual", label := "Inner", category := .trigger,
       parent? := some "both" },
      { id := "both", type := "control.parallel", label := "Both", category := .control },
      { id := "stop", type := "control.stop", label := "Stop", category := .control,
        parent? := some "both" },
      { id := "start", type := "trigger.manual", label := "Start", category := .trigger }]
    [.canonical "start" "stop" .success, .canonical "inner" "start" .error,
      .canonical "both" "both" .success]

/-- The graph with the crossing edges is compiled, and `renders_of_compile` says what to. -/
theorem renders_of_compile_crossingGraph :
    ∃ d, crossingGraph.compile ⟨{ id := "bot", name := "Bot" }, .empty, .builtin, 1⟩ = .ok d
      ∧ crossingGraph.Renders .builtin d := by
  have compiles : (crossingGraph.compile
      ⟨{ id := "bot", name := "Bot" }, .empty, .builtin, 1⟩).toOption.isSome = true := by
    decide +kernel
  obtain ⟨d, compiled⟩ := exists_eq_ok_of_toOption compiles
  exact ⟨d, compiled, renders_of_compile compiled⟩

end Workflow.Graph
