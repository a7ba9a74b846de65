import Workflow.Proofs.Graph.Preservation

/-!
# Placing nodes and edges

A graph of parts is built in passes, and nodes that wait for their parents are placed later than
they were given. What is built therefore has every node behind its parent, whatever the order of
the parts; and parts that come in such an order are placed as they come, in a single pass.

## Main results

* `exists_pass_of_placeable`, `placeAll_of_placeable`: nodes that come after their parents are
  placed in one pass, in the order they come.
* `ofParts_ok`: a graph of parts has the nodes in another order, every one behind its parent, and
  the edges as they were given.
* `ofParts_eq_self_iff`: **a graph is that of its own parts** exactly if it is well formed and
  every node stands behind its parent.
-/

namespace Workflow.Graph

variable {g g' : Graph}

/-! ### Nodes behind their parents -/

/-- Every node stands behind its parent. -/
def ParentsFirst (nodes : List Node) : Prop :=
  ∀ before n after, nodes = before ++ n :: after →
    ∀ p, n.parent? = some p → p ∈ before.map (·.id)

/-- A node may be put at the end if its parent is there. -/
theorem ParentsFirst.concat {nodes : List Node} (first : ParentsFirst nodes) {n : Node}
    (place : ∀ p, n.parent? = some p → p ∈ nodes.map (·.id)) : ParentsFirst (nodes ++ [n]) := by
  intro before m after split p hp
  -- `m` is the new node or one of the old ones, as nothing or something stands behind it
  rcases List.eq_nil_or_concat after with rfl | ⟨rest, last, rfl⟩
  · obtain ⟨rfl, same⟩ := List.append_inj' split rfl
    cases same
    exact place p hp
  · rw [List.concat_eq_append, ← List.cons_append, ← List.append_assoc] at split
    obtain ⟨same, -⟩ := List.append_inj' split rfl
    exact first before m rest same p hp

/-- Nodes that can be placed one after the other where `known` are there already: each has a
visible and new id, and its parent is a container that comes before it. -/
def Placeable (known : List Node) : List Node → Prop
  | [] => True
  | n :: rest =>
    Text.isBlank n.id = false ∧ n.id ∉ known.map (·.id)
      ∧ (∀ p, n.parent? = some p → ∃ m ∈ known, m.id = p ∧ isContainer m.type = true)
      ∧ Placeable (known ++ [n]) rest

/-- The nodes of a well-formed graph can be placed one after the other if each stands behind its
parent. -/
theorem WellFormed.placeable (wf : g.WellFormed) (first : ParentsFirst g.nodes) :
    Placeable [] g.nodes := by
  have general : ∀ known rest, g.nodes = known ++ rest → Placeable known rest := by
    intro known rest split
    induction rest generalizing known with
    | nil => trivial
    | cons n rest ih =>
      have distinct := wf.nodeIdsDistinct
      have here : n ∈ g.nodes := split ▸ List.mem_append_right _ List.mem_cons_self
      refine ⟨wf.nodeIdsVisible n here, ?_, ?_, ih _ (by rw [split, List.append_assoc]; rfl)⟩
      · intro old
        rw [split, List.map_append, List.nodup_append] at distinct
        exact distinct.2.2 _ old _ List.mem_cons_self rfl
      · intro p hp
        obtain ⟨m, hm, rfl⟩ := List.mem_map.1 (first known n rest split p hp)
        have known_node : m ∈ g.nodes := split ▸ List.mem_append_left _ hm
        exact ⟨m, hm, rfl, wf.isContainer_of_parent here known_node hp⟩
  exact general [] g.nodes rfl

/-! ### Passes -/

/-- A node whose parent, should it have one, is a container of the graph may be placed. -/
theorem isReady_of_hasContainer {n : Node} (place : ∀ p, n.parent? = some p → g.HasContainer p) :
    g.isReady n = true := by
  rw [isReady_iff]
  intro p hp
  obtain ⟨m, hm, rfl, -⟩ := place p hp
  exact List.mem_map_of_mem hm

/-- **Nodes that come after their parents are placed in one pass**, in the order they come. -/
theorem exists_pass_of_placeable {nodes : List Node} (wf : g.WellFormed)
    (placeable : Placeable g.nodes nodes) :
    ∃ g', Pass g nodes g' [] ∧ g'.nodes = g.nodes ++ nodes ∧ g'.edges = g.edges := by
  induction nodes generalizing g with
  | nil => exact ⟨g, .done, (List.append_nil _).symm, rfl⟩
  | cons n rest ih =>
    obtain ⟨visible, new, place, later⟩ := placeable
    have added : g.addNode n = .ok (g.appendNode n) :=
      (addNode_eq_ok_iff wf).2 ⟨visible, new, place, rfl⟩
    obtain ⟨g', pass, nodes_eq, edges_eq⟩ := ih (wf.addNode added) later
    refine ⟨g', .place (isReady_of_hasContainer place) added pass, ?_, edges_eq⟩
    rw [nodes_eq, nodes_appendNode, List.append_assoc, List.singleton_append]

/-- Nodes that come after their parents are placed as they come. -/
theorem placeAll_of_placeable {nodes : List Node} (placeable : Placeable [] nodes) :
    ∃ g, placeAll empty nodes = .ok g ∧ g.nodes = nodes ∧ g.edges = [] := by
  obtain ⟨g, pass, nodes_eq, edges_eq⟩ := exists_pass_of_placeable wellFormed_empty placeable
  refine ⟨g, placeAll_eq_ok_iff.2 ?_, nodes_eq, edges_eq⟩
  cases nodes with
  | nil =>
    cases pass
    exact .done
  | cons n rest => exact .more (List.cons_ne_nil n rest) pass (Nat.succ_ne_zero _).symm .done

/-- What passes over nodes keep: nodes stand behind their parents, none is lost, and there are
the same edges. -/
structure Places (g : Graph) (nodes : List Node) (g' : Graph) (waiting : List Node) : Prop where
  /-- Nodes stand behind their parents if they did before. -/
  first : ParentsFirst g.nodes → ParentsFirst g'.nodes
  /-- A node has been placed or is waiting. -/
  perm : (g'.nodes ++ waiting).Perm (g.nodes ++ nodes)
  /-- No edge has been added or removed. -/
  edges : g'.edges = g.edges

/-- **A pass** places some nodes behind their parents and keeps the others waiting. -/
theorem Pass.places {nodes waiting : List Node} (pass : Pass g nodes g' waiting) :
    g.Places nodes g' waiting := by
  induction pass with
  | done => exact ⟨id, .refl _, rfl⟩
  | place ready added _ ih =>
    obtain rfl := eq_appendNode_of_addNode added
    refine ⟨fun first => ih.first (first.concat (isReady_iff.1 ready)), ?_, ih.edges⟩
    rw [← List.singleton_append, ← List.append_assoc]
    exact ih.perm
  | keep _ _ ih =>
    exact ⟨ih.first, List.perm_middle.trans ((ih.perm.cons _).trans List.perm_middle.symm),
      ih.edges⟩

/-- **All passes** together place every node behind its parent. -/
theorem Passes.places {waiting : List Node} (passes : Passes g waiting g') :
    g.Places waiting g' [] := by
  induction passes with
  | done => exact ⟨id, .refl _, rfl⟩
  | more _ pass _ _ ih =>
    have before := pass.places
    exact ⟨ih.first ∘ before.first, ih.perm.trans before.perm, ih.edges.trans before.edges⟩

/-! ### Edges -/

/-- Edges that are added come behind those that are there, in the order they come. -/
theorem addEdges_ok {edges : List Edge} (added : g.addEdges edges = .ok g') :
    g'.nodes = g.nodes ∧ g'.edges = g.edges ++ edges := by
  induction edges generalizing g with
  | nil =>
    cases added
    exact ⟨rfl, (List.append_nil _).symm⟩
  | cons e rest ih =>
    rw [addEdges] at added
    split at added
    · cases added
    · next g'' here =>
      obtain ⟨-, -, -, -, rfl⟩ := addEdge_eq_ok_iff.1 here
      obtain ⟨nodes, edges⟩ := ih added
      exact ⟨nodes, by rw [edges, edges_appendEdge, List.append_assoc, List.singleton_append]⟩

/-- **Edges between nodes are all added** if no id and no handle is used twice. -/
theorem exists_addEdges_eq_ok {edges : List Edge}
    (ends : ∀ e ∈ edges, e.source ∈ g.nodeIds ∧ e.target ∈ g.nodeIds)
    (ids : (g.edgeIds ++ edges.map (·.id)).Nodup)
    (handles : (g.takenHandles ++ edges.map fun e => (e.source, e.handle)).Nodup) :
    ∃ g', g.addEdges edges = .ok g' := by
  induction edges generalizing g with
  | nil => exact ⟨g, rfl⟩
  | cons e rest ih =>
    obtain ⟨source, target⟩ := ends e List.mem_cons_self
    have new : e.id ∉ g.edgeIds :=
      fun old => (List.nodup_append.1 ids).2.2 _ old _ List.mem_cons_self rfl
    have free : (e.source, e.handle) ∉ g.takenHandles :=
      fun taken => (List.nodup_append.1 handles).2.2 _ taken _ List.mem_cons_self rfl
    have added : g.addEdge e = .ok (g.appendEdge e) :=
      addEdge_eq_ok_iff.2 ⟨source, target, free, new, rfl⟩
    rw [addEdges, added]
    refine ih (fun e he => ends e (List.mem_cons_of_mem _ he)) ?_ ?_
    · simpa [edgeIds] using ids
    · simpa [takenHandles] using handles

/-! ### Graphs of parts -/

/-- **A graph of parts** has the nodes, every one behind its parent, and the edges in the order
they were given. -/
theorem ofParts_ok {nodes : List Node} {edges : List Edge} (built : ofParts nodes edges = .ok g) :
    ParentsFirst g.nodes ∧ g.nodes.Perm nodes ∧ g.edges = edges := by
  obtain ⟨placed, passes, added⟩ := ofParts_eq_ok_iff.1 built
  have places := passes.places
  obtain ⟨nodes_eq, edges_eq⟩ := addEdges_ok added
  have none_yet : ParentsFirst empty.nodes := by
    intro before n after split
    cases before <;> cases split
  refine ⟨?_, ?_, ?_⟩
  · rw [nodes_eq]
    exact places.first none_yet
  · have perm := places.perm
    rw [List.append_nil] at perm
    rwa [nodes_eq]
  · rw [edges_eq, places.edges]
    rfl

/-- **A graph is that of its own parts** exactly if it is well formed and every node stands behind
its parent. -/
theorem ofParts_eq_self_iff :
    ofParts g.nodes g.edges = .ok g ↔ g.WellFormed ∧ ParentsFirst g.nodes := by
  constructor
  · exact fun built => ⟨wellFormed_of_ofParts built, (ofParts_ok built).1⟩
  · rintro ⟨wf, first⟩
    obtain ⟨placed, passes, nodes_eq, edges_eq⟩ := placeAll_of_placeable (wf.placeable first)
    have ids : placed.nodeIds = g.nodeIds := congrArg (List.map _) nodes_eq
    obtain ⟨g', added⟩ : ∃ g', addEdges placed g.edges = .ok g' := exists_addEdges_eq_ok
      (ids ▸ wf.edgesAttached)
      (by simpa [edgeIds, edges_eq] using wf.edgeIdsDistinct)
      (by simpa [takenHandles, edges_eq] using wf.handlesDistinct)
    obtain ⟨nodes_eq', edges_eq'⟩ := addEdges_ok added
    have same : g' = g :=
      ext_lists (nodes_eq'.trans nodes_eq) (by rw [edges_eq', edges_eq, List.nil_append])
    rw [same] at added
    rw [ofParts, passes]
    exact added

end Workflow.Graph
