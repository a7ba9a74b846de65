import Workflow.Canvas
import Workflow.Proofs.Graph.Placement

/-!
# Drawing graphs and reading the drawings

A graph that is drawn and read again is built anew from its nodes and edges, and a node without
a label gets its id as one. So the same graph comes back exactly if it is what building makes of
its own parts and if no label is missing. Every graph that was read from a drawing is of this
kind, whatever the drawing was like.

## Main results

* `nodeOf_ofNode_iff`: a node that was drawn is read as itself, with a label.
* `toGraph_ofGraph_eq_ok_iff`: what the drawing of a graph is read as.
* `toGraph_ofGraph_iff`: **the same graph comes back** exactly if nothing is wrong with its
  structure, every node stands behind its parent, types are registered with the categories that
  the nodes are stored with, and no label is empty.
-/

namespace Workflow.Canvas

variable {g g' : Graph} {r : Registry}

/-! ### Nodes -/

/-- Whether the type of a node is registered, with the category that the node is stored with. -/
def IsKnown (r : Registry) (n : Node) : Prop :=
  ∃ t, r.find? n.type = some t ∧ t.category = n.category

/-- A node with its id as its label if it has none. -/
def withLabel (n : Node) : Node :=
  { n with label := if n.label.isEmpty then n.id else n.label }

/-- A node with a label stays as it is. -/
theorem withLabel_eq_self {n : Node} (labelled : n.label ≠ "") : withLabel n = n := by
  have ink : n.label.isEmpty = false := by simpa using labelled
  simp [withLabel, ink]

/-- A node that is read from a drawing is of a known type, and has a label if it has an id. -/
theorem isKnown_of_nodeOf {c : CanvasNode} {n : Node} (read : nodeOf r c = .ok n) :
    IsKnown r n ∧ (n.id ≠ "" → n.label ≠ "") := by
  rw [nodeOf] at read
  split at read
  · cases read
  · next t found =>
    split at read
    · cases read
    · cases read
      refine ⟨⟨t, found, rfl⟩, fun visible => ?_⟩
      by_cases blank : c.data.label = ""
      · simpa [blank] using visible
      · simp [blank]

/-- **A node that was drawn is read as itself**, with a label, if its type is known. -/
theorem nodeOf_ofNode_iff {n m : Node} :
    nodeOf r (ofNode n) = .ok m ↔ IsKnown r n ∧ withLabel n = m := by
  simp only [nodeOf, ofNode, IsKnown]
  cases found : r.find? n.type with
  | none => simp
  | some t =>
    by_cases agrees : n.category = t.category
    · have claims : (some n.category).filter (fun c => decide (c ≠ n.category)) = none := by
        simp [Option.filter]
      simp only [← agrees, claims, Option.some.injEq, exists_eq_left', true_and, Except.ok.injEq]
      rfl
    · have claims : (some n.category).filter (fun c => decide (c ≠ t.category))
          = some n.category := by simp [Option.filter, agrees]
      simp only [claims, reduceCtorEq, Option.some.injEq, exists_eq_left', Ne.symm agrees,
        false_and]

/-- Nodes that were drawn are read as themselves, with labels, if their types are known. -/
theorem mapM_nodeOf_ofNode_iff {nodes read : List Node} :
    (nodes.map ofNode).mapM (nodeOf r) = .ok read ↔
      (∀ n ∈ nodes, IsKnown r n) ∧ nodes.map withLabel = read := by
  rw [mapM_eq_ok_iff, List.forall₂_map_left_iff]
  simp only [nodeOf_ofNode_iff]
  rw [List.forall₂_and_left, ← List.forall₂_map_left_iff, List.forall₂_eq_eq_eq]

/-! ### Edges -/

/-- Edges that were drawn are added as they are. -/
theorem drawEdges_ofEdge (g : Graph) (edges : List Edge) :
    drawEdges g (edges.map ofEdge) = (g.addEdges edges).mapError .graph := by
  induction edges generalizing g with
  | nil => rfl
  | cons e rest ih =>
    have handle : handleOf (ofEdge e) = .ok e.handle := by
      have named : Handle.ofName? e.handle.name = some e.handle :=
        (Handle.ofName?_eq_some_iff _ _).2 rfl
      simp [handleOf, ofEdge, named]
    have drawn : drawEdge g (ofEdge e) = (g.addEdge e).mapError .graph := by
      rw [drawEdge, handle]
      rfl
    rw [List.map_cons, drawEdges, drawn, Graph.addEdges]
    cases g.addEdge e with
    | error err => rfl
    | ok g' => exact ih g'

/-- Edges of a drawing leave the nodes of a graph alone, and keep it well formed. -/
theorem drawEdges_ok {edges : List CanvasEdge} (wf : g.WellFormed)
    (drawn : drawEdges g edges = .ok g') : g'.nodes = g.nodes ∧ g'.WellFormed := by
  induction edges generalizing g with
  | nil =>
    cases drawn
    exact ⟨rfl, wf⟩
  | cons e rest ih =>
    rw [drawEdges] at drawn
    split at drawn
    · cases drawn
    · next g'' here =>
      have step : g''.nodes = g.nodes ∧ g''.WellFormed := by
        obtain ⟨handle, -, here⟩ := bind_eq_ok_iff.1 here
        split at here
        · have added := mapError_eq_ok_iff.1 here
          refine ⟨?_, wf.addEdge added⟩
          obtain ⟨-, -, -, -, rfl⟩ := Graph.addEdge_eq_ok_iff.1 added
          rfl
        · obtain ⟨⟨id, g₁⟩, connected, rfl⟩ := map_eq_ok_iff.1 (mapError_eq_ok_iff.1 here)
          refine ⟨?_, wf.connect connected⟩
          obtain ⟨-, -, -, -, rfl⟩ := Graph.connect_eq_ok_iff.1 connected
          rfl
      obtain ⟨nodes, wf'⟩ := ih step.2 drawn
      exact ⟨nodes.trans step.1, wf'⟩

/-! ### Drawings -/

/-- **What the drawing of a graph is read as**: the graph of its parts, with labels, if all types
are known. -/
theorem toGraph_ofGraph_eq_ok_iff :
    (ofGraph g).toGraph r = .ok g' ↔
      (∀ n ∈ g.nodes, IsKnown r n)
        ∧ Graph.ofParts (g.nodes.map withLabel) g.edges = .ok g' := by
  have edges : ∀ nodes, ((Graph.ofParts nodes []).mapError ConversionError.graph >>= fun g₁ =>
      drawEdges g₁ (g.edges.map ofEdge)) = (Graph.ofParts nodes g.edges).mapError .graph := by
    intro nodes
    simp only [drawEdges_ofEdge, Graph.ofParts]
    cases Graph.placeAll Graph.empty nodes <;> rfl
  rw [toGraph, bind_eq_ok_iff]
  simp only [ofGraph, edges, mapError_eq_ok_iff, mapM_nodeOf_ofNode_iff]
  constructor
  · rintro ⟨nodes, ⟨known, rfl⟩, built⟩
    exact ⟨known, built⟩
  · rintro ⟨known, built⟩
    exact ⟨_, ⟨known, rfl⟩, built⟩

/-- What is read from a drawing: a well-formed graph with every node behind its parent, of known
types and with labels. -/
theorem toGraph_ok {c : Canvas} (read : c.toGraph r = .ok g) :
    g.WellFormed ∧ Graph.ParentsFirst g.nodes ∧ ∀ n ∈ g.nodes, IsKnown r n ∧ n.label ≠ "" := by
  obtain ⟨nodes, flat, rest⟩ := bind_eq_ok_iff.1 read
  obtain ⟨g₁, built, drawn⟩ := bind_eq_ok_iff.1 rest
  have parts := mapError_eq_ok_iff.1 built
  obtain ⟨first, perm, -⟩ := Graph.ofParts_ok parts
  obtain ⟨same, wf⟩ := drawEdges_ok (Graph.wellFormed_of_ofParts parts) drawn
  refine ⟨wf, same ▸ first, fun n hn => ?_⟩
  rw [same] at hn
  obtain ⟨drawn_node, -, of_node⟩ := exists_of_mem_right (mapM_eq_ok_iff.1 flat) (perm.subset hn)
  obtain ⟨known, labelled⟩ := isKnown_of_nodeOf of_node
  exact ⟨known, labelled (wf.id_ne_empty (same ▸ hn))⟩

/-! ### Back and forth -/

/-- **The same graph comes back** from its drawing exactly if nothing is wrong with its structure,
every node stands behind its parent, every type is registered with the category that the node is
stored with, and no label is empty. So it is with every graph that was read from a drawing. -/
theorem toGraph_ofGraph_iff (g : Graph) (r : Registry) :
    ((ofGraph g).toGraph r = .ok g ↔
      g.violations = [] ∧ Graph.ParentsFirst g.nodes
        ∧ (∀ n ∈ g.nodes, ∃ t, r.find? n.type = some t ∧ t.category = n.category)
        ∧ ∀ n ∈ g.nodes, n.label ≠ "")
      ∧ ∀ c : Canvas, c.toGraph r = .ok g → (ofGraph g).toGraph r = .ok g := by
  have comes_back : g.WellFormed → Graph.ParentsFirst g.nodes →
      (∀ n ∈ g.nodes, IsKnown r n ∧ n.label ≠ "") → (ofGraph g).toGraph r = .ok g := by
    intro wf first each
    have labelled : g.nodes.map withLabel = g.nodes := by
      rw [List.map_congr_left fun n hn => withLabel_eq_self (each n hn).2, List.map_id']
    rw [toGraph_ofGraph_eq_ok_iff, labelled, Graph.ofParts_eq_self_iff]
    exact ⟨fun n hn => (each n hn).1, wf, first⟩
  refine ⟨⟨fun back => ?_, ?_⟩, fun c read => ?_⟩
  · obtain ⟨wf, first, each⟩ := toGraph_ok back
    exact ⟨wf.violations_eq_nil, first, fun n hn => (each n hn).1, fun n hn => (each n hn).2⟩
  · rintro ⟨clean, first, known, labelled⟩
    exact comes_back (Graph.wellFormed_of_violations_eq_nil clean) first
      fun n hn => ⟨known n hn, labelled n hn⟩
  · obtain ⟨wf, first, each⟩ := toGraph_ok read
    exact comes_back wf first each

end Workflow.Canvas
