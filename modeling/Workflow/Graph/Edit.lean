import Workflow.Graph.Structure

/-!
# Editing graphs

The operations by which a graph is built. Each one checks that the result is well formed and
otherwise says what would be wrong; an operation that fails gives no graph at all, so the one
at hand stays as it is.

## Main results

* `nodes_appendNode`, `edges_appendEdge`: additions go to the end.
* `map_modify_of_eq`: a change of label, place or configuration leaves ids and parents, and
  with them every look-up, as they were.
-/

namespace Workflow

open Json

/-- What happens to the children of a node that is removed. -/
inductive RemovalPolicy where
  /-- They move up to where the node stood. -/
  | reparent
  /-- They are removed too, at every depth. -/
  | cascade
  deriving DecidableEq, Repr

namespace Graph

/-! ### Building blocks -/

/-- The graph with one more node. -/
def appendNode (g : Graph) (n : Node) : Graph :=
  ⟨g.nodes ++ [n], g.edges, g.index.addNode g.nodes.length n, by
    rw [g.indexed, Index.build_push_node]⟩

/-- The graph with one more edge. -/
def appendEdge (g : Graph) (e : Edge) : Graph :=
  ⟨g.nodes, g.edges ++ [e], g.index.addEdge g.edges.length e, by
    rw [g.indexed, Index.build_push_edge]⟩

/-- The graph without the edge at position `i`. No node moves, so that only the tables of edges
are built again. -/
def dropEdge (g : Graph) (i : Nat) : Graph :=
  ⟨g.nodes, g.edges.eraseIdx i, g.index.withEdges (g.edges.eraseIdx i), by
    rw [g.indexed, Index.build_withEdges]⟩

@[simp] theorem nodes_appendNode (g : Graph) (n : Node) :
    (g.appendNode n).nodes = g.nodes ++ [n] := rfl

@[simp] theorem edges_appendEdge (g : Graph) (e : Edge) :
    (g.appendEdge e).edges = g.edges ++ [e] := rfl

/-- A change of a node that leaves its id and its parent alone. -/
structure Touch where
  /-- The change. -/
  apply : Node → Node
  /-- The id stays. -/
  id_eq : ∀ n, (apply n).id = n.id
  /-- The parent stays. -/
  parent_eq : ∀ n, (apply n).parent? = n.parent?

/-- A view of the nodes that a change leaves alone is the same after it. -/
theorem map_modify_of_eq {α β : Type} (view : α → β) (f : α → α)
    (same : ∀ a, view (f a) = view a) (xs : List α) (i : Nat) :
    (xs.modify i f).map view = xs.map view := by
  induction xs generalizing i with
  | nil => simp
  | cons x xs ih =>
    cases i with
    | zero => simp [same]
    | succ i => simp [ih]

/-- The graph with the node at position `i` changed. -/
def touchAt (g : Graph) (i : Nat) (t : Touch) : Graph :=
  ⟨g.nodes.modify i t.apply, g.edges, g.index, by
    rw [g.indexed]
    exact (Index.build_congr g.edges (map_modify_of_eq _ _ t.id_eq _ _)
      (map_modify_of_eq _ _ t.parent_eq _ _)).symm⟩

/-- The graph with the first node of this id changed. -/
def touch (g : Graph) (id : String) (t : Touch) : Except GraphError Graph :=
  match g.index.node[id]? with
  | none => .error (.nodeNotFound id)
  | some i => .ok (g.touchAt i t)

/-! ### Nodes -/

/-- Checks that `parent` may hold `child`. -/
def checkParent (g : Graph) (child parent : String) : Except GraphError Unit :=
  match g.node? parent with
  | none => .error (.nodeNotFound parent)
  | some p =>
    if parent = child then .error (.containment child .ownContainer)
    else if !isContainer p.type then
      .error (.containment child (.notContainer parent p.type))
    else if (g.ancestors parent).contains child then
      .error (.containment child (.insideOut parent))
    else .ok ()

/-- Checks that a node may stand where it says it stands. -/
def checkPlace (g : Graph) (child : String) : Option String → Except GraphError Unit
  | none => .ok ()
  | some parent => g.checkParent child parent

/-- Adds a node. -/
def addNode (g : Graph) (n : Node) : Except GraphError Graph :=
  if Text.isBlank n.id then .error (.blankNodeId n.id)
  else if g.contains n.id then .error (.duplicateNodeId n.id)
  else (g.checkPlace n.id n.parent?).map fun _ => g.appendNode n

/-- The nodes after those that stood in `id` have moved up to `grandparent?`. -/
def liftChildren (nodes : List Node) (id : String) (grandparent? : Option String) : List Node :=
  nodes.map fun n => if n.parent? = some id then { n with parent? := grandparent? } else n

/-- The graph without the nodes in `doomed` and the edges that touch them. -/
def without (nodes : List Node) (edges : List Edge) (doomed : List String) : Graph :=
  ofLists (nodes.filter fun n => !doomed.contains n.id)
    (edges.filter fun e => !doomed.contains e.source && !doomed.contains e.target)

/-- Removes a node and every edge that touches it. Gives the removed nodes too, the requested
one first and the others in the order of creation. -/
def removeNode (g : Graph) (id : String) (policy : RemovalPolicy) :
    Except GraphError (List Node × Graph) :=
  match g.node? id with
  | none => .error (.nodeNotFound id)
  | some n =>
    let doomed := match policy with
      | .cascade => id :: g.descendants id
      | .reparent => [id]
    let nodes := match policy with
      | .cascade => g.nodes
      | .reparent => liftChildren g.nodes id n.parent?
    let removed := nodes.filter fun m => doomed.contains m.id
    let requested := removed.filter fun m => m.id == id
    let others := removed.filter fun m => m.id != id
    .ok (requested ++ others, without nodes g.edges doomed)

/-- Moves a node into a container, or to the top level. -/
def setParent (g : Graph) (id : String) (parent? : Option String) : Except GraphError Graph :=
  match g.index.node[id]? with
  | none => .error (.nodeNotFound id)
  | some i =>
    (g.checkPlace id parent?).map fun _ =>
      ofLists (g.nodes.modify i fun n => { n with parent? := parent? }) g.edges

/-- Gives a node another label. -/
def setLabel (g : Graph) (id label : String) : Except GraphError Graph :=
  g.touch id ⟨fun n => { n with label }, fun _ => rfl, fun _ => rfl⟩

/-- Moves a node on the canvas. -/
def setPosition (g : Graph) (id : String) (position : Position) : Except GraphError Graph :=
  g.touch id ⟨fun n => { n with position }, fun _ => rfl, fun _ => rfl⟩

/-- Changes the configuration of a node. -/
def editConfig (g : Graph) (id : String) (f : Fields → Fields) : Except GraphError Graph :=
  g.touch id ⟨fun n => { n with config := f n.config }, fun _ => rfl, fun _ => rfl⟩

/-- The configuration of a node. -/
def config (g : Graph) (id : String) : Except GraphError Fields :=
  match g.node? id with
  | none => .error (.nodeNotFound id)
  | some n => .ok n.config

/-- Writes one entry of a configuration. Gives the value it had before. -/
def setConfig (g : Graph) (id key : String) (value : Value) :
    Except GraphError (Option Value × Graph) := do
  let before ← g.config id
  let g' ← g.editConfig id (Fields.insert key value)
  return (before.get? key, g')

/-- Takes one entry out of a configuration. Gives the value it had. -/
def removeConfig (g : Graph) (id key : String) : Except GraphError (Option Value × Graph) := do
  let before ← g.config id
  let g' ← g.editConfig id (Fields.erase key)
  return (before.get? key, g')

/-! ### Edges -/

/-- Adds an edge. -/
def addEdge (g : Graph) (e : Edge) : Except GraphError Graph :=
  if !g.contains e.source then .error (.danglingEdge e.id e.source)
  else if !g.contains e.target then .error (.danglingEdge e.id e.target)
  else if (g.outgoing? e.source e.handle).isSome then .error (.handleTaken e.source e.handle)
  else if (g.edge? e.id).isSome then .error (.duplicateEdgeId e.id)
  else .ok (g.appendEdge e)

/-- An id with a number at its end. -/
def numberedId (base : String) (k : Nat) : String :=
  base ++ "-" ++ Decimal.natText k

/-- The id itself if no edge has it, else the first one with a number from two on. One of as
many numbers as there are edges, and one more, is free. -/
def freeEdgeId (g : Graph) (base : String) : String :=
  if (g.edge? base).isNone then base
  else
    let free := (List.range (g.edges.length + 1)).find? fun k =>
      (g.edge? (numberedId base (k + 2))).isNone
    numberedId base (free.getD 0 + 2)

/-- Connects two nodes by an edge with a free id. Gives the id too. -/
def connect (g : Graph) (source target : String) (handle : Handle) :
    Except GraphError (String × Graph) :=
  let id := g.freeEdgeId (Edge.canonicalId source handle target)
  (g.addEdge { id, source, target, handle }).map fun g' => (id, g')

/-- Removes an edge. Gives the edge too. -/
def removeEdge (g : Graph) (id : String) : Except GraphError (Edge × Graph) :=
  match g.index.edge[id]? with
  | none => .error (.edgeNotFound id)
  | some i =>
    match g.edges[i]? with
    | none => .error (.edgeNotFound id)
    | some e => .ok (e, g.dropEdge i)

end Graph

end Workflow
