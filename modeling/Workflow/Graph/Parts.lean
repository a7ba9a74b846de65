import Workflow.Graph.Edit

/-!
# Graphs from parts

A graph from nodes and edges in any order. A node is added once its parent is there; passes
over the nodes that still wait are repeated until none is left or a pass adds none.

## Main results

* `length_placePass`: a pass never leaves more nodes waiting than it was given.
-/

namespace Workflow.Graph

/-- Whether the parent of a node, if it has one, is there. -/
def isReady (g : Graph) (n : Node) : Bool :=
  match n.parent? with
  | none => true
  | some parent => g.contains parent

/-- One pass: every node that is ready is added, the others keep waiting. -/
def placePass (g : Graph) : List Node → Except GraphError (Graph × List Node)
  | [] => .ok (g, [])
  | n :: rest =>
    if g.isReady n then
      match g.addNode n with
      | .error e => .error e
      | .ok g' => placePass g' rest
    else
      match placePass g rest with
      | .error e => .error e
      | .ok (g', waiting) => .ok (g', n :: waiting)

/-- Why none of the waiting nodes can be added: the first parent that is neither there nor
waiting, or else a cycle of parents. -/
def unplaceable (waiting : List Node) : GraphError :=
  let ids := waiting.map (·.id)
  match waiting.findSome? fun n => n.parent?.filter fun p => !ids.contains p with
  | some parent => .nodeNotFound parent
  | none => .containment ((waiting.head?.map (·.id)).getD "") .cycle

/-- Passes over the waiting nodes until none is left or a pass adds none. -/
def placeAll (g : Graph) (waiting : List Node) : Except GraphError Graph :=
  if waiting.isEmpty then .ok g
  else
    match placePass g waiting with
    | .error e => .error e
    | .ok (g', still) =>
      if still.length < waiting.length then placeAll g' still
      else .error (unplaceable still)
termination_by waiting.length

/-- Adds the edges one after the other. -/
def addEdges (g : Graph) : List Edge → Except GraphError Graph
  | [] => .ok g
  | e :: rest =>
    match g.addEdge e with
    | .error err => .error err
    | .ok g' => addEdges g' rest

/-- The graph of nodes and edges in any order. -/
def ofParts (nodes : List Node) (edges : List Edge) : Except GraphError Graph :=
  match placeAll empty nodes with
  | .error e => .error e
  | .ok g => g.addEdges edges

/-- A pass never leaves more nodes waiting than it was given. -/
theorem length_placePass {g g' : Graph} {nodes waiting : List Node}
    (h : placePass g nodes = .ok (g', waiting)) : waiting.length ≤ nodes.length := by
  induction nodes generalizing g g' waiting with
  | nil =>
    simp only [placePass, Except.ok.injEq, Prod.mk.injEq] at h
    simp [← h.2]
  | cons n rest ih =>
    rw [placePass] at h
    split at h
    · split at h
      · cases h
      · next g'' _ =>
        have shorter := ih h
        simp only [List.length_cons]
        omega
    · split at h
      · cases h
      · next g'' still hrest =>
        simp only [Except.ok.injEq, Prod.mk.injEq] at h
        have shorter := ih hrest
        simp only [← h.2, List.length_cons]
        omega

end Workflow.Graph
