import Std.Data.TreeMap
import Workflow.Document
import Workflow.Graph.Basic

/-!
# Outlines

What is looked up while the nodes of a graph are nested into each other: which nodes stand in a
container, and where the flow goes on behind a node. An outline is made once, from the lists of a
graph alone. The index of the graph is not used, and it would not tell the same: where two edges
leave a node by one handle, the index finds the first and the outline knows the last.
-/

namespace Workflow

open Std

/-! ### Tables -/

/-- Notes one more element under a key, if there is a key. -/
def noteMember {α : Type} (table : TreeMap String (Array α)) (key : Option String) (x : α) :
    TreeMap String (Array α) :=
  match key with
  | none => table
  | some k => table.insert k ((table.getD k #[]).push x)

/-- The elements under each key, in order; an element without a key is passed over. -/
def groups {α : Type} (key : α → Option String) (xs : List α) : TreeMap String (Array α) :=
  xs.foldl (fun table x => noteMember table (key x) x) ∅

/-- Notes a value under a key, if there is a key, in place of what was noted before. -/
def noteLast {β : Type} (table : TreeMap String β) (key : Option String) (value : β) :
    TreeMap String β :=
  match key with
  | none => table
  | some k => table.insert k value

/-- The value of the last element under each key; an element without a key is passed over. -/
def lasts {α β : Type} (key : α → Option String) (value : α → β) (xs : List α) :
    TreeMap String β :=
  xs.foldl (fun table x => noteLast table (key x) (value x)) ∅

/-! ### Outlines -/

/-- What is looked up while nodes are nested. -/
structure Outline where
  /-- The nodes that stand in a node, in order of creation. A node without any has no entry. -/
  children : TreeMap String (Array Node)
  /-- Where the flow goes on after success. -/
  success : TreeMap String String
  /-- Where the flow goes on after an error. -/
  error : TreeMap String String

namespace Outline

/-- The outline of a graph. -/
def ofGraph (g : Graph) : Outline where
  children := groups (·.parent?) g.nodes
  success := lasts (Edge.sourceBy .success) (·.target) g.edges
  error := lasts (Edge.sourceBy .error) (·.target) g.edges

/-- Where the flow goes on by a handle. -/
def targets (o : Outline) : Handle → TreeMap String String
  | .success => o.success
  | .error => o.error

/-- Where the flow goes on behind a node. -/
def targetOf (o : Outline) (id : String) (handle : Handle) : Target :=
  match (o.targets handle)[id]? with
  | none => .finish
  | some target => .node target

/-- A node as it is handed over. -/
def block (o : Outline) (n : Node) : Block :=
  { id := n.id, type := n.type, config := n.config, label := n.label, position := n.position,
    description? := n.description?,
    outputs := ⟨o.targetOf n.id .success, o.targetOf n.id .error⟩ }

end Outline

end Workflow
