import Workflow.Document.Check
import Workflow.Document.Codec
import Workflow.Graph.Parts

/-!
# Loading documents

From a document back to a graph. The document is checked first and rejected as a whole. Nodes
are then taken out of their containers in pre-order, each with the id of its container as its
parent, and every output that does not end the flow becomes an edge.

## Main results

* `load_error_of_check`: a document in which something is wrong is rejected with all of it.
-/

namespace Workflow

open Json

/-- The ways in which a block goes on to another one: source, handle and target. -/
def Block.links (b : Block) : List (String × Handle × String) :=
  Handle.all.filterMap fun h => ((b.outputs.get h).nodeId?).map fun target => (b.id, h, target)

namespace Document

/-- A node of a document as a node of a graph. Its category is that of its type. -/
def nodeOf (r : Registry) (b : Block) (parent? : Option Block) : Except LoadError Node :=
  match r.find? b.type with
  | none => .error (.unknownType b.id b.type)
  | some t =>
    .ok
      { id := b.id, type := b.type, label := b.label, config := b.config,
        category := t.category, position := b.position, parent? := parent?.map (·.id),
        description? := b.description? }

/-- What comes out of blocks that are taken apart. -/
structure Flat where
  /-- The nodes. -/
  nodes : List Node := []
  /-- The ways in which they go on: source, handle and target. -/
  links : List (String × Handle × String) := []
  /-- What is wrong. -/
  errors : List LoadError := []

namespace Flat

/-- What comes out of some blocks, and then of others. -/
def append (first later : Flat) : Flat where
  nodes := first.nodes ++ later.nodes
  links := first.links ++ later.links
  errors := first.errors ++ later.errors

mutual

/-- Takes a block out of its container, and then what stands in it. If its type is unknown, what
stands in it is not looked at. -/
def ofTree (r : Registry) (parent? : Option Block) : Tree Block → Flat
  | .node b inside =>
    match nodeOf r b parent? with
    | .error e => { errors := [e] }
    | .ok n => append { nodes := [n], links := b.links } (ofForest r (some b) inside)

/-- Takes blocks out of their container one after the other. -/
def ofForest (r : Registry) (parent? : Option Block) : List (Tree Block) → Flat
  | [] => {}
  | t :: rest => append (ofTree r parent? t) (ofForest r parent? rest)

end

end Flat

/-- The nodes of a document in pre-order, as nodes of a graph, with the ways in which they go on. -/
def flatten (d : Document) (r : Registry) : Except (List LoadError) Flat :=
  let flat := Flat.ofForest r none d.nodes
  match flat.errors with
  | [] => .ok flat
  | errors => .error errors

/-- Connects nodes one after the other. -/
def connectAll (g : Graph) : List (String × Handle × String) → Except GraphError Graph
  | [] => .ok g
  | (source, handle, target) :: rest =>
    match g.connect source target handle with
    | .error e => .error e
    | .ok (_, g') => connectAll g' rest

/-- The graph of a document that has passed the check. -/
def rebuild (d : Document) (r : Registry) : Except (List LoadError) Graph := do
  let flat ← d.flatten r
  let g ← (Graph.ofParts flat.nodes []).mapError fun cause => [.graph cause]
  (connectAll g flat.links).mapError fun cause => [.graph cause]

/-- Loads a document. -/
def load (d : Document) (r : Registry) (maxDepth : Nat) : Except (List LoadError) Graph :=
  match (d.check r maxDepth).errors with
  | [] => d.rebuild r
  | errors => .error errors

/-- Loads the text of a document. -/
def loadText (text : String) (r : Registry) (maxDepth : Nat) : Except (List LoadError) Graph :=
  match Document.parse text with
  | .error fault => .error [.unreadable fault]
  | .ok d => d.load r maxDepth

/-- A document in which something is wrong is rejected with all of it. -/
theorem load_error_of_check (d : Document) (r : Registry) (maxDepth : Nat)
    (h : (d.check r maxDepth).errors ≠ []) :
    d.load r maxDepth = .error (d.check r maxDepth).errors := by
  unfold load
  split
  · next e => exact absurd e h
  · rfl

end Document

end Workflow
