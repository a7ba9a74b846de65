import Workflow.Graph.Parts
import Workflow.Registry
import Workflow.Document.Check

/-!
# Canvas files

The format in which the drawing program keeps a bot: nodes with their data in a part of their
own, and edges that may lack an id and a handle. A canvas becomes a graph by the same edits
as any other, and every graph can be drawn.
-/

namespace Workflow

open Json

/-! ### Canvas files -/

/-- What a node is about. -/
structure CanvasData where
  /-- The node type. -/
  type : String
  /-- The label; if empty, the id stands in. -/
  label : String := ""
  /-- The configuration. -/
  config : Fields := []
  /-- The category, if it is stated. -/
  category? : Option Category := none
  /-- A note of the user. -/
  description? : Option String := none

/-- A node as it is drawn. -/
structure CanvasNode where
  /-- The identity of the node. -/
  id : String
  /-- How it is drawn; of no meaning here. -/
  renderer? : Option String := none
  /-- Where it is drawn. -/
  position : Position := {}
  /-- The node it is drawn in. -/
  parent? : Option String := none
  /-- What it is about. -/
  data : CanvasData

/-- An edge as it is drawn. -/
structure CanvasEdge where
  /-- The identity of the edge, if it has one. -/
  id? : Option String := none
  /-- Where it starts. -/
  source : String
  /-- Where it ends. -/
  target : String
  /-- The name of the handle; without one it is that of success. -/
  handle? : Option String := none
  deriving DecidableEq

/-- A drawing. -/
structure Canvas where
  nodes : List CanvasNode := []
  edges : List CanvasEdge := []

/-! ### Errors -/

/-- Why a drawing is no graph. -/
inductive ConversionError where
  /-- An edge names a handle that does not exist. -/
  | unknownHandle (source target handle : String)
  | unknownType (node type : String)
  | categoryMismatch (node type : String) (expected actual : Category)
  /-- The parts do not make a graph. -/
  | graph (cause : GraphError)
  deriving DecidableEq

/-- The wording of a conversion error. -/
def ConversionError.message : ConversionError → String
  | unknownHandle source target handle =>
    "Invalid editor data: edge " ++ source ++ " -> " ++ target ++ ": "
      ++ Handle.unknownMessage handle
  | unknownType node type => unknownTypeMessage node type
  | categoryMismatch node type expected actual =>
    "Node '" ++ node ++ "' of type '" ++ type ++ "' claims category '" ++ actual.name
      ++ "', but the registry says '" ++ expected.name ++ "'"
  | graph cause => cause.message

namespace Canvas

/-! ### From a drawing to a graph -/

/-- A drawn node as a node of a graph. The category is that of the type; a category that is
stated must agree with it. -/
def nodeOf (r : Registry) (c : CanvasNode) : Except ConversionError Node :=
  match r.find? c.data.type with
  | none => .error (.unknownType c.id c.data.type)
  | some t =>
    match c.data.category?.filter (· ≠ t.category) with
    | some claimed => .error (.categoryMismatch c.id c.data.type t.category claimed)
    | none =>
      .ok
        { id := c.id, type := c.data.type,
          label := if c.data.label.isEmpty then c.id else c.data.label,
          config := c.data.config, category := t.category, position := c.position,
          parent? := c.parent?, description? := c.data.description? }

/-- The handle of a drawn edge. -/
def handleOf (e : CanvasEdge) : Except ConversionError Handle :=
  match e.handle? with
  | none => .ok .success
  | some name =>
    match Handle.ofName? name with
    | some h => .ok h
    | none => .error (.unknownHandle e.source e.target name)

/-- Adds a drawn edge; without an id it gets a free one. -/
def drawEdge (g : Graph) (e : CanvasEdge) : Except ConversionError Graph := do
  let handle ← handleOf e
  match e.id? with
  | some id =>
    (g.addEdge { id, source := e.source, target := e.target, handle }).mapError .graph
  | none => ((g.connect e.source e.target handle).map (·.2)).mapError .graph

/-- Adds drawn edges one after the other. -/
def drawEdges (g : Graph) : List CanvasEdge → Except ConversionError Graph
  | [] => .ok g
  | e :: rest =>
    match drawEdge g e with
    | .error err => .error err
    | .ok g' => drawEdges g' rest

/-- The graph of a drawing. -/
def toGraph (c : Canvas) (r : Registry) : Except ConversionError Graph := do
  let nodes ← c.nodes.mapM (nodeOf r)
  let g ← (Graph.ofParts nodes []).mapError .graph
  -- in order, because the id of an edge without one depends on the ids that are taken
  drawEdges g c.edges

/-! ### From a graph to a drawing -/

/-- How nodes are drawn. -/
def rendererName : String := "custom"

/-- A node as it is drawn. -/
def ofNode (n : Node) : CanvasNode :=
  { id := n.id, renderer? := some rendererName, position := n.position, parent? := n.parent?,
    data :=
      { type := n.type, label := n.label, config := n.config, category? := some n.category,
        description? := n.description? } }

/-- An edge as it is drawn. -/
def ofEdge (e : Edge) : CanvasEdge :=
  { id? := some e.id, source := e.source, target := e.target, handle? := some e.handle.name }

/-- The drawing of a graph. -/
def ofGraph (g : Graph) : Canvas :=
  { nodes := g.nodes.map ofNode, edges := g.edges.map ofEdge }

end Canvas

end Workflow
