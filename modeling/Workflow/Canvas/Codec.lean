import Workflow.Canvas
import Workflow.Node.Codec

/-!
# Canvas files as JSON

How drawings are written and read. Some keys go by two names, of which one is written and
both are read.
-/

namespace Workflow

open Json

/-- A field that may be left out or `null` and goes by two names. -/
def eitherName (name other : String) (item : Decoder α) : Record (Option α) :=
  Record.field name [other] (Decoder.nullable item) (some none)

/-- Reads what a node is about. -/
def CanvasData.decoder : Decoder CanvasData :=
  Record.read "struct EditorNodeData"
    (CanvasData.mk <$> Record.field "nodeType" ["node_type"] Decoder.text none
      <*> Record.optional "label" Decoder.text ""
      <*> Record.optional "config" Decoder.fields []
      <*> Record.nullable "category" Category.decoder
      <*> Record.nullable "description" Decoder.text)

/-- Writes what a node is about. -/
def CanvasData.toValue (d : CanvasData) : Value :=
  .obj ([("nodeType", .str d.type), ("label", .str d.label), ("config", .obj d.config)]
    ++ entryIf "category" (d.category?.map Category.toValue)
    ++ entryIf "description" (d.description?.map .str))

/-- Reads a drawn node. -/
def CanvasNode.decoder : Decoder CanvasNode :=
  Record.read "struct EditorNode"
    (CanvasNode.mk <$> Record.required "id" Decoder.text
      <*> Record.nullable "type" Decoder.text
      <*> Record.optional "position" Position.decoder {}
      <*> eitherName "parentNode" "parentId" Decoder.text
      <*> Record.required "data" CanvasData.decoder)

/-- Writes a drawn node. -/
def CanvasNode.toValue (n : CanvasNode) : Value :=
  .obj ([("id", .str n.id)]
    ++ entryIf "type" (n.renderer?.map .str)
    ++ [("position", n.position.toValue)]
    ++ entryIf "parentNode" (n.parent?.map .str)
    ++ [("data", n.data.toValue)])

/-- Reads a drawn edge. -/
def CanvasEdge.decoder : Decoder CanvasEdge :=
  Record.read "struct EditorEdge"
    (CanvasEdge.mk <$> Record.nullable "id" Decoder.text
      <*> Record.required "source" Decoder.text
      <*> Record.required "target" Decoder.text
      <*> eitherName "sourceHandle" "source_handle" Decoder.text)

/-- Writes a drawn edge. -/
def CanvasEdge.toValue (e : CanvasEdge) : Value :=
  .obj (entryIf "id" (e.id?.map .str)
    ++ [("source", .str e.source), ("target", .str e.target)]
    ++ entryIf "sourceHandle" (e.handle?.map .str))

/-- Reads a drawing. -/
def Canvas.decoder : Decoder Canvas :=
  Record.read "struct EditorDocument"
    (Canvas.mk <$> Record.optional "nodes" (Decoder.list CanvasNode.decoder) []
      <*> Record.optional "edges" (Decoder.list CanvasEdge.decoder) [])

/-- Writes a drawing. -/
def Canvas.toValue (c : Canvas) : Value :=
  .obj [("nodes", .arr (c.nodes.map CanvasNode.toValue)),
    ("edges", .arr (c.edges.map CanvasEdge.toValue))]

/-- Reads the text of a drawing. -/
def Canvas.parse (text : String) : Except Fault Canvas :=
  decode Canvas.decoder text

end Workflow
