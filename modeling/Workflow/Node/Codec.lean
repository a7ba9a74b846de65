import Workflow.Node

/-!
# Nodes and edges as JSON

How nodes and edges are written and read. What is absent is left out, coordinates are always
doubles, and the configuration may be left out by whoever writes the text by hand.
-/

namespace Workflow

open Json

/-- Reads a handle. -/
def Handle.decoder : Decoder Handle :=
  Decoder.oneOf (Handle.all.map fun h => (h.name, h))

/-- Writes a handle. -/
def Handle.toValue (h : Handle) : Value :=
  .str h.name

/-- Reads a place. -/
def Position.decoder : Decoder Position :=
  Record.read "struct Position"
    (Position.mk <$> Record.required "x" Decoder.float <*> Record.required "y" Decoder.float)

/-- Writes a place. -/
def Position.toValue (p : Position) : Value :=
  .obj [("x", .ofFloat p.x), ("y", .ofFloat p.y)]

/-- Reads a node. -/
def Node.decoder : Decoder Node :=
  Record.read "struct GraphNode"
    (Node.mk <$> Record.required "id" Decoder.text
      <*> Record.required "type" Decoder.text
      <*> Record.required "label" Decoder.text
      <*> Record.optional "config" Decoder.fields []
      <*> Record.required "category" Category.decoder
      <*> Record.optional "position" Position.decoder {}
      <*> Record.nullable "parentId" Decoder.text
      <*> Record.nullable "description" Decoder.text)

/-- Writes a node. -/
def Node.toValue (n : Node) : Value :=
  .obj ([("id", .str n.id), ("type", .str n.type), ("label", .str n.label),
      ("config", .obj n.config), ("category", n.category.toValue),
      ("position", n.position.toValue)]
    ++ entryIf "parentId" (n.parent?.map .str)
    ++ entryIf "description" (n.description?.map .str))

/-- Reads an edge. -/
def Edge.decoder : Decoder Edge :=
  Record.read "struct Edge"
    (Edge.mk <$> Record.required "id" Decoder.text
      <*> Record.required "source" Decoder.text
      <*> Record.required "target" Decoder.text
      <*> Record.required "sourceHandle" Handle.decoder)

/-- Writes an edge. -/
def Edge.toValue (e : Edge) : Value :=
  .obj [("id", .str e.id), ("source", .str e.source), ("target", .str e.target),
    ("sourceHandle", e.handle.toValue)]

/-- Both coordinates are finite. -/
def Position.Finite (p : Position) : Prop :=
  p.x.isFinite = true ∧ p.y.isFinite = true

instance (p : Position) : Decidable p.Finite :=
  inferInstanceAs (Decidable (_ ∧ _))

end Workflow
