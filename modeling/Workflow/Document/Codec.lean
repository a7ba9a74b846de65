import Workflow.Document
import Workflow.Node.Codec

/-!
# Documents as JSON

How documents are written and read. What is absent or empty is left out.
-/

namespace Workflow

open Json

/-! ### Parts -/

/-- Reads a target. -/
def Target.decoder : Decoder Target :=
  fun s => (Decoder.text s).map Target.ofText

/-- Reads the outputs of a node. -/
def Outputs.decoder : Decoder Outputs :=
  Record.read "struct NodeOutputs"
    (Outputs.mk <$> Record.required "success" Target.decoder
      <*> Record.required "error" Target.decoder)

/-- Writes the outputs of a node. -/
def Outputs.toValue (o : Outputs) : Value :=
  .obj [("success", .str o.success.text), ("error", .str o.error.text)]

/-- Reads a variable type. -/
def VariableType.decoder : Decoder VariableType :=
  Decoder.oneOf (VariableType.all.map fun t => (t.name, t))

/-- Reads a variable. -/
def Variable.decoder : Decoder Variable :=
  Record.read "struct VariableDefinition"
    (Variable.mk <$> Record.required "type" VariableType.decoder
      <*> Record.nullable "value" Decoder.value
      <*> Record.nullable "vault" Decoder.text
      <*> Record.nullable "description" Decoder.text)

/-- Writes a variable. -/
def Variable.toValue (v : Variable) : Value :=
  .obj ([("type", .str v.type.name)]
    ++ entryIf "value" v.value?
    ++ entryIf "vault" (v.vault?.map .str)
    ++ entryIf "description" (v.description?.map .str))

/-- Reads variables. -/
def Variables.decoder : Decoder Variables :=
  fun s => (Decoder.entries Variable.decoder s).map Variables.ofEntries

/-- Writes variables. -/
def Variables.toValue (vs : Variables) : Value :=
  .obj (vs.entries.map fun e => (e.1, e.2.toValue))

/-- Reads what a bot is called. -/
def Metadata.decoder : Decoder Metadata :=
  Record.read "struct BotMetadata"
    (Metadata.mk <$> Record.required "id" Decoder.text
      <*> Record.required "name" Decoder.text
      <*> Record.nullable "description" Decoder.text
      <*> Record.nullable "version" Decoder.text
      <*> Record.nullable "author" Decoder.text
      <*> Record.optional "tags" (Decoder.list Decoder.text) [])

/-- An entry with a list, or none if the list is empty. -/
def listIf (key : String) (items : List Value) : List (String × Value) :=
  if items.isEmpty then [] else [(key, .arr items)]

/-- Writes what a bot is called. -/
def Metadata.toValue (m : Metadata) : Value :=
  .obj ([("id", .str m.id), ("name", .str m.name)]
    ++ entryIf "description" (m.description?.map .str)
    ++ entryIf "version" (m.version?.map .str)
    ++ entryIf "author" (m.author?.map .str)
    ++ listIf "tags" (m.tags.map .str))

/-! ### Nodes -/

/-- A node of a document from its parts, in the order in which they are written. -/
def Tree.ofBlock (id type : String) (config : Fields) (label : String) (position : Position)
    (description? : Option String) (outputs : Outputs) (children : List (Tree Block)) :
    Tree Block :=
  .node { id, type, config, label, position, description?, outputs } children

/-- Reads a node of a document that is nested at most `levels` deep. -/
def Tree.decoder : Nat → Decoder (Tree Block)
  | 0, _ => .error .malformed
  | levels + 1, s =>
    Record.read "struct DslNode"
      (Tree.ofBlock <$> Record.required "id" Decoder.text
        <*> Record.required "type" Decoder.text
        <*> Record.optional "config" Decoder.fields []
        <*> Record.optional "label" Decoder.text ""
        <*> Record.optional "position" Position.decoder {}
        <*> Record.nullable "description" Decoder.text
        <*> Record.required "outputs" Outputs.decoder
        <*> Record.optional "children" (Decoder.list (Tree.decoder levels)) []) s

mutual

/-- Writes a node of a document. -/
def Tree.toValue : Tree Block → Value
  | .node b children =>
    .obj ([("id", .str b.id), ("type", .str b.type), ("config", .obj b.config),
        ("label", .str b.label), ("position", b.position.toValue)]
      ++ entryIf "description" (b.description?.map .str)
      ++ [("outputs", b.outputs.toValue)]
      ++ listIf "children" (Tree.toValues children))

/-- Writes nodes of a document. -/
def Tree.toValues : List (Tree Block) → List Value
  | [] => []
  | t :: rest => Tree.toValue t :: Tree.toValues rest

end

/-! ### Documents -/

/-- Reads a document. Its nodes nest no deeper than the arrays and objects of the text. -/
def Document.decoder : Decoder Document :=
  fun s =>
    Record.read "struct BotDsl"
      (Document.mk <$> Record.required "version" Decoder.text
        <*> Record.required "bot" Metadata.decoder
        <*> Record.required "nodes" (Decoder.list (Tree.decoder (s.height + 1)))
        <*> Record.optional "triggers" (Decoder.list Decoder.text) []
        <*> Record.nullable "start_node" Decoder.text
        <*> Record.optional "variables" Variables.decoder .empty) s

/-- Writes a document. -/
def Document.toValue (d : Document) : Value :=
  .obj ([("version", .str d.version), ("bot", d.bot.toValue),
      ("nodes", .arr (Tree.toValues d.nodes))]
    ++ listIf "triggers" (d.triggers.map .str)
    ++ entryIf "start_node" (d.startNode?.map .str)
    ++ if d.vars.entries.isEmpty then [] else [("variables", d.vars.toValue)])

/-- Reads the text of a document. -/
def Document.parse (text : String) : Except Fault Document :=
  decode Document.decoder text

/-- The text of a document. -/
def Document.print (d : Document) : String :=
  d.toValue.toPretty

end Workflow
