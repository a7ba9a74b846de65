import Workflow.Graph.Nesting
import Workflow.Reference
import Workflow.Registry

/-!
# What a node can refer to

A node may refer to the outputs of the nodes that the flow can come from: those from which
edges, of either handle, lead to it. They are offered nearest first. Standing in a container
counts as no step: the outputs of a container are offered to the nodes behind it, not to
those inside.

A form offers each of its fields too, since the user defines them in its configuration.

## Main results

* `nodup_predecessors`, `not_mem_predecessors_self`: no predecessor is listed twice, and no node
  is its own.
-/

namespace Workflow

open Json

/-- An output that a node may refer to. -/
structure VisibleOutput where
  /-- The node that has the output. -/
  nodeId : String
  /-- Its label, by which references name it. -/
  nodeLabel : String
  /-- The path of the output below the label. -/
  field : String
  /-- The shape of the output. -/
  type : OutputType
  /-- What it is. -/
  description : String
  /-- The reference, ready to be put into a configuration. -/
  expression : String
  deriving DecidableEq

/-- An output of a node, under a path. -/
def Node.offer (n : Node) (field : String) (type : OutputType) (description : String) :
    VisibleOutput :=
  { nodeId := n.id, nodeLabel := n.label, field, type, description,
    expression := Reference.render n.label field }

/-! ### Outputs of a node -/

/-- The node type of forms. -/
def formType : String := "trigger.form"

/-- The shape of a form field, by the kind of its input. -/
def formFieldType (input : Option String) : OutputType :=
  match input with
  | some "number" => .number
  | some "checkbox" | some "boolean" => .boolean
  | some "multiselect" | some "file" => .array
  | _ => .string

/-- The output of one form field, known by its `id` or else its `name`. -/
def Node.formFieldOffer? (n : Node) (field : Value) : Option VisibleOutput :=
  (((field.get? "id").or (field.get? "name")).bind Value.text?).map fun id =>
    n.offer ("formData." ++ id) (formFieldType ((field.get? "type").bind Value.text?))
      (((field.get? "label").bind Value.text?).getD id)

/-- The outputs of the form fields in a configuration. -/
def Node.formOffers (n : Node) : List VisibleOutput :=
  match Fields.get? "fields" n.config with
  | some (.arr fields) => fields.filterMap n.formFieldOffer?
  | _ => []

/-- The outputs of a node; none if its type is not registered. -/
def Registry.offers (r : Registry) (n : Node) : List VisibleOutput :=
  match r.find? n.type with
  | none => []
  | some t =>
    t.outputList.map (fun o => n.offer o.name o.type o.description)
      ++ if n.type = formType then n.formOffers else []

/-! ### Predecessors -/

/-- Why a question about a node has no answer. -/
inductive ScopeError where
  | nodeNotFound (id : String)
  deriving DecidableEq

/-- The wording of a scope error. -/
def ScopeError.message : ScopeError → String
  | nodeNotFound id => "Node '" ++ id ++ "' not found"

namespace Graph

/-- The nodes from which an edge leads straight to a node. -/
def sources (g : Graph) (id : String) : List String :=
  ((g.incoming id).map (·.source)).filter g.contains

/-- The nodes from which edges lead to a node, nearest first. -/
def predecessors (g : Graph) (id : String) : List String :=
  (reachable g.sources (g.nodes.length + 2) [id]).drop 1

/-- The outputs that a node may refer to. -/
def visibleOutputs (g : Graph) (r : Registry) (id : String) :
    Except ScopeError (List VisibleOutput) :=
  if g.contains id then .ok (((g.predecessors id).filterMap g.node?).flatMap r.offers)
  else .error (.nodeNotFound id)

/-! ### References without an output -/

/-- Whether a path names a field or descends into it. -/
def descends (field path : String) : Bool :=
  field.toList.isPrefixOf path.toList &&
    match path.toList.drop field.toList.length with
    | [] => true
    | c :: _ => c == '.' || c == '['

/-- Whether one of the outputs is meant by a reference. -/
def isOffered (offers : List VisibleOutput) (ref : Reference) : Bool :=
  offers.any fun o => o.nodeLabel == ref.label && descends o.field ref.path

/-- A reference that names no visible output. -/
structure Unresolved where
  /-- The key of the configuration under which it stands. -/
  configKey : String
  /-- The reference as it stands there. -/
  expression : String
  deriving DecidableEq

/-- The references in a configuration that name none of the outputs. -/
def unresolvedIn (offers : List VisibleOutput) (config : Fields) : List Unresolved :=
  config.flatMap fun entry =>
    ((entry.2.texts.flatMap Reference.scan).filter fun ref => !isOffered offers ref).map
      fun ref => ⟨entry.1, ref.raw⟩

/-- The references of a node that name no output it can see. -/
def unresolved (g : Graph) (r : Registry) (id : String) : Except ScopeError (List Unresolved) :=
  match g.node? id with
  | none => .error (.nodeNotFound id)
  | some n => do
    let offers ← g.visibleOutputs r id
    return unresolvedIn offers n.config

/-- A node is among the predecessors of another only once. -/
theorem nodup_predecessors (g : Graph) (id : String) : (g.predecessors id).Nodup := by
  have whole := nodup_reachable g.sources (g.nodes.length + 2) [id]
  rw [reachable_singleton] at whole
  rw [predecessors, reachable_singleton]
  exact (List.nodup_cons.1 whole).2

/-- No node is among its own predecessors. -/
theorem not_mem_predecessors_self (g : Graph) (id : String) : id ∉ g.predecessors id := by
  have whole := nodup_reachable g.sources (g.nodes.length + 2) [id]
  rw [reachable_singleton] at whole
  rw [predecessors, reachable_singleton]
  exact (List.nodup_cons.1 whole).1

end Graph

end Workflow
