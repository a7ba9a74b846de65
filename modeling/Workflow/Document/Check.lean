import Workflow.Agent
import Workflow.Document
import Workflow.Graph.Error
import Workflow.Container
import Workflow.Registry
import Workflow.Search

/-!
# Checking documents

Whether a document can be loaded, and what is odd about it. Everything that is wrong is
reported at once: first what a walk through the nodes finds, then repeated ids, outputs and
entry points that name no node, and broken references of agents. The walk stops below the
depth limit. Nodes that nothing leads to are looked for only if nothing is wrong.

## Main results

* `check_errors_eq_nil_iff`: nothing is wrong exactly if no single check finds anything.
-/

namespace Workflow

open Json

/-! ### Findings -/

/-- Why a document cannot be loaded. -/
inductive LoadError where
  /-- The text is no document. -/
  | unreadable (fault : Fault)
  | blankNodeId (id : String)
  | duplicateNodeId (id : String)
  | danglingOutput (node : String) (handle : Handle) (missing : String)
  | containment (node : String) (cause : ContainmentFault)
  | unknownType (node type : String)
  | unknownStart (id : String)
  | unknownTrigger (id : String)
  | nestingTooDeep (node : String) (maxDepth : Nat)
  | agent (node : String) (cause : AgentFault)
  /-- The nodes do not make a graph. -/
  | graph (cause : GraphError)

/-- The wording of a node of an unknown type. -/
def unknownTypeMessage (node type : String) : String :=
  "Node '" ++ node ++ "' has an unregistered node type: '" ++ type ++ "'"

/-- The wording of a node that stands too deep. -/
def nestingMessage (node : String) (maxDepth : Nat) : String :=
  "Node '" ++ node ++ "' is nested deeper than the maximum of " ++ Decimal.natText maxDepth
    ++ " levels"

/-- The wording of a text that cannot be read. -/
def Fault.message : Fault → String
  | .truncated => "the text ends too soon"
  | .malformed => "the text is not JSON"
  | .mismatch cause => cause.message

/-- The wording of a load error. -/
def LoadError.message : LoadError → String
  | unreadable fault => "Failed to parse DSL JSON: " ++ Fault.message fault
  | blankNodeId id => blankIdMessage id
  | duplicateNodeId id => "Node id '" ++ id ++ "' is used more than once in the document"
  | danglingOutput node handle missing =>
    "Output '" ++ handle.name ++ "' of node '" ++ node ++ "' references node '" ++ missing
      ++ "', which is not in the document"
  | containment node cause => containmentMessage node cause
  | unknownType node type => unknownTypeMessage node type
  | unknownStart id => "start_node '" ++ id ++ "' does not exist in the document"
  | unknownTrigger id => "Trigger '" ++ id ++ "' does not exist in the document"
  | nestingTooDeep node maxDepth => nestingMessage node maxDepth
  | agent node cause => agentMessage node cause
  | graph cause => "Failed to rebuild graph: " ++ cause.message

/-- What is odd about a document that can be loaded all the same. -/
inductive DocumentWarning where
  /-- Nothing leads to a node. -/
  | unreachable (node : String)
  /-- The document is of another version. -/
  | foreignVersion (version : String)
  /-- Settings of an agent or a model are incomplete. -/
  | agent (warning : AgentWarning)
  deriving DecidableEq

/-- The wording of a warning. -/
def DocumentWarning.message : DocumentWarning → String
  | unreachable node =>
    "Node '" ++ node ++ "' is not reachable from the start node or any trigger"
  | foreignVersion version =>
    "Document version '" ++ version ++ "' differs from the supported version "
      ++ Document.currentVersion
  | agent warning => warning.message

/-- What a check has found. -/
structure Report where
  /-- What is wrong. -/
  errors : List LoadError
  /-- What is odd. -/
  warnings : List DocumentWarning

/-- Whether a document can be loaded. -/
def Report.isOk (r : Report) : Bool :=
  r.errors.isEmpty

namespace Document

/-! ### The walk -/

/-- What a walk down to the depth limit meets. -/
def visits (d : Document) (maxDepth : Nat) : List (Tree.Visit Block) :=
  Tree.forestBounded (maxDepth + 1) d.nodes

/-- The nodes within the depth limit. -/
def visited (d : Document) (maxDepth : Nat) : List (Tree Block) :=
  (d.visits maxDepth).filterMap fun
    | .within t => some t
    | .below _ => none

/-- What is wrong with a node, looked at alone. -/
def blockErrors (r : Registry) (t : Tree Block) : List LoadError :=
  (if Text.isBlank t.value.id then [.blankNodeId t.value.id] else [])
    ++ (if !t.children.isEmpty && !isContainer t.value.type then
        [.containment t.value.id (.unexpectedChildren t.value.type t.children.length)]
      else [])
    ++ (if r.contains t.value.type then [] else [.unknownType t.value.id t.value.type])

/-- What is wrong at one place of the walk. -/
def visitErrors (r : Registry) (maxDepth : Nat) : Tree.Visit Block → List LoadError
  | .within t => blockErrors r t
  | .below t => [.nestingTooDeep t.value.id maxDepth]

/-! ### References -/

/-- The ids of the nodes within the depth limit. -/
def ids (d : Document) (maxDepth : Nat) : List String :=
  (d.visited maxDepth).map fun t => t.value.id

/-- The outputs of a node that name no node. -/
def danglingOutputs (ids : List String) (b : Block) : List LoadError :=
  Handle.all.filterMap fun h =>
    match (b.outputs.get h).nodeId? with
    | none => none
    | some target => if ids.contains target then none else some (.danglingOutput b.id h target)

/-- The start node, if it is named and there is none such. -/
def startErrors (d : Document) (ids : List String) : List LoadError :=
  match d.startNode? with
  | none => []
  | some start => if ids.contains start then [] else [.unknownStart start]

/-- The triggers that are no nodes. -/
def triggerErrors (d : Document) (ids : List String) : List LoadError :=
  (d.triggers.filter fun t => !ids.contains t).map .unknownTrigger

/-- What the agent checks look at. -/
def profiles (d : Document) (maxDepth : Nat) : List Profile :=
  (d.visited maxDepth).map fun t => ⟨t.value.id, t.value.type, t.value.config⟩

/-- Everything that is wrong with a document. -/
def errors (d : Document) (r : Registry) (maxDepth : Nat) : List LoadError :=
  let ids := d.ids maxDepth
  (d.visits maxDepth).flatMap (visitErrors r maxDepth)
    ++ (again [] ids).map .duplicateNodeId
    ++ (d.visited maxDepth).flatMap (fun t => danglingOutputs ids t.value)
    ++ d.startErrors ids
    ++ d.triggerErrors ids
    ++ (agentFaults (d.profiles maxDepth)).map fun found => .agent found.1 found.2

/-! ### Reachability -/

/-- The nodes a flow enters first: all triggers, and the start node, or without one the first
node. -/
def entries (d : Document) : List String :=
  d.triggers ++
    match d.startNode? with
    | some start => [start]
    | none => (d.nodes.head?.map fun t => t.value.id).toList

/-- The nodes one step behind a node: where its outputs lead, and what stands in it. -/
def steps (nodes : List (Tree Block)) (id : String) : List String :=
  match nodes.find? fun t => t.value.id == id with
  | none => []
  | some t => t.value.outputs.nodeIds ++ t.children.map fun c => c.value.id

/-- The nodes that nothing leads to. Nodes that only hold settings are not among them. -/
def unreachable (d : Document) (nodes : List (Tree Block)) : List String :=
  let reached := reachable (steps nodes) (nodes.length + 1) d.entries
  (nodes.filter fun t => !reached.contains t.value.id && !isSettingsType t.value.type).map
    fun t => t.value.id

/-! ### The check -/

/-- The version, if it is another one. -/
def versionWarnings (d : Document) : List DocumentWarning :=
  if d.version = currentVersion then [] else [.foreignVersion d.version]

/-- Checks a document. -/
def check (d : Document) (r : Registry) (maxDepth : Nat) : Report :=
  let errors := d.errors r maxDepth
  { errors
    warnings := d.versionWarnings
      ++ (agentWarnings (d.profiles maxDepth)).map .agent
      ++ if errors.isEmpty then (d.unreachable (d.visited maxDepth)).map .unreachable else [] }

/-- Nothing is wrong exactly if no single check finds anything. -/
theorem check_errors_eq_nil_iff (d : Document) (r : Registry) (maxDepth : Nat) :
    (d.check r maxDepth).errors = [] ↔
      (∀ v ∈ d.visits maxDepth, visitErrors r maxDepth v = [])
        ∧ (d.ids maxDepth).Nodup
        ∧ (∀ t ∈ d.visited maxDepth, danglingOutputs (d.ids maxDepth) t.value = [])
        ∧ d.startErrors (d.ids maxDepth) = []
        ∧ d.triggerErrors (d.ids maxDepth) = []
        ∧ agentFaults (d.profiles maxDepth) = [] := by
  simp only [check, errors, List.append_eq_nil_iff, List.map_eq_nil_iff, List.flatMap_eq_nil_iff,
    again_nil_eq_nil_iff, and_assoc]

end Document

end Workflow
