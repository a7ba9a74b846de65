import Workflow.Document.Check
import Workflow.Graph.Structure
import Workflow.Outline
import Workflow.Validation

/-!
# Compiling graphs

From a graph to the document that is handed over. What is wrong is collected first: with the
structure of the graph, then node by node with types, categories and configurations, then
with the references of agents. Only if nothing is wrong are the nodes nested into each other,
and then the only thing that can still go wrong is that they nest too deep.

## Main results

* `problems_eq_nil_iff`: nothing is wrong exactly if no single check finds anything.
-/

namespace Workflow

open Json

/-! ### Errors -/

/-- Why a graph cannot be compiled. -/
inductive CompileError where
  | unknownType (node type : String)
  | invalidConfig (node : String) (issue : FieldIssue)
  | danglingEdge (edge missing : String)
  | containment (node : String) (cause : ContainmentFault)
  | duplicateNodeId (id : String)
  | handleTaken (source : String) (handle : Handle)
  | duplicateEdgeId (id : String)
  | nestingTooDeep (node : String) (maxDepth : Nat)
  | blankNodeId (id : String)
  | categoryMismatch (node type : String) (expected actual : Category)
  | agent (node : String) (cause : AgentFault)
  /-- A problem that only an edit can have. -/
  | structural (cause : GraphError)
  deriving DecidableEq

namespace CompileError

/-- A problem of a graph as a compile error. -/
def ofGraphError : GraphError → CompileError
  | .blankNodeId id => blankNodeId id
  | .duplicateNodeId id => duplicateNodeId id
  | .danglingEdge edge missing => danglingEdge edge missing
  | .handleTaken source handle => handleTaken source handle
  | .containment node cause => containment node cause
  | .duplicateEdgeId id => duplicateEdgeId id
  | e@(.nodeNotFound _) | e@(.edgeNotFound _) => structural e

/-- The node an error is about, if it is about one. -/
def nodeId? : CompileError → Option String
  | unknownType node _ | invalidConfig node _ | containment node _ | nestingTooDeep node _
  | categoryMismatch node _ _ _ | agent node _ | duplicateNodeId node | blankNodeId node
  | handleTaken node _ => some node
  | danglingEdge _ _ | duplicateEdgeId _ | structural _ => none

/-- The wording of a compile error. -/
def message : CompileError → String
  | unknownType node type => unknownTypeMessage node type
  | invalidConfig node issue =>
    "Node '" ++ node ++ "' has an invalid configuration: " ++ issue.message
  | danglingEdge edge missing => danglingEdgeMessage edge missing
  | containment node cause => containmentMessage node cause
  | duplicateNodeId id => "Node id '" ++ id ++ "' is used more than once"
  | handleTaken source handle =>
    "Node '" ++ source ++ "' has more than one outgoing '" ++ handle.name ++ "' edge"
  | duplicateEdgeId id => "Edge id '" ++ id ++ "' is used more than once"
  | nestingTooDeep node maxDepth => nestingMessage node maxDepth
  | blankNodeId id => blankIdMessage id
  | categoryMismatch node type expected actual =>
    "Node '" ++ node ++ "' of type '" ++ type ++ "' is stored as category '" ++ actual.name
      ++ "', but the registry says '" ++ expected.name ++ "'"
  | agent node cause => agentMessage node cause
  | structural cause => cause.message

end CompileError

namespace Graph

/-! ### Problems -/

/-- What is wrong with a node, looked at alone. -/
def nodeProblems (r : Registry) (n : Node) : List CompileError :=
  match r.find? n.type with
  | none => [.unknownType n.id n.type]
  | some t =>
    (if n.category = t.category then []
      else [.categoryMismatch n.id n.type t.category n.category])
      ++ (t.validate n.config).map (.invalidConfig n.id)

/-- What the agent checks look at. -/
def profiles (g : Graph) : List Profile :=
  g.nodes.map fun n => ⟨n.id, n.type, n.config⟩

/-- Everything that is wrong with a graph, its depth apart. -/
def problems (g : Graph) (r : Registry) : List CompileError :=
  g.violations.map .ofGraphError
    ++ g.nodes.flatMap (nodeProblems r)
    ++ (agentFaults g.profiles).map fun found => .agent found.1 found.2

/-- Nothing is wrong exactly if no single check finds anything. -/
theorem problems_eq_nil_iff (g : Graph) (r : Registry) :
    g.problems r = [] ↔
      g.violations = [] ∧ (∀ n ∈ g.nodes, nodeProblems r n = []) ∧ agentFaults g.profiles = [] := by
  simp only [problems, List.append_eq_nil_iff, List.map_eq_nil_iff, List.flatMap_eq_nil_iff,
    and_assoc]

end Graph

/-! ### Nesting -/

/-- A node with everything that stands in it, nested in at most `levels` levels. -/
def Outline.nest (o : Outline) (maxDepth : Nat) : Nat → Node → Except CompileError (Tree Block)
  | 0, n => .error (.nestingTooDeep n.id maxDepth)
  | levels + 1, n =>
    match o.children[n.id]? with
    | none => .ok (.node (o.block n) [])
    | some inside =>
      if !isContainer n.type then .error (.containment n.id (.childless n.type))
      else (inside.toList.mapM (o.nest maxDepth levels)).map (.node (o.block n))

namespace Graph

/-- The errors and the results of a list of attempts. -/
def sortOut {ε α : Type} : List (Except ε α) → List ε × List α
  | [] => ([], [])
  | attempt :: rest =>
    let (errors, results) := sortOut rest
    match attempt with
    | .error e => (e :: errors, results)
    | .ok a => (errors, a :: results)

/-- Whether a node starts the bot, by its registered category. -/
def isTrigger (r : Registry) (n : Node) : Bool :=
  match r.find? n.type with
  | some t => t.category = .trigger
  | none => false

/-! ### Compiling -/

/-- What is compiled with a graph: what the bot is called, its variables, what is registered
and how deep nodes may nest. -/
structure Settings where
  /-- What the bot is called. -/
  bot : Metadata
  /-- The variables it begins with. -/
  vars : Variables
  /-- The known node types. -/
  registry : Registry
  /-- How many containers a node may stand in. -/
  maxDepth : Nat

/-- How many containers a node may stand in by default. -/
def defaultMaxDepth : Nat := 64

/-- The settings of a bot with the built-in node types. -/
def Settings.standard (bot : Metadata) : Settings :=
  { bot, vars := .empty, registry := .builtin, maxDepth := defaultMaxDepth }

/-- The document of nodes that have been nested. -/
def assemble (g : Graph) (s : Settings) (nodes : List (Tree Block)) : Document :=
  let triggers := (g.topLevel.filter (isTrigger s.registry)).map (·.id)
  { version := Document.currentVersion, bot := s.bot, nodes, triggers,
    startNode? := triggers.head?.or (g.topLevel.head?.map (·.id)), vars := s.vars }

/-- Compiles a graph. -/
def compile (g : Graph) (s : Settings) : Except (List CompileError) Document :=
  match g.problems s.registry with
  | [] =>
    let outline := Outline.ofGraph g
    let nested := sortOut (g.topLevel.map (outline.nest s.maxDepth (s.maxDepth + 1)))
    match nested.1 with
    | [] => .ok (g.assemble s nested.2)
    | errors => .error errors
  | problems => .error problems

end Graph

end Workflow
