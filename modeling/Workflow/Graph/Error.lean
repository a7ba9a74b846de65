import Workflow.Node
import Workflow.Text.Quoted

/-!
# Graph errors

What is wrong with an edit, or with a graph that was read from a text.

## Main results

* `GraphError.message`, `ContainmentFault.message`: the wording of each cause.
-/

namespace Workflow

/-- Why a node may not stand where it stands, or hold what it holds. -/
inductive ContainmentFault where
  /-- The node would be its own container. -/
  | ownContainer
  /-- The parent is of a type that holds nothing. -/
  | notContainer (parent type : String)
  /-- The parent stands inside the node. -/
  | insideOut (parent : String)
  /-- There is no such parent. -/
  | missingParent (parent : String)
  /-- Following the parents leads back to the node. -/
  | cycle
  /-- The node has children, but its type holds nothing. -/
  | childless (type : String)
  /-- As `childless`, for a node of a document, which shows how many children it has. -/
  | unexpectedChildren (type : String) (count : Nat)
  deriving DecidableEq

/-- The wording of a containment problem. -/
def ContainmentFault.message : ContainmentFault → String
  | ownContainer => "a node cannot contain itself"
  | notContainer parent type => "parent '" ++ parent ++ "' has non-container type '" ++ type ++ "'"
  | insideOut parent => "'" ++ parent ++ "' is nested inside it"
  | missingParent parent => "parent '" ++ parent ++ "' does not exist"
  | cycle => "parent chain forms a cycle"
  | childless type => "type '" ++ type ++ "' cannot have children"
  | unexpectedChildren type count =>
    "type '" ++ type ++ "' is not a container but has " ++ Decimal.natText count ++ " children"

/-- A problem of a graph or of an edit. -/
inductive GraphError where
  | blankNodeId (id : String)
  | duplicateNodeId (id : String)
  | duplicateEdgeId (id : String)
  | nodeNotFound (id : String)
  | edgeNotFound (id : String)
  | danglingEdge (edge missing : String)
  | handleTaken (source : String) (handle : Handle)
  | containment (node : String) (cause : ContainmentFault)
  deriving DecidableEq

/-- The wording of a blank id. -/
def blankIdMessage (id : String) : String :=
  "Node id " ++ Text.quoted id ++ " is blank"

/-- The wording of an edge without an end. -/
def danglingEdgeMessage (edge missing : String) : String :=
  "Edge '" ++ edge ++ "' references node '" ++ missing ++ "', which does not exist"

/-- The wording of a containment problem of a node. -/
def containmentMessage (node : String) (cause : ContainmentFault) : String :=
  "Invalid containment for node '" ++ node ++ "': " ++ cause.message

/-- The wording of a graph error. -/
def GraphError.message : GraphError → String
  | blankNodeId id => blankIdMessage id
  | duplicateNodeId id => "A node with id '" ++ id ++ "' already exists"
  | duplicateEdgeId id => "An edge with id '" ++ id ++ "' already exists"
  | nodeNotFound id => "Node '" ++ id ++ "' not found"
  | edgeNotFound id => "Edge '" ++ id ++ "' not found"
  | danglingEdge edge missing => danglingEdgeMessage edge missing
  | handleTaken source handle =>
    "Node '" ++ source ++ "' already has an outgoing '" ++ handle.name ++ "' edge"
  | containment node cause => containmentMessage node cause

end Workflow
