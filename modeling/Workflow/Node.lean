import Workflow.Template

/-!
# Nodes and edges

A node is a step of a bot as the user edits it; an edge says where the flow goes on after a
node has succeeded or failed. The parent of a node is the container it stands in.

## Main results

* `Handle.ofName?_eq_some_iff`: handles and their names determine each other.
-/

namespace Workflow

open Json

/-! ### Handles -/

/-- The two ways in which a node can end. -/
inductive Handle where
  | success
  | error
  deriving DecidableEq, Repr

namespace Handle

/-- The handles in their fixed order. -/
def all : List Handle :=
  [success, error]

/-- The name a handle is written by. -/
def name : Handle → String
  | success => "success"
  | error => "error"

/-- The handle with this name. -/
def ofName? (name : String) : Option Handle :=
  all.find? (·.name == name)

/-- Why a text names no handle. -/
def unknownMessage (name : String) : String :=
  "unknown handle '" ++ name ++ "'"

/-- Every handle is listed. -/
theorem mem_all (h : Handle) : h ∈ all := by
  cases h <;> simp [all]

/-- Handles and their names determine each other. -/
theorem ofName?_eq_some_iff (name : String) (h : Handle) :
    ofName? name = some h ↔ h.name = name := by
  constructor
  · intro found
    simpa using List.find?_some found
  · rintro rfl
    cases h <;> rfl

end Handle

/-! ### Nodes -/

/-- A place on the canvas. It is carried along and never interpreted. -/
structure Position where
  x : Float := 0
  y : Float := 0

/-- Equality of places as doubles. -/
def Position.same (p q : Position) : Bool :=
  p.x == q.x && p.y == q.y

/-- A step of a bot. -/
structure Node where
  /-- The identity of the node within its graph. -/
  id : String
  /-- The node type. -/
  type : String
  /-- The name shown to the user, and the one references use. -/
  label : String
  /-- The configuration. -/
  config : Fields := []
  /-- The category stored with the node. -/
  category : Category
  /-- Where it stands on the canvas. -/
  position : Position := {}
  /-- The container it stands in; none at the top level. -/
  parent? : Option String := none
  /-- A note of the user. -/
  description? : Option String := none

namespace Node

/-- A node that starts with the configuration of its template. -/
def ofTemplate (id : String) (t : Template) (label : String) : Node :=
  { id, type := t.type, label, config := t.defaultConfig, category := t.category }

/-- The node with one more entry in its configuration. -/
def withConfig (n : Node) (key : String) (value : Value) : Node :=
  { n with config := Fields.insert key value n.config }

/-- Whether the node stands in no container. -/
def isTopLevel (n : Node) : Bool :=
  n.parent?.isNone

/-- Equality of nodes, configurations regardless of the order of their keys. -/
def same (n m : Node) : Bool :=
  n.id == m.id && n.type == m.type && n.label == m.label && n.config.same m.config
    && n.category == m.category && n.position.same m.position && n.parent? == m.parent?
    && n.description? == m.description?

end Node

/-! ### Edges -/

/-- The continuation of `source` when it ends by `handle`. -/
structure Edge where
  /-- The identity of the edge within its graph. -/
  id : String
  /-- The node that ends. -/
  source : String
  /-- The node that comes next. -/
  target : String
  /-- How the source must end. -/
  handle : Handle
  deriving DecidableEq, Repr

namespace Edge

/-- The id an edge gets by itself. Ids of nodes may contain hyphens, so that two edges may
have the same canonical id. -/
def canonicalId (source : String) (handle : Handle) (target : String) : String :=
  source ++ "-" ++ handle.name ++ "-" ++ target

/-- An edge with its canonical id. -/
def canonical (source target : String) (handle : Handle) : Edge :=
  { id := canonicalId source handle target, source, target, handle }

/-- Whether the edge starts or ends at a node. -/
def touches (e : Edge) (id : String) : Bool :=
  e.source == id || e.target == id

end Edge

end Workflow
