/-!
# Containers

The node types whose nodes may hold other nodes. The set is closed: a type is a container
because it is one of the five listed here, not because of the group its name begins with.

## Main results

* `ofType?_eq_some_iff`: kinds of container and their node types determine each other.
-/

namespace Workflow

/-- A kind of container. -/
inductive ContainerKind where
  /-- The body of a conditional. -/
  | conditional
  /-- A body that runs once for each item. -/
  | forEach
  /-- A body that runs while a condition holds. -/
  | while
  /-- A guarded body. -/
  | tryCatch
  /-- Bodies that run side by side. -/
  | parallel
  deriving DecidableEq, Repr

namespace ContainerKind

/-- The kinds of container. -/
def all : List ContainerKind :=
  [conditional, forEach, .while, tryCatch, parallel]

/-- The node type of a kind. -/
def type : ContainerKind → String
  | conditional => "control.if"
  | forEach => "control.loop"
  | .while => "control.while"
  | tryCatch => "control.try_catch"
  | parallel => "control.parallel"

/-- The name a kind is written by. -/
def name : ContainerKind → String
  | conditional => "conditional"
  | forEach => "for_each"
  | .while => "while"
  | tryCatch => "try_catch"
  | parallel => "parallel"

/-- The kind of a node type, if nodes of that type may hold others. -/
def ofType? (type : String) : Option ContainerKind :=
  all.find? (·.type == type)

/-- Kinds and their node types determine each other. -/
theorem ofType?_eq_some_iff (type : String) (k : ContainerKind) :
    ofType? type = some k ↔ k.type = type := by
  constructor
  · intro h
    simpa using List.find?_some h
  · rintro rfl
    cases k <;> rfl

end ContainerKind

/-- Whether nodes of this type may hold other nodes. -/
def isContainer (type : String) : Bool :=
  (ContainerKind.ofType? type).isSome

end Workflow
