import Workflow.Graph.Edit

/-!
# Histories of edits

An edit as a value, so that a whole session is a list. An edit that fails leaves the graph as
it was.
-/

namespace Workflow

open Json

/-- One edit of a graph. -/
inductive Edit where
  | addNode (n : Node)
  | removeNode (id : String) (policy : RemovalPolicy)
  | setParent (id : String) (parent? : Option String)
  | setLabel (id label : String)
  | setPosition (id : String) (position : Position)
  | setConfig (id key : String) (value : Value)
  | removeConfig (id key : String)
  | editConfig (id : String) (f : Fields → Fields)
  | addEdge (e : Edge)
  | connect (source target : String) (handle : Handle)
  | removeEdge (id : String)

/-- What an edit gives besides the graph. -/
inductive Outcome where
  /-- Nothing. -/
  | done
  /-- The nodes that were removed. -/
  | removed (nodes : List Node)
  /-- The value that an entry had. -/
  | previous (value : Option Value)
  /-- The id of the new edge. -/
  | connected (id : String)
  /-- The edge that was removed. -/
  | disconnected (e : Edge)

/-- Applies an edit. -/
def Edit.apply (g : Graph) : Edit → Except GraphError (Outcome × Graph)
  | addNode n => (g.addNode n).map (.done, ·)
  | removeNode id policy => (g.removeNode id policy).map fun (nodes, g') => (.removed nodes, g')
  | setParent id parent? => (g.setParent id parent?).map (.done, ·)
  | setLabel id label => (g.setLabel id label).map (.done, ·)
  | setPosition id position => (g.setPosition id position).map (.done, ·)
  | setConfig id key value => (g.setConfig id key value).map fun (v, g') => (.previous v, g')
  | removeConfig id key => (g.removeConfig id key).map fun (v, g') => (.previous v, g')
  | editConfig id f => (g.editConfig id f).map (.done, ·)
  | addEdge e => (g.addEdge e).map (.done, ·)
  | connect source target handle =>
    (g.connect source target handle).map fun (id, g') => (.connected id, g')
  | removeEdge id => (g.removeEdge id).map fun (e, g') => (.disconnected e, g')

/-- The graph after an edit: the old one if the edit fails. -/
def Edit.attempt (g : Graph) (e : Edit) : Graph :=
  match e.apply g with
  | .ok (_, g') => g'
  | .error _ => g

/-- The graph after a session. -/
def Graph.run (g : Graph) (edits : List Edit) : Graph :=
  edits.foldl Edit.attempt g

end Workflow
