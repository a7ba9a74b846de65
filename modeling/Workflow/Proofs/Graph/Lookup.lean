import Workflow.Graph.History

/-!
# Look-ups and lists

Nodes and edges are looked up by an index of positions, and what is meant by a look-up is a
search of the lists. The two can only drift apart when a list changes: an addition enters one
position into the index, a removed edge leaves the tables of nodes alone, a change of a label
leaves all tables alone, and every other edit builds the index again. Each of these building
blocks proves that the index it leaves is that of the lists it leaves, so that no session,
whatever it starts from and whichever of its edits fail, can bring look-up and list apart.

## Main results

* `searches`: every look-up is a search of the lists.
* `run_searches`: **look-ups never drift from the lists**, in any session from any two lists.
-/

namespace Workflow.Graph

/-- The look-ups of a graph answer as searches of two lists do. -/
structure Searches (g : Graph) (nodes : List Node) (edges : List Edge) : Prop where
  /-- The first node with an id is found. -/
  node : ∀ id, g.node? id = nodes.find? (·.id == id)
  /-- An id is known exactly if a node is found under it. -/
  contains : ∀ id, g.contains id = (nodes.find? (·.id == id)).isSome
  /-- The first edge with an id is found. -/
  edge : ∀ id, g.edge? id = edges.find? (·.id == id)
  /-- The children of an id are the nodes that name it as their parent, in order. -/
  children : ∀ id, g.childrenOf id = nodes.filter (·.parent? == some id)
  /-- The first edge that leaves a node by a handle is found. -/
  outgoing : ∀ source handle, g.outgoing? source handle
    = edges.find? fun e => e.source == source && e.handle == handle
  /-- The edges that arrive at a node are those that name it as their target, in order. -/
  incoming : ∀ target, g.incoming target = edges.filter (·.target == target)

/-- Every look-up is a search of the lists. -/
theorem searches (g : Graph) : g.Searches g.nodes g.edges where
  node := g.node?_eq_find?
  contains id := by rw [contains_eq_any, List.isSome_find?]
  edge := g.edge?_eq_find?
  children := g.childrenOf_eq_filter
  outgoing := g.outgoing?_eq_find?
  incoming := g.incoming_eq_filter

/-- **Look-ups never drift from the lists.** After any session, from any two lists, with ids
repeated, ends missing or parents in a cycle, every look-up answers as a search of the lists
that the session has left; and the index is none other than that of these lists. -/
theorem run_searches (nodes : List Node) (edges : List Edge) (edits : List Edit) :
    ((ofLists nodes edges).run edits).Searches
        ((ofLists nodes edges).run edits).nodes ((ofLists nodes edges).run edits).edges
      ∧ (ofLists nodes edges).run edits
        = ofLists ((ofLists nodes edges).run edits).nodes
            ((ofLists nodes edges).run edits).edges :=
  ⟨searches _, ext_lists rfl rfl⟩

end Workflow.Graph
