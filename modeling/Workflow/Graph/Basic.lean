import Workflow.Graph.Index

/-!
# Graphs

The nodes and edges of a bot, in the order of creation, with an index for looking them up. A
graph is any two lists: one that was read from a text may repeat ids or refer to what does
not exist, and is then judged as a whole. The index is no part of what a graph is, it is
determined by the lists.

## Main results

* `Graph.ext_lists`: graphs with the same nodes and edges are the same.
* `nodePosition_eq`, `edgePosition_eq`: where the index says that something stands.
* `node?_eq_find?`, `edge?_eq_find?`, `outgoing?_eq_find?`: the first one is found.
* `childrenOf_eq_filter`, `incoming_eq_filter`: all are listed in order.
-/

namespace Workflow

/-- A bot as the user edits it. -/
structure Graph where
  /-- The nodes in the order of creation. -/
  nodes : List Node
  /-- The edges in the order of creation. -/
  edges : List Edge
  /-- Where nodes and edges stand in the lists. -/
  index : Index
  /-- The index is that of the lists. -/
  indexed : index = Index.build nodes edges

namespace Graph

/-- The graph of two lists, as they are. -/
def ofLists (nodes : List Node) (edges : List Edge) : Graph :=
  ⟨nodes, edges, Index.build nodes edges, rfl⟩

/-- The graph without nodes. -/
def empty : Graph :=
  ofLists [] []

/-- Graphs with the same nodes and edges are the same. -/
theorem ext_lists {g g' : Graph} (nodes : g.nodes = g'.nodes) (edges : g.edges = g'.edges) :
    g = g' := by
  obtain ⟨ns, es, ix, h⟩ := g
  obtain ⟨ns', es', ix', h'⟩ := g'
  subst nodes edges h h'
  rfl

/-! ### Looking things up -/

/-- The first node with this id. -/
def node? (g : Graph) (id : String) : Option Node :=
  g.index.node[id]?.bind fun i => g.nodes[i]?

/-- Whether a node has this id. -/
def contains (g : Graph) (id : String) : Bool :=
  g.index.node.contains id

/-- The first node with this label. -/
def nodeLabelled? (g : Graph) (label : String) : Option Node :=
  g.nodes.find? (·.label == label)

/-- The first edge with this id. -/
def edge? (g : Graph) (id : String) : Option Edge :=
  g.index.edge[id]?.bind fun i => g.edges[i]?

/-- The nodes that stand in no container, in the order of creation. -/
def topLevel (g : Graph) : List Node :=
  g.nodes.filter Node.isTopLevel

/-- The nodes that stand directly in a container, in the order of creation. -/
def childrenOf (g : Graph) (id : String) : List Node :=
  (placesOf g.index.children id).filterMap fun i => g.nodes[i]?

/-- The first edge by which a node goes on. -/
def outgoing? (g : Graph) (source : String) (handle : Handle) : Option Edge :=
  (g.index.outgoing handle)[source]?.bind fun i => g.edges[i]?

/-- The edges that lead to a node, in the order of creation. -/
def incoming (g : Graph) (target : String) : List Edge :=
  (placesOf g.index.incoming target).filterMap fun i => g.edges[i]?

/-- The container a node stands in. -/
def parentOf? (g : Graph) (id : String) : Option String :=
  (g.node? id).bind (·.parent?)

/-- Equality of graphs: the same nodes and edges in the same order. -/
def same (g g' : Graph) : Bool :=
  g.nodes.length == g'.nodes.length && (g.nodes.zip g'.nodes).all (fun p => p.1.same p.2)
    && g.edges == g'.edges

/-! ### Look-ups and lists -/

/-- The element at the first position of a key is the first element with the key. -/
theorem getElem?_findIdx? {α : Type} (p : α → Bool) (xs : List α) :
    ((xs.findIdx? p).bind fun i => xs[i]?) = xs.find? p := by
  induction xs with
  | nil => rfl
  | cons x xs ih =>
    rw [List.findIdx?_cons, List.find?_cons]
    cases hx : p x with
    | true => simp
    | false =>
      rw [← ih]
      cases xs.findIdx? p <;> simp

/-- The elements at all positions of a key are the elements with the key. -/
theorem filterMap_getElem?_zipIdx {α : Type} (key : α → Option String) (k : String)
    (xs : List α) :
    (((xs.map key).zipIdx.filterMap
        (fun entry => if entry.1 = some k then some entry.2 else none)).filterMap
      fun i => xs[i]?) = xs.filter (fun x => key x == some k) := by
  have general : ∀ (done rest : List α),
      ((((rest.map key).zipIdx done.length).filterMap
          (fun entry => if entry.1 = some k then some entry.2 else none)).filterMap
        fun i => (done ++ rest)[i]?) = rest.filter (fun x => key x == some k) := by
    intro done rest
    induction rest generalizing done with
    | nil => rfl
    | cons x rest ih =>
      have later := ih (done ++ [x])
      simp only [List.append_assoc, List.singleton_append, List.length_append,
        List.length_singleton] at later
      rw [List.map_cons, List.zipIdx_cons, List.filterMap_cons]
      by_cases hx : key x = some k
      · simp [hx, later]
      · simp [hx, later]
  exact general [] xs

/-- The position of a node is that of the first one with its id. -/
theorem nodePosition_eq (g : Graph) (id : String) :
    g.index.node[id]? = g.nodes.findIdx? (·.id == id) := by
  rw [g.indexed]
  simp [Index.build, firsts_get?, List.findIdx?_map, Function.comp_def]

/-- The position of an edge is that of the first one with its id. -/
theorem edgePosition_eq (g : Graph) (id : String) :
    g.index.edge[id]? = g.edges.findIdx? (·.id == id) := by
  rw [g.indexed]
  simp [Index.build, firsts_get?, List.findIdx?_map, Function.comp_def]

/-- The first node with an id is found. -/
theorem node?_eq_find? (g : Graph) (id : String) :
    g.node? id = g.nodes.find? (·.id == id) := by
  rw [node?, nodePosition_eq]
  exact getElem?_findIdx? _ g.nodes

/-- The first edge with an id is found. -/
theorem edge?_eq_find? (g : Graph) (id : String) :
    g.edge? id = g.edges.find? (·.id == id) := by
  rw [edge?, edgePosition_eq]
  exact getElem?_findIdx? _ g.edges

/-- The first edge by which a node goes on is found. -/
theorem outgoing?_eq_find? (g : Graph) (source : String) (handle : Handle) :
    g.outgoing? source handle
      = g.edges.find? (fun e => e.source == source && e.handle == handle) := by
  have keyed : ∀ h : Handle, (fun k : Option String => k == some source) ∘ Edge.sourceBy h
      = fun e => e.source == source && e.handle == h :=
    fun h => funext (Edge.beq_sourceBy h source)
  rw [outgoing?, g.indexed]
  cases handle with
  | success =>
    simp only [Index.build, Index.outgoing, firsts_get?, List.findIdx?_map, keyed]
    exact getElem?_findIdx? _ g.edges
  | error =>
    simp only [Index.build, Index.outgoing, firsts_get?, List.findIdx?_map, keyed]
    exact getElem?_findIdx? _ g.edges

/-- The children of a node are the nodes that name it as their parent. -/
theorem childrenOf_eq_filter (g : Graph) (id : String) :
    g.childrenOf id = g.nodes.filter (fun n => n.parent? == some id) := by
  rw [childrenOf, g.indexed]
  simp only [Index.build, places_get?]
  exact filterMap_getElem?_zipIdx (·.parent?) id g.nodes

/-- The edges that arrive at a node are those that name it as their target. -/
theorem incoming_eq_filter (g : Graph) (target : String) :
    g.incoming target = g.edges.filter (·.target == target) := by
  rw [incoming, g.indexed]
  simp only [Index.build, places_get?]
  have listed := filterMap_getElem?_zipIdx (fun e : Edge => some e.target) target g.edges
  simpa using listed

/-- An id is contained exactly if a node has it. -/
theorem contains_eq_any (g : Graph) (id : String) :
    g.contains id = g.nodes.any (·.id == id) := by
  have known : g.contains id = (g.index.node[id]?).isSome := by
    rw [contains, ← Std.TreeMap.isSome_getElem?_eq_contains]
  rw [known, nodePosition_eq, List.findIdx?_isSome]

end Graph

end Workflow
