import Std.Data.TreeMap
import Workflow.Node

/-!
# Looking things up by id

Positions in the lists of a graph, by key. Ids may repeat in a graph that was read from a
text, so a look-up finds the first position with a key, or all of them in order. The tables
can be extended by one entry at the end without being built again.

## Main results

* `firsts_get?`: a table of first positions finds the first one.
* `places_get?`: a table of all positions lists them in order.
* `Index.build_push_node`, `Index.build_push_edge`: extending is building.
* `Index.build_withEdges`: when edges are replaced, the tables of nodes may stay.
-/

namespace Workflow

open Std

/-! ### First positions -/

/-- Notes that `key` stands at position `i`, unless an earlier position is known. -/
def noteFirst (table : TreeMap String Nat) (key : Option String) (i : Nat) :
    TreeMap String Nat :=
  match key with
  | none => table
  | some k => table.insertIfNew k i

/-- The table of first positions; an element without a key is passed over. -/
def firsts (keys : List (Option String)) : TreeMap String Nat :=
  keys.zipIdx.foldl (fun table entry => noteFirst table entry.1 entry.2) ∅

/-- A table of first positions is extended at the end. -/
theorem firsts_push (keys : List (Option String)) (key : Option String) :
    firsts (keys ++ [key]) = noteFirst (firsts keys) key keys.length := by
  simp [firsts, List.zipIdx_append]

/-- What is known of a key after one more position was noted. -/
theorem noteFirst_get? (table : TreeMap String Nat) (key : Option String) (i : Nat)
    (k : String) :
    (noteFirst table key i)[k]? = table[k]?.or (if key = some k then some i else none) := by
  cases key with
  | none => simp [noteFirst]
  | some k' =>
    simp only [noteFirst, TreeMap.getElem?_insertIfNew, Option.some.injEq]
    by_cases hk : k' = k
    · subst hk
      cases ht : table[k']? with
      | none =>
        have absent : k' ∉ table := by simp [← TreeMap.isSome_getElem?_iff_mem, ht]
        simp [absent]
      | some j =>
        have present : k' ∈ table := by simp [← TreeMap.isSome_getElem?_iff_mem, ht]
        simp [present]
    · simp [hk]

/-- A table of first positions finds the first position of a key. -/
theorem firsts_get? (keys : List (Option String)) (k : String) :
    (firsts keys)[k]? = keys.findIdx? (· == some k) := by
  have general : ∀ (ks : List (Option String)) (start : Nat) (table : TreeMap String Nat),
      ((ks.zipIdx start).foldl (fun t entry => noteFirst t entry.1 entry.2) table)[k]?
        = table[k]?.or ((ks.findIdx? (· == some k)).map (· + start)) := by
    intro ks
    induction ks with
    | nil => intro start table; simp
    | cons key rest ih =>
      intro start table
      rw [List.zipIdx_cons, List.foldl_cons, ih, noteFirst_get?, List.findIdx?_cons]
      cases table[k]? with
      | some j => simp
      | none =>
        by_cases hk : key = some k
        · simp [hk]
        · have step : ∀ j : Nat, j + (start + 1) = j + 1 + start := by omega
          simp [hk, Function.comp_def, step]
  have whole := general keys 0 ∅
  simpa [firsts] using whole

/-! ### All positions -/

/-- Notes that `key` stands at position `i`, after all positions that are known. -/
def notePlace (table : TreeMap String (Array Nat)) (key : Option String) (i : Nat) :
    TreeMap String (Array Nat) :=
  match key with
  | none => table
  | some k => table.insert k ((table.getD k #[]).push i)

/-- The table of all positions; an element without a key is passed over. -/
def places (keys : List (Option String)) : TreeMap String (Array Nat) :=
  keys.zipIdx.foldl (fun table entry => notePlace table entry.1 entry.2) ∅

/-- A table of all positions is extended at the end. -/
theorem places_push (keys : List (Option String)) (key : Option String) :
    places (keys ++ [key]) = notePlace (places keys) key keys.length := by
  simp [places, List.zipIdx_append]

/-- The positions of a key in a table, in order. -/
def placesOf (table : TreeMap String (Array Nat)) (k : String) : List Nat :=
  (table.getD k #[]).toList

/-- What is known of a key after one more position was noted. -/
theorem notePlace_get? (table : TreeMap String (Array Nat)) (key : Option String) (i : Nat)
    (k : String) :
    placesOf (notePlace table key i) k
      = placesOf table k ++ (if key = some k then [i] else []) := by
  cases key with
  | none => simp [notePlace]
  | some k' =>
    by_cases hk : k' = k
    · subst hk
      simp [notePlace, placesOf]
    · simp [notePlace, placesOf, TreeMap.getD_insert, hk]

/-- A table of all positions lists the positions of a key in order. -/
theorem places_get? (keys : List (Option String)) (k : String) :
    placesOf (places keys) k
      = keys.zipIdx.filterMap (fun entry => if entry.1 = some k then some entry.2 else none) := by
  have general : ∀ (ks : List (Option String)) (start : Nat)
      (table : TreeMap String (Array Nat)),
      placesOf ((ks.zipIdx start).foldl (fun t entry => notePlace t entry.1 entry.2) table) k
        = placesOf table k ++ (ks.zipIdx start).filterMap
            (fun entry => if entry.1 = some k then some entry.2 else none) := by
    intro ks
    induction ks with
    | nil => intro start table; simp
    | cons key rest ih =>
      intro start table
      rw [List.zipIdx_cons, List.foldl_cons, ih, notePlace_get?]
      by_cases hk : key = some k <;> simp [hk]
  have whole := general keys 0 ∅
  simpa [places, placesOf] using whole

/-! ### The index of a graph -/

/-- The source of an edge if it leaves by `handle`. -/
def Edge.sourceBy (handle : Handle) (e : Edge) : Option String :=
  if e.handle = handle then some e.source else none

/-- An edge is noted under its source exactly if it leaves by the handle. -/
theorem Edge.beq_sourceBy (handle : Handle) (source : String) (e : Edge) :
    (e.sourceBy handle == some source) = (e.source == source && e.handle == handle) := by
  by_cases leaves : e.handle = handle <;> simp [sourceBy, leaves]

/-- Positions of nodes and edges by the keys they are looked up with. -/
structure Index where
  /-- The first node with an id. -/
  node : TreeMap String Nat
  /-- The nodes with a parent. -/
  children : TreeMap String (Array Nat)
  /-- The first edge with an id. -/
  edge : TreeMap String Nat
  /-- The first edge by which a node goes on after success. -/
  success : TreeMap String Nat
  /-- The first edge by which a node goes on after an error. -/
  error : TreeMap String Nat
  /-- The edges with a target. -/
  incoming : TreeMap String (Array Nat)

namespace Index

/-- The index of two lists. -/
def build (nodes : List Node) (edges : List Edge) : Index where
  node := firsts (nodes.map fun n => some n.id)
  children := places (nodes.map (·.parent?))
  edge := firsts (edges.map fun e => some e.id)
  success := firsts (edges.map (Edge.sourceBy .success))
  error := firsts (edges.map (Edge.sourceBy .error))
  incoming := places (edges.map fun e => some e.target)

/-- The index with one more node at position `i`. -/
def addNode (ix : Index) (i : Nat) (n : Node) : Index :=
  { ix with
    node := noteFirst ix.node (some n.id) i
    children := notePlace ix.children n.parent? i }

/-- The index with one more edge at position `i`. -/
def addEdge (ix : Index) (i : Nat) (e : Edge) : Index :=
  { ix with
    edge := noteFirst ix.edge (some e.id) i
    success := noteFirst ix.success (e.sourceBy .success) i
    error := noteFirst ix.error (e.sourceBy .error) i
    incoming := notePlace ix.incoming (some e.target) i }

/-- The index after the list of edges was replaced. What it knows of nodes stays. -/
def withEdges (ix : Index) (edges : List Edge) : Index :=
  { ix with
    edge := firsts (edges.map fun e => some e.id)
    success := firsts (edges.map (Edge.sourceBy .success))
    error := firsts (edges.map (Edge.sourceBy .error))
    incoming := places (edges.map fun e => some e.target) }

/-- The first positions of edges that leave by `handle`. -/
def outgoing (ix : Index) : Handle → TreeMap String Nat
  | .success => ix.success
  | .error => ix.error

/-- An index is extended by a node at the end of the list. -/
theorem build_push_node (nodes : List Node) (edges : List Edge) (n : Node) :
    build (nodes ++ [n]) edges = (build nodes edges).addNode nodes.length n := by
  simp [build, addNode, firsts_push, places_push]

/-- An index is extended by an edge at the end of the list. -/
theorem build_push_edge (nodes : List Node) (edges : List Edge) (e : Edge) :
    build nodes (edges ++ [e]) = (build nodes edges).addEdge edges.length e := by
  simp [build, addEdge, firsts_push, places_push]

/-- Replacing the edges is building the index with the others. -/
theorem build_withEdges (nodes : List Node) (edges others : List Edge) :
    (build nodes edges).withEdges others = build nodes others := rfl

/-- An index looks at nothing of a node but its id and its parent. -/
theorem build_congr {nodes nodes' : List Node} (edges : List Edge)
    (ids : nodes'.map (·.id) = nodes.map (·.id))
    (parents : nodes'.map (·.parent?) = nodes.map (·.parent?)) :
    build nodes' edges = build nodes edges := by
  have keys : nodes'.map (fun n => some n.id) = nodes.map (fun n => some n.id) := by
    simpa [Function.comp_def] using congrArg (List.map some) ids
  simp [build, keys, parents]

end Index

end Workflow
