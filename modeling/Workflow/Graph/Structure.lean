import Workflow.Container
import Workflow.Graph.Error
import Workflow.Graph.Nesting

/-!
# Well-formed graphs

What holds of every graph that was built by edits, and the check that reports where a graph
that was read from a text falls short of it. The predicate and the check are two accounts of
one thing: the predicate says what is right, the check says what is wrong and in which order.

## Main results

* `violations_eq_nil_iff_parts`: nothing is reported exactly if no single check reports
  anything.
-/

namespace Workflow

namespace Graph

/-! ### The predicate -/

/-- `a` stands directly or at some depth in `b`, by the parents that the nodes name. -/
inductive Inside (g : Graph) : String → String → Prop where
  /-- Directly. -/
  | step {n : Node} {parent : String} : n ∈ g.nodes → n.parent? = some parent →
      Inside g n.id parent
  /-- In something that stands in it. -/
  | trans {n : Node} {parent top : String} : n ∈ g.nodes → n.parent? = some parent →
      Inside g parent top → Inside g n.id top

/-- The chain of parents of a node ends at a node without one. -/
inductive Rooted (g : Graph) : Node → Prop where
  /-- The node has no parent. -/
  | top {n : Node} : n ∈ g.nodes → n.parent? = none → Rooted g n
  /-- The node has a parent whose chain ends. -/
  | child {n parent : Node} : n ∈ g.nodes → n.parent? = some parent.id → Rooted g parent →
      Rooted g n

/-- What holds of every graph that was built by edits. -/
structure WellFormed (g : Graph) : Prop where
  /-- No id of a node is blank. -/
  nodeIdsVisible : ∀ n ∈ g.nodes, Text.isBlank n.id = false
  /-- No two nodes have the same id. -/
  nodeIdsDistinct : (g.nodes.map (·.id)).Nodup
  /-- No two edges have the same id. -/
  edgeIdsDistinct : (g.edges.map (·.id)).Nodup
  /-- Both ends of an edge exist. -/
  edgesAttached : ∀ e ∈ g.edges, e.source ∈ g.nodes.map (·.id) ∧ e.target ∈ g.nodes.map (·.id)
  /-- A node goes on in at most one way after each outcome. -/
  handlesDistinct : (g.edges.map fun e => (e.source, e.handle)).Nodup
  /-- A parent is a container of the graph. -/
  parentsContain : ∀ n ∈ g.nodes, ∀ p, n.parent? = some p →
    ∃ m ∈ g.nodes, m.id = p ∧ isContainer m.type = true
  /-- Every chain of parents ends. -/
  rooted : ∀ n ∈ g.nodes, Rooted g n

/-! ### The check -/

/-- Ids of nodes that are blank. -/
def blankIds (g : Graph) : List GraphError :=
  (g.nodes.filter fun n => Text.isBlank n.id).map fun n => .blankNodeId n.id

/-- Ids that more than one node has. -/
def repeatedNodeIds (g : Graph) : List GraphError :=
  (repeated (g.nodes.map (·.id))).map .duplicateNodeId

/-- Ids that more than one edge has. -/
def repeatedEdgeIds (g : Graph) : List GraphError :=
  (repeated (g.edges.map (·.id))).map .duplicateEdgeId

/-- Ends of edges that do not exist. -/
def danglingEnds (g : Graph) : List GraphError :=
  g.edges.flatMap fun e =>
    ([e.source, e.target].filter fun id => !g.contains id).map fun id => .danglingEdge e.id id

/-- Outcomes after which a node goes on in more than one way. -/
def repeatedHandles (g : Graph) : List GraphError :=
  (repeated (g.edges.map fun e => (e.source, e.handle))).map fun p => .handleTaken p.1 p.2

/-- What is wrong with the parent itself. If several nodes have its id, the last one is
meant. -/
def parentFault (g : Graph) (parent : String) : List ContainmentFault :=
  match g.nodes.reverse.find? (·.id == parent) with
  | none => [.missingParent parent]
  | some p => if isContainer p.type then [] else [.notContainer parent p.type]

/-- Whether following the parents from a node leads back to it. -/
def isCyclic (g : Graph) (id parent : String) : Bool :=
  (g.ancestors parent).contains id || parent == id

/-- What is wrong with the place of one node. -/
def containmentFaults (g : Graph) (n : Node) : List GraphError :=
  match n.parent? with
  | none => []
  | some parent =>
    (g.parentFault parent ++ if g.isCyclic n.id parent then [ContainmentFault.cycle] else []).map
      (.containment n.id)

/-- Everything that is wrong with the graph. -/
def violations (g : Graph) : List GraphError :=
  g.blankIds ++ g.repeatedNodeIds ++ g.repeatedEdgeIds ++ g.danglingEnds ++ g.repeatedHandles
    ++ g.nodes.flatMap g.containmentFaults

/-- Nothing is reported exactly if no single check reports anything. -/
theorem violations_eq_nil_iff_parts (g : Graph) :
    g.violations = [] ↔
      (∀ n ∈ g.nodes, Text.isBlank n.id = false)
        ∧ (g.nodes.map (·.id)).Nodup
        ∧ (g.edges.map (·.id)).Nodup
        ∧ g.danglingEnds = []
        ∧ (g.edges.map fun e => (e.source, e.handle)).Nodup
        ∧ ∀ n ∈ g.nodes, g.containmentFaults n = [] := by
  simp only [violations, blankIds, repeatedNodeIds, repeatedEdgeIds, repeatedHandles,
    List.append_eq_nil_iff, List.map_eq_nil_iff, List.filter_eq_nil_iff, repeated_eq_nil_iff,
    List.flatMap_eq_nil_iff, Bool.not_eq_true, and_assoc]

end Graph

end Workflow
