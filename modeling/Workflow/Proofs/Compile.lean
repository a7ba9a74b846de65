import Workflow.Proofs.Compile.Outline
import Workflow.Proofs.Graph.Forest

/-!
# Compiled graphs

When a graph is compiled, and what it is compiled to. Nothing may be wrong with it, and its
forest, which then has every node exactly once, may not be too deep. The document has the
forest of the graph as its nodes, with each node as the block it is handed over as.

## Main results

* `targetOf_eq_node_iff`: a block leads where an edge of its node leads.
* `problems_eq_nil_iff_wellFormed`: nothing is wrong with a graph exactly if it is well formed
  and every node follows the template of its type.
* `unfoldsTo_of_nest`: a node that is nested has been unfolded.
* `compile_eq_ok_iff`, `exists_forest_of_compile`: **a compiled graph is its forest.**
-/

namespace Workflow

namespace Graph

variable {g : Graph} {maxDepth : Nat}

/-! ### Where the flow goes on -/

/-- Where handles are used once, a node leads to another exactly by an edge. -/
theorem targetOf_eq_node_iff (distinct : g.takenHandles.Nodup) {id target : String}
    {handle : Handle} :
    g.targetOf id handle = .node target ↔ (id, handle, target) ∈ g.links := by
  rw [targetOf, outgoing?_eq_find?, links, List.mem_map]
  constructor
  · intro leads
    split at leads
    · cases leads
    · next e found =>
      cases leads
      have at_handle := List.find?_some found
      simp only [Bool.and_eq_true, beq_iff_eq] at at_handle
      obtain ⟨rfl, rfl⟩ := at_handle
      exact ⟨e, List.mem_of_find?_eq_some found, rfl⟩
  · rintro ⟨e, he, same⟩
    cases same
    split
    · next none_found =>
      simpa using List.find?_eq_none.1 none_found e he
    · next e' found =>
      have at_handle := List.find?_some found
      simp only [Bool.and_eq_true, beq_iff_eq] at at_handle
      have same : (e'.source, e'.handle) = (e.source, e.handle) :=
        Prod.ext at_handle.1 at_handle.2
      rw [List.inj_on_of_nodup_map distinct (List.mem_of_find?_eq_some found) he same]

/-- A block goes on as its node does. -/
theorem get_outputs_block (g : Graph) (n : Node) (handle : Handle) :
    (g.block n).outputs.get handle = g.targetOf n.id handle := by
  cases handle <;> rfl

/-! ### Problems -/

/-- What a node has to be under the templates of a registry. -/
structure Follows (r : Registry) (n : Node) (t : Template) : Prop where
  /-- Its type is registered. -/
  found : r.find? n.type = some t
  /-- It is stored with the category of its type. -/
  category : n.category = t.category
  /-- Its configuration has no issue. -/
  config : t.validate n.config = []

/-- Nothing is wrong with a node exactly if it follows the template of its type. -/
theorem nodeProblems_eq_nil_iff {r : Registry} {n : Node} :
    nodeProblems r n = [] ↔ ∃ t, Follows r n t := by
  cases found : r.find? n.type with
  | none =>
    simp only [nodeProblems, found, List.cons_ne_nil, false_iff]
    rintro ⟨t, follows⟩
    rw [follows.found] at found
    cases found
  | some t =>
    simp only [nodeProblems, found, List.append_eq_nil_iff, ite_eq_left_iff, List.cons_ne_nil,
      imp_false, Decidable.not_not, List.map_eq_nil_iff]
    constructor
    · exact fun ⟨category, config⟩ => ⟨t, found, category, config⟩
    · rintro ⟨t', follows⟩
      rw [follows.found] at found
      cases found
      exact ⟨follows.category, follows.config⟩

/-- **Nothing is wrong with a graph** exactly if it is well formed, every node follows the
template of its type, and no reference of an agent is broken. -/
theorem problems_eq_nil_iff_wellFormed {r : Registry} :
    g.problems r = [] ↔
      g.WellFormed ∧ (∀ n ∈ g.nodes, ∃ t, Follows r n t) ∧ agentFaults g.profiles = [] := by
  rw [problems_eq_nil_iff]
  simp only [nodeProblems_eq_nil_iff]
  refine and_congr_left fun _ => ?_
  exact ⟨wellFormed_of_violations_eq_nil, WellFormed.violations_eq_nil⟩

/-! ### Nesting -/

/-- A node with what stands in it, to so many levels below it. -/
def unfold (g : Graph) : Nat → Node → Tree Node
  | 0, n => .node n []
  | levels + 1, n => .node n ((g.childrenOf n.id).map (g.unfold levels))

/-- Unfolding starts with the node. -/
theorem value_unfold (g : Graph) (levels : Nat) (n : Node) :
    (g.unfold levels n).value = n := by
  cases levels <;> rfl

/-- The roots of unfolded nodes are the nodes. -/
theorem value_comp_unfold (g : Graph) (levels : Nat) : Tree.value ∘ g.unfold levels = id :=
  funext (g.value_unfold levels)

/-- What unfolds to a forest that is nested as the nodes name their parents, to no more than so
many levels. -/
structure UnfoldsTo (g : Graph) (levels : Nat) (forest : List (Tree Node)) : Prop where
  /-- There are no more levels. -/
  shallow : Tree.forestHeight forest ≤ levels
  /-- The children of a tree are the nodes that stand in its root. -/
  children : ∀ s ∈ Tree.forestPreorder forest,
    s.children.map Tree.value = g.childrenOf s.value.id

/-- Attempts on a list of nodes, if each one that succeeds has unfolded its node. -/
theorem unfoldsTo_of_forall₂ {levels : Nat} {f : Node → Tree Block → Prop} {nodes : List Node}
    {ts : List (Tree Block)} (done : List.Forall₂ f nodes ts)
    (single : ∀ n t, f n t →
      t = (g.unfold levels n).map g.block ∧ g.UnfoldsTo levels [g.unfold levels n]) :
    ts = Tree.forestMap g.block (nodes.map (g.unfold levels))
      ∧ g.UnfoldsTo levels (nodes.map (g.unfold levels)) := by
  induction done with
  | nil => exact ⟨rfl, Nat.zero_le _, by simp [Tree.forestPreorder]⟩
  | @cons n t rest ts here _ ih =>
    obtain ⟨rfl, first⟩ := single n t here
    obtain ⟨rfl, later⟩ := ih
    have shallow := first.shallow
    have children := first.children
    rw [Tree.forestHeight_singleton] at shallow
    rw [Tree.forestPreorder_singleton] at children
    refine ⟨rfl, ?_, ?_⟩
    · rw [List.map_cons, Tree.forestHeight]
      exact Nat.max_le.2 ⟨shallow, later.shallow⟩
    · intro s hs
      rw [List.map_cons, Tree.forestPreorder, List.mem_append] at hs
      exact hs.elim (children s) (later.children s)

/-- If what holds nodes is a container, a node is nested with what stands in it. -/
theorem nest_succ {levels : Nat} {n : Node}
    (contains : g.childrenOf n.id ≠ [] → isContainer n.type = true) :
    g.nest maxDepth (levels + 1) n
      = ((g.childrenOf n.id).mapM (g.nest maxDepth levels)).map (.node (g.block n)) := by
  have holds : (!(g.childrenOf n.id).isEmpty && !isContainer n.type) = false := by
    rw [Bool.and_eq_false_iff, Bool.not_eq_false', Bool.not_eq_false', List.isEmpty_iff,
      or_iff_not_imp_left]
    exact contains
  rw [nest]
  simp only [holds, Bool.false_eq_true, if_false]
  cases (g.childrenOf n.id).mapM (g.nest maxDepth levels) <;> rfl

/-- **A node that is nested has been unfolded**, and all that stands in it with it. -/
theorem unfoldsTo_of_nest {levels : Nat} {n : Node} {t : Tree Block}
    (nested : g.nest maxDepth levels n = .ok t) :
    t = (g.unfold levels n).map g.block ∧ g.UnfoldsTo levels [g.unfold levels n] := by
  induction levels generalizing n t with
  | zero => cases nested
  | succ levels ih =>
    simp only [nest] at nested
    split at nested
    · cases nested
    · split at nested
      · cases nested
      · next children done =>
        cases nested
        obtain ⟨rfl, below⟩ := unfoldsTo_of_forall₂ (mapM_eq_ok_iff.1 done) fun n t => ih
        refine ⟨by rw [unfold, Tree.map], ?_, ?_⟩
        · rw [Tree.forestHeight_singleton, unfold, Tree.height]
          exact Nat.succ_le_succ below.shallow
        · intro s hs
          rw [Tree.forestPreorder_singleton, unfold, Tree.preorder, List.mem_cons] at hs
          rcases hs with rfl | hs
          · rw [Tree.children, List.map_map, value_comp_unfold, List.map_id]
            rfl
          · exact below.children s hs

/-! ### Compiling -/

/-- Attempts are sorted out without an error exactly if each one has succeeded. -/
theorem sortOut_eq_iff {ε α : Type} {attempts : List (Except ε α)} {results : List α} :
    sortOut attempts = ([], results) ↔
      List.Forall₂ (fun x a => x = .ok a) attempts results := by
  induction attempts generalizing results with
  | nil => simp [sortOut, eq_comm]
  | cons attempt rest ih =>
    cases attempt with
    | error e => simp [sortOut, List.forall₂_cons_left_iff]
    | ok a =>
      rw [sortOut, Prod.mk.injEq, List.forall₂_cons_left_iff]
      constructor
      · rintro ⟨clean, rfl⟩
        exact ⟨a, _, rfl, ih.1 (Prod.ext clean rfl), rfl⟩
      · rintro ⟨b, bs, same, later, rfl⟩
        cases same
        rw [ih.2 later]
        exact ⟨rfl, rfl⟩

/-- **A graph is compiled** if nothing is wrong with it and every node at the top level can be
nested. -/
theorem compile_eq_ok_iff {s : Settings} {d : Document} :
    g.compile s = .ok d ↔
      g.problems s.registry = []
        ∧ ∃ ts, List.Forall₂ (fun n t => g.nest s.maxDepth (s.maxDepth + 1) n = .ok t)
            g.topLevel ts
          ∧ g.assemble s ts = d := by
  have sorted : ∀ ts,
      sortOut (g.topLevel.map (g.nest s.maxDepth (s.maxDepth + 1))) = ([], ts) ↔
        List.Forall₂ (fun n t => g.nest s.maxDepth (s.maxDepth + 1) n = .ok t)
          g.topLevel ts := by
    intro ts
    rw [sortOut_eq_iff, List.forall₂_map_left_iff]
  simp only [← sorted, compile_eq]
  cases g.problems s.registry with
  | cons problem rest => simp
  | nil =>
    obtain ⟨errors, results⟩ := sortOut (g.topLevel.map (g.nest s.maxDepth (s.maxDepth + 1)))
    cases errors <;> simp

/-- A compiled graph is well formed. -/
theorem wellFormed_of_compile {s : Settings} {d : Document} (compiled : g.compile s = .ok d) :
    g.WellFormed := by
  obtain ⟨clean, -⟩ := compile_eq_ok_iff.1 compiled
  obtain ⟨wf, -⟩ := problems_eq_nil_iff_wellFormed.1 clean
  exact wf

/-- A graph with which something is wrong is rejected with all of it. -/
theorem compile_eq_error_of_problems {s : Settings} (wrong : g.problems s.registry ≠ []) :
    g.compile s = .error (g.problems s.registry) := by
  rw [compile_eq]
  split
  · next clean => exact absurd clean wrong
  · rfl

/-- **A compiled graph is its forest**, with every node as the block it is handed over as, and
nests no deeper than it may. -/
theorem exists_forest_of_compile {s : Settings} {d : Document} (compiled : g.compile s = .ok d) :
    ∃ forest, g.IsForestOf forest ∧ Tree.forestHeight forest ≤ s.maxDepth + 1
      ∧ d = g.assemble s (Tree.forestMap g.block forest) := by
  obtain ⟨-, ts, nested, rfl⟩ := compile_eq_ok_iff.1 compiled
  obtain ⟨rfl, unfolded⟩ := unfoldsTo_of_forall₂ nested fun n t => unfoldsTo_of_nest
  refine ⟨_, ⟨?_, unfolded.children⟩, unfolded.shallow, rfl⟩
  rw [List.map_map, value_comp_unfold, List.map_id]

end Graph

end Workflow
