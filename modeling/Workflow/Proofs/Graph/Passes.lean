import Workflow.Graph.Parts
import Workflow.Proofs.Graph.Acceptance

/-!
# Passes over waiting nodes

Nodes come in any order, and one whose parent is not there yet waits for the next pass. The two
relations of this module are the successful runs of the two loops, with a rule for each way a turn
goes; what a pass does is proved by induction on them and not by opening the loops again.

A pass is over when its list is, and the passes are over when none waits. A pass after which as
many wait as before is no step of a run: as no pass leaves more nodes waiting than it was given
(`length_placePass`), their number falls with every step.

## Main results

* `placePass_eq_ok_iff`, `placeAll_eq_ok_iff`: the loops succeed exactly with their runs.
* `Pass.append_inv`: a pass over two lists is one over the first and then one over the second.
* `Pass.not_ready`: whatever waits after a pass was not ready before it.
-/

namespace Workflow.Graph

variable {g g' : Graph} {n : Node} {nodes waiting : List Node}

/-! ### Runs -/

/-- A pass in which no addition fails: the graph before it, the nodes it goes over, the graph
after it, and the nodes that keep waiting. -/
inductive Pass : Graph → List Node → Graph → List Node → Prop where
  /-- No node is left. -/
  | done {g : Graph} : Pass g [] g []
  /-- A node that is ready is added. -/
  | place {g g' g'' : Graph} {n : Node} {rest still : List Node} : g.isReady n = true →
      g.addNode n = .ok g' → Pass g' rest g'' still → Pass g (n :: rest) g'' still
  /-- A node that is not ready keeps waiting. -/
  | keep {g g' : Graph} {n : Node} {rest still : List Node} : g.isReady n = false →
      Pass g rest g' still → Pass g (n :: rest) g' (n :: still)

/-- Passes until no node waits, each of which adds some. -/
inductive Passes : Graph → List Node → Graph → Prop where
  /-- No node waits. -/
  | done {g : Graph} : Passes g [] g
  /-- A pass after which not as many nodes wait is followed by others. -/
  | more {g g' g'' : Graph} {waiting still : List Node} : waiting ≠ [] →
      Pass g waiting g' still → still.length ≠ waiting.length → Passes g' still g'' →
      Passes g waiting g''

/-- **A pass succeeds** exactly with its run. -/
theorem placePass_eq_ok_iff :
    g.placePass nodes = .ok (g', waiting) ↔ Pass g nodes g' waiting := by
  constructor
  · intro passed
    induction nodes generalizing g g' waiting with
    | nil =>
      cases passed
      exact .done
    | cons n rest ih =>
      rw [placePass] at passed
      split at passed
      · next ready =>
        split at passed
        · cases passed
        · next added => exact .place ready added (ih passed)
      · next idle =>
        split at passed
        · cases passed
        · next later =>
          cases passed
          exact .keep (Bool.not_eq_true _ ▸ idle) (ih later)
  · intro pass
    induction pass with
    | done => rfl
    | place ready added _ ih =>
      rw [placePass, if_pos ready, added]
      exact ih
    | keep idle _ ih =>
      rw [placePass, idle, ih]
      rfl

/-- **All passes succeed** exactly with their run. -/
theorem placeAll_eq_ok_iff : g.placeAll waiting = .ok g' ↔ Passes g waiting g' := by
  constructor
  · intro placed
    fun_induction placeAll g waiting with
    | case1 g waiting none_left =>
      cases placed
      obtain rfl := List.isEmpty_iff.1 none_left
      exact .done
    | case2 => cases placed
    | case3 g waiting some_left g'' still passed fewer ih =>
      exact .more (fun none_left => some_left (List.isEmpty_iff.2 none_left))
        (placePass_eq_ok_iff.1 passed) (Nat.ne_of_lt fewer) (ih placed)
    | case4 => cases placed
  · intro passes
    induction passes with
    | done => rw [placeAll, if_pos List.isEmpty_nil]
    | more some_left pass fewer _ ih =>
      have passed := placePass_eq_ok_iff.2 pass
      have fewer := Nat.lt_of_le_of_ne (length_placePass passed) fewer
      rw [placeAll, if_neg fun none_left => some_left (List.isEmpty_iff.1 none_left), passed]
      simp only [fewer, if_true]
      exact ih

/-- Parts make a graph if all passes over the nodes succeed, and then all edges are added. -/
theorem ofParts_eq_ok_iff {edges : List Edge} :
    ofParts nodes edges = .ok g ↔ ∃ placed, Passes empty nodes placed
      ∧ placed.addEdges edges = .ok g := by
  simp only [ofParts, ← placeAll_eq_ok_iff]
  cases placeAll empty nodes <;> simp

/-! ### Ready nodes -/

/-- A node is ready if its parent, should it have one, is a node. -/
theorem isReady_iff : g.isReady n = true ↔ ∀ p, n.parent? = some p → p ∈ g.nodeIds := by
  cases hp : n.parent? <;> simp [isReady, hp, contains_iff_mem_nodeIds]

/-- A node that is added comes last. -/
theorem eq_appendNode_of_addNode (added : g.addNode n = .ok g') : g' = g.appendNode n := by
  rw [addNode] at added
  split at added
  · cases added
  · split at added
    · cases added
    · obtain ⟨-, -, same⟩ := map_eq_ok_iff.1 added
      exact same.symm

/-- The ids with one more node. -/
@[simp] theorem nodeIds_appendNode (g : Graph) (n : Node) :
    (g.appendNode n).nodeIds = g.nodeIds ++ [n.id] := by
  simp [nodeIds]

/-- What is ready stays ready. -/
theorem isReady_appendNode {m : Node} (ready : g.isReady n = true) :
    (g.appendNode m).isReady n = true := by
  rw [isReady_iff] at ready ⊢
  intro p hp
  rw [nodeIds_appendNode]
  exact List.mem_append_left _ (ready p hp)

/-! ### What a pass does -/

/-- The nodes that keep waiting are some of those that waited, in their order. -/
theorem Pass.waiting_sublist (pass : Pass g nodes g' waiting) : waiting.Sublist nodes := by
  induction pass with
  | done => exact .refl _
  | place _ _ _ ih => exact ih.cons _
  | keep _ _ ih => exact ih.cons_cons _

/-- **Whatever waits after a pass** was not ready before it. -/
theorem Pass.not_ready (pass : Pass g nodes g' waiting) (hn : n ∈ waiting) :
    g.isReady n = false := by
  induction pass with
  | done => cases hn
  | place _ added _ ih =>
    obtain rfl := eq_appendNode_of_addNode added
    have later := ih hn
    rw [← Bool.not_eq_true] at later ⊢
    exact fun ready => later (isReady_appendNode ready)
  | keep idle _ ih =>
    rcases List.mem_cons.1 hn with rfl | hn
    · exact idle
    · exact ih hn

/-- **A pass over two lists** is a pass over the first and then one over the second. -/
theorem Pass.append_inv {later : List Node} (pass : Pass g (nodes ++ later) g' waiting) :
    ∃ g₁ first second, Pass g nodes g₁ first ∧ Pass g₁ later g' second
      ∧ waiting = first ++ second := by
  induction nodes generalizing g waiting with
  | nil => exact ⟨g, [], waiting, .done, pass, rfl⟩
  | cons n rest ih =>
    cases pass with
    | place ready added onward =>
      obtain ⟨g₁, first, second, pass₁, pass₂, split⟩ := ih onward
      exact ⟨g₁, first, second, .place ready added pass₁, pass₂, split⟩
    | keep idle onward =>
      obtain ⟨g₁, first, second, pass₁, pass₂, rfl⟩ := ih onward
      exact ⟨g₁, n :: first, second, .keep idle pass₁, pass₂, rfl⟩

end Workflow.Graph
