import Workflow.Proofs.Document.Loading
import Workflow.Proofs.Tree.Address
import Workflow.Proofs.Tree.Stack

/-!
# Three ways through a document

A document is gone through in three ways. Looking for a node lists all of them with a stack. The
check has a stack too, on which it notes how deep each node stands, and goes no further down than
it may. Loading takes the document apart by recursion, and places the nodes one after the other.

All three are held against one list, that of the occurrences of nodes. These are told apart by their
addresses and not by their ids, which may repeat. What the check visits is the part of the list that
is not too deep, and what it reports as too deep is the part just below, whatever the bound.

## Main results

* `visited_eq_filter`: **what the check visits** is what stands no deeper than it may.
* `filterMap_tooDeep?_check`: **what is reported as too deep** is what stands one deeper.
* `traversals_agree`: **the three ways agree.**
-/

namespace Workflow

/-- The node that stands too deep, and the depth allowed, if that is what is wrong. -/
def LoadError.tooDeep? : LoadError → Option (String × Nat)
  | .nestingTooDeep node maxDepth => some (node, maxDepth)
  | _ => none

namespace Document

variable {d : Document} {r : Registry} {maxDepth : Nat} {g : Graph}

/-- Every occurrence of a node, with its address, in pre-order. -/
def occurrences (d : Document) : List (List Nat × Tree Block) :=
  Tree.forestAddressed 0 d.nodes

/-- The occurrences are what the walk lists. -/
theorem map_snd_occurrences (d : Document) : d.occurrences.map (·.2) = d.walk := by
  rw [occurrences, Tree.forestAddressed_snd, walk, Tree.walk_eq_preorder]

/-! ### Looking for a node -/

/-- No node is found exactly if none has the id. -/
theorem find?_eq_none_iff {id : String} :
    d.find? id = none ↔ ∀ t ∈ d.walk, t.value.id ≠ id := by
  simp [find?]

/-- The node that is found is the first one with the id. -/
theorem find?_eq_some_iff {id : String} {t : Tree Block} :
    d.find? id = some t ↔ t.value.id = id
      ∧ ∃ before after, d.walk = before ++ t :: after ∧ ∀ s ∈ before, s.value.id ≠ id := by
  simp [find?, List.find?_eq_some_iff_append]

/-! ### The walk of the check -/

/-- **What the check visits** is what stands no deeper than it may, in pre-order. -/
theorem visited_eq_filter (d : Document) (maxDepth : Nat) :
    d.visited maxDepth
      = (d.occurrences.filter fun e => Tree.depthAt e.1 ≤ maxDepth).map (·.2) := by
  rw [occurrences, ← Tree.filterMap_within?_forestBounded, visited, visits]
  exact List.filterMap_congr fun v _ => by cases v <;> rfl

/-- Nothing is wrong with the depth of a node that the check visits. -/
theorem filterMap_tooDeep?_blockErrors (r : Registry) (t : Tree Block) :
    (blockErrors r t).filterMap LoadError.tooDeep? = [] := by
  rw [List.filterMap_eq_nil_iff]
  intro e he
  rcases of_mem_blockErrors he with rfl | rfl | rfl <;> rfl

/-- Of what is wrong at one place of the walk, the depth is if the place is below the bound. -/
theorem filterMap_tooDeep?_visitErrors (r : Registry) (maxDepth : Nat) (v : Tree.Visit Block) :
    (visitErrors r maxDepth v).filterMap LoadError.tooDeep?
      = (v.below?.map fun t => (t.value.id, maxDepth)).toList := by
  cases v with
  | within t => exact filterMap_tooDeep?_blockErrors r t
  | below t => rfl

/-- **What is reported as too deep** is what stands one deeper than it may, in pre-order. -/
theorem filterMap_tooDeep?_check (d : Document) (r : Registry) (maxDepth : Nat) :
    (d.check r maxDepth).errors.filterMap LoadError.tooDeep?
      = (d.occurrences.filter fun e => Tree.depthAt e.1 = maxDepth + 1).map
        fun e => (e.2.value.id, maxDepth) := by
  have outputs : ∀ ids b, (danglingOutputs ids b).filterMap LoadError.tooDeep? = [] := by
    intro ids b
    rw [List.filterMap_eq_nil_iff]
    intro e he
    obtain ⟨_, _, rfl⟩ := of_mem_danglingOutputs he
    rfl
  have start : ∀ ids, (d.startErrors ids).filterMap LoadError.tooDeep? = [] := by
    intro ids
    rw [List.filterMap_eq_nil_iff]
    intro e he
    obtain ⟨_, rfl⟩ := of_mem_startErrors he
    rfl
  -- of all that the check does, only its walk has to do with depth
  calc (d.check r maxDepth).errors.filterMap LoadError.tooDeep?
      = ((d.visits maxDepth).flatMap (visitErrors r maxDepth)).filterMap LoadError.tooDeep? := by
        simp [check, errors, List.filterMap_flatMap, outputs, start, triggerErrors,
          LoadError.tooDeep?]
    _ = ((d.visits maxDepth).filterMap Tree.Visit.below?).map
          fun t => (t.value.id, maxDepth) := by
        rw [List.filterMap_flatMap, List.map_filterMap, List.filterMap_eq_flatMap_toList]
        exact List.flatMap_congr fun v _ => filterMap_tooDeep?_visitErrors r maxDepth v
    _ = _ := by
        rw [visits, Tree.filterMap_below?_forestBounded, List.map_map]
        rfl

/-- The loop of the check ends, and meets what the check looks at. -/
theorem exists_pops_visits (d : Document) (maxDepth : Nat) :
    ∃ taken, d.visits maxDepth = taken.map (Tree.visitOf maxDepth)
      ∧ ∀ run, Pops (Tree.childrenWithin maxDepth) (d.nodes.map fun t => (t, 0)).reverse run
        ↔ run = taken := by
  obtain ⟨taken, run, met⟩ := Tree.exists_pops_forestBounded maxDepth 0 d.nodes
  exact ⟨taken, met.symm, fun _ => run.iff_eq⟩

/-- **What the check visits are all nodes**, if none stands deeper than it may. -/
theorem ids_eq_of_shallow (shallow : ∀ e ∈ d.occurrences, Tree.depthAt e.1 ≤ maxDepth) :
    d.ids maxDepth = d.walk.map fun t => t.value.id := by
  have all : d.occurrences.filter (fun e => Tree.depthAt e.1 ≤ maxDepth) = d.occurrences :=
    List.filter_eq_self.2 (by simpa using shallow)
  rw [ids, visited_eq_filter, all, map_snd_occurrences]

/-! ### Loading -/

/-- What is loaded has the nodes in the order of the walk. -/
theorem map_id_of_load (loaded : d.load r maxDepth = .ok g) :
    g.nodes.map (·.id) = d.walk.map fun t => t.value.id := by
  obtain ⟨-, isGraph⟩ := valid_of_load loaded
  rw [map_id_of_isNodeOf isGraph.nodes, walk, Tree.walk_eq_preorder]
  rfl

/-! ### The three ways -/

/-- **The three ways through a document agree.** Its occurrences are listed by address, each once
and in order, so that the list is the recursive pre-order.

* Looking for a node takes exactly these from its stack, and finds the first one with the id, or
  none if none has it.
* The check takes from its stack what its bounded walk meets. If nothing stands deeper than it may,
  the ids it visits are those of the list. Whatever the bound, what it reports as too deep are the
  occurrences one deeper, each once and in order.
* If the document is loaded, the ids of the graph are those of the list. -/
theorem traversals_agree (d : Document) :
    Tree.ListsOccurrences d.nodes d.occurrences
      ∧ d.occurrences.map (·.2) = d.walk
      ∧ d.walk = Tree.forestPreorder d.nodes
      ∧ (∀ taken, Pops Tree.children d.nodes.reverse taken ↔ taken = d.walk)
      ∧ (∀ id, d.find? id = none ↔ ∀ t ∈ d.walk, t.value.id ≠ id)
      ∧ (∀ id t, d.find? id = some t ↔ t.value.id = id
        ∧ ∃ before after, d.walk = before ++ t :: after ∧ ∀ s ∈ before, s.value.id ≠ id)
      ∧ ∀ (r : Registry) (maxDepth : Nat),
        (∃ taken, d.visits maxDepth = taken.map (Tree.visitOf maxDepth)
            ∧ ∀ run, Pops (Tree.childrenWithin maxDepth) (d.nodes.map fun t => (t, 0)).reverse run
              ↔ run = taken)
          ∧ ((∀ e ∈ d.occurrences, Tree.depthAt e.1 ≤ maxDepth) →
            d.ids maxDepth = d.walk.map fun t => t.value.id)
          ∧ (d.check r maxDepth).errors.filterMap LoadError.tooDeep?
            = (d.occurrences.filter fun e => Tree.depthAt e.1 = maxDepth + 1).map
              (fun e => (e.2.value.id, maxDepth))
          ∧ ∀ g, d.load r maxDepth = .ok g →
            g.nodes.map (·.id) = d.walk.map fun t => t.value.id := by
  refine ⟨Tree.listsOccurrences_forestAddressed d.nodes, d.map_snd_occurrences,
    Tree.walk_eq_preorder d.nodes, fun _ => Tree.pops_walk_iff, fun _ => find?_eq_none_iff,
    fun _ _ => find?_eq_some_iff, fun r maxDepth => ?_⟩
  exact ⟨d.exists_pops_visits maxDepth, ids_eq_of_shallow, d.filterMap_tooDeep?_check r maxDepth,
    fun _ => map_id_of_load⟩

/-- A loop with a guarded call in it and a step behind that, between a trigger and a last step. -/
def deliveryDocument : Document :=
  { version := currentVersion
    bot := { id := "bot", name := "Bot" }
    nodes :=
      [.node { id := "start", type := "trigger.manual", outputs := { success := .node "each" } } [],
        .node { id := "each", type := "control.loop", outputs := { success := .node "done" } }
          [.node { id := "guard", type := "control.try_catch", outputs := {} }
            [.node { id := "call", type := "logging.log", outputs := { error := .node "note" } }
              []],
            .node { id := "note", type := "logging.log", outputs := {} } []],
        .node { id := "done", type := "logging.log", outputs := {} } []]
    triggers := ["start"] }

/-- The document with the guarded call is loaded if two containers are allowed around a node, and
then the check has visited, and the graph has, the nodes in the order of the walk. -/
theorem traversals_agree_deliveryDocument :
    (∀ e ∈ deliveryDocument.occurrences, Tree.depthAt e.1 ≤ 2)
      ∧ deliveryDocument.ids 2 = ["start", "each", "guard", "call", "note", "done"]
      ∧ ∃ g, deliveryDocument.load .builtin 2 = .ok g
        ∧ g.nodes.map (·.id) = ["start", "each", "guard", "call", "note", "done"] := by
  obtain ⟨-, -, walked, -, -, -, bounded⟩ := traversals_agree deliveryDocument
  have order : (deliveryDocument.walk.map fun t => t.value.id)
      = ["start", "each", "guard", "call", "note", "done"] := by
    rw [walked]
    rfl
  have shallow : ∀ e ∈ deliveryDocument.occurrences, Tree.depthAt e.1 ≤ 2 := by decide
  have loads : (deliveryDocument.load .builtin 2).toOption.isSome = true := by decide +kernel
  obtain ⟨g, loaded⟩ := exists_eq_ok_of_toOption loads
  obtain ⟨-, visits_all, -, graph⟩ := bounded .builtin 2
  exact ⟨shallow, (visits_all shallow).trans order, g, loaded, (graph g loaded).trans order⟩

-- with no container allowed around a node, what stands in the guard is not looked at
example : (deliveryDocument.check .builtin 0).errors.filterMap LoadError.tooDeep?
    = [("guard", 0), ("note", 0)] := by
  decide +kernel

end Document

end Workflow
