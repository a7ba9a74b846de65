import Workflow.Document.Check
import Workflow.Proofs.Tree

/-!
# Valid documents

What the check of a document tests, said of the nodes themselves and not of a bounded walk
through them: a walk that finds nothing wrong has met every node.

## Main results

* `check_errors_eq_nil_iff_valid`: nothing is wrong with a document exactly if it is valid.
* `Valid.visited_eq`: of a valid document, the check has met every node.
* `filterMap_warnings_check`: which warnings a check gives, and in which order.
-/

namespace Workflow.Document

variable {d : Document} {r : Registry} {maxDepth : Nat}

/-- The ids of all nodes, in pre-order. -/
def nodeIds (d : Document) : List String :=
  Tree.forestKeys Block.id d.nodes

/-- What the agent checks look at, for all nodes in pre-order. -/
def allProfiles (d : Document) : List Profile :=
  (Tree.forestPreorder d.nodes).map fun t => ⟨t.value.id, t.value.type, t.value.config⟩

/-- A document that can be loaded. -/
structure Valid (d : Document) (r : Registry) (maxDepth : Nat) : Prop where
  /-- No node stands in more than `maxDepth` containers. -/
  shallow : Tree.forestHeight d.nodes ≤ maxDepth + 1
  /-- No id is blank. -/
  visible : ∀ t ∈ Tree.forestPreorder d.nodes, Text.isBlank t.value.id = false
  /-- Only containers hold nodes. -/
  contain : ∀ t ∈ Tree.forestPreorder d.nodes, t.children ≠ [] →
    isContainer t.value.type = true
  /-- Every type is registered. -/
  registered : ∀ t ∈ Tree.forestPreorder d.nodes, r.contains t.value.type = true
  /-- No two nodes have the same id. -/
  distinct : d.nodeIds.Nodup
  /-- Every output leads to a node. -/
  attached : ∀ t ∈ Tree.forestPreorder d.nodes, ∀ handle target,
    t.value.outputs.get handle = .node target → target ∈ d.nodeIds
  /-- The start node exists. -/
  start : ∀ id, d.startNode? = some id → id ∈ d.nodeIds
  /-- The triggers exist. -/
  triggers : ∀ id ∈ d.triggers, id ∈ d.nodeIds
  /-- No reference of an agent is broken. -/
  agents : agentFaults d.allProfiles = []

/-! ### The walk -/

/-- A walk that exceeds no bound visits every node. -/
theorem visits_eq (shallow : Tree.forestHeight d.nodes ≤ maxDepth + 1) :
    d.visits maxDepth = (Tree.forestPreorder d.nodes).map .within :=
  Tree.forestBounded_eq_preorder _ _ shallow

/-- A walk that exceeds no bound has every node within it. -/
theorem visited_eq (shallow : Tree.forestHeight d.nodes ≤ maxDepth + 1) :
    d.visited maxDepth = Tree.forestPreorder d.nodes := by
  rw [visited, visits_eq shallow, List.filterMap_map]
  exact List.filterMap_some

/-- Of a valid document, the check has met every node. -/
theorem Valid.visited_eq (valid : d.Valid r maxDepth) :
    d.visited maxDepth = Tree.forestPreorder d.nodes :=
  Document.visited_eq valid.shallow

/-- A walk on which nothing is wrong exceeds no bound. -/
theorem forestHeight_le_of_visitErrors
    (clean : ∀ v ∈ d.visits maxDepth, visitErrors r maxDepth v = []) :
    Tree.forestHeight d.nodes ≤ maxDepth + 1 := by
  refine Tree.forestHeight_le_of_within _ fun v hv => ?_
  cases v with
  | within t => exact ⟨t, rfl⟩
  | below t => simpa [visitErrors] using clean _ hv

/-! ### The single checks -/

/-- Nothing is wrong with a node alone exactly if its id is visible, its type registered, and a
container if it holds nodes. -/
theorem blockErrors_eq_nil_iff {t : Tree Block} :
    blockErrors r t = [] ↔ Text.isBlank t.value.id = false
      ∧ (t.children ≠ [] → isContainer t.value.type = true)
      ∧ r.contains t.value.type = true := by
  simp only [blockErrors, List.append_eq_nil_iff, ite_eq_left_iff, ite_eq_right_iff,
    reduceCtorEq, imp_false, Bool.not_eq_true, Bool.and_eq_true, Bool.not_eq_eq_eq_not,
    Bool.not_true, List.isEmpty_eq_false_iff, not_and, Bool.not_eq_false, and_assoc]

/-- What is wrong with a node alone is its id, that something stands in it, or its type. -/
theorem of_mem_blockErrors {t : Tree Block} {e : LoadError} (he : e ∈ blockErrors r t) :
    e = .blankNodeId t.value.id
      ∨ e = .containment t.value.id (.unexpectedChildren t.value.type t.children.length)
      ∨ e = .unknownType t.value.id t.value.type := by
  simp only [blockErrors, List.mem_append, List.mem_ite_nil_left, List.mem_ite_nil_right,
    List.mem_singleton, or_assoc] at he
  exact he.imp And.right (Or.imp And.right And.right)

/-- What is wrong with the outputs of a node is that one of them dangles. -/
theorem of_mem_danglingOutputs {ids : List String} {b : Block} {e : LoadError}
    (he : e ∈ danglingOutputs ids b) :
    ∃ handle missing, e = .danglingOutput b.id handle missing := by
  obtain ⟨handle, -, found⟩ := List.mem_filterMap.1 he
  split at found
  · cases found
  · next target _ =>
    split at found
    · cases found
    · exact ⟨handle, target, (Option.some.inj found).symm⟩

/-- What is wrong with the start node is that it does not exist. -/
theorem of_mem_startErrors {ids : List String} {e : LoadError} (he : e ∈ d.startErrors ids) :
    ∃ id, e = .unknownStart id := by
  rw [startErrors] at he
  split at he
  · cases he
  · next start _ =>
    exact ⟨start, List.mem_singleton.1 (List.mem_ite_nil_left.1 he).2⟩

/-- No output of a node dangles exactly if each leads to one of the ids, or nowhere. -/
theorem danglingOutputs_eq_nil_iff {ids : List String} {b : Block} :
    danglingOutputs ids b = [] ↔
      ∀ handle target, b.outputs.get handle = .node target → target ∈ ids := by
  rw [danglingOutputs, List.filterMap_eq_nil_iff]
  constructor
  · intro none_found handle target leads
    have found := none_found handle handle.mem_all
    rw [leads] at found
    simpa [Target.nodeId?] using found
  · intro attached handle _
    cases leads : b.outputs.get handle with
    | finish => rfl
    | node target => simpa [Target.nodeId?] using attached handle target leads

/-- The start node is in order exactly if it is one of the ids, or none is named. -/
theorem startErrors_eq_nil_iff {ids : List String} :
    d.startErrors ids = [] ↔ ∀ id, d.startNode? = some id → id ∈ ids := by
  cases start : d.startNode? <;> simp [startErrors, start]

/-- The triggers are in order exactly if each is one of the ids. -/
theorem triggerErrors_eq_nil_iff {ids : List String} :
    d.triggerErrors ids = [] ↔ ∀ id ∈ d.triggers, id ∈ ids := by
  simp [triggerErrors]

/-! ### The check -/

/-- **Nothing is wrong with a document exactly if it is valid.** -/
theorem check_errors_eq_nil_iff_valid :
    (d.check r maxDepth).errors = [] ↔ d.Valid r maxDepth := by
  rw [check_errors_eq_nil_iff]
  constructor
  · rintro ⟨clean, distinct, attached, start, triggers, agents⟩
    have shallow := forestHeight_le_of_visitErrors clean
    have alone : ∀ t ∈ Tree.forestPreorder d.nodes, blockErrors r t = [] := by
      intro t ht
      refine clean (.within t) ?_
      rw [visits_eq shallow]
      exact List.mem_map_of_mem ht
    simp only [ids, profiles, visited_eq shallow] at distinct attached start triggers agents
    exact
      { shallow
        visible := fun t ht => (blockErrors_eq_nil_iff.1 (alone t ht)).1
        contain := fun t ht => (blockErrors_eq_nil_iff.1 (alone t ht)).2.1
        registered := fun t ht => (blockErrors_eq_nil_iff.1 (alone t ht)).2.2
        distinct
        attached := fun t ht => danglingOutputs_eq_nil_iff.1 (attached t ht)
        start := startErrors_eq_nil_iff.1 start
        triggers := triggerErrors_eq_nil_iff.1 triggers
        agents }
  · intro valid
    simp only [ids, profiles, valid.visited_eq, visits_eq valid.shallow, List.mem_map,
      forall_exists_index, and_imp, forall_apply_eq_imp_iff₂]
    refine ⟨?_, valid.distinct, ?_, startErrors_eq_nil_iff.2 valid.start,
      triggerErrors_eq_nil_iff.2 valid.triggers, valid.agents⟩
    · intro t ht
      exact blockErrors_eq_nil_iff.2 ⟨valid.visible t ht, valid.contain t ht,
        valid.registered t ht⟩
    · intro t ht
      exact danglingOutputs_eq_nil_iff.2 (valid.attached t ht)

/-- The warnings of a check, chosen and read in any way: first about the version, then about agents
and models, and last, if nothing is wrong, about what is not reached. -/
theorem filterMap_warnings_check {β : Type} (read : DocumentWarning → Option β) :
    (d.check r maxDepth).warnings.filterMap read
      = d.versionWarnings.filterMap read
        ++ (agentWarnings (d.profiles maxDepth)).filterMap (fun w => read (.agent w))
        ++ if (d.errors r maxDepth).isEmpty then
            (d.unreachable (d.visited maxDepth)).filterMap fun id => read (.unreachable id)
          else [] := by
  rw [check, List.filterMap_append, List.filterMap_append, List.filterMap_map]
  split
  · rw [List.filterMap_map]
    rfl
  · rfl

end Workflow.Document
