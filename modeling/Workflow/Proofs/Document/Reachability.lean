import Workflow.Proofs.Document.Valid
import Workflow.Proofs.Keyed
import Workflow.Proofs.Search
import Workflow.Proofs.Search.Marking

/-!
# Nodes that nothing leads to

The check of a document warns of nodes that no run of the bot can come to. A run enters at the
triggers and at the start node. From a node it goes where one of the outputs leads, and into
whatever stands in the node. Outputs may lead back, and into containers and out of them, so that the
steps are no tree; the search for what they lead to is one through the ids of the nodes.

The search is only made of a document with which nothing is wrong. Then the bounded walk has met
every node, ids are distinct, and every step leads to a node.

## Main results

* `mem_steps_iff`: the search takes the steps of the document.
* `Valid.exists_unreachable`: **what the check finds unreachable** in a valid document.
* `unreachable_decided`: **the warnings of unreachable nodes are exact**, and the search for them
  ends on every document.
-/

namespace Workflow

/-- The node of which a warning says that nothing leads to it. -/
def DocumentWarning.unreachable? : DocumentWarning → Option String
  | .unreachable id => some id
  | _ => none

/-- The ids to which the outputs of a block lead. -/
theorem Outputs.mem_nodeIds_iff {o : Outputs} {id : String} :
    id ∈ o.nodeIds ↔ ∃ handle, o.get handle = .node id := by
  simp only [Outputs.nodeIds, List.mem_filterMap, Target.nodeId?_eq_some_iff]
  exact exists_congr fun handle => and_iff_right handle.mem_all

namespace Document

variable {d : Document} {r : Registry} {maxDepth : Nat}

/-! ### Steps -/

/-- A run enters the document here: at a trigger, at the start node, or at the first node at the top
level if no start node is named. -/
def IsEntry (d : Document) (id : String) : Prop :=
  id ∈ d.triggers ∨ d.startNode? = some id
    ∨ d.startNode? = none ∧ ∃ t, d.nodes.head? = some t ∧ t.value.id = id

/-- A run goes from a node to where one of its outputs leads, or to what stands in it. -/
def StepsTo (d : Document) (id next : String) : Prop :=
  ∃ t ∈ Tree.forestPreorder d.nodes, t.value.id = id
    ∧ ((∃ handle, t.value.outputs.get handle = .node next) ∨ ∃ c ∈ t.children, c.value.id = next)

/-- A run can come to a node, from an entry by any number of steps. -/
def IsReached (d : Document) (id : String) : Prop :=
  ∃ entry, d.IsEntry entry ∧ Relation.ReflTransGen d.StepsTo entry id

/-- The search starts at the entries. -/
theorem mem_entries_iff {id : String} : id ∈ d.entries ↔ d.IsEntry id := by
  rw [entries, IsEntry, List.mem_append]
  refine or_congr_right ?_
  cases start : d.startNode? with
  | some named => simp [eq_comm]
  | none => cases d.nodes.head? <;> simp [eq_comm]

/-- **The search takes the steps of the document**, if ids are distinct. -/
theorem mem_steps_iff (distinct : d.nodeIds.Nodup) {id next : String} :
    next ∈ steps (Tree.forestPreorder d.nodes) id ↔ d.StepsTo id next := by
  have found : ∀ t, (Tree.forestPreorder d.nodes).find? (fun t => t.value.id == id) = some t
      ↔ t ∈ Tree.forestPreorder d.nodes ∧ t.value.id = id :=
    fun _ => find?_key_eq_some_iff (by rwa [nodeIds, Tree.forestKeys] at distinct)
  rw [steps, StepsTo]
  cases there : (Tree.forestPreorder d.nodes).find? fun t => t.value.id == id with
  | none =>
    simp only [there, reduceCtorEq, false_iff] at found
    simp only [List.not_mem_nil, false_iff]
    rintro ⟨t, ht, same, -⟩
    exact found t ⟨ht, same⟩
  | some t =>
    simp only [there, Option.some.injEq] at found
    simp only [← and_assoc, ← found, exists_eq_left', List.mem_append, Outputs.mem_nodeIds_iff,
      List.mem_map]

/-- The relation of the search is that of the document, if ids are distinct. -/
theorem mem_steps_eq_stepsTo (distinct : d.nodeIds.Nodup) :
    (fun id next => next ∈ steps (Tree.forestPreorder d.nodes) id) = d.StepsTo := by
  funext id next
  exact propext (mem_steps_iff distinct)

/-- From an id that no node has, no step is taken. -/
theorem steps_eq_nil {nodes : List (Tree Block)} {id : String}
    (unknown : id ∉ nodes.map fun t => t.value.id) : steps nodes id = [] := by
  have nowhere : nodes.find? (fun t => t.value.id == id) = none := by
    refine List.find?_eq_none.2 fun t ht same => unknown ?_
    exact eq_of_beq same ▸ List.mem_map_of_mem ht
  rw [steps, nowhere]

/-! ### Valid documents -/

namespace Valid

/-- Runs enter a valid document at its nodes. -/
theorem entry_mem_nodeIds (valid : d.Valid r maxDepth) {id : String} (entry : d.IsEntry id) :
    id ∈ d.nodeIds := by
  rcases entry with trigger | start | ⟨-, t, first, rfl⟩
  · exact valid.triggers id trigger
  · exact valid.start id start
  · exact List.mem_map_of_mem (Tree.mem_forestPreorder_of_mem (List.mem_of_head? first))

/-- Every step in a valid document leads to a node. -/
theorem step_mem_nodeIds (valid : d.Valid r maxDepth) {id next : String}
    (step : d.StepsTo id next) : next ∈ d.nodeIds := by
  obtain ⟨t, ht, -, ⟨handle, leads⟩ | ⟨c, hc, rfl⟩⟩ := step
  · exact valid.attached t ht handle next leads
  · exact List.mem_map_of_mem (Tree.mem_forestPreorder_of_mem_children ht hc)

/-- The search in a valid document finds what runs can come to. -/
theorem mem_reachable_iff (valid : d.Valid r maxDepth) {id : String} :
    id ∈ reachable (steps (Tree.forestPreorder d.nodes))
        ((Tree.forestPreorder d.nodes).length + 1) d.entries ↔ d.IsReached id := by
  have onward : ∀ a ∈ d.nodeIds, ∀ b ∈ steps (Tree.forestPreorder d.nodes) a, b ∈ d.nodeIds :=
    fun a _ b hb => valid.step_mem_nodeIds ((mem_steps_iff valid.distinct).1 hb)
  have inside : d.entries ⊆ d.nodeIds :=
    fun entry first => valid.entry_mem_nodeIds (mem_entries_iff.1 first)
  have room : d.nodeIds.length < (Tree.forestPreorder d.nodes).length + 1 := by
    simp [nodeIds, Tree.forestKeys]
  rw [Workflow.mem_reachable_iff onward inside room, mem_steps_eq_stepsTo valid.distinct]
  simp only [mem_entries_iff, IsReached]

/-- The nodes of a valid document that hold more than settings and that no run comes to. -/
theorem exists_unreachable (valid : d.Valid r maxDepth) :
    ∃ missed : List (Tree Block), missed.Sublist (Tree.forestPreorder d.nodes)
      ∧ d.unreachable (d.visited maxDepth) = missed.map (·.value.id)
      ∧ ∀ t, t ∈ missed ↔ t ∈ Tree.forestPreorder d.nodes ∧ t.value.type ≠ modelType
        ∧ t.value.type ≠ embeddingsType ∧ ¬ d.IsReached t.value.id := by
  rw [valid.visited_eq]
  refine ⟨_, List.filter_sublist, rfl, fun t => ?_⟩
  rw [List.mem_filter, Bool.and_eq_true, Bool.not_eq_true', Bool.not_eq_true', ← Bool.not_eq_true,
    List.contains_iff_mem, valid.mem_reachable_iff, isSettingsType, Bool.or_eq_false_iff,
    beq_eq_false_iff_ne, beq_eq_false_iff_ne, and_comm (a := ¬ d.IsReached t.value.id), and_assoc]

end Valid

/-! ### The warnings -/

/-- The check warns of unreachable nodes only if nothing is wrong. -/
theorem filterMap_unreachable?_check :
    (d.check r maxDepth).warnings.filterMap DocumentWarning.unreachable?
      = if (d.errors r maxDepth).isEmpty then d.unreachable (d.visited maxDepth) else [] := by
  have version : d.versionWarnings.filterMap DocumentWarning.unreachable? = [] := by
    rw [versionWarnings]
    split <;> rfl
  simp [filterMap_warnings_check, version, DocumentWarning.unreachable?]

/-- **The warnings of unreachable nodes are exact.** If anything is wrong with the document there
are none. Otherwise they name, in pre-order and once each, exactly the nodes that hold more than
settings and that no run comes to. The search for them ends on every document, valid or not, in one
way, and marks what runs can come to if nothing is wrong. -/
theorem unreachable_decided (d : Document) (r : Registry) (maxDepth : Nat) :
    (∃ missed : List (Tree Block),
        (d.check r maxDepth).warnings.filterMap DocumentWarning.unreachable?
          = missed.map (·.value.id)
        ∧ missed.Sublist (Tree.forestPreorder d.nodes)
        ∧ (missed.map (·.value.id)).Nodup
        ∧ ∀ t, t ∈ missed ↔ (d.check r maxDepth).errors = []
          ∧ t ∈ Tree.forestPreorder d.nodes ∧ t.value.type ≠ modelType
          ∧ t.value.type ≠ embeddingsType ∧ ¬ d.IsReached t.value.id)
      ∧ ∃ marked, (∀ final, Marks (steps (d.visited maxDepth)) [] d.entries final ↔ final = marked)
        ∧ ((d.check r maxDepth).errors = [] → ∀ id, id ∈ marked ↔ d.IsReached id) := by
  constructor
  · rw [filterMap_unreachable?_check]
    by_cases clean : (d.check r maxDepth).errors = []
    · have valid := check_errors_eq_nil_iff_valid.1 clean
      obtain ⟨missed, part, listed, missed_iff⟩ := valid.exists_unreachable
      have none_wrong : (d.errors r maxDepth).isEmpty = true := List.isEmpty_iff.2 clean
      refine ⟨missed, by rw [none_wrong, if_pos rfl, listed], part, ?_, fun t => ?_⟩
      · exact valid.distinct.sublist (part.map _)
      · rw [missed_iff, and_iff_right clean]
    · have wrong : ¬ (d.errors r maxDepth).isEmpty = true := fun none_wrong =>
        clean (List.isEmpty_iff.1 none_wrong)
      refine ⟨[], by rw [if_neg wrong, List.map_nil], List.nil_sublist _, List.nodup_nil, ?_⟩
      exact fun t => iff_of_false List.not_mem_nil fun only => clean only.1
  · obtain ⟨marked, run⟩ := exists_marks (fun _ => steps_eq_nil) [] d.entries
    refine ⟨marked, fun final => ⟨fun run' => run'.unique run, ?_⟩, fun clean id => ?_⟩
    · rintro rfl
      exact run
    · have valid := check_errors_eq_nil_iff_valid.1 clean
      rw [valid.visited_eq] at run
      rw [run.mem_iff, mem_steps_eq_stepsTo valid.distinct]
      simp only [mem_entries_iff, IsReached]

/-- A flow that jumps into a loop, past the node around it, and two nodes that only lead to each
other. -/
def islandDocument : Document :=
  { version := currentVersion
    bot := { id := "bot", name := "Bot" }
    nodes :=
      [.node { id := "start", type := "trigger.manual", outputs := { success := .node "call" } } [],
        .node { id := "each", type := "control.loop", outputs := {} }
          [.node { id := "call", type := "logging.log", outputs := { error := .node "start" } } []],
        .node { id := "ping", type := "logging.log", outputs := { success := .node "pong" } } [],
        .node { id := "pong", type := "logging.log", outputs := { success := .node "ping" } } []]
    triggers := ["start"] }

-- a node inside a loop is reached, and the loop itself is not
example : (islandDocument.check .builtin 1).warnings
    = [.unreachable "each", .unreachable "ping", .unreachable "pong"] := by
  decide +kernel

end Document

end Workflow
