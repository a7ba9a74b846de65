import Workflow.Document.Codec
import Workflow.Proofs.Compile.Lowering

/-!
# How the end of a flow is written

In a document in memory a handle without an edge leads nowhere, and every other one to a node. In
its JSON both are a text, and the text of the end is one that a node may have as its id. A handle
that leads to a node of that id is written like one that leads nowhere, and is read as one that
leads nowhere; all others are told apart.

## Main results

* `Outputs.get?_toValue`, `Outputs.decode_toValue_get`: what is written for a handle, and read
  from it.
* `finish_written_iff`: **the end is written exactly where every edge leads to a node `END`**, and
  so exactly where there is no edge if no node has this id.
* `finish_written_for_edge`: it is not written exactly where there is no edge.
-/

namespace Workflow

open Json

/-! ### Written outputs -/

/-- For a handle the text of its target is written. -/
theorem Outputs.get?_toValue (o : Outputs) (handle : Handle) :
    o.toValue.get? handle.name = some (.str (o.get handle).text) := by
  cases handle <;> rfl

/-- Written outputs are read as the targets that their texts stand for. -/
theorem Outputs.decode_toValue_get (o : Outputs) :
    ∃ o', ofValue Outputs.decoder o.toValue = .ok o'
      ∧ ∀ handle, o'.get handle = Target.ofText (o.get handle).text := by
  refine ⟨⟨Target.ofText o.success.text, Target.ofText o.error.text⟩, rfl, fun handle => ?_⟩
  cases handle <;> rfl

/-- The text of a target is that of the end exactly for the end and for a node of this id. -/
theorem Target.text_eq_finishText_iff {t : Target} :
    t.text = finishText ↔ ∀ id, t = node id → id = finishText := by
  cases t <;> simp [text]

/-- The text of a target stands for a node exactly if the target is that node, and its id is not
the text of the end. -/
theorem Target.ofText_text_eq_node_iff {t : Target} {id : String} :
    ofText t.text = node id ↔ id ≠ finishText ∧ t = node id := by
  by_cases lost : t = node finishText
  · subst lost
    have read : ofText (node finishText).text = finish := by simp [ofText, text]
    rw [read]
    constructor
    · intro same
      cases same
    · rintro ⟨other, same⟩
      cases same
      exact absurd rfl other
  · rw [ofText_text lost, iff_and_self]
    rintro rfl rfl
    exact lost rfl

/-! ### Written documents -/

namespace Graph

variable {g : Graph} {s : Settings} {d : Document}

/-- A compiled document has the block of every node. -/
theorem find?_of_compile (compiled : g.compile s = .ok d) {n : Node} (hn : n ∈ g.nodes) :
    ∃ t, d.find? n.id = some t ∧ t.value = g.block n := by
  have wf := wellFormed_of_compile compiled
  obtain ⟨forest, isForest, -, rfl⟩ := exists_forest_of_compile compiled
  have held : n.id ∈ Tree.forestKeys Node.id forest :=
    (isForest.mem_keys_iff wf).2 (List.mem_map_of_mem hn)
  obtain ⟨u, hu, same⟩ := List.mem_map.1 held
  have value : u.value = n := node_eq_of_id_eq wf.nodeIds_nodup (isForest.mem_nodes hu) hn same
  have distinct : ((Tree.forestPreorder (Tree.forestMap g.block forest)).map
      fun t => t.value.id).Nodup := by
    show (Tree.forestKeys Block.id (Tree.forestMap g.block forest)).Nodup
    rw [Tree.forestKeys_map]
    exact isForest.nodup_keys wf
  refine ⟨u.map g.block, ?_, by rw [Tree.value_map, value]⟩
  rw [Document.find?, Document.walk, Tree.walk_eq_preorder, assemble]
  refine (find?_key_eq_some_iff distinct).2 ⟨?_, ?_⟩
  · rw [Tree.forestPreorder_map]
    exact List.mem_map_of_mem hu
  · rw [Tree.value_map, value]
    rfl

/-- **Where the end of the flow is written.** In the written block of a node, the text of a handle
is that of the end exactly if every edge by this handle leads to a node that has this text as its
id. If no node has, that is exactly if there is no edge. What is read back leads to the targets of
the edges but for nodes of this id. -/
theorem finish_written_iff (compiled : g.compile s = .ok d) {n : Node} (hn : n ∈ g.nodes)
    (handle : Handle) :
    ∃ t, d.find? n.id = some t
      ∧ (t.value.outputs.toValue.get? handle.name = some (.str Target.finishText) ↔
        ∀ e ∈ g.edges, e.source = n.id → e.handle = handle → e.target = Target.finishText)
      ∧ (Target.finishText ∉ g.nodeIds →
        (t.value.outputs.toValue.get? handle.name = some (.str Target.finishText) ↔
          ∀ e ∈ g.edges, e.source = n.id → e.handle ≠ handle))
      ∧ ∃ o, ofValue Outputs.decoder t.value.outputs.toValue = .ok o ∧ ∀ target,
        o.get handle = .node target ↔ target ≠ Target.finishText
          ∧ ∃ e ∈ g.edges, e.source = n.id ∧ e.handle = handle ∧ e.target = target := by
  have wf := wellFormed_of_compile compiled
  obtain ⟨t, found, value⟩ := find?_of_compile compiled hn
  have leads : ∀ target, t.value.outputs.get handle = .node target ↔
      ∃ e ∈ g.edges, e.source = n.id ∧ e.handle = handle ∧ e.target = target := by
    intro target
    rw [value, get_outputs_block, targetOf_eq_node_iff wf.handlesDistinct, links, List.mem_map]
    simp only [Prod.mk.injEq]
  have written : t.value.outputs.toValue.get? handle.name = some (.str Target.finishText) ↔
      ∀ e ∈ g.edges, e.source = n.id → e.handle = handle → e.target = Target.finishText := by
    rw [Outputs.get?_toValue, Option.some.injEq, Value.str.injEq, Target.text_eq_finishText_iff]
    simp only [leads]
    constructor
    · exact fun all e he starts by_handle => all e.target ⟨e, he, starts, by_handle, rfl⟩
    · rintro all id ⟨e, he, starts, by_handle, rfl⟩
      exact all e he starts by_handle
  refine ⟨t, found, written, fun unnamed => ?_, ?_⟩
  · rw [written]
    refine forall₃_congr fun e he _ => ?_
    -- where an edge leads is a node, which does not have the text of the end as its id
    have other : e.target ≠ Target.finishText :=
      fun same => unnamed (same ▸ (wf.edgesAttached e he).2)
    simp only [other, imp_false, ne_eq]
  · obtain ⟨o, read, targets⟩ := t.value.outputs.decode_toValue_get
    refine ⟨o, read, fun target => ?_⟩
    rw [targets, Target.ofText_text_eq_node_iff, leads]

/-- A trigger that leads to a node whose id is the text of the end. -/
def endGraph : Graph :=
  .ofLists
    [{ id := "start", type := "trigger.manual", label := "Start", category := .trigger },
      { id := "END", type := "control.stop", label := "Stop", category := .control }]
    [.canonical "start" "END" .success]

/-- The graph with a node `END` is compiled, and what `finish_written_iff` says holds of it. -/
theorem finish_written_iff_endGraph :
    ∃ d, endGraph.compile (.standard { id := "bot", name := "Bot" }) = .ok d
      ∧ ∃ n ∈ endGraph.nodes, ∃ t, d.find? n.id = some t
        ∧ (t.value.outputs.toValue.get? Handle.success.name = some (.str Target.finishText) ↔
          ∀ e ∈ endGraph.edges, e.source = n.id → e.handle = .success →
            e.target = Target.finishText) := by
  have compiles : (endGraph.compile
      (.standard { id := "bot", name := "Bot" })).toOption.isSome = true := by
    decide +kernel
  obtain ⟨d, compiled⟩ := exists_eq_ok_of_toOption compiles
  obtain ⟨t, found, written, -⟩ := finish_written_iff compiled List.mem_cons_self .success
  exact ⟨d, compiled, _, List.mem_cons_self, t, found, written⟩

/-- **The end is written for an edge**: that the text of the end stands exactly where there is no
edge does not hold of every graph that is compiled. -/
theorem finish_written_for_edge :
    ¬ ∀ (g : Graph) (s : Settings) (d : Document), g.compile s = .ok d → ∀ n ∈ g.nodes,
      ∀ handle t, d.find? n.id = some t →
        (t.value.outputs.toValue.get? handle.name = some (.str Target.finishText) ↔
          ∀ e ∈ g.edges, e.source = n.id → e.handle ≠ handle) := by
  intro exact_everywhere
  have compiles : (endGraph.compile
      (.standard { id := "bot", name := "Bot" })).toOption.isSome = true := by
    decide +kernel
  obtain ⟨d, compiled⟩ := exists_eq_ok_of_toOption compiles
  obtain ⟨t, found, value⟩ := find?_of_compile compiled List.mem_cons_self
  have claimed := exact_everywhere _ _ _ compiled _ List.mem_cons_self .success t found
  rw [value] at claimed
  exact claimed.1 rfl _ List.mem_cons_self rfl rfl

end Graph

end Workflow
