import Workflow.Proofs.Document.Reading
import Workflow.Proofs.Json.Memory

/-!
# What a written document keeps

A document that is written as a value and read from it again is the same document, unless one of
three things stands in it that have no written form of their own: a place that is not finite, for
which `null` is written; an output that leads to a node `END`, which is written like the end of the
flow; and a variable that begins with `null`, which is written like one that begins with nothing.
All that is left out because it is absent or empty comes back by itself.

## Main results

* `Document.reread_some_eq_self_iff`: what a document is read as is the document.
* `Document.decode_toValue_iff`: **a document is read back** from what it is written as, exactly if
  nothing in it is lost.
-/

namespace Workflow

open Json

/-! ### What parts are read as -/

/-- A target is read as itself exactly if it is no node `END`. -/
theorem Target.ofText_text_eq_self_iff {t : Target} :
    ofText t.text = t ↔ t ≠ .node finishText := by
  refine ⟨?_, ofText_text⟩
  rintro same rfl
  rw [text, ofText, if_pos rfl] at same
  cases same

/-- Outputs are read as themselves exactly if none leads to a node `END`. -/
theorem Outputs.reread_eq_self_iff {o : Outputs} :
    o.reread = o ↔ ∀ handle, o.get handle ≠ .node Target.finishText := by
  obtain ⟨success, error⟩ := o
  rw [reread, Outputs.mk.injEq, Target.ofText_text_eq_self_iff, Target.ofText_text_eq_self_iff]
  constructor
  · rintro ⟨first, second⟩ handle
    cases handle
    · exact first
    · exact second
  · exact fun each => ⟨each .success, each .error⟩

/-- In memory nothing of a block changes but its outputs. -/
theorem Block.reread_some_eq_self_iff {b : Block} :
    b.reread some = b ↔ ∀ handle, b.outputs.get handle ≠ .node Target.finishText := by
  rw [← Outputs.reread_eq_self_iff]
  constructor
  · exact fun same => congrArg outputs same
  · intro same
    rw [reread, Value.rereadFields_some, same]
    rfl

/-- A variable is read as itself exactly if it does not begin with `null`. -/
theorem Variable.reread_some_eq_self_iff {v : Variable} :
    v.reread some = v ↔ v.value? ≠ some .null := by
  obtain ⟨type, value?, vault?, description?⟩ := v
  have same : value?.bind (rereadValue? some) = value? ↔ value? ≠ some .null := by
    cases value? with
    | none => simp
    | some w => cases w <;> simp [rereadValue?, Value.reread_some]
  rw [reread, Variable.mk.injEq]
  simpa using same

/-- Variables are read as themselves exactly if none begins with `null`. -/
theorem Variables.reread_some_eq_self_iff {vs : Variables} :
    vs.reread some = vs ↔ ∀ e ∈ vs.entries, e.2.value? ≠ some .null := by
  obtain ⟨entries, sorted⟩ := vs
  have each : (entries.map fun e => (e.1, e.2.reread some)) = entries ↔
      ∀ e ∈ entries, (e.1, e.2.reread some) = id e := by
    rw [← List.map_inj_left, List.map_id]
  rw [reread, Variables.mk.injEq, each]
  simp only [id, Prod.ext_iff, true_and, Variable.reread_some_eq_self_iff]

/-! ### Documents -/

namespace Document

variable {d : Document}

/-- Everything in a document has a written form of its own. -/
structure Lossless (d : Document) : Prop where
  /-- All places are finite. -/
  places : ∀ t ∈ Tree.forestPreorder d.nodes, t.value.position.Finite
  /-- No output leads to a node `END`. -/
  targets : ∀ t ∈ Tree.forestPreorder d.nodes, ∀ handle,
    t.value.outputs.get handle ≠ .node Target.finishText
  /-- No variable begins with `null`. -/
  values : ∀ e ∈ d.vars.entries, e.2.value? ≠ some .null

/-- **What a document is read as is the document** exactly if no output leads to a node `END` and
no variable begins with `null`. -/
theorem reread_some_eq_self_iff :
    d.reread some = d ↔
      (∀ t ∈ Tree.forestPreorder d.nodes, ∀ handle,
          t.value.outputs.get handle ≠ .node Target.finishText)
        ∧ ∀ e ∈ d.vars.entries, e.2.value? ≠ some .null := by
  have nodes : Tree.forestMap (Block.reread some) d.nodes = d.nodes ↔
      ∀ t ∈ Tree.forestPreorder d.nodes, ∀ handle,
        t.value.outputs.get handle ≠ .node Target.finishText := by
    rw [Tree.forestMap_eq_self_iff]
    exact forall₂_congr fun _ _ => Block.reread_some_eq_self_iff
  rw [← nodes, ← Variables.reread_some_eq_self_iff]
  constructor
  · exact fun same => ⟨congrArg Document.nodes same, congrArg Document.vars same⟩
  · rintro ⟨sameNodes, sameVars⟩
    rw [reread, sameNodes, sameVars]

/-- **A document is read back** from the value it is written as, whatever is left out of the value
and however deep its nodes nest, exactly if nothing in it is lost. -/
theorem decode_toValue_iff (keyed : d.WellKeyed) :
    ofValue Document.decoder d.toValue = .ok d ↔ d.Lossless := by
  rw [(settles_ofValue (settles_decoder keyed _)).eq_ok_iff, reread_some_eq_self_iff]
  exact ⟨fun ⟨places, targets, values⟩ => ⟨places, targets, values⟩,
    fun ⟨places, targets, values⟩ => ⟨places, targets, values⟩⟩

/-- A trigger and a loop with a node in it, with something in every field that may be left out
somewhere, and nothing in it elsewhere. -/
def ordersDocument : Document :=
  { version := currentVersion
    bot := { id := "orders", name := "Orders", author? := some "sales", tags := ["daily"] }
    nodes :=
      [.node
          { id := "start", type := "trigger.manual", label := "Start", position := ⟨-0.0, 2.5⟩,
            outputs := ⟨.node "each", .finish⟩ }
          [],
        .node
          { id := "each", type := "control.loop", description? := some "every order",
            outputs := ⟨.finish, .node "start"⟩ }
          [.node
            { id := "note", type := "logging.log", outputs := {},
              config := [("message", .str "done"), ("level", .null)] }
            []]]
    triggers := ["start"]
    startNode? := some "start"
    vars :=
      ⟨[("key", { type := .credential, vault? := some "erp" }),
          ("limits", { type := .json, value? := some (.obj [("to", .ofInt 9), ("from", .null)]) })],
        by decide⟩ }

/-- Nothing in the document is lost, and it is read back. -/
theorem decode_toValue_iff_ordersDocument :
    ordersDocument.WellKeyed ∧ ordersDocument.Lossless
      ∧ ofValue Document.decoder ordersDocument.toValue = .ok ordersDocument := by
  have keyed : ordersDocument.WellKeyed := by
    constructor <;>
      simp [ordersDocument, Tree.forestPreorder, Tree.preorder, Tree.value, Value.WellKeyed,
        Value.WellKeyedEntries, Value.ofInt]
  have lossless : ordersDocument.Lossless := by
    refine ⟨?_, ?_, ?_⟩
    · decide +kernel
    · simp only [ordersDocument, Tree.forestPreorder, Tree.preorder, List.forall_mem_append,
        List.forall_mem_cons, Tree.value, ← Outputs.reread_eq_self_iff]
      decide +kernel
    · simp [ordersDocument]
  exact ⟨keyed, lossless, (decode_toValue_iff keyed).2 lossless⟩

end Document

end Workflow
