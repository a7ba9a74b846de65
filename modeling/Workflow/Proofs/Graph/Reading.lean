import Workflow.Graph.Codec
import Workflow.Proofs.Document.Reading
import Workflow.Proofs.Json.Memory

/-!
# Graphs are read back

A graph is written as its two lists and read from them, whatever is wrong with it, and the index
that is left out of the value is built again. It is read exactly if all positions are finite.

## Main results

* `Node.readsFrom`, `Edge.readsFrom`: nodes and edges are read back.
* `Graph.readsFrom`: **a graph is read back.**
-/

namespace Workflow

open Json

variable {read? : NumberReading}

/-! ### Nodes and edges -/

/-- A category is read back from its name. -/
theorem Category.readsFrom (c : Category) :
    ReadsFrom read? Category.decoder (.str c.name) True c :=
  ReadsFrom.oneOf (by cases c <;> rfl)

/-- A handle is read back from its name. -/
theorem Handle.readsFrom (h : Handle) : ReadsFrom read? Handle.decoder (.str h.name) True h :=
  ReadsFrom.oneOf (by cases h <;> rfl)

/-- A place in memory is read back if its coordinates are finite. -/
theorem Position.readsFrom_some (p : Position) :
    ReadsFrom some Position.decoder p.toValue p.Finite p :=
  p.readsFrom

/-- The members of a written node. -/
def Node.members (n : Node) : List (String × Value) :=
  [("id", .str n.id), ("type", .str n.type), ("label", .str n.label), ("config", .obj n.config),
      ("category", .str n.category.name), ("position", n.position.toValue)]
    ++ entryIf "parentId" (n.parent?.map .str)
    ++ entryIf "description" (n.description?.map .str)

/-- A node is read back if its place is finite. -/
theorem Node.readsFrom {n : Node} (keyed : (Value.obj n.config).WellKeyed) :
    ReadsFrom some Node.decoder n.toValue n.position.Finite n := by
  have written : n.toValue = .obj n.members := rfl
  rw [written]
  refine Record.readsFrom_read (fun inner =>
    ((((((((Record.Reads.text (by simp [members])).map Node.mk).seq
      (Record.Reads.text (by simp [members]))).seq
      (Record.Reads.text (by simp [members]))).seq
      (Record.Reads.present (by simp [members]) (ReadsFrom.fields_some keyed inner))).seq
      (Record.Reads.present (by simp [members]) (n.category.readsFrom inner))).seq
      (Record.Reads.present (by simp [members]) (n.position.readsFrom_some inner))).seq
      (Record.Reads.text? (by simp [members]))).seq
      (Record.Reads.text? (by simp [members]))) fun inner => ?_
  simp only [members, allFit_append, allFit_cons, allFit_nil, allFit_entryIf_str, Value.fits_str]
  tauto

/-- An edge is read back. -/
theorem Edge.readsFrom (e : Edge) : ReadsFrom some Edge.decoder e.toValue True e := by
  refine Record.readsFrom_read (fun inner =>
    ((((Record.Reads.text rfl).map Edge.mk).seq (Record.Reads.text rfl)).seq
      (Record.Reads.text rfl)).seq
      (Record.Reads.present rfl (e.handle.readsFrom inner))) fun inner => ?_
  simp [Handle.toValue]

/-! ### Graphs -/

/-- **A graph is read back** if all positions are finite, with the index of its lists. -/
theorem Graph.readsFrom {g : Graph} (keyed : ∀ n ∈ g.nodes, (Value.obj n.config).WellKeyed) :
    ReadsFrom some Graph.decoder g.toValue (∀ n ∈ g.nodes, n.position.Finite)
      (ofLists g.nodes g.edges) := by
  have nodes := ReadsFrom.list_some g.nodes fun n hn => Node.readsFrom (keyed n hn)
  have edges := ReadsFrom.list_some g.edges fun e _ => e.readsFrom
  refine Record.readsFrom_read (fun inner =>
    ((Record.Reads.present rfl (nodes inner)).map Graph.ofLists).seq
      (Record.Reads.present rfl (edges inner))) fun inner => ?_
  simp only [allFit_cons, allFit_nil]
  tauto

end Workflow
