import Workflow.Canvas.Codec
import Workflow.Proofs.Graph.Lookup
import Workflow.Proofs.Graph.Reading

/-!
# Drawings are read back

A drawing is written under the main name of each of its fields, and read under all of them. What
is absent is left out: how a node is drawn, what it is drawn in, its category and its note, and of
an edge its id and its handle. So nothing of a drawing is lost, nor of a graph, if the places of
the nodes are finite; and only then, since there is no number to write for any other place.

## Main results

* `CanvasNode.readsFrom`, `CanvasEdge.readsFrom`: nodes and edges are read back as they are drawn.
* `Canvas.readsFrom`: **a drawing is read back.**
* `kept_iff_finite`: **graphs and drawings are kept** exactly if all places are finite.
-/

namespace Workflow

open Json

/-! ### Nodes -/

/-- The members of what is written of what a node is about. -/
def CanvasData.members (d : CanvasData) : List (String × Value) :=
  [("nodeType", .str d.type), ("label", .str d.label), ("config", .obj d.config)]
    ++ entryIf "category" (d.category?.map Category.toValue)
    ++ entryIf "description" (d.description?.map .str)

/-- What a node is about is read back. -/
theorem CanvasData.readsFrom {d : CanvasData} (keyed : (Value.obj d.config).WellKeyed) :
    ReadsFrom some CanvasData.decoder d.toValue True d := by
  have written : d.toValue = .obj d.members := rfl
  rw [written]
  refine Record.readsFrom_read (fun inner =>
    (((((Record.Reads.present (by simp [members]) (ReadsFrom.text d.type inner)).map
      CanvasData.mk).seq
      (Record.Reads.present (by simp [members]) (ReadsFrom.text d.label inner))).seq
      (Record.Reads.present (by simp [members]) (ReadsFrom.fields_some keyed inner))).seq
      (Record.Reads.named? (by simp [members]; rfl) Category.readsFrom)).seq
      (Record.Reads.text? (by simp [members]))) fun inner => ?_
  have category : AllFit some inner (entryIf "category" (d.category?.map Category.toValue)) := by
    cases d.category? <;> simp [Category.toValue]
  simp only [members, allFit_append, allFit_cons, allFit_nil, allFit_entryIf_str, Value.fits_str,
    category]
  tauto

/-- The members of a written node. -/
def CanvasNode.members (n : CanvasNode) : List (String × Value) :=
  [("id", .str n.id)]
    ++ entryIf "type" (n.renderer?.map .str)
    ++ [("position", n.position.toValue)]
    ++ entryIf "parentNode" (n.parent?.map .str)
    ++ [("data", n.data.toValue)]

/-- A node is read back as it is drawn if its place is finite. -/
theorem CanvasNode.readsFrom {n : CanvasNode} (keyed : (Value.obj n.data.config).WellKeyed) :
    ReadsFrom some CanvasNode.decoder n.toValue n.position.Finite n := by
  have written : n.toValue = .obj n.members := rfl
  rw [written]
  refine Record.readsFrom_read (fun inner =>
    (((((Record.Reads.text (by simp [members])).map CanvasNode.mk).seq
      (Record.Reads.text? (by simp [members]))).seq
      (Record.Reads.present (by simp [members]) (n.position.readsFrom_some inner))).seq
      (Record.Reads.text? (by simp [members]))).seq
      (Record.Reads.present (by simp [members]) (CanvasData.readsFrom keyed inner)))
    fun inner => ?_
  simp only [members, allFit_append, allFit_cons, allFit_nil, allFit_entryIf_str, Value.fits_str]
  tauto

/-! ### Edges -/

/-- The members of a written edge. -/
def CanvasEdge.members (e : CanvasEdge) : List (String × Value) :=
  entryIf "id" (e.id?.map .str)
    ++ [("source", .str e.source), ("target", .str e.target)]
    ++ entryIf "sourceHandle" (e.handle?.map .str)

/-- An edge is read back as it is drawn. -/
theorem CanvasEdge.readsFrom (e : CanvasEdge) :
    ReadsFrom some CanvasEdge.decoder e.toValue True e := by
  have written : e.toValue = .obj e.members := rfl
  rw [written]
  refine Record.readsFrom_read (fun inner =>
    ((((Record.Reads.text? (by simp [members])).map CanvasEdge.mk).seq
      (Record.Reads.text (by simp [members]))).seq
      (Record.Reads.text (by simp [members]))).seq
      (Record.Reads.text? (by simp [members]))) fun inner => ?_
  simp [members]

/-! ### Drawings -/

/-- **A drawing is read back** if all places are finite. -/
theorem Canvas.readsFrom {c : Canvas} (keyed : ∀ n ∈ c.nodes, (Value.obj n.data.config).WellKeyed) :
    ReadsFrom some Canvas.decoder c.toValue (∀ n ∈ c.nodes, n.position.Finite) c := by
  have nodes := ReadsFrom.list_some c.nodes fun n hn => CanvasNode.readsFrom (keyed n hn)
  have edges := ReadsFrom.list_some c.edges fun e _ => e.readsFrom
  refine Record.readsFrom_read (fun inner =>
    ((Record.Reads.present rfl (nodes inner)).map Canvas.mk).seq
      (Record.Reads.present rfl (edges inner))) fun inner => ?_
  simp only [allFit_cons, allFit_nil]
  tauto

/-- **Graphs and drawings are kept** by writing and reading exactly if all places are finite. Of a
graph, whatever is wrong with it, the nodes and edges come back in order, and what is looked up in
the graph that is read is looked up in the lists that were written. -/
theorem kept_iff_finite {g : Graph} {c : Canvas}
    (keyed : ∀ n ∈ g.nodes, (Value.obj n.config).WellKeyed)
    (drawnKeyed : ∀ n ∈ c.nodes, (Value.obj n.data.config).WellKeyed) :
    ((∃ g', ofValue Graph.decoder g.toValue = .ok g' ∧ g'.nodes = g.nodes ∧ g'.edges = g.edges
          ∧ g' = Graph.ofLists g.nodes g.edges ∧ g'.Searches g.nodes g.edges) ↔
        ∀ n ∈ g.nodes, n.position.Finite)
      ∧ (ofValue Canvas.decoder c.toValue = .ok c ↔ ∀ n ∈ c.nodes, n.position.Finite) := by
  have graph := settles_ofValue (Graph.readsFrom keyed _)
  have drawing := settles_ofValue (Canvas.readsFrom drawnKeyed _)
  refine ⟨⟨?_, fun finite => ?_⟩, drawing.eq_ok_iff.trans (and_iff_left rfl)⟩
  · rintro ⟨g', read, -⟩
    exact (graph.eq_ok_iff.1 read).1
  · exact ⟨_, graph.1 finite, rfl, rfl, rfl, Graph.searches _⟩

/-- A graph of which little is right: two nodes have one id, one of them stands in a node that
stands in it, and two edges of one id leave by one handle, one of them to no node at all. -/
def damagedGraph : Graph :=
  .ofLists
    [{ id := "loop", type := "control.loop", label := "Loop", category := .control,
        parent? := some "inner", config := [("times", .ofInt 3), ("items", .arr [.null])] },
      { id := "loop", type := "logging.log", label := "", category := .logging,
        position := ⟨0.5, -2⟩, description? := some "a copy" },
      { id := "inner", type := "control.loop", label := "Inner", category := .control,
        parent? := some "loop" }]
    [⟨"edge", "loop", "gone", .error⟩, ⟨"edge", "loop", "inner", .error⟩]

/-- A drawing in which every field that may be absent is there once and absent once. -/
def sparseCanvas : Canvas :=
  { nodes :=
      [{ id := "loop", renderer? := some "group", position := ⟨1.5, 40⟩,
          data := { type := "control.loop", label := "Loop", category? := some .control } },
        { id := "inner", parent? := some "loop",
          data := { type := "logging.log", config := [("level", .str "info")],
                    description? := some "a note" } }]
    edges :=
      [{ source := "loop", target := "inner" },
        { id? := some "back", source := "inner", target := "loop", handle? := some "error" }] }

/-- The damaged graph and the sparse drawing are kept as they are. -/
theorem kept_iff_finite_damagedGraph :
    (∀ n ∈ damagedGraph.nodes, (Value.obj n.config).WellKeyed)
      ∧ (∀ n ∈ sparseCanvas.nodes, (Value.obj n.data.config).WellKeyed)
      ∧ (∃ g', ofValue Graph.decoder damagedGraph.toValue = .ok g'
        ∧ g'.nodes = damagedGraph.nodes ∧ g'.edges = damagedGraph.edges
        ∧ g' = Graph.ofLists damagedGraph.nodes damagedGraph.edges
        ∧ g'.Searches damagedGraph.nodes damagedGraph.edges)
      ∧ ofValue Canvas.decoder sparseCanvas.toValue = .ok sparseCanvas := by
  have keyed : ∀ n ∈ damagedGraph.nodes, (Value.obj n.config).WellKeyed := by
    simp [damagedGraph, Graph.ofLists, Value.WellKeyed, Value.WellKeyedEntries,
      Value.WellKeyedItems, Value.ofInt]
  have drawnKeyed : ∀ n ∈ sparseCanvas.nodes, (Value.obj n.data.config).WellKeyed := by
    simp [sparseCanvas, Value.WellKeyed, Value.WellKeyedEntries]
  obtain ⟨graph, drawing⟩ := kept_iff_finite keyed drawnKeyed
  exact ⟨keyed, drawnKeyed, graph.2 (by decide +kernel), drawing.2 (by decide +kernel)⟩

end Workflow
