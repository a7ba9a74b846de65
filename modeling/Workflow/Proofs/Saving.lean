import Workflow.Proofs.Compile.Chain
import Workflow.Proofs.Document.Reread
import Workflow.Proofs.Json.Text
import Workflow.Proofs.RoundTrip

/-!
# Saving and opening

A compiled graph is saved as a text and opened from it. The text nests two containers for every
container a node stands in, a reader goes into 127 of them, and the compiler lets nodes stand in
64 containers. That does not fit: what is saved is opened exactly if no node stands so deep that
its configuration nests below what a reader goes into.

## Main results

* `Document.settles_parse`: the text of a document is read back if the document fits.
* `IsForestOf.fits_iff`: what is written of a tree of nodes fits, said of the depths of its nodes.
* `opens_iff`: **when what was saved is opened.**
* `not_opens_chain`, `compiled_not_opened`: chains of containers that are compiled and saved, but
  not opened.
-/

namespace Workflow

open Json

/-! ### Texts of documents -/

namespace Document

variable {d : Document} {r : Registry} {maxDepth : Nat}

/-- **The text of a document is read back** if what is written fits in what a reader goes into and
all positions are finite, and not otherwise. -/
theorem settles_parse (keyed : d.WellKeyed) :
    Settles (Document.parse d.print)
      (d.toValue.Fits Number.reread? maxNesting
        ∧ ∀ t ∈ Tree.forestPreorder d.nodes, t.value.position.Finite)
      (d.reread Number.reread?) := by
  rw [parse, decode, print, scan_toPretty, Page.read]
  exact (Settles.bind (settles_decoder keyed maxNesting) (Settles.ok _)).congr
    (and_iff_left trivial)

/-- A valid document is opened from its text if the text is read, and otherwise the text is
reported as unreadable. -/
theorem settles_loadText (valid : d.Valid r maxDepth) (keyed : d.WellKeyed) :
    ((∃ g, loadText d.print r maxDepth = .ok g) ↔
        d.toValue.Fits Number.reread? maxNesting
          ∧ ∀ t ∈ Tree.forestPreorder d.nodes, t.value.position.Finite)
      ∧ ((∃ g, loadText d.print r maxDepth = .ok g)
        ∨ ∃ fault, loadText d.print r maxDepth = .error [.unreadable fault]) := by
  obtain ⟨read, refused⟩ := settles_parse keyed
  by_cases fits : d.toValue.Fits Number.reread? maxNesting
      ∧ ∀ t ∈ Tree.forestPreorder d.nodes, t.value.position.Finite
  · obtain ⟨g, loaded, -⟩ := valid.reread.load_ok
    have opened : loadText d.print r maxDepth = .ok g := by
      rw [loadText, read fits]
      exact loaded
    exact ⟨iff_of_true ⟨g, opened⟩ fits, .inl ⟨g, opened⟩⟩
  · obtain ⟨fault, failed⟩ := refused fits
    have rejected : loadText d.print r maxDepth = .error [.unreadable fault] := by
      rw [loadText, failed]
    have unopened : ¬ ∃ g, loadText d.print r maxDepth = .ok g := by
      rintro ⟨g, opened⟩
      rw [rejected] at opened
      cases opened
    exact ⟨iff_of_false unopened fits, .inr ⟨fault, rejected⟩⟩

end Document

/-! ### How deep a text nests -/

/-- No number of a node is refused when it is read. -/
def Node.Legible (n : Node) : Prop :=
  n.position.toValue.Legible Number.reread? ∧ (Value.obj n.config).Legible Number.reread?

/-- A written double does not nest. -/
theorem height_ofFloat (x : Float) : (Value.ofFloat x).height = 0 := by
  rw [Value.ofFloat]
  split <;> rfl

/-- A written place is one container. -/
theorem Position.height_toValue (p : Position) : p.toValue.height = 1 := by
  simp [toValue, Value.height, Value.heightFields, height_ofFloat]

/-- A list of texts that is left out if it is empty is a container. -/
theorem allFit_entryIf_texts {key : String} {texts : List String} {room : Nat} :
    AllFit Number.reread? (room + 1) (entryIf key (Record.array? (texts.map .str))) := by
  cases texts <;> simp [Record.array?]

/-- What a bot is called fits in two containers. -/
theorem Metadata.fits_toValue (m : Metadata) {room : Nat} :
    m.toValue.Fits Number.reread? (room + 2) := by
  rw [toValue_eq, fits_obj_iff_allFit]
  simp only [members, allFit_append, allFit_cons, allFit_nil, allFit_entryIf_texts,
    allFit_entryIf_str, Value.fits_str, and_self]

/-- **A document fits** if each of its nodes does. -/
theorem Document.fits_toValue_iff {d : Document} (none_there : d.vars.entries = []) {room : Nat} :
    d.toValue.Fits Number.reread? (room + 3) ↔
      ∀ t ∈ d.nodes, t.toValue.Fits Number.reread? (room + 1) := by
  have nodes : (Value.arr (d.nodes.map Tree.toValue)).Fits Number.reread? (room + 2) ↔
      ∀ t ∈ d.nodes, t.toValue.Fits Number.reread? (room + 1) := by
    rw [Value.fits_arr_succ, List.forall_mem_map]
  have vars : entryIf "variables" d.vars? = [] := by
    rw [vars?, none_there]
    rfl
  rw [toValue_eq, fits_obj_iff_allFit]
  simp only [members, allFit_append, allFit_cons, allFit_nil, allFit_entryIf_texts,
    allFit_entryIf_str, Value.fits_str, Metadata.fits_toValue, nodes, vars, true_and,
    and_true]

/-- A written block without its children fits if its configuration does and its place is
legible. -/
theorem Tree.fits_toValue_iff {b : Block} {cs : List (Tree Block)} {room : Nat} :
    (toValue (.node b cs)).Fits Number.reread? (room + 2) ↔
      (Value.obj b.config).Fits Number.reread? (room + 1)
        ∧ b.position.toValue.Legible Number.reread?
        ∧ ∀ c ∈ cs, c.toValue.Fits Number.reread? room := by
  have place : b.position.toValue.Fits Number.reread? (room + 1) ↔
      b.position.toValue.Legible Number.reread? := by
    rw [Value.Fits, Position.height_toValue]
    exact and_iff_right (Nat.le_add_left _ _)
  have outputs : b.outputs.toValue.Fits Number.reread? (room + 1) := by
    simp [Outputs.toValue]
  have children : (∀ v, Record.array? (cs.map toValue) = some v →
      v.Fits Number.reread? (room + 1)) ↔ ∀ c ∈ cs, c.toValue.Fits Number.reread? room := by
    cases cs <;> simp [Record.array?]
  rw [toValue_eq, fits_obj_iff_allFit]
  simp only [members, allFit_append, allFit_cons, allFit_nil, allFit_entryIf_str, Value.fits_str,
    place, outputs]
  rw [allFit_entryIf, children]
  tauto

/-- A written block is a container with its place in it. -/
theorem Tree.one_lt_height_toValue (t : Tree Block) : 1 < t.toValue.height := by
  obtain ⟨b, cs⟩ := t
  have entry : ("position", b.position.toValue) ∈ members b cs := by simp [members]
  have outside := Value.height_lt_of_mem entry
  rwa [Position.height_toValue, ← toValue_eq] at outside

namespace Graph

variable {g : Graph} {d : Document} {forest : List (Tree Node)}

/-- A node stands no deeper, with what its configuration nests, than a reader goes: two containers
for each that it stands in, and three for the document, its list of nodes and the node itself. -/
def Fits (g : Graph) (n : Node) : Prop :=
  2 * g.depth n + (Value.obj n.config).height + 3 ≤ maxNesting

/-- What holds of the root of every tree in the forest holds of every node. -/
theorem IsForestOf.forall_values_iff (isForest : g.IsForestOf forest) (wf : g.WellFormed)
    {p : Node → Prop} : (∀ t ∈ forest, ∀ u ∈ t.preorder, p u.value) ↔ ∀ n ∈ g.nodes, p n := by
  have same : ∀ n, n ∈ g.nodes ↔ n ∈ forestValues forest :=
    fun n => (isForest.values_perm wf).symm.mem_iff
  simp only [same, forestValues, List.forall_mem_map, Tree.forestPreorder_eq_flatMap,
    List.forall_mem_flatMap]

/-- A configuration fits in what room is left to its node exactly if the node fits. -/
theorem fits_config_iff {n : Node} {left : Nat} (room : g.depth n + (left + 1) = 62) :
    (Value.obj n.config).Fits Number.reread? (2 * left + 2) ↔
      g.Fits n ∧ (Value.obj n.config).Legible Number.reread? := by
  refine and_congr_left' ?_
  rw [Fits, maxNesting]
  omega

/-- **What is written of a tree fits** if every node in it does. The induction is on how many more
containers a node may stand in. -/
theorem IsForestOf.fits_iff (isForest : g.IsForestOf forest) (wf : g.WellFormed) {left : Nat}
    {t : Tree Node} (ht : t ∈ Tree.forestPreorder forest) (room : g.depth t.value + left = 62) :
    (t.map g.block).toValue.Fits Number.reread? (2 * left + 1) ↔
      ∀ u ∈ t.preorder, g.Fits u.value ∧ u.value.Legible := by
  induction left generalizing t with
  | zero =>
    -- here the node itself, whose place and configuration are containers, is too deep
    refine iff_of_false (fun fits => ?_) fun all => ?_
    · exact absurd fits.1 (Nat.not_le_of_lt (Tree.one_lt_height_toValue _))
    · have fits : 2 * g.depth t.value + (Value.obj t.value.config).height + 3 ≤ maxNesting :=
        (all t t.mem_preorder_self).1
      rw [Value.height, maxNesting] at fits
      omega
  | succ left ih =>
    obtain ⟨n, cs⟩ := t
    have root : (Tree.node n cs).value = n := rfl
    have children : ∀ c ∈ cs, (c.map g.block).toValue.Fits Number.reread? (2 * left + 1) ↔
        ∀ u ∈ c.preorder, g.Fits u.value ∧ u.value.Legible := by
      intro c hc
      refine ih (Tree.mem_forestPreorder_of_mem_children ht hc) ?_
      rw [isForest.depth_child wf ht hc]
      omega
    have config : (Value.obj (g.block n).config).Fits Number.reread? (2 * left + 1 + 1) ↔
        g.Fits n ∧ (Value.obj n.config).Legible Number.reread? := fits_config_iff room
    have levels : 2 * (left + 1) + 1 = 2 * left + 1 + 2 := by omega
    have written : (Tree.node n cs).map g.block
        = .node (g.block n) (cs.map (Tree.map g.block)) := by
      rw [Tree.map, Tree.forestMap_eq_map]
    rw [levels, written, Tree.fits_toValue_iff, List.forall_mem_map, forall₂_congr children,
      Tree.preorder, List.forall_mem_cons, Tree.forestPreorder_eq_flatMap,
      List.forall_mem_flatMap, config, root, Node.Legible]
    have place : (g.block n).position = n.position := rfl
    rw [place]
    tauto

/-- **What is written of a graph fits** if every node in it does. -/
theorem IsForestOf.fits_document_iff (isForest : g.IsForestOf forest) (wf : g.WellFormed)
    (bot : Metadata) :
    (g.assemble (.standard bot) (Tree.forestMap g.block forest)).toValue.Fits Number.reread?
        maxNesting ↔
      ∀ n ∈ g.nodes, g.Fits n ∧ n.Legible := by
  have trees : ∀ t ∈ forest, (t.map g.block).toValue.Fits Number.reread? 125 ↔
      ∀ u ∈ t.preorder, g.Fits u.value ∧ u.value.Legible := by
    intro t ht
    have left : g.depth t.value + 62 = 62 := by rw [isForest.depth_root wf ht]
    exact isForest.fits_iff wf (Tree.mem_forestPreorder_of_mem ht) left
  have whole : (g.assemble (.standard bot) (Tree.forestMap g.block forest)).toValue.Fits
        Number.reread? maxNesting ↔
      ∀ t ∈ Tree.forestMap g.block forest, t.toValue.Fits Number.reread? 125 :=
    Document.fits_toValue_iff rfl
  rw [whole, Tree.forestMap_eq_map, List.forall_mem_map, forall₂_congr trees]
  exact isForest.forall_values_iff wf (p := fun n => g.Fits n ∧ n.Legible)

/-- The positions of a compiled document are those of the nodes. -/
theorem IsForestOf.finite_iff (isForest : g.IsForestOf forest) (wf : g.WellFormed) :
    (∀ t ∈ Tree.forestPreorder (Tree.forestMap g.block forest), t.value.position.Finite) ↔
      ∀ n ∈ g.nodes, n.position.Finite := by
  rw [Tree.forestPreorder_map, List.forall_mem_map, ← isForest.forall_values_iff wf,
    Tree.forestPreorder_eq_flatMap, List.forall_mem_flatMap]
  simp only [Tree.value_map]
  rfl

/-- A compiled document is read back if every node fits, is legible and has a finite place. -/
theorem fits_of_compile_iff {bot : Metadata} (compiled : g.compile (.standard bot) = .ok d) :
    (d.toValue.Fits Number.reread? maxNesting
        ∧ ∀ t ∈ Tree.forestPreorder d.nodes, t.value.position.Finite) ↔
      ∀ n ∈ g.nodes, g.Fits n ∧ n.Legible ∧ n.position.Finite := by
  have wf := wellFormed_of_compile compiled
  obtain ⟨forest, isForest, -, rfl⟩ := exists_forest_of_compile compiled
  refine (and_congr (isForest.fits_document_iff wf bot) (isForest.finite_iff wf)).trans ?_
  rw [← forall₂_and]
  simp only [and_assoc]

/-- A compiled document is well keyed if the configurations of the nodes are. -/
theorem wellKeyed_of_compile {bot : Metadata} (compiled : g.compile (.standard bot) = .ok d)
    (keyed : ∀ n ∈ g.nodes, (Value.obj n.config).WellKeyed) : d.WellKeyed := by
  obtain ⟨forest, isForest, -, rfl⟩ := exists_forest_of_compile compiled
  refine ⟨?_, by rintro e ⟨⟩⟩
  rw [assemble, Tree.forestPreorder_map, List.forall_mem_map]
  intro t ht
  rw [Tree.value_map]
  exact keyed _ (isForest.mem_nodes ht)

/-- **When what was saved is opened.** What is compiled with the built-in templates, written as a
text and read again is loaded exactly if every node fits, no number in it is refused and its place
is finite; and if it is not loaded, its text cannot be read. -/
theorem opens_iff {bot : Metadata} (compiled : g.compile (.standard bot) = .ok d)
    (keyed : ∀ n ∈ g.nodes, (Value.obj n.config).WellKeyed) :
    ((∃ g', Document.loadText d.print .builtin defaultMaxDepth = .ok g') ↔
        ∀ n ∈ g.nodes, g.Fits n ∧ n.Legible ∧ n.position.Finite)
      ∧ ((∃ g', Document.loadText d.print .builtin defaultMaxDepth = .ok g')
        ∨ ∃ fault, Document.loadText d.print .builtin defaultMaxDepth
          = .error [.unreadable fault]) := by
  have valid : d.Valid .builtin defaultMaxDepth := valid_of_compile compiled
  obtain ⟨opened, outcome⟩ := Document.settles_loadText valid (wellKeyed_of_compile compiled keyed)
  exact ⟨opened.trans (fits_of_compile_iff compiled), outcome⟩

/-- A value of so many arrays, one in the other. -/
def arrays : Nat → Value
  | 0 => .null
  | n + 1 => .arr [arrays n]

/-- So many arrays are as high as they are many. -/
theorem height_arrays (n : Nat) : (arrays n).height = n := by
  induction n with
  | zero => rfl
  | succ n ih => simp [arrays, Value.height, Value.heightItems, ih]

/-- Arrays are well keyed. -/
theorem wellKeyed_arrays (n : Nat) : (arrays n).WellKeyed := by
  induction n with
  | zero => trivial
  | succ n ih => exact ⟨ih, trivial⟩

/-- A trigger with notes that are 124 arrays, one in the other. -/
def notesNode : Node :=
  { id := "start", type := "trigger.manual", label := "Start", category := .trigger,
    config := [("notes", arrays 124)] }

/-- The trigger with the notes is compiled, and by `opens_iff` what is saved of it is not opened,
although it stands in nothing. -/
theorem opens_iff_notesNode :
    ∃ d, (ofLists [notesNode] []).compile (.standard { id := "bot", name := "Bot" }) = .ok d
      ∧ (∀ n ∈ (ofLists [notesNode] []).nodes, (Value.obj n.config).WellKeyed)
      ∧ ∃ fault, Document.loadText d.print .builtin defaultMaxDepth
        = .error [.unreadable fault] := by
  have compiles : ((ofLists [notesNode] []).compile
      (.standard { id := "bot", name := "Bot" })).toOption.isSome = true := by
    decide +kernel
  have keyed : ∀ n ∈ (ofLists [notesNode] []).nodes, (Value.obj n.config).WellKeyed :=
    List.forall_mem_singleton.2 ⟨List.nodup_singleton _, wellKeyed_arrays 124, trivial⟩
  obtain ⟨d, compiled⟩ := exists_eq_ok_of_toOption compiles
  obtain ⟨opened, outcome⟩ := opens_iff compiled keyed
  have high : (Value.obj notesNode.config).height = 125 := by
    simp [notesNode, Value.height, Value.heightFields, height_arrays]
  have deep : ¬ (ofLists [notesNode] []).Fits notesNode := by
    rw [Fits, high, maxNesting]
    omega
  refine ⟨d, compiled, keyed, outcome.resolve_left fun opens => ?_⟩
  exact deep (opened.1 opens _ List.mem_cons_self).1

/-- A node without settings fits exactly if it stands in no more than 61 containers. -/
theorem fits_iff_depth_le {n : Node} (plain : n.config = []) : g.Fits n ↔ g.depth n ≤ 61 := by
  rw [Fits, plain, Value.height, Value.heightFields, maxNesting]
  omega

/-- **A chain of more than 62 containers is not opened** from what was saved. -/
theorem not_opens_chain {length : Nat} {bot : Metadata} (long : 62 < length)
    (compiled : (chain length).compile (.standard bot) = .ok d) :
    ¬ ∃ g', Document.loadText d.print .builtin defaultMaxDepth = .ok g' := by
  have keyed : ∀ n ∈ (chain length).nodes, (Value.obj n.config).WellKeyed :=
    forall_nodes_chain.2 fun _ _ => ⟨List.nodup_nil, trivial⟩
  have valid : d.Valid .builtin defaultMaxDepth := valid_of_compile compiled
  rw [(Document.settles_loadText valid (wellKeyed_of_compile compiled keyed)).1,
    fits_of_compile_iff compiled, forall_nodes_chain]
  intro fits
  have deep := (fits_iff_depth_le rfl).1 (fits 62 long).1
  rw [depth_chain long] at deep
  exact absurd deep (by decide)

/-- **Not all that is compiled is opened**: a chain of 63 containers is compiled and saved, and its
text cannot be read. -/
theorem compiled_not_opened :
    ¬ ∀ (g : Graph) (bot : Metadata) (d : Document), g.compile (.standard bot) = .ok d →
      ∃ g', Document.loadText d.print .builtin defaultMaxDepth = .ok g' := by
  intro all_open
  have short : 63 ≤ defaultMaxDepth + 1 := by decide
  obtain ⟨d, compiled⟩ := exists_compile_chain_iff.2 short
  exact not_opens_chain (Nat.lt_succ_self 62) compiled
    (all_open (chain 63) { id := "bot", name := "Bot" } d compiled)

end Graph

end Workflow
