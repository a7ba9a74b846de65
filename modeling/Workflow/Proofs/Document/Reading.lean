import Workflow.Document.Codec
import Workflow.Proofs.Json.Reading
import Workflow.Proofs.Tree

/-!
# Documents are read back

What is read from a written document, by a reader that makes of numbers what it likes and goes
into a limited number of containers: the document itself, with the numbers that the reader makes
of its numbers, an end of the flow for every node `END` that something leads to, and no value for
a variable that begins with `null`. It is read exactly if everything written fits and all
positions are finite.

## Main results

* `Tree.settles_decoder`: a node is read back with everything that stands in it.
* `Document.settles_decoder`: **a document is read back.**
-/

namespace Workflow

open Json

variable {read? : NumberReading} {room : Nat}

/-! ### Parts of a node -/

/-- What a double is read as. -/
def rereadFloat (read? : NumberReading) (x : Float) : Float :=
  ((read? (.float x)).getD (.float x)).toFloat

/-- A double is read back if it is finite. -/
theorem readsFrom_ofFloat (x : Float) :
    ReadsFrom read? Decoder.float (.ofFloat x) (x.isFinite = true) (rereadFloat read? x) := by
  by_cases finite : x.isFinite = true
  · rw [Value.ofFloat, if_pos finite]
    exact (ReadsFrom.float _).congr (iff_of_true trivial finite)
  · rw [Value.ofFloat, if_neg finite]
    exact (ReadsFrom.float_null _).congr (iff_of_false id finite)

/-- What a place is read as. -/
def Position.reread (read? : NumberReading) (p : Position) : Position :=
  ⟨rereadFloat read? p.x, rereadFloat read? p.y⟩

/-- A place is read back if its coordinates are finite. -/
theorem Position.readsFrom (p : Position) :
    ReadsFrom read? Position.decoder p.toValue p.Finite (p.reread read?) := by
  refine Record.readsFrom_read (fun inner =>
    ((Record.Reads.present rfl (readsFrom_ofFloat p.x inner)).map Position.mk).seq
      (Record.Reads.present rfl (readsFrom_ofFloat p.y inner))) fun inner => ?_
  simp only [Position.Finite, allFit_cons, allFit_nil, and_true]
  tauto

/-- What outputs are read as: a node `END` is taken for the end of the flow. -/
def Outputs.reread (o : Outputs) : Outputs :=
  ⟨Target.ofText o.success.text, Target.ofText o.error.text⟩

/-- A target is read from its text. -/
theorem Target.readsFrom (t : Target) :
    ReadsFrom read? Target.decoder (.str t.text) True (Target.ofText t.text) :=
  (ReadsFrom.text t.text).map Target.ofText

/-- Outputs are read back. -/
theorem Outputs.readsFrom (o : Outputs) :
    ReadsFrom read? Outputs.decoder o.toValue True o.reread := by
  refine Record.readsFrom_read (fun inner =>
    ((Record.Reads.present rfl (o.success.readsFrom inner)).map Outputs.mk).seq
      (Record.Reads.present rfl (o.error.readsFrom inner))) fun inner => ?_
  simp

/-! ### Nodes -/

/-- A list is written as an entry that may be left out. -/
theorem listIf_eq (key : String) (items : List Value) :
    listIf key items = entryIf key (Record.array? items) := by
  cases items <;> rfl

/-- What a block is read as. -/
def Block.reread (read? : NumberReading) (b : Block) : Block :=
  { b with
    config := Value.rereadFields read? b.config
    position := b.position.reread read?
    outputs := b.outputs.reread }

namespace Tree

/-- Nodes are written one by one. -/
theorem toValues_eq_map (ts : List (Tree Block)) : toValues ts = ts.map toValue := by
  induction ts with
  | nil => rfl
  | cons t rest ih => rw [toValues, ih, List.map_cons]

/-- The members of a written node. -/
def members (b : Block) (cs : List (Tree Block)) : List (String × Value) :=
  [("id", .str b.id), ("type", .str b.type), ("config", .obj b.config), ("label", .str b.label),
      ("position", b.position.toValue)]
    ++ entryIf "description" (b.description?.map .str)
    ++ [("outputs", b.outputs.toValue)]
    ++ entryIf "children" (Record.array? (cs.map toValue))

/-- A node is written as the object of its members. -/
theorem toValue_eq (b : Block) (cs : List (Tree Block)) :
    toValue (.node b cs) = .obj (members b cs) := by
  rw [toValue, toValues_eq_map, listIf_eq, members]

/-- A child is two containers lower than its node. -/
theorem height_toValue_child {b : Block} {cs : List (Tree Block)} {c : Tree Block} (hc : c ∈ cs) :
    c.toValue.height + 2 ≤ (toValue (.node b cs)).height := by
  have listed := List.mem_map_of_mem (f := toValue) hc
  have inside := Value.height_lt_of_mem_items listed
  have entry : ("children", Value.arr (cs.map toValue)) ∈ members b cs := by
    refine List.mem_append_right _ ?_
    rw [Record.array?, if_neg (by simpa using List.ne_nil_of_mem listed)]
    exact List.mem_singleton_self _
  have outside := Value.height_lt_of_mem entry
  rw [toValue_eq]
  exact Nat.le_trans (Nat.succ_le_succ inside) outside

/-- **A node is read back** with everything that stands in it, by a reader that goes into as many
levels as it sees. The induction is on these levels. -/
theorem settles_decoder {levels room : Nat} {t : Tree Block}
    (enough : (t.toValue.seen read? room).height < levels)
    (keyed : ∀ u ∈ t.preorder, (Value.obj u.value.config).WellKeyed) :
    Settles (Tree.decoder levels (t.toValue.seen read? room))
      (t.toValue.Fits read? room ∧ ∀ u ∈ t.preorder, u.value.position.Finite)
      (t.map (Block.reread read?)) := by
  induction levels generalizing room t with
  | zero => exact absurd enough (Nat.not_lt_zero _)
  | succ levels ih =>
    obtain ⟨b, cs⟩ := t
    rw [Scanned.height_seen] at enough
    have config : ReadsFrom read? Decoder.fields (.obj b.config) True
        (Value.rereadFields read? b.config) := .fields (keyed _ List.mem_cons_self)
    -- a child is two containers lower, and of these the reader sees at most as many
    have children : ∀ inner, room = inner + 1 → ∀ innermost, inner = innermost + 1 → ∀ c ∈ cs,
        Settles (Tree.decoder levels (c.toValue.seen read? innermost))
          (c.toValue.Fits read? innermost ∧ ∀ u ∈ c.preorder, u.value.position.Finite)
          (c.map (Block.reread read?)) := by
      intro inner outer innermost middle c hc
      refine ih ?_ fun u hu => keyed u (List.mem_cons_of_mem _ ?_)
      · have low := height_toValue_child (b := b) hc
        rw [Scanned.height_seen]
        omega
      · exact mem_forestPreorder_iff.2 ⟨c, hc, hu⟩
    have root : (node b cs).value = b := rfl
    rw [toValue_eq, Tree.decoder, Tree.map, forestMap_eq_map]
    refine Record.settles_read (fun inner outer =>
      ((((((((Record.Reads.text (by simp [members])).map Tree.ofBlock).seq
        (Record.Reads.text (by simp [members]))).seq
        (Record.Reads.present (by simp [members]) (config inner))).seq
        (Record.Reads.present (by simp [members]) (ReadsFrom.text b.label inner))).seq
        (Record.Reads.present (by simp [members]) (b.position.readsFrom inner))).seq
        (Record.Reads.text? (by simp [members]))).seq
        (Record.Reads.present (by simp [members]) (b.outputs.readsFrom inner))).seq
        (Record.Reads.list cs (by simp [members]) (children inner outer)))
      fun inner => ?_
    simp only [members, allFit_append, allFit_cons, allFit_nil, allFit_entryIf_str,
      Value.fits_str, preorder, root, forestPreorder_eq_flatMap, List.forall_mem_cons,
      List.forall_mem_flatMap]
    rw [allFit_entryIf]
    tauto

end Tree

/-! ### Variables -/

/-- What the value of a variable is read as: `null` is taken for no value. -/
def rereadValue? (read? : NumberReading) : Value → Option Value
  | .null => none
  | v => some (v.reread read?)

/-- What a variable is read as. -/
def Variable.reread (read? : NumberReading) (v : Variable) : Variable :=
  { v with value? := v.value?.bind (rereadValue? read?) }

/-- A value that may be left out is read, and `null` is taken for none. -/
theorem readsFrom_value? {v : Value} (keyed : v.WellKeyed) :
    ReadsFrom read? (Decoder.nullable Decoder.value) v True (rereadValue? read? v) := by
  cases v with
  | null => exact fun _ => (Settles.ok none).congr (by simp)
  | _ => exact (ReadsFrom.value keyed).nullable (by simp)

/-- A variable type is read back from its name. -/
theorem VariableType.readsFrom (t : VariableType) :
    ReadsFrom read? VariableType.decoder (.str t.name) True t :=
  ReadsFrom.oneOf (by cases t <;> rfl)

/-- The members of a written variable. -/
def Variable.members (v : Variable) : List (String × Value) :=
  [("type", .str v.type.name)]
    ++ entryIf "value" v.value?
    ++ entryIf "vault" (v.vault?.map .str)
    ++ entryIf "description" (v.description?.map .str)

/-- A variable is read back. -/
theorem Variable.readsFrom {v : Variable} (keyed : ∀ w, v.value? = some w → w.WellKeyed) :
    ReadsFrom read? Variable.decoder v.toValue True (v.reread read?) := by
  have written : v.toValue = .obj v.members := rfl
  have value : ∀ inner, Record.Reads read? inner (Record.nullable "value" Decoder.value) v.members
      ((∀ w, v.value? = some w → w.Fits read? inner) ∧ True)
      (v.value?.bind (rereadValue? read?)) := by
    refine fun inner =>
      .optional v.value? (by simp [members]) (fun w given => ?_) fun left_out => ?_
    · rw [given]
      exact readsFrom_value? (keyed w given) inner
    · rw [left_out]
      exact ⟨trivial, rfl⟩
  rw [written]
  refine Record.readsFrom_read (fun inner =>
    ((((Record.Reads.present (by simp [members]) (v.type.readsFrom inner)).map Variable.mk).seq
      (value inner)).seq
      (Record.Reads.text? (by simp [members]))).seq
      (Record.Reads.text? (by simp [members]))) fun inner => ?_
  simp [members]

/-- The names ascend as they did. -/
theorem Variables.sorted_reread (read? : NumberReading) (vs : Variables) :
    (vs.entries.map fun e => (e.1, e.2.reread read?)).Pairwise fun a b => a.1 < b.1 :=
  List.pairwise_map.2 vs.sorted

/-- What variables are read as. -/
def Variables.reread (read? : NumberReading) (vs : Variables) : Variables :=
  ⟨vs.entries.map fun e => (e.1, e.2.reread read?), vs.sorted_reread read?⟩

/-- No variables are read as none. -/
theorem Variables.reread_eq_empty {vs : Variables} (none_there : vs.entries = []) :
    Variables.empty = vs.reread read? := by
  obtain ⟨entries, sorted⟩ := vs
  have none_there : entries = [] := none_there
  subst none_there
  rfl

/-- A variable whose name comes after all others goes to the end. -/
theorem Variables.insertEntry_eq_append {name : String} {v : Variable}
    {entries : List (String × Variable)} (after : ∀ e ∈ entries, e.1 < name) :
    insertEntry name v entries = entries ++ [(name, v)] := by
  induction entries with
  | nil => rfl
  | cons e rest ih =>
    obtain ⟨first, others⟩ := List.forall_mem_cons.1 after
    have later : ¬ name < e.1 := String.lt_asymm first
    have other : name ≠ e.1 := fun same => String.lt_irrefl name (same ▸ first)
    rw [insertEntry, if_neg later, if_neg other, ih others]
    rfl

/-- Sorted variables are the variables of their entries. -/
theorem Variables.ofEntries_entries (vs : Variables) : ofEntries vs.entries = vs := by
  have append : ∀ (done : Variables) (es : List (String × Variable)),
      (done.entries ++ es).Pairwise (fun a b => a.1 < b.1) →
        (es.foldl (fun vs e => vs.insert e.1 e.2) done).entries = done.entries ++ es := by
    intro done es
    induction es generalizing done with
    | nil => simp
    | cons e rest ih =>
      intro sorted
      have after : ∀ d ∈ done.entries, d.1 < e.1 :=
        fun d hd => (List.pairwise_append.1 sorted).2.2 d hd e List.mem_cons_self
      have step : (done.insert e.1 e.2).entries = done.entries ++ [e] :=
        insertEntry_eq_append after
      rw [List.foldl_cons, ih, step]
      · simp
      · rw [step]
        simpa using sorted
  have same := append .empty vs.entries vs.sorted
  rw [ofEntries]
  cases built : vs.entries.foldl (fun vs e => vs.insert e.1 e.2) empty with
  | mk entries sorted =>
    rw [built] at same
    cases vs
    simpa [empty] using same

/-- Variables are read back. -/
theorem Variables.readsFrom {vs : Variables}
    (keyed : ∀ e ∈ vs.entries, ∀ w, e.2.value? = some w → w.WellKeyed) :
    ReadsFrom read? Variables.decoder vs.toValue True (vs.reread read?) := by
  have entries := ReadsFrom.entries Variable.toValue (fun _ => True) (Variable.reread read?)
    vs.entries fun e he => Variable.readsFrom (keyed e he)
  have mapped := entries.map Variables.ofEntries
  have whole : Variables.ofEntries (vs.entries.map fun e => (e.1, e.2.reread read?))
      = vs.reread read? := (vs.reread read?).ofEntries_entries
  rw [whole] at mapped
  exact mapped.congr (by simp)

/-! ### Documents -/

/-- The members of written metadata. -/
def Metadata.members (m : Metadata) : List (String × Value) :=
  [("id", .str m.id), ("name", .str m.name)]
    ++ entryIf "description" (m.description?.map .str)
    ++ entryIf "version" (m.version?.map .str)
    ++ entryIf "author" (m.author?.map .str)
    ++ entryIf "tags" (Record.array? (m.tags.map .str))

/-- Metadata are written as the object of their members. -/
theorem Metadata.toValue_eq (m : Metadata) : m.toValue = .obj m.members := by
  rw [toValue, listIf_eq, members]

/-- A list of texts that is left out if it is empty is read back. -/
theorem reads_texts {inner : Nat} {name : String} {fields : List (String × Value)}
    (texts : List String) (found : under [name] fields
      = (Record.array? (texts.map .str)).toList) :
    Record.Reads read? inner (Record.optional name (Decoder.list Decoder.text) []) fields
      ((∀ v, Record.array? (texts.map Value.str) = some v → v.Fits read? inner)
        ∧ ∀ s ∈ texts, True) texts := by
  have each : ∀ innermost, inner = innermost + 1 → ∀ s ∈ texts,
      Settles (Decoder.text ((Value.str s).seen read? innermost))
        ((Value.str s).Fits read? innermost ∧ True) (id s) :=
    fun innermost _ s _ => ReadsFrom.text s innermost
  simpa using Record.Reads.list texts found each

/-- What a bot is called is read back. -/
theorem Metadata.readsFrom (m : Metadata) :
    ReadsFrom read? Metadata.decoder m.toValue True m := by
  rw [toValue_eq]
  refine Record.readsFrom_read (fun inner =>
    ((((((Record.Reads.text (by simp [members])).map Metadata.mk).seq
      (Record.Reads.text (by simp [members]))).seq
      (Record.Reads.text? (by simp [members]))).seq
      (Record.Reads.text? (by simp [members]))).seq
      (Record.Reads.text? (by simp [members]))).seq
      (reads_texts m.tags (by simp [members]))) fun inner => ?_
  simp [members]

/-- In no configuration and in no value of a variable a key repeats. -/
structure Document.WellKeyed (d : Document) : Prop where
  /-- Configurations are well keyed. -/
  configs : ∀ t ∈ Tree.forestPreorder d.nodes, (Value.obj t.value.config).WellKeyed
  /-- Values of variables are well keyed. -/
  values : ∀ e ∈ d.vars.entries, ∀ v, e.2.value? = some v → v.WellKeyed

namespace Document

/-- What a document is read as. -/
def reread (read? : NumberReading) (d : Document) : Document :=
  { d with nodes := Tree.forestMap (Block.reread read?) d.nodes, vars := d.vars.reread read? }

/-- The variables, if there are any, as they are written. -/
def vars? (d : Document) : Option Value :=
  if d.vars.entries.isEmpty then none else some d.vars.toValue

/-- The members of a written document. -/
def members (d : Document) : List (String × Value) :=
  [("version", .str d.version), ("bot", d.bot.toValue),
      ("nodes", .arr (d.nodes.map Tree.toValue))]
    ++ entryIf "triggers" (Record.array? (d.triggers.map .str))
    ++ entryIf "start_node" (d.startNode?.map .str)
    ++ entryIf "variables" d.vars?

/-- A document is written as the object of its members. -/
theorem toValue_eq (d : Document) : d.toValue = .obj d.members := by
  rw [toValue, Tree.toValues_eq_map, listIf_eq, members, vars?]
  cases d.vars.entries <;> rfl

/-- A node at the top level is two containers lower than its document. -/
theorem height_toValue_node {d : Document} {t : Tree Block} (ht : t ∈ d.nodes) :
    t.toValue.height + 2 ≤ d.toValue.height := by
  have inside := Value.height_lt_of_mem_items (List.mem_map_of_mem (f := Tree.toValue) ht)
  have entry : ("nodes", Value.arr (d.nodes.map Tree.toValue)) ∈ d.members := by
    simp [members]
  have outside := Value.height_lt_of_mem entry
  rw [toValue_eq]
  exact Nat.le_trans (Nat.succ_le_succ inside) outside

/-- **A document is read back** if it fits and all positions are finite, and not otherwise. -/
theorem settles_decoder {d : Document} (keyed : d.WellKeyed) (room : Nat) :
    Settles (Document.decoder (d.toValue.seen read? room))
      (d.toValue.Fits read? room ∧ ∀ t ∈ Tree.forestPreorder d.nodes, t.value.position.Finite)
      (d.reread read?) := by
  have nodes : ∀ inner, room = inner + 1 →
      Settles (Decoder.list (Tree.decoder ((d.toValue.seen read? room).height + 1))
          ((Value.arr (d.nodes.map Tree.toValue)).seen read? inner))
        ((Value.arr (d.nodes.map Tree.toValue)).Fits read? inner
          ∧ ∀ t ∈ d.nodes, ∀ u ∈ t.preorder, u.value.position.Finite)
        (d.nodes.map (Tree.map (Block.reread read?))) := by
    intro inner outer
    refine settles_list d.nodes fun innermost middle t ht => Tree.settles_decoder ?_ fun u hu => ?_
    · have low := height_toValue_node ht
      rw [Scanned.height_seen, Scanned.height_seen]
      omega
    · refine keyed.configs u ?_
      exact Tree.mem_forestPreorder_iff.2 ⟨t, ht, hu⟩
  have vars : ∀ inner, Record.Reads read? inner
      (Record.optional "variables" Variables.decoder .empty) d.members
      ((∀ v, d.vars? = some v → v.Fits read? inner) ∧ True) (d.vars.reread read?) := by
    refine fun inner => .optional d.vars? (by simp [members]) (fun v given => ?_) fun left_out => ?_
    · rw [vars?, Option.ite_none_left_eq_some] at given
      obtain ⟨-, ⟨⟩⟩ := given
      exact Variables.readsFrom keyed.values inner
    · exact ⟨trivial, Variables.reread_eq_empty (by simpa [vars?] using left_out)⟩
  rw [decoder, reread, Tree.forestMap_eq_map, toValue_eq]
  rw [toValue_eq] at nodes
  refine Record.settles_read (fun inner outer =>
    ((((((Record.Reads.text (by simp [members])).map Document.mk).seq
      (Record.Reads.present (by simp [members]) (d.bot.readsFrom inner))).seq
      (Record.Reads.present (by simp [members]) (nodes inner outer))).seq
      (reads_texts d.triggers (by simp [members]))).seq
      (Record.Reads.text? (by simp [members]))).seq
      (vars inner)) fun inner => ?_
  simp only [members, allFit_append, allFit_cons, allFit_nil, allFit_entryIf_str, Value.fits_str,
    Tree.forestPreorder_eq_flatMap, List.forall_mem_flatMap]
  rw [allFit_entryIf, allFit_entryIf]
  tauto

end Document

end Workflow
