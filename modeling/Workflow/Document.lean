import Workflow.Node
import Workflow.Tree

/-!
# Documents

What a bot is handed over as: the nodes nested as they stand in their containers, each with
the two ways it goes on, and around them what the bot is called, where it starts and which
variables it begins with.

The end of a flow is written as the text `END`. A node of that id cannot be told from it in a
written document, although it can be in one that is in memory.

## Main results

* `Target.ofText_text`: every target but the node `END` is read back from its text.
* `Variables.insert_entries_sorted`: variables stay sorted by name.
-/

namespace Workflow

open Json

/-! ### Targets -/

/-- Where a flow goes on. -/
inductive Target where
  /-- Nowhere. -/
  | finish
  /-- With a node. -/
  | node (id : String)
  deriving DecidableEq, Repr

namespace Target

/-- The text that stands for the end of a flow. -/
def finishText : String := "END"

/-- The target that a text stands for. -/
def ofText (text : String) : Target :=
  if text = finishText then finish else node text

/-- The text of a target. -/
def text : Target → String
  | finish => finishText
  | node id => id

/-- The node that comes next. -/
def nodeId? : Target → Option String
  | finish => none
  | node id => some id

/-- Whether the flow ends here. -/
def isFinish : Target → Bool
  | finish => true
  | node _ => false

/-- The node that comes next is the target. -/
theorem nodeId?_eq_some_iff {t : Target} {id : String} : t.nodeId? = some id ↔ t = node id := by
  cases t <;> simp [nodeId?]

/-- Targets that lead to the same nodes are the same. -/
theorem eq_of_node_iff {t u : Target} (h : ∀ id, t = node id ↔ u = node id) : t = u := by
  cases t with
  | node id => exact ((h id).1 rfl).symm
  | finish =>
    cases u with
    | finish => rfl
    | node id => exact (h id).2 rfl

/-- Every target but the node `END` is read back from its text. -/
theorem ofText_text {t : Target} (h : t ≠ node finishText) : ofText t.text = t := by
  cases t with
  | finish => rfl
  | node id =>
    have other : id ≠ finishText := fun e => h (e ▸ rfl)
    simp [ofText, text, other]

end Target

/-- The two ways in which a node goes on. -/
structure Outputs where
  /-- After success. -/
  success : Target := .finish
  /-- After an error. -/
  error : Target := .finish
  deriving DecidableEq, Repr

namespace Outputs

/-- Where a node goes on. -/
def get (o : Outputs) : Handle → Target
  | .success => o.success
  | .error => o.error

/-- The outputs with another target for one handle. -/
def set (o : Outputs) (handle : Handle) (target : Target) : Outputs :=
  match handle with
  | .success => { o with success := target }
  | .error => { o with error := target }

/-- A target is what it was set to. -/
theorem get_set (o : Outputs) (h k : Handle) (t : Target) :
    (o.set h t).get k = if k = h then t else o.get k := by
  cases h <;> cases k <;> rfl

/-- Outputs that lead to the same targets are the same. -/
theorem eq_of_get {o p : Outputs} (h : ∀ handle, o.get handle = p.get handle) : o = p := by
  obtain ⟨success, error⟩ := o
  obtain ⟨success', error'⟩ := p
  rw [Outputs.mk.injEq]
  exact ⟨h .success, h .error⟩

/-- The nodes that may come next. -/
def nodeIds (o : Outputs) : List String :=
  Handle.all.filterMap fun h => (o.get h).nodeId?

end Outputs

/-! ### Blocks -/

/-- A node of a document, without the nodes inside it. -/
structure Block where
  /-- The identity of the node. -/
  id : String
  /-- The node type. -/
  type : String
  /-- The configuration. -/
  config : Fields := []
  /-- The name shown to the user. -/
  label : String := ""
  /-- Where it stands on the canvas. -/
  position : Position := {}
  /-- A note of the user. -/
  description? : Option String := none
  /-- Where the flow goes on. -/
  outputs : Outputs

/-- Equality of blocks, configurations regardless of the order of their keys. -/
def Block.same (b c : Block) : Bool :=
  b.id == c.id && b.type == c.type && b.config.same c.config && b.label == c.label
    && b.position.same c.position && b.description? == c.description? && b.outputs == c.outputs

/-! ### Variables -/

/-- The type of a variable. -/
inductive VariableType where
  | string
  | number
  | boolean
  | credential
  | file
  | json
  deriving DecidableEq, Repr

/-- The name a variable type is written by. -/
def VariableType.name : VariableType → String
  | string => "string"
  | number => "number"
  | boolean => "boolean"
  | credential => "credential"
  | file => "file"
  | json => "json"

/-- The variable types in their fixed order. -/
def VariableType.all : List VariableType :=
  [string, number, boolean, credential, file, json]

/-- What a bot-wide variable starts as. -/
structure Variable where
  /-- The type. -/
  type : VariableType
  /-- The value it starts with. -/
  value? : Option Value := none
  /-- The key under which a credential is kept. -/
  vault? : Option String := none
  /-- What it is for. -/
  description? : Option String := none

/-- The variables of a bot, sorted by name. Names are compared character by character, which
is also the order of their bytes. -/
structure Variables where
  /-- Names and variables. -/
  entries : List (String × Variable)
  /-- The names ascend. -/
  sorted : entries.Pairwise fun a b => a.1 < b.1

namespace Variables

/-- No variables. -/
def empty : Variables :=
  ⟨[], .nil⟩

/-- Puts an entry where its name belongs; an entry of the same name is replaced. -/
def insertEntry (name : String) (v : Variable) :
    List (String × Variable) → List (String × Variable)
  | [] => [(name, v)]
  | e :: rest =>
    if name < e.1 then (name, v) :: e :: rest
    else if name = e.1 then (name, v) :: rest
    else e :: insertEntry name v rest

/-- The names after an insertion. -/
theorem mem_insertEntry {name : String} {v : Variable} {entries : List (String × Variable)}
    {e : String × Variable} (h : e ∈ insertEntry name v entries) : e.1 = name ∨ e ∈ entries := by
  induction entries with
  | nil => simp_all [insertEntry]
  | cons d rest ih =>
    simp only [insertEntry] at h
    split at h
    · rcases List.mem_cons.1 h with rfl | h
      · exact .inl rfl
      · exact .inr h
    · split at h
      · rcases List.mem_cons.1 h with rfl | h
        · exact .inl rfl
        · exact .inr (List.mem_cons_of_mem _ h)
      · rcases List.mem_cons.1 h with rfl | h
        · exact .inr List.mem_cons_self
        · rcases ih h with h | h
          · exact .inl h
          · exact .inr (List.mem_cons_of_mem _ h)

/-- Names that are neither below nor equal are above. -/
theorem lt_of_not_lt_of_ne {a b : String} (h : ¬ a < b) (ne : a ≠ b) : b < a := by
  apply Classical.byContradiction
  intro h'
  exact ne (String.le_antisymm (String.not_lt.1 h') (String.not_lt.1 h))

/-- Variables stay sorted. -/
theorem insert_entries_sorted {name : String} {v : Variable}
    {entries : List (String × Variable)} (sorted : entries.Pairwise fun a b => a.1 < b.1) :
    (insertEntry name v entries).Pairwise fun a b => a.1 < b.1 := by
  induction entries with
  | nil => simp [insertEntry]
  | cons d rest ih =>
    have ⟨above, tail⟩ := List.pairwise_cons.1 sorted
    simp only [insertEntry]
    split
    · next lt =>
      refine List.pairwise_cons.2 ⟨?_, sorted⟩
      intro e he
      rcases List.mem_cons.1 he with rfl | he
      · exact lt
      · exact String.lt_trans lt (above e he)
    · split
      · next eq =>
        refine List.pairwise_cons.2 ⟨?_, tail⟩
        intro e he
        show name < e.1
        rw [eq]
        exact above e he
      · next nlt ne =>
        refine List.pairwise_cons.2 ⟨?_, ih tail⟩
        intro e he
        rcases mem_insertEntry he with h | h
        · rw [h]
          exact lt_of_not_lt_of_ne nlt ne
        · exact above e h

/-- The variables with one more, or with another one of its name. -/
def insert (vs : Variables) (name : String) (v : Variable) : Variables :=
  ⟨insertEntry name v vs.entries, insert_entries_sorted vs.sorted⟩

/-- The variables of these entries; of a repeated name the last one counts. -/
def ofEntries (entries : List (String × Variable)) : Variables :=
  entries.foldl (fun vs e => vs.insert e.1 e.2) empty

/-- Equality of variables, values as JSON values. -/
def same (vs ws : Variables) : Bool :=
  vs.entries.length == ws.entries.length
    && (vs.entries.zip ws.entries).all fun (a, b) =>
      a.1 == b.1 && a.2.type == b.2.type && sameValue a.2.value? b.2.value?
        && a.2.vault? == b.2.vault? && a.2.description? == b.2.description?
where
  /-- Equality of values that may be absent. -/
  sameValue : Option Value → Option Value → Bool
    | none, none => true
    | some v, some w => v.same w
    | _, _ => false

end Variables

/-! ### Documents -/

/-- What a bot is called. -/
structure Metadata where
  id : String
  name : String
  description? : Option String := none
  version? : Option String := none
  author? : Option String := none
  tags : List String := []
  deriving DecidableEq

/-- A bot as it is handed over. -/
structure Document where
  /-- The version of the format. -/
  version : String
  /-- What the bot is called. -/
  bot : Metadata
  /-- The nodes, nested as they stand in their containers. -/
  nodes : List (Tree Block)
  /-- The nodes that start the bot. -/
  triggers : List String := []
  /-- The node the flow begins with. -/
  startNode? : Option String := none
  /-- The variables it begins with. -/
  vars : Variables := .empty

namespace Document

/-- The version of the format that is written. -/
def currentVersion : String := "1.0"

/-- Every node of the document, containers before what they hold. -/
def walk (d : Document) : List (Tree Block) :=
  Tree.walk d.nodes

/-- The first node with this id, at any depth. -/
def find? (d : Document) (id : String) : Option (Tree Block) :=
  d.walk.find? fun t => t.value.id == id

/-- Equality of documents. -/
def same (d e : Document) : Bool :=
  d.version == e.version && d.bot == e.bot && Tree.forestSame Block.same d.nodes e.nodes
    && d.triggers == e.triggers && d.startNode? == e.startNode? && d.vars.same e.vars

end Document

end Workflow
