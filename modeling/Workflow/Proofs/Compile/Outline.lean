import Mathlib.Data.List.Induction
import Workflow.Compile
import Workflow.Proofs.Graph.Acceptance
import Workflow.Proofs.Keyed

/-!
# Outlines against look-ups

The nodes of a graph are nested by an outline, whose tables are made from the lists of the graph.
Here they are nested by the look-ups of the graph itself. Children are the same on every graph.
Where the flow goes on is the same if every handle is used once, because then the last edge of a
handle is the first one too. So nesting is the same on every graph in whose structure nothing is
wrong, and no other graph gets as far as being nested.

## Main results

* `getElem?_groups`: a table of groups lists the elements with a key, in order.
* `getElem?_lasts`: a table of last values has that of the last element with a key.
* `Outline.nest_eq`: **where every handle is used once**, the outline nests as the look-ups do.
* `Graph.compile_eq`: a graph is compiled as by its look-ups.
-/

namespace Workflow

open Std

/-! ### Tables -/

/-- **A table of groups** lists the elements with a key, in order, and has no entry if there are
none. -/
theorem getElem?_groups {α : Type} (key : α → Option String) (xs : List α) (k : String) :
    (groups key xs)[k]? =
      if xs.filter (key · == some k) = [] then none
      else some (xs.filter (key · == some k)).toArray := by
  induction xs using List.reverseRecOn with
  | nil => simp [groups]
  | append_singleton xs x ih =>
    have step : groups key (xs ++ [x]) = noteMember (groups key xs) (key x) x := by
      simp [groups]
    rw [step, List.filter_append]
    cases keyed : key x with
    | none => simpa [noteMember, keyed] using ih
    | some k' =>
      rw [noteMember, TreeMap.getElem?_insert]
      by_cases same : k' = k
      · subst same
        have known : (groups key xs).getD k' #[] = (xs.filter (key · == some k')).toArray := by
          rw [TreeMap.getD_eq_getD_getElem?, ih]
          split
          · next none_yet => rw [none_yet]; rfl
          · rfl
        simp [keyed, known]
      · simpa [keyed, same] using ih

/-- **A table of last values** has the value of the last element with a key. -/
theorem getElem?_lasts {α β : Type} (key : α → Option String) (value : α → β) (xs : List α)
    (k : String) :
    (lasts key value xs)[k]? = (xs.reverse.find? (key · == some k)).map value := by
  induction xs using List.reverseRecOn with
  | nil => simp [lasts]
  | append_singleton xs x ih =>
    have step : lasts key value (xs ++ [x]) = noteLast (lasts key value xs) (key x) (value x) := by
      simp [lasts]
    rw [step, List.reverse_concat, List.find?_cons]
    cases keyed : key x with
    | none => simpa [noteLast] using ih
    | some k' =>
      rw [noteLast, TreeMap.getElem?_insert]
      by_cases same : k' = k
      · simp [same]
      · have other : (k' == k) = false := beq_eq_false_iff_ne.2 same
        simpa [same, other] using ih

/-! ### Nesting by look-ups -/

namespace Graph

/-- Where the flow goes on behind a node, by the edges that the graph finds. -/
def targetOf (g : Graph) (id : String) (handle : Handle) : Target :=
  match g.outgoing? id handle with
  | none => .finish
  | some e => .node e.target

/-- A node as it is handed over, by the edges that the graph finds. -/
def block (g : Graph) (n : Node) : Block :=
  { id := n.id, type := n.type, config := n.config, label := n.label, position := n.position,
    description? := n.description?,
    outputs := ⟨g.targetOf n.id .success, g.targetOf n.id .error⟩ }

/-- A node with everything that stands in it, by the children that the graph finds. -/
def nest (g : Graph) (maxDepth : Nat) : Nat → Node → Except CompileError (Tree Block)
  | 0, n => .error (.nestingTooDeep n.id maxDepth)
  | levels + 1, n =>
    let inside := g.childrenOf n.id
    if !inside.isEmpty && !isContainer n.type then
      .error (.containment n.id (.childless n.type))
    else
      match inside.mapM (g.nest maxDepth levels) with
      | .error e => .error e
      | .ok children => .ok (.node (g.block n) children)

end Graph

/-! ### Agreement -/

namespace Outline

variable {g : Graph} {maxDepth : Nat}

/-- The children in an outline are those that the graph finds. -/
theorem getElem?_children (g : Graph) (id : String) :
    (ofGraph g).children[id]? =
      if g.childrenOf id = [] then none else some (g.childrenOf id).toArray := by
  rw [Graph.childrenOf_eq_filter]
  exact getElem?_groups (·.parent?) g.nodes id

/-- The flow goes on in an outline where the last edge of a handle leads. -/
theorem getElem?_targets (g : Graph) (id : String) (handle : Handle) :
    ((ofGraph g).targets handle)[id]?
      = (g.edges.reverse.find? fun e => e.source == id && e.handle == handle).map (·.target) := by
  simp only [← Edge.beq_sourceBy]
  cases handle with
  | success => exact getElem?_lasts (Edge.sourceBy .success) (·.target) g.edges id
  | error => exact getElem?_lasts (Edge.sourceBy .error) (·.target) g.edges id

/-- **Where every handle is used once**, the flow goes on in an outline where the graph says. -/
theorem targetOf_eq (distinct : g.takenHandles.Nodup) (id : String) (handle : Handle) :
    (ofGraph g).targetOf id handle = g.targetOf id handle := by
  have keyed : (fun e : Edge => e.source == id && e.handle == handle)
      = fun e => decide ((e.source, e.handle) = (id, handle)) := by
    funext e
    rw [Bool.eq_iff_iff]
    simp
  -- an edge that is the only one with its key is found from either end of the list
  have found : g.edges.reverse.find? (fun e => decide ((e.source, e.handle) = (id, handle)))
      = g.edges.find? fun e => decide ((e.source, e.handle) = (id, handle)) :=
    (find?_key_of_perm distinct g.edges.reverse_perm.symm (id, handle)).symm
  rw [targetOf, getElem?_targets, Graph.targetOf, Graph.outgoing?_eq_find?, keyed, found]
  cases g.edges.find? _ <;> rfl

-- of two edges by one handle the outline knows the last, and the graph finds the first
example :
    let forked : Graph := .ofLists [] [.canonical "a" "b" .success, .canonical "a" "c" .success]
    (ofGraph forked).targetOf "a" .success = .node "c"
      ∧ forked.targetOf "a" .success = .node "b" := by
  decide +kernel

/-- Where every handle is used once, the outline hands a node over as the graph does. -/
theorem block_eq (distinct : g.takenHandles.Nodup) (n : Node) :
    (ofGraph g).block n = g.block n := by
  rw [block, Graph.block, targetOf_eq distinct, targetOf_eq distinct]

/-- **Where every handle is used once, the outline nests** as the look-ups do. The induction is on
the levels. -/
theorem nest_eq (distinct : g.takenHandles.Nodup) (levels : Nat) :
    (ofGraph g).nest maxDepth levels = g.nest maxDepth levels := by
  induction levels with
  | zero => rfl
  | succ levels ih =>
    funext n
    rw [nest, Graph.nest, getElem?_children, block_eq distinct, ih]
    cases inside : g.childrenOf n.id with
    | nil => rfl
    | cons c rest =>
      cases container : isContainer n.type with
      | false => rfl
      | true =>
        simp only [List.cons_ne_nil, if_false, List.isEmpty_cons, Bool.not_true, Bool.not_false,
          Bool.and_false, Bool.false_eq_true]
        cases (c :: rest).mapM (g.nest maxDepth levels) <;> rfl

end Outline

/-- **A graph is compiled as by its look-ups.** One whose handles are not used once has been refused
before it is nested. -/
theorem Graph.compile_eq (g : Graph) (s : Settings) :
    g.compile s =
      match g.problems s.registry with
      | [] =>
        let nested := sortOut (g.topLevel.map (g.nest s.maxDepth (s.maxDepth + 1)))
        match nested.1 with
        | [] => .ok (g.assemble s nested.2)
        | errors => .error errors
      | problems => .error problems := by
  rw [compile]
  cases clean : g.problems s.registry with
  | cons problem rest => rfl
  | nil =>
    have wf := wellFormed_of_violations_eq_nil ((problems_eq_nil_iff g s.registry).1 clean).1
    have nested : (Outline.ofGraph g).nest s.maxDepth (s.maxDepth + 1)
        = g.nest s.maxDepth (s.maxDepth + 1) := Outline.nest_eq wf.handlesDistinct _
    exact nested ▸ rfl

end Workflow
