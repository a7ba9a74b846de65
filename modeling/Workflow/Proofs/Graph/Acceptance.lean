import Workflow.Graph.Edit
import Workflow.Proofs.Attempt
import Workflow.Proofs.Graph.WellFormed

/-!
# What edits accept and what they give

One statement for each edit: when it is accepted, and which nodes and edges the graph then
has. Proofs about edits go by these statements and do not open the edits again.

## Main results

* `addNode_eq_ok_iff`: a node is added to a well-formed graph exactly if its id is new and
  visible and its parent a container.
* `addEdge_eq_ok_iff`: an edge is added exactly if its ends exist and its handle and id are
  free.
* `freeEdgeId_not_mem`, `connect_eq_ok_iff`: connecting never meets a taken id.
* `setParent_eq_ok_iff`: a node is moved exactly if it may stand where it is moved to.
* `touch_ok`: what a graph keeps when a node is changed.
-/

namespace Workflow.Graph

open Json

variable {g g' : Graph}

/-! ### Nodes -/

/-- A node with this id that may hold others. -/
def HasContainer (g : Graph) (id : String) : Prop :=
  ∃ m ∈ g.nodes, m.id = id ∧ isContainer m.type = true

/-- **Which moves are legal**: into a container that neither is the node nor stands in it. -/
theorem checkParent_eq_ok_iff (distinct : g.nodeIds.Nodup) (exist : g.ParentsExist)
    {child parent : String} :
    g.checkParent child parent = .ok () ↔
      g.HasContainer parent ∧ parent ≠ child ∧ ¬ Inside g parent child := by
  rw [← mem_ancestors_iff_inside distinct exist, checkParent]
  cases found : g.node? parent with
  | none =>
    simp only [reduceCtorEq, false_iff]
    rintro ⟨⟨m, hm, hid, -⟩, -⟩
    rw [(node?_eq_some_iff distinct).2 ⟨hm, hid⟩] at found
    cases found
  | some p =>
    obtain ⟨hp, rfl⟩ := mem_of_node?_eq_some found
    have container : g.HasContainer p.id ↔ isContainer p.type = true := by
      constructor
      · rintro ⟨m, hm, hid, holds⟩
        rwa [node_eq_of_id_eq distinct hm hp hid] at holds
      · exact fun holds => ⟨p, hp, rfl, holds⟩
    rw [container]
    by_cases self : p.id = child
    · simp [self]
    · by_cases holds : isContainer p.type = true
      · by_cases below : child ∈ g.ancestors p.id <;> simp [self, holds, below]
      · simp [self, holds]

/-- A node may stand at the top level, and wherever its parent may hold it. -/
theorem checkPlace_eq_ok_iff {child : String} {parent? : Option String} :
    g.checkPlace child parent? = .ok () ↔
      ∀ p, parent? = some p → g.checkParent child p = .ok () := by
  cases parent? <;> simp [checkPlace]

/-- Whatever a node stands in is a node. -/
theorem Inside.mem_nodeIds (exist : g.ParentsExist) {a b : String} (h : Inside g a b) :
    b ∈ g.nodeIds := by
  induction h with
  | step hn hp => exact exist _ hn _ hp
  | trans _ _ _ ih => exact ih

/-- **Adding a node** to a well-formed graph: its id must be visible and new, and its parent,
should it have one, a container. -/
theorem addNode_eq_ok_iff (wf : g.WellFormed) {n : Node} :
    g.addNode n = .ok g' ↔
      Text.isBlank n.id = false ∧ n.id ∉ g.nodeIds
        ∧ (∀ p, n.parent? = some p → g.HasContainer p) ∧ g.appendNode n = g' := by
  have place : n.id ∉ g.nodeIds →
      (g.checkPlace n.id n.parent? = .ok () ↔
        ∀ p, n.parent? = some p → g.HasContainer p) := by
    intro new
    simp only [checkPlace_eq_ok_iff, checkParent_eq_ok_iff wf.nodeIds_nodup wf.parentsExist]
    refine forall₂_congr fun p _ => and_iff_left_of_imp ?_
    rintro ⟨m, hm, rfl, -⟩
    refine ⟨?_, fun below => new (below.mem_nodeIds wf.parentsExist)⟩
    intro same
    exact new (same ▸ List.mem_map_of_mem hm)
  rw [addNode]
  by_cases blank : Text.isBlank n.id = true
  · simp [blank]
  · by_cases old : n.id ∈ g.nodeIds
    · simp [blank, old, (contains_iff_mem_nodeIds g n.id).2 old]
    · have absent : g.contains n.id = false := by
        rw [← Bool.not_eq_true, contains_iff_mem_nodeIds]
        exact old
      simp only [blank, absent, Bool.false_eq_true, if_false, map_eq_ok_iff, old,
        not_false_eq_true, true_and, ← place old]
      exact ⟨fun ⟨(), h⟩ => h, fun h => ⟨(), h⟩⟩

/-- A position is known under the ids of nodes. -/
theorem position_isSome_iff {id : String} :
    (g.index.node[id]?).isSome = true ↔ id ∈ g.nodeIds := by
  rw [Std.TreeMap.isSome_getElem?_eq_contains, ← contains_iff_mem_nodeIds, contains]

/-- **Moving a node**: it must exist and may stand where it is moved; no other node changes. -/
theorem setParent_eq_ok_iff (distinct : g.nodeIds.Nodup) (exist : g.ParentsExist) {id : String}
    {parent? : Option String} :
    g.setParent id parent? = .ok g' ↔
      id ∈ g.nodeIds
        ∧ (∀ p, parent? = some p → g.HasContainer p ∧ p ≠ id ∧ ¬ Inside g p id)
        ∧ ofLists (g.nodes.map fun n => if n.id = id then { n with parent? } else n) g.edges
          = g' := by
  simp only [← checkParent_eq_ok_iff distinct exist, ← checkPlace_eq_ok_iff,
    ← position_isSome_iff, setParent]
  cases found : g.index.node[id]? with
  | none => simp
  | some i =>
    simp only [map_eq_ok_iff, Option.isSome_some, true_and,
      modify_findIdx?_eq_map distinct (nodePosition_eq g id ▸ found)]
    exact ⟨fun ⟨(), place⟩ => place, fun place => ⟨(), place⟩⟩

/-- **Changing a node** leaves what a change leaves alone in every node, and all edges. -/
theorem touch_ok {β : Type} {id : String} {t : Touch} (view : Node → β)
    (same : ∀ n, view (t.apply n) = view n) (h : g.touch id t = .ok g') :
    g'.nodes.map view = g.nodes.map view ∧ g'.edges = g.edges := by
  rw [touch] at h
  split at h
  · cases h
  · cases h
    exact ⟨map_modify_of_eq view t.apply same _ _, rfl⟩

/-- A node that exists can be changed. -/
theorem exists_touch_eq_ok {id : String} (known : g.contains id = true) (t : Touch) :
    ∃ g', g.touch id t = .ok g' := by
  rw [contains_iff_mem_nodeIds, ← position_isSome_iff] at known
  obtain ⟨i, found⟩ := Option.isSome_iff_exists.1 known
  exact ⟨g.touchAt i t, by rw [touch, found]⟩

/-- Changing a node leaves every other node as it was. -/
theorem node?_touch_of_ne {id other : String} {t : Touch} (h : g.touch id t = .ok g')
    (ne : other ≠ id) : g'.node? other = g.node? other := by
  rw [touch] at h
  split at h
  · cases h
  · next i found =>
    cases h
    rw [node?, node?, touchAt]
    cases there : g.index.node[other]? with
    | none => rfl
    | some j =>
      -- a position has one id
      have apart : i ≠ j := by
        rintro rfl
        rw [nodePosition_eq] at found there
        obtain ⟨_, here, -⟩ := List.findIdx?_eq_some_iff_getElem.1 found
        obtain ⟨_, elsewhere, -⟩ := List.findIdx?_eq_some_iff_getElem.1 there
        exact ne ((eq_of_beq elsewhere).symm.trans (eq_of_beq here))
      rw [Option.bind_some, Option.bind_some]
      exact List.getElem?_modify_ne t.apply g.nodes apart

/-- Changing a node is seen where the node is looked up. -/
theorem node?_touch_self {id : String} {t : Touch} (h : g.touch id t = .ok g') :
    g'.node? id = (g.node? id).map t.apply := by
  rw [touch] at h
  split at h
  · cases h
  · next i found =>
    cases h
    simp only [node?, touchAt, found, Option.bind_some, List.getElem?_modify_eq, Option.map_eq_map]

/-- Writing an entry is one change of a configuration. -/
theorem setConfig_ok {id key : String} {value : Value} {before : Option Value}
    (h : g.setConfig id key value = .ok (before, g')) :
    g.editConfig id (Fields.insert key value) = .ok g' := by
  obtain ⟨_, -, rest⟩ := bind_eq_ok_iff.1 h
  obtain ⟨_, edited, same⟩ := bind_eq_ok_iff.1 rest
  cases same
  exact edited

/-- Taking an entry out is one change of a configuration. -/
theorem removeConfig_ok {id key : String} {before : Option Value}
    (h : g.removeConfig id key = .ok (before, g')) :
    g.editConfig id (Fields.erase key) = .ok g' := by
  obtain ⟨_, -, rest⟩ := bind_eq_ok_iff.1 h
  obtain ⟨_, edited, same⟩ := bind_eq_ok_iff.1 rest
  cases same
  exact edited

/-- **Removing a node** that exists: with everything that stands in it, or after its children
have moved up to where it stood. -/
theorem removeNode_ok {id : String} {policy : RemovalPolicy} {removed : List Node}
    (h : g.removeNode id policy = .ok (removed, g')) :
    ∃ n, g.node? id = some n ∧ match policy with
      | .cascade => g' = without g.nodes g.edges (id :: g.descendants id)
      | .reparent => g' = without (liftChildren g.nodes id n.parent?) g.edges [id] := by
  unfold removeNode at h
  split at h
  · cases h
  · next n found => cases policy <;> cases h <;> exact ⟨n, found, rfl⟩

/-- The nodes and edges that stay when the nodes in `doomed` are removed. -/
theorem mem_without (nodes : List Node) (edges : List Edge) (doomed : List String) :
    (∀ n, n ∈ (without nodes edges doomed).nodes ↔ n ∈ nodes ∧ n.id ∉ doomed)
      ∧ ∀ e, e ∈ (without nodes edges doomed).edges ↔
        e ∈ edges ∧ e.source ∉ doomed ∧ e.target ∉ doomed := by
  simp [without, ofLists]

/-! ### Edges -/

/-- The ids of the edges, in the order of creation. -/
def edgeIds (g : Graph) : List String :=
  g.edges.map (·.id)

/-- The handles that are in use, each with its node. -/
def takenHandles (g : Graph) : List (String × Handle) :=
  g.edges.map fun e => (e.source, e.handle)

/-- The edges without their ids: where each starts, by which handle, and where it leads. -/
def links (g : Graph) : List (String × Handle × String) :=
  g.edges.map fun e => (e.source, e.handle, e.target)

/-- An edge is found exactly under the ids of edges. -/
theorem edge?_isSome_iff {id : String} : (g.edge? id).isSome = true ↔ id ∈ g.edgeIds := by
  simp [edge?_eq_find?, edgeIds, List.find?_isSome]

/-- A node goes on by a handle exactly if the handle is in use. -/
theorem outgoing?_isSome_iff {source : String} {handle : Handle} :
    (g.outgoing? source handle).isSome = true ↔ (source, handle) ∈ g.takenHandles := by
  simp [outgoing?_eq_find?, takenHandles, List.find?_isSome]

/-- **Adding an edge**: its ends must exist, and its handle and its id be free. -/
theorem addEdge_eq_ok_iff {e : Edge} :
    g.addEdge e = .ok g' ↔
      e.source ∈ g.nodeIds ∧ e.target ∈ g.nodeIds ∧ (e.source, e.handle) ∉ g.takenHandles
        ∧ e.id ∉ g.edgeIds ∧ g.appendEdge e = g' := by
  simp only [addEdge, Bool.not_eq_eq_eq_not, Bool.not_true, ← Bool.not_eq_true,
    contains_iff_mem_nodeIds, outgoing?_isSome_iff, edge?_isSome_iff]
  by_cases source : e.source ∈ g.nodeIds
  · by_cases target : e.target ∈ g.nodeIds
    · by_cases taken : (e.source, e.handle) ∈ g.takenHandles
      · simp [source, target, taken]
      · by_cases used : e.id ∈ g.edgeIds <;> simp [source, target, taken, used]
    · simp [source, target]
  · simp [source]

/-- Numbers are told apart by their decimals. -/
theorem natText_injective : Function.Injective Decimal.natText := by
  intro i j same
  have digits : Nat.toDigits 10 i = Nat.toDigits 10 j := by
    simpa [Decimal.natText, Decimal.natChars] using congrArg String.toList same
  have read := congrArg (fun ds => Nat.ofDigitChars 10 ds 0) digits
  simpa using read

/-- Different numbers give different ids. -/
theorem numberedId_injective (base : String) : Function.Injective (numberedId base) := by
  intro i j same
  rw [numberedId, numberedId] at same
  have chars := congrArg String.toList same
  simp only [String.toList_append] at chars
  exact natText_injective (String.toList_inj.1 (List.append_cancel_left chars))

/-- One of as many numbers as there are edges, and one more, is free. -/
theorem exists_free_number (g : Graph) (base : String) :
    ∃ k ∈ List.range (g.edges.length + 1), numberedId base (k + 2) ∉ g.edgeIds := by
  by_contra full
  have taken : ∀ k ∈ List.range (g.edges.length + 1), numberedId base (k + 2) ∈ g.edgeIds := by
    simpa using full
  let numbered := (List.range (g.edges.length + 1)).map fun k => numberedId base (k + 2)
  have distinct : numbered.Nodup := by
    refine List.nodup_range.map ?_
    intro i j same
    have := numberedId_injective base same
    omega
  have used : numbered ⊆ g.edgeIds := by
    intro id hid
    obtain ⟨k, hk, rfl⟩ := List.mem_map.1 hid
    exact taken k hk
  have fits := distinct.length_le_of_subset used
  simp only [numbered, List.length_map, List.length_range, edgeIds] at fits
  omega

/-- No edge is found under an id exactly if no edge has it. -/
theorem edge?_isNone_iff {id : String} : (g.edge? id).isNone = true ↔ id ∉ g.edgeIds := by
  rw [← edge?_isSome_iff, Option.isNone_iff_eq_none, Option.not_isSome_iff_eq_none]

/-- An id that no edge has is given as it is. -/
theorem freeEdgeId_of_not_mem {base : String} (free : base ∉ g.edgeIds) :
    g.freeEdgeId base = base := by
  rw [freeEdgeId, if_pos (edge?_isNone_iff.2 free)]

/-- **An id that an edge has is numbered** with the least number from two on that makes it free. -/
theorem exists_freeEdgeId_eq {base : String} (used : base ∈ g.edgeIds) :
    ∃ k, g.freeEdgeId base = numberedId base k ∧ 2 ≤ k ∧ numberedId base k ∉ g.edgeIds
      ∧ ∀ j, 2 ≤ j → j < k → numberedId base j ∈ g.edgeIds := by
  have found : ((List.range (g.edges.length + 1)).find? fun k =>
      (g.edge? (numberedId base (k + 2))).isNone).isSome = true := by
    simp only [List.find?_isSome, edge?_isNone_iff]
    exact g.exists_free_number base
  obtain ⟨k, least⟩ := Option.isSome_iff_exists.1 found
  have numbered : g.freeEdgeId base = numberedId base (k + 2) := by
    rw [freeEdgeId, if_neg fun free => edge?_isNone_iff.1 free used, least]
    rfl
  obtain ⟨free, -, below⟩ := List.find?_range_eq_some.1 least
  refine ⟨k + 2, numbered, Nat.le_add_left 2 k, edge?_isNone_iff.1 free, fun j two lower => ?_⟩
  obtain ⟨i, rfl⟩ := Nat.exists_eq_add_of_le' two
  have taken := below i (by omega)
  rw [Bool.not_eq_true', Option.isNone_eq_false_iff] at taken
  exact edge?_isSome_iff.1 taken

/-- The id of a new edge is not in use. -/
theorem freeEdgeId_not_mem (g : Graph) (base : String) : g.freeEdgeId base ∉ g.edgeIds := by
  by_cases used : base ∈ g.edgeIds
  · obtain ⟨k, numbered, -, free, -⟩ := exists_freeEdgeId_eq used
    rwa [numbered]
  · rwa [freeEdgeId_of_not_mem used]

/-- **Connecting two nodes**: they must exist and the handle be free; the id always is. -/
theorem connect_eq_ok_iff {source target id : String} {handle : Handle} :
    g.connect source target handle = .ok (id, g') ↔
      source ∈ g.nodeIds ∧ target ∈ g.nodeIds ∧ (source, handle) ∉ g.takenHandles
        ∧ g.freeEdgeId (Edge.canonicalId source handle target) = id
        ∧ g.appendEdge { id, source, target, handle } = g' := by
  rw [connect, map_eq_ok_iff]
  constructor
  · rintro ⟨g'', added, same⟩
    cases same
    obtain ⟨hs, ht, free, -, rfl⟩ := addEdge_eq_ok_iff.1 added
    exact ⟨hs, ht, free, rfl, rfl⟩
  · rintro ⟨hs, ht, free, rfl, rfl⟩
    exact ⟨_, addEdge_eq_ok_iff.2 ⟨hs, ht, free, g.freeEdgeId_not_mem _, rfl⟩, rfl⟩

/-- **Removing an edge** leaves the nodes and the other edges as they were. -/
theorem removeEdge_ok {id : String} {e : Edge} (h : g.removeEdge id = .ok (e, g')) :
    g'.nodes = g.nodes ∧ g'.edges.Sublist g.edges := by
  rw [removeEdge] at h
  split at h
  · cases h
  · split at h
    · cases h
    · cases h
      exact ⟨rfl, List.eraseIdx_sublist _ _⟩

end Workflow.Graph
