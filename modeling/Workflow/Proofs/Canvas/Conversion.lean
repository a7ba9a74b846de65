import Mathlib.Logic.Relation
import Workflow.Canvas
import Workflow.Proofs.Graph.Connection
import Workflow.Proofs.Graph.Parts

/-!
# Which drawings are converted

Every part of a drawing can be in order, and still the drawing is not converted. Edges are added in
the order in which they are drawn, and one that brings no id gets the first free one on the spot,
whatever ids are yet to come. If an edge behind it brings this very id, that edge is refused as the
second one with the id. Nothing else can go wrong, and this cannot if the edges that bring ids stand
in front of those that do not.

Which ids the edges get is told by a relation, `Named`, with a rule for the next edge. It looks at
ids alone, so that the nodes of the drawing have no say in it.

## Main results

* `WellDrawn.exists_ofParts`: the nodes of a drawing in order make a graph.
* `drawEdges_decided`: edges that fit a graph are all added, or the first clash of ids is reported.
* `WellDrawn.toGraph_cases`: the two ways in which a drawing in order can go.
* `toGraph_decided`: **which drawings in order are converted**, and what their edges are called.
* `wellDrawn_refused`: that a drawing is in order is not enough.
-/

namespace Workflow

/-- The name of the handle of a drawn edge; without one it is that of success. -/
def CanvasEdge.handleName (e : CanvasEdge) : String :=
  e.handle?.getD Handle.success.name

/-- The id a drawn edge gets by itself. -/
def CanvasEdge.canonicalId (e : CanvasEdge) : String :=
  e.source ++ "-" ++ e.handleName ++ "-" ++ e.target

namespace Canvas

open Workflow.Graph (IsFirstOutside)

variable {c : Canvas} {r : Registry} {g : Graph} {e : CanvasEdge} {edges rest : List CanvasEdge}
  {id : String} {taken ids : List String}

/-! ### Drawings in order -/

/-- A node is drawn directly in another one. -/
def StandsIn (c : Canvas) (inner outer : String) : Prop :=
  ∃ n ∈ c.nodes, n.id = inner ∧ n.parent? = some outer

/-- A drawing of which every part is in order. -/
structure WellDrawn (c : Canvas) (r : Registry) : Prop where
  /-- Types are registered, and a category that is stated is that of the type. -/
  typesKnown : ∀ n ∈ c.nodes, ∃ t, r.find? n.data.type = some t
    ∧ ∀ claimed, n.data.category? = some claimed → claimed = t.category
  /-- No id of a node is blank. -/
  nodeIdsVisible : ∀ n ∈ c.nodes, Text.isBlank n.id = false
  /-- No two nodes have the same id. -/
  nodeIdsDistinct : (c.nodes.map (·.id)).Nodup
  /-- What a node is drawn in is a container of the drawing. -/
  parentsContain : ∀ n ∈ c.nodes, ∀ p, n.parent? = some p →
    ∃ m ∈ c.nodes, m.id = p ∧ isContainer m.data.type = true
  /-- No node is drawn, directly or at some depth, in itself. -/
  acyclic : ∀ n ∈ c.nodes, ¬ Relation.TransGen c.StandsIn n.id n.id
  /-- A handle that is given is that of success or that of an error. -/
  handlesKnown : ∀ e ∈ c.edges, ∀ name, e.handle? = some name → name = "success" ∨ name = "error"
  /-- Both ends of an edge are nodes. -/
  edgesAttached : ∀ e ∈ c.edges,
    e.source ∈ c.nodes.map (·.id) ∧ e.target ∈ c.nodes.map (·.id)
  /-- No two edges leave the same node by the same handle. -/
  handlesDistinct : (c.edges.map fun e => (e.source, e.handleName)).Nodup
  /-- No two edges bring the same id. -/
  ownIdsDistinct : (c.edges.filterMap (·.id?)).Nodup

/-! ### The ids of edges -/

/-- The id that a drawn edge gets where some are taken: the one it brings, if that is not taken,
and without one the first of those that it gets by itself. -/
def Gets (taken : List String) (e : CanvasEdge) (id : String) : Prop :=
  e.id? = some id ∧ id ∉ taken ∨ e.id? = none ∧ IsFirstOutside taken e.canonicalId id

/-- The ids that drawn edges get one after the other, where some are taken at the start. -/
inductive Named : List String → List CanvasEdge → List String → Prop where
  /-- No edge is left. -/
  | done {taken : List String} : Named taken [] []
  /-- The id of the next edge is taken for those behind it. -/
  | next {taken ids : List String} {e : CanvasEdge} {rest : List CanvasEdge} {id : String} :
      Gets taken e id → Named (taken ++ [id]) rest ids → Named taken (e :: rest) (id :: ids)

/-- An edge brings an id that is taken when it is added. -/
def Clashes (taken : List String) (edges : List CanvasEdge) (id : String) : Prop :=
  ∃ before e after ids, edges = before ++ e :: after ∧ e.id? = some id
    ∧ Named taken before ids ∧ id ∈ taken ++ ids

/-- An edge brings an id that an edge drawn before it, which brings none, has got. -/
def Preempted (edges : List CanvasEdge) (id : String) : Prop :=
  ∃ before e after ids, edges = before ++ e :: after ∧ e.id? = some id ∧ Named [] before ids
    ∧ ∃ earlier, (earlier, id) ∈ before.zip ids ∧ earlier.id? = none

/-- An edge gets no two ids. -/
theorem Gets.unique {id' : String} (gets : Gets taken e id) (gets' : Gets taken e id') :
    id = id' := by
  rcases gets with ⟨own, -⟩ | ⟨without, first⟩ <;>
    rcases gets' with ⟨own', -⟩ | ⟨without', first'⟩
  · exact Option.some.inj (own.symm.trans own')
  · rw [own] at without'
    cases without'
  · rw [own'] at without
    cases without
  · exact first.unique first'

/-- Edges get no two lists of ids. -/
theorem Named.unique {ids' : List String} (named : Named taken edges ids)
    (named' : Named taken edges ids') : ids = ids' := by
  induction named generalizing ids' with
  | done =>
    cases named'
    rfl
  | next gets _ ih =>
    cases named' with
    | next gets' later' =>
      obtain rfl := gets.unique gets'
      rw [ih later']

/-- The ids of two lists of edges, the first of which comes first. -/
theorem Named.append_inv {before : List CanvasEdge} (named : Named taken (before ++ rest) ids) :
    ∃ first second, ids = first ++ second ∧ Named taken before first
      ∧ Named (taken ++ first) rest second := by
  induction before generalizing taken ids with
  | nil => exact ⟨[], ids, rfl, .done, by rwa [List.append_nil]⟩
  | cons e before ih =>
    cases named with
    | @next _ _ _ _ id gets later =>
      obtain ⟨first, second, rfl, named_first, named_second⟩ := ih later
      rw [List.append_assoc, List.singleton_append] at named_second
      exact ⟨id :: first, second, rfl, .next gets named_first, named_second⟩

/-- An id that edges get is got by one of them. -/
theorem Named.exists_of_mem (named : Named taken edges ids) (hid : id ∈ ids) :
    ∃ e known, (e, id) ∈ edges.zip ids ∧ Gets known e id := by
  induction named with
  | done => cases hid
  | @next taken _ e _ _ gets _ ih =>
    rcases List.mem_cons.1 hid with rfl | hid
    · exact ⟨e, taken, List.mem_cons_self, gets⟩
    · obtain ⟨e', known, listed, gets'⟩ := ih hid
      exact ⟨e', known, List.mem_cons_of_mem _ listed, gets'⟩

/-- **Edges that get ids do not clash.** -/
theorem Named.not_clashes (named : Named taken edges ids) (id : String) :
    ¬ Clashes taken edges id := by
  rintro ⟨before, e, after, given, rfl, own, named_before, used⟩
  obtain ⟨first, second, -, named_first, named_rest⟩ := named.append_inv
  obtain rfl := named_first.unique named_before
  cases named_rest with
  | next gets _ =>
    rcases gets with ⟨own', free⟩ | ⟨without, -⟩
    · rw [own, Option.some.injEq] at own'
      exact free (own' ▸ used)
    · rw [own] at without
      cases without

/-- A clash behind an edge is one of all edges. -/
theorem Clashes.cons (gets : Gets taken e id) {id' : String}
    (clash : Clashes (taken ++ [id]) rest id') : Clashes taken (e :: rest) id' := by
  obtain ⟨before, e', after, given, rfl, own, named, used⟩ := clash
  rw [List.append_assoc, List.singleton_append] at used
  exact ⟨e :: before, e', after, id :: given, rfl, own, .next gets named, used⟩

/-- If no two edges bring the same id, they clash exactly if an id has been given away. -/
theorem clashes_iff_preempted (distinct : (edges.filterMap (·.id?)).Nodup) :
    Clashes [] edges id ↔ Preempted edges id := by
  constructor
  · rintro ⟨before, e, after, given, rfl, own, named, used⟩
    obtain ⟨earlier, known, listed, gets⟩ := named.exists_of_mem (by simpa using used)
    refine ⟨before, e, after, given, rfl, own, named, earlier, listed, ?_⟩
    rcases gets with ⟨own', -⟩ | ⟨without, -⟩
    · -- two edges would bring the id
      have brought : id ∈ before.filterMap (·.id?) :=
        List.mem_filterMap.2 ⟨earlier, (List.of_mem_zip listed).1, own'⟩
      have again : id ∈ (e :: after).filterMap (·.id?) :=
        List.mem_filterMap.2 ⟨e, List.mem_cons_self, own⟩
      rw [List.filterMap_append, List.nodup_append] at distinct
      exact absurd rfl (distinct.2.2 id brought id again)
    · exact without
  · rintro ⟨before, e, after, given, rfl, own, named, earlier, listed, -⟩
    exact ⟨before, e, after, given, rfl, own, named, by simpa using (List.of_mem_zip listed).2⟩

/-- No id is given away if no edge that brings none stands in front of one that does. -/
theorem not_preempted_of_pairwise
    (in_front : edges.Pairwise fun a b => a.id? = none → b.id? = none) (id : String) :
    ¬ Preempted edges id := by
  rintro ⟨before, e, after, given, rfl, own, -, earlier, listed, without⟩
  have behind := (List.pairwise_append.1 in_front).2.2 earlier (List.of_mem_zip listed).1 e
    List.mem_cons_self without
  rw [own] at behind
  cases behind

/-! ### Nodes -/

/-- What a drawn node is read as has its id, its type, and its parent. -/
theorem nodeOf_ok {m : CanvasNode} {n : Node} (read : nodeOf r m = .ok n) :
    n.id = m.id ∧ n.type = m.data.type ∧ n.parent? = m.parent? := by
  rw [nodeOf] at read
  split at read
  · cases read
  · split at read
    · cases read
    · cases read
      exact ⟨rfl, rfl, rfl⟩

/-- A drawn node is read if its type is registered and no other category is stated. -/
theorem exists_nodeOf {m : CanvasNode} {t : Template} (found : r.find? m.data.type = some t)
    (agrees : ∀ claimed, m.data.category? = some claimed → claimed = t.category) :
    ∃ n, nodeOf r m = .ok n := by
  have none_else : m.data.category?.filter (· ≠ t.category) = none := by
    rw [Option.filter_eq_none_iff]
    intro claimed stated
    simpa using agrees claimed stated
  simp only [nodeOf, found, none_else, Except.ok.injEq, exists_eq']

/-- What stands in something in a graph of drawn nodes is drawn in it. -/
theorem transGen_of_inside {nodes : List Node} {inner outer : String}
    (read : List.Forall₂ (fun m n => nodeOf r m = .ok n) c.nodes nodes)
    (inside : Graph.Inside (.ofLists nodes []) inner outer) :
    Relation.TransGen c.StandsIn inner outer := by
  have drawn : ∀ n ∈ nodes, ∀ p, n.parent? = some p → c.StandsIn n.id p := by
    intro n hn p hp
    obtain ⟨m, hm, of_node⟩ := exists_of_mem_right read hn
    obtain ⟨same, -, parent⟩ := nodeOf_ok of_node
    exact ⟨m, hm, same.symm, parent ▸ hp⟩
  induction inside with
  | step hn hp => exact .single (drawn _ hn _ hp)
  | trans hn hp _ ih => exact .head (drawn _ hn _ hp) ih

/-- The nodes of a drawing in order are those of a well-formed graph. -/
theorem WellDrawn.wellFormed_nodes (drawn : c.WellDrawn r) {nodes : List Node}
    (read : List.Forall₂ (fun m n => nodeOf r m = .ok n) c.nodes nodes)
    (same_ids : nodes.map (·.id) = c.nodes.map (·.id)) :
    (Graph.ofLists nodes []).WellFormed := by
  have distinct : (nodes.map (·.id)).Nodup := same_ids ▸ drawn.nodeIdsDistinct
  have contain : ∀ n ∈ nodes, ∀ p, n.parent? = some p →
      ∃ m ∈ nodes, m.id = p ∧ isContainer m.type = true := by
    intro n hn p hp
    obtain ⟨m, hm, of_node⟩ := exists_of_mem_right read hn
    obtain ⟨k, hk, rfl, holds⟩ := drawn.parentsContain m hm p ((nodeOf_ok of_node).2.2 ▸ hp)
    obtain ⟨n', hn', of_parent⟩ := exists_of_mem_right read.flip hk
    obtain ⟨same, type, -⟩ := nodeOf_ok of_parent
    exact ⟨n', hn', same, type ▸ holds⟩
  have exist : (Graph.ofLists nodes []).ParentsExist := by
    intro n hn p hp
    obtain ⟨m, hm, rfl, -⟩ := contain n hn p hp
    exact List.mem_map_of_mem hm
  have acyclic : ∀ n ∈ nodes, ¬ Graph.Inside (.ofLists nodes []) n.id n.id := by
    intro n hn loop
    obtain ⟨m, hm, of_node⟩ := exists_of_mem_right read hn
    have drawn_loop := transGen_of_inside read loop
    rw [(nodeOf_ok of_node).1] at drawn_loop
    exact drawn.acyclic m hm drawn_loop
  exact
    { nodeIdsVisible := by
        intro n hn
        obtain ⟨m, hm, of_node⟩ := exists_of_mem_right read hn
        rw [(nodeOf_ok of_node).1]
        exact drawn.nodeIdsVisible m hm
      nodeIdsDistinct := distinct
      edgeIdsDistinct := List.nodup_nil
      edgesAttached := by rintro e ⟨⟩
      handlesDistinct := List.nodup_nil
      parentsContain := contain
      rooted := fun _ hn =>
        Graph.rooted_of_acyclic (g := .ofLists nodes []) distinct exist acyclic hn }

/-- **The nodes of a drawing in order make a graph**, which has no edges yet. -/
theorem WellDrawn.exists_ofParts (drawn : c.WellDrawn r) :
    ∃ nodes g, c.nodes.mapM (nodeOf r) = .ok nodes ∧ Graph.ofParts nodes [] = .ok g
      ∧ g.nodeIds.Perm (c.nodes.map (·.id)) ∧ g.edges = [] := by
  obtain ⟨nodes, flat⟩ := exists_mapM_eq_ok fun m hm =>
    let ⟨_, found, agrees⟩ := drawn.typesKnown m hm
    exists_nodeOf found agrees
  have read := mapM_eq_ok_iff.1 flat
  have same_ids : nodes.map (·.id) = c.nodes.map (·.id) := by
    have matched : List.Forall₂ (fun m n => m.id = n.id) c.nodes nodes :=
      read.imp fun _ _ of_node => (nodeOf_ok of_node).1.symm
    have mapped := List.forall₂_map_left_iff.2 (List.forall₂_map_right_iff.2 matched)
    rw [List.forall₂_eq_eq_eq] at mapped
    exact mapped.symm
  obtain ⟨g, built⟩ := (drawn.wellFormed_nodes read same_ids).exists_ofParts
  obtain ⟨-, perm, edges⟩ := Graph.ofParts_ok built
  exact ⟨nodes, g, flat, built, same_ids ▸ perm.map _, edges⟩

/-! ### Edges -/

/-- Drawn edges that fit a graph, their ids apart. -/
structure EdgesFit (g : Graph) (edges : List CanvasEdge) : Prop where
  /-- Handles are known. -/
  handles : ∀ e ∈ edges, ∀ name, e.handle? = some name → name = "success" ∨ name = "error"
  /-- Ends are nodes. -/
  ends : ∀ e ∈ edges, e.source ∈ g.nodeIds ∧ e.target ∈ g.nodeIds
  /-- No handle is used twice. -/
  free : (g.edges.map (fun e => (e.source, e.handle.name))
    ++ edges.map fun e => (e.source, e.handleName)).Nodup

/-- A handle is read exactly if it has the name that is given. -/
theorem handleOf_eq_ok_iff {handle : Handle} :
    handleOf e = .ok handle ↔ handle.name = e.handleName := by
  rw [handleOf, CanvasEdge.handleName]
  cases e.handle? with
  | none => cases handle <;> simp [Handle.name]
  | some name =>
    simp only [Option.getD_some, ← Handle.ofName?_eq_some_iff]
    cases Handle.ofName? name <;> simp

/-- An edge is refused for its id alone if all else about it is right. -/
theorem addEdge_eq_duplicateEdgeId {new : Edge}
    (ends : new.source ∈ g.nodeIds ∧ new.target ∈ g.nodeIds)
    (free : (new.source, new.handle) ∉ g.takenHandles) (used : new.id ∈ g.edgeIds) :
    g.addEdge new = .error (.duplicateEdgeId new.id) := by
  rw [← Graph.outgoing?_isSome_iff] at free
  rw [← Graph.contains_iff_mem_nodeIds, ← Graph.contains_iff_mem_nodeIds] at ends
  simp [Graph.addEdge, ends, free, Graph.edge?_isSome_iff.2 used]

/-- **What becomes of the next edge**: it gets an id and is added, and the edges behind it still
fit, or it brings an id that is in use and is refused for it. -/
theorem EdgesFit.drawEdge (fit : EdgesFit g (e :: rest)) :
    (∃ id handle, Gets g.edgeIds e id ∧ handle.name = e.handleName
        ∧ Canvas.drawEdge g e = .ok (g.appendEdge ⟨id, e.source, e.target, handle⟩)
        ∧ EdgesFit (g.appendEdge ⟨id, e.source, e.target, handle⟩) rest)
      ∨ ∃ id, e.id? = some id ∧ id ∈ g.edgeIds
        ∧ Canvas.drawEdge g e = .error (.graph (.duplicateEdgeId id)) := by
  obtain ⟨source, target⟩ := fit.ends e List.mem_cons_self
  obtain ⟨handle, named⟩ : ∃ handle : Handle, handle.name = e.handleName := by
    rw [CanvasEdge.handleName]
    cases given : e.handle? with
    | none => exact ⟨.success, rfl⟩
    | some name =>
      rcases fit.handles e List.mem_cons_self name given with rfl | rfl
      · exact ⟨.success, rfl⟩
      · exact ⟨.error, rfl⟩
  have free : (e.source, handle) ∉ g.takenHandles := by
    intro taken
    obtain ⟨old, hold, same⟩ := List.mem_map.1 taken
    rw [Prod.mk.injEq] at same
    refine (List.nodup_append.1 fit.free).2.2 _ (List.mem_map_of_mem hold) _ List.mem_cons_self ?_
    rw [same.1, same.2, named]
  have later : ∀ id, EdgesFit (g.appendEdge ⟨id, e.source, e.target, handle⟩) rest := fun id =>
    { handles := fun e' he' => fit.handles e' (List.mem_cons_of_mem _ he')
      ends := fun e' he' => fit.ends e' (List.mem_cons_of_mem _ he')
      free := by simpa [named] using fit.free }
  have read := handleOf_eq_ok_iff.2 named
  cases own : e.id? with
  | none =>
    have canonical : Edge.canonicalId e.source handle e.target = e.canonicalId := by
      rw [Edge.canonicalId, named, CanvasEdge.canonicalId]
    have connected := Graph.connect_eq_ok_iff.2 ⟨source, target, free, rfl, rfl⟩
    refine .inl ⟨g.freeEdgeId e.canonicalId, handle,
      .inr ⟨own, g.isFirstFree_freeEdgeId e.canonicalId⟩, named, ?_, later _⟩
    rw [Canvas.drawEdge, read, own]
    show ((g.connect e.source e.target handle).map (·.2)).mapError ConversionError.graph = _
    rw [connected, canonical]
    rfl
  | some id =>
    have drawn : Canvas.drawEdge g e
        = (g.addEdge ⟨id, e.source, e.target, handle⟩).mapError .graph := by
      rw [Canvas.drawEdge, read, own]
      rfl
    by_cases used : id ∈ g.edgeIds
    · refine .inr ⟨id, rfl, used, ?_⟩
      rw [drawn, addEdge_eq_duplicateEdgeId ⟨source, target⟩ free used]
      rfl
    · refine .inl ⟨id, handle, .inl ⟨own, used⟩, named, ?_, later id⟩
      rw [drawn, Graph.addEdge_eq_ok_iff.2 ⟨source, target, free, used, rfl⟩]
      rfl

/-- **Edges that fit a graph are all added**, and get ids in turn, or the first clash of their ids
is reported. The induction is on the edges, and adding one leaves those behind it fit. -/
theorem drawEdges_decided (fit : EdgesFit g edges) :
    (∃ g' ids, drawEdges g edges = .ok g' ∧ Named g.edgeIds edges ids
        ∧ g'.edgeIds = g.edgeIds ++ ids
        ∧ g'.edges.map (fun e => (e.source, e.handle.name, e.target))
          = g.edges.map (fun e => (e.source, e.handle.name, e.target))
            ++ edges.map fun e => (e.source, e.handleName, e.target))
      ∨ ∃ id, Clashes g.edgeIds edges id
        ∧ drawEdges g edges = .error (.graph (.duplicateEdgeId id)) := by
  induction edges generalizing g with
  | nil => exact .inl ⟨g, [], rfl, .done, by simp, by simp⟩
  | cons e rest ih =>
    rcases fit.drawEdge with ⟨id, handle, gets, named, here, later⟩ | ⟨id, own, used, refused⟩
    · have known : (g.appendEdge ⟨id, e.source, e.target, handle⟩).edgeIds = g.edgeIds ++ [id] := by
        simp [Graph.edgeIds]
      rw [drawEdges, here]
      rcases ih later with ⟨g', ids, done, names, all_ids, all_links⟩ | ⟨id', clash, refused⟩
      · rw [known] at names all_ids
        exact .inl ⟨g', id :: ids, done, .next gets names, by simpa using all_ids,
          by simpa [named] using all_links⟩
      · rw [known] at clash
        exact .inr ⟨id', clash.cons gets, refused⟩
    · rw [drawEdges, refused]
      exact .inr ⟨id, ⟨[], e, rest, [], rfl, own, .done, by simpa using used⟩, rfl⟩

/-! ### Drawings -/

/-- What becomes of a drawing in order: its edges are all added, each with the id it gets in its
turn, or an id that has been given away is reported. -/
theorem WellDrawn.toGraph_cases (drawn : c.WellDrawn r) :
    (∃ g, c.toGraph r = .ok g ∧ Named [] c.edges g.edgeIds
        ∧ g.edges.map (fun e => (e.source, e.handle.name, e.target))
          = c.edges.map fun e => (e.source, e.handleName, e.target))
      ∨ ∃ id, Preempted c.edges id ∧ c.toGraph r = .error (.graph (.duplicateEdgeId id)) := by
  obtain ⟨nodes, placed, flat, built, known, none_yet⟩ := drawn.exists_ofParts
  have whole : c.toGraph r = drawEdges placed c.edges := by
    rw [toGraph, flat]
    show ((Graph.ofParts nodes []).mapError ConversionError.graph >>= fun g => _) = _
    rw [built]
    rfl
  have no_ids : placed.edgeIds = [] := by rw [Graph.edgeIds, none_yet, List.map_nil]
  have fit : EdgesFit placed c.edges :=
    { handles := drawn.handlesKnown
      ends := fun e he => by
        obtain ⟨source, target⟩ := drawn.edgesAttached e he
        exact ⟨known.mem_iff.2 source, known.mem_iff.2 target⟩
      free := by simpa [none_yet] using drawn.handlesDistinct }
  rw [whole]
  rcases drawEdges_decided fit with ⟨g, ids, done, names, all_ids, links⟩ | ⟨id, clash, refused⟩
  · rw [no_ids, List.nil_append] at all_ids
    rw [none_yet, List.map_nil, List.nil_append] at links
    exact .inl ⟨g, done, all_ids ▸ no_ids ▸ names, links⟩
  · rw [no_ids] at clash
    exact .inr ⟨id, (clashes_iff_preempted drawn.ownIdsDistinct).1 clash, refused⟩

/-- **Which drawings in order are converted.** A drawing of which every part is in order is
converted exactly if no edge brings an id that an edge drawn before it, which brings none, has got.
If it is not, such an id is reported as a duplicate. If it is, its edges lead as they are drawn, and
each has the id it brings, or without one the first that was free in its turn. So a drawing is
converted whenever no edge that brings no id is drawn before one that does. -/
theorem toGraph_decided (drawn : c.WellDrawn r) :
    ((∃ g, c.toGraph r = .ok g) ↔ ∀ id, ¬ Preempted c.edges id)
      ∧ (∀ fault, c.toGraph r = .error fault →
        ∃ id, Preempted c.edges id ∧ fault = .graph (.duplicateEdgeId id))
      ∧ (∀ g, c.toGraph r = .ok g → Named [] c.edges g.edgeIds
        ∧ g.edges.map (fun e => (e.source, e.handle.name, e.target))
          = c.edges.map fun e => (e.source, e.handleName, e.target))
      ∧ (c.edges.Pairwise (fun a b => a.id? = none → b.id? = none) →
        ∃ g, c.toGraph r = .ok g) := by
  rcases drawn.toGraph_cases with ⟨g, done, names, links⟩ | ⟨id, given_away, refused⟩
  · have never : ∀ id, ¬ Preempted c.edges id := fun id given_away =>
      names.not_clashes id ((clashes_iff_preempted drawn.ownIdsDistinct).2 given_away)
    refine ⟨⟨fun _ => never, fun _ => ⟨g, done⟩⟩, ?_, ?_, fun _ => ⟨g, done⟩⟩
    · intro fault refused
      rw [done] at refused
      cases refused
    · intro g' done'
      rw [done] at done'
      cases done'
      exact ⟨names, links⟩
  · have not_done : ¬ ∃ g, c.toGraph r = .ok g := by
      rintro ⟨g, done⟩
      rw [refused] at done
      cases done
    refine ⟨⟨fun done => absurd done not_done, fun never => absurd given_away (never id)⟩, ?_, ?_,
      fun in_front => absurd given_away (not_preempted_of_pairwise in_front id)⟩
    · intro fault refused'
      rw [refused] at refused'
      cases refused'
      exact ⟨id, given_away, rfl⟩
    · exact fun g done => absurd ⟨g, done⟩ not_done

/-- Two steps, the first of them in a container that is drawn behind it, and edges between them. -/
def stepsDrawing (edges : List CanvasEdge) : Canvas :=
  { nodes :=
      [{ id := "a", parent? := some "box", data := { type := "logging.log", label := "A" } },
        { id := "box", data := { type := "control.parallel", category? := some .control } },
        { id := "b", data := { type := "logging.log" } }],
    edges }

/-- An edge that brings an id, and one behind it that would get this id by itself. -/
def broughtFirst : List CanvasEdge :=
  [{ id? := some "a-success-b", source := "a", target := "b", handle? := some "error" },
    { source := "a", target := "b" }]

/-- The drawing of the two steps is in order if its edges are. -/
theorem wellDrawn_stepsDrawing
    (known : ∀ e ∈ edges, ∀ name, e.handle? = some name → name = "success" ∨ name = "error")
    (attached : ∀ e ∈ edges, e.source ∈ ["a", "box", "b"] ∧ e.target ∈ ["a", "box", "b"])
    (handles : (edges.map fun e => (e.source, e.handleName)).Nodup)
    (own : (edges.filterMap (·.id?)).Nodup) : (stepsDrawing edges).WellDrawn .builtin := by
  have inner : ∀ a b, (stepsDrawing edges).StandsIn a b → a = "a" ∧ b = "box" := by
    rintro a b ⟨n, hn, rfl, hp⟩
    simp only [stepsDrawing, List.mem_cons, List.not_mem_nil, or_false] at hn
    rcases hn with rfl | rfl | rfl <;> cases hp
    exact ⟨rfl, rfl⟩
  have inside : ∀ a b, Relation.TransGen (stepsDrawing edges).StandsIn a b →
      a = "a" ∧ b = "box" := by
    intro a b chain
    induction chain with
    | single stands => exact inner _ _ stands
    | tail _ stands ih => exact ⟨ih.1, (inner _ _ stands).2⟩
  have types : ∀ n ∈ (stepsDrawing []).nodes, (Registry.builtin.find? n.data.type).any (fun t =>
      n.data.category?.all (· == t.category)) = true := by decide +kernel
  exact
    { typesKnown := by
        intro n hn
        have checked := types n hn
        cases found : Registry.builtin.find? n.data.type with
        | none =>
          rw [found] at checked
          cases checked
        | some t =>
          rw [found, Option.any_some, Option.all_eq_true] at checked
          exact ⟨t, rfl, fun claimed stated => eq_of_beq (checked claimed stated)⟩
      nodeIdsVisible := by
        show ∀ n ∈ (stepsDrawing []).nodes, Text.isBlank n.id = false
        decide +kernel
      nodeIdsDistinct := by
        show ((stepsDrawing []).nodes.map (·.id)).Nodup
        decide +kernel
      parentsContain := by
        intro n hn p hp
        obtain ⟨-, rfl⟩ := inner n.id p ⟨n, hn, rfl, hp⟩
        exact ⟨_, List.mem_cons_of_mem _ List.mem_cons_self, rfl, by decide +kernel⟩
      acyclic := by
        intro n _ loop
        obtain ⟨here, there⟩ := inside _ _ loop
        rw [here] at there
        exact absurd there (by decide)
      handlesKnown := known
      edgesAttached := attached
      handlesDistinct := handles
      ownIdsDistinct := own }

/-- An edge that brings an id and one behind it that gets it by itself: the latter gets another
one, as `toGraph_decided` says. -/
theorem toGraph_decided_stepsDrawing :
    (stepsDrawing broughtFirst).WellDrawn .builtin ∧
      ∃ g, (stepsDrawing broughtFirst).toGraph .builtin = .ok g
        ∧ g.edgeIds = ["a-success-b", "a-success-b-2"] := by
  have drawn : (stepsDrawing broughtFirst).WellDrawn .builtin :=
    wellDrawn_stepsDrawing (by decide) (by decide) (by decide) (by decide)
  obtain ⟨-, -, given, converted⟩ := toGraph_decided drawn
  obtain ⟨g, done⟩ := converted (by decide)
  have second : IsFirstOutside ["a-success-b"] "a-success-b" "a-success-b-2" :=
    .inr ⟨by decide, 2, ⟨⟨le_rfl, by decide⟩, fun _ later => later.1⟩, by decide⟩
  have names : Named [] broughtFirst ["a-success-b", "a-success-b-2"] :=
    .next (.inl ⟨rfl, by decide⟩) (.next (.inr ⟨rfl, second⟩) .done)
  exact ⟨drawn, g, done, (given g done).1.unique names⟩

/-- **A drawing in order is refused**: an edge that brings no id gets the one that the edge behind
it brings. -/
theorem wellDrawn_refused :
    ¬ ∀ (c : Canvas) (r : Registry), c.WellDrawn r → ∃ g, c.toGraph r = .ok g := by
  intro always
  have drawn : (stepsDrawing broughtFirst.reverse).WellDrawn .builtin :=
    wellDrawn_stepsDrawing (by decide) (by decide) (by decide) (by decide)
  have refused : ((stepsDrawing broughtFirst.reverse).toGraph .builtin).toBool
      = false := by decide +kernel
  obtain ⟨g, done⟩ := always _ _ drawn
  rw [done] at refused
  cases refused

end Canvas

end Workflow
