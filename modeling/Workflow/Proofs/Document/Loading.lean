import Workflow.Load
import Workflow.Proofs.Document.Valid
import Workflow.Proofs.Graph.Placement

/-!
# Loading valid documents

A document that has passed the check is taken apart and put together again as a graph, and
none of the steps can fail. Its nodes are placed in one pass, because a pre-order lists a
container before what stands in it. Its outputs are connected one after the other, because
the nodes exist, every pair of a node and a handle occurs once, and the ids of edges are
chosen so that they are free.

## Main results

* `placeable_of_parentsFirst`: the nodes of a document can be placed one after the other.
* `connectAll_ok`: links between nodes with distinct handles are all connected.
* `Valid.load_ok`: a valid document is loaded as its own graph.
* `load_decided_by_check`: **a document is loaded exactly if nothing is wrong with it**, and then as
  its own graph; otherwise everything that is wrong with it is reported.
-/

namespace Workflow

namespace Document

variable {d : Document} {r : Registry} {maxDepth : Nat} {g g' : Graph}

/-! ### The graph of a document -/

/-- The node of a graph that is a block of a document with what it stands in. -/
structure IsNodeOf (r : Registry) (placed : Block × Option Block) (n : Node) : Prop where
  id : n.id = placed.1.id
  type : n.type = placed.1.type
  label : n.label = placed.1.label
  config : n.config = placed.1.config
  position : n.position = placed.1.position
  description : n.description? = placed.1.description?
  /-- The parent is what the block stands in. -/
  parent : n.parent? = placed.2.map Block.id
  /-- The category is that of the type. -/
  category : ∃ t, r.find? placed.1.type = some t ∧ n.category = t.category

/-- The ways in which the nodes of a document go on: source, handle and target. -/
def links (d : Document) : List (String × Handle × String) :=
  (Tree.forestPreorder d.nodes).flatMap fun t => t.value.links

/-- The graph that a document describes: its nodes in pre-order, and its outputs as edges. -/
structure IsGraphOf (r : Registry) (d : Document) (g : Graph) : Prop where
  /-- The nodes are those of the document in pre-order, each under what it stands in. -/
  nodes : List.Forall₂ (IsNodeOf r) (Tree.forestPlaced none d.nodes) g.nodes
  /-- The edges are the outputs that lead to a node, in order. -/
  links : g.links = d.links
  /-- The graph is well formed. -/
  wellFormed : g.WellFormed

/-- A block becomes the node that it is, if its type is registered. -/
theorem nodeOf_eq_ok_iff {b : Block} {parent? : Option Block} {n : Node} :
    nodeOf r b parent? = .ok n ↔ IsNodeOf r (b, parent?) n := by
  rw [nodeOf]
  constructor
  · intro h
    split at h
    · cases h
    · next t found =>
      cases h
      exact ⟨rfl, rfl, rfl, rfl, rfl, rfl, rfl, t, found, rfl⟩
  · obtain ⟨id, type, label, config, category, position, parent, description⟩ := n
    rintro ⟨rfl, rfl, rfl, rfl, rfl, rfl, rfl, t, found, rfl⟩
    simp only at found
    rw [found]

/-- What can be seen of nodes of blocks is what can be seen of the blocks. -/
theorem map_of_isNodeOf {β : Type} {view : Node → β} {look : Block → β} {nodes : List Node}
    (same : ∀ b parent? n, IsNodeOf r (b, parent?) n → view n = look b)
    (h : List.Forall₂ (IsNodeOf r) (Tree.forestPlaced none d.nodes) nodes) :
    nodes.map view = (Tree.forestPreorder d.nodes).map fun t => look t.value := by
  have blocks : nodes.map view = (Tree.forestPlaced none d.nodes).map (look ·.1) := by
    generalize Tree.forestPlaced none d.nodes = entries at h
    induction h with
    | nil => rfl
    | cons here _ ih => rw [List.map_cons, List.map_cons, same _ _ _ here, ih]
  have values := congrArg (List.map look) (Tree.forestPlaced_fst none d.nodes)
  rw [List.map_map, List.map_map] at values
  exact blocks.trans values

/-- Nodes of the blocks of a document have the ids of the document. -/
theorem map_id_of_isNodeOf {nodes : List Node}
    (h : List.Forall₂ (IsNodeOf r) (Tree.forestPlaced none d.nodes) nodes) :
    nodes.map (·.id) = d.nodeIds :=
  map_of_isNodeOf (fun _ _ _ here => here.id) h

/-! ### Taking a document apart -/

/-- Every value of a placement is the value of a tree, and what it stands in that of a tree
with children. -/
theorem exists_of_mem_forestPlaced {e : Block × Option Block}
    (he : e ∈ Tree.forestPlaced none d.nodes) :
    (∃ t ∈ Tree.forestPreorder d.nodes, t.value = e.1)
      ∧ ∀ p, e.2 = some p → ∃ s ∈ Tree.forestPreorder d.nodes, s.value = p ∧ s.children ≠ [] := by
  constructor
  · have listed := List.mem_map_of_mem (f := (·.1)) he
    rw [Tree.forestPlaced_fst] at listed
    exact List.mem_map.1 listed
  · rintro p hp
    rcases (Tree.mem_forestPlaced_iff _).1 he with ⟨t, -, rfl⟩ | ⟨s, hs, c, hc, rfl⟩
    · cases hp
    · cases hp
      exact ⟨s, hs, rfl, List.ne_nil_of_mem hc⟩

/-- What trees of blocks are taken apart into, if nothing is wrong with them. They are given by
their placement and their pre-order. -/
structure TakenApart (r : Registry) (placed : List (Block × Option Block))
    (trees : List (Tree Block)) (flat : Flat) : Prop where
  /-- The nodes are those of the blocks, each under what it stands in. -/
  nodes : List.Forall₂ (IsNodeOf r) placed flat.nodes
  /-- The links are the outputs that lead to a node, in order. -/
  links : flat.links = trees.flatMap fun t => t.value.links
  /-- Nothing is wrong. -/
  errors : flat.errors = []

/-- Some blocks may be taken apart, and then others. -/
theorem TakenApart.append {placed later : List (Block × Option Block)}
    {trees others : List (Tree Block)} {flat flat' : Flat} (apart : TakenApart r placed trees flat)
    (apart' : TakenApart r later others flat') :
    TakenApart r (placed ++ later) (trees ++ others) (flat.append flat') where
  nodes := List.rel_append apart.nodes apart'.nodes
  links := by rw [Flat.append, apart.links, apart'.links, List.flatMap_append]
  errors := by rw [Flat.append, apart.errors, apart'.errors, List.append_nil]

/-- **Blocks are taken apart** with all that stands in them, if their types are registered. -/
theorem takenApart_ofForest {parent? : Option Block} (ts : List (Tree Block))
    (registered : ∀ s ∈ Tree.forestPreorder ts, r.contains s.value.type = true) :
    TakenApart r (Tree.forestPlaced parent? ts) (Tree.forestPreorder ts)
      (Flat.ofForest r parent? ts) := by
  induction ts using Tree.forestInduction generalizing parent? with
  | nil => exact ⟨.nil, rfl, rfl⟩
  | cons b inside rest below beside =>
    obtain ⟨here, others⟩ := List.forall_mem_cons.1 registered
    obtain ⟨inner, later⟩ := List.forall_mem_append.1 others
    obtain ⟨tmpl, found⟩ := Option.isSome_iff_exists.1 here
    obtain ⟨n, node⟩ : ∃ n, nodeOf r b parent? = .ok n := by
      rw [Tree.value] at found
      simp [nodeOf, found]
    have first : TakenApart r [(b, parent?)] [.node b inside]
        { nodes := [n], links := b.links } :=
      ⟨.cons (nodeOf_eq_ok_iff.1 node) .nil, (List.append_nil _).symm, rfl⟩
    rw [Flat.ofForest, Flat.ofTree, node]
    exact (first.append (below inner)).append (beside later)

/-- **A valid document is taken apart** into its nodes and links. -/
theorem Valid.flatten_ok (valid : d.Valid r maxDepth) :
    ∃ flat, d.flatten r = .ok flat
      ∧ List.Forall₂ (IsNodeOf r) (Tree.forestPlaced none d.nodes) flat.nodes
      ∧ flat.links = d.links := by
  obtain ⟨nodes, links, errors⟩ :
      TakenApart r (Tree.forestPlaced none d.nodes) (Tree.forestPreorder d.nodes)
        (Flat.ofForest r none d.nodes) := takenApart_ofForest d.nodes valid.registered
  refine ⟨Flat.ofForest r none d.nodes, ?_, nodes, links⟩
  simp only [flatten, errors]

/-! ### Placing nodes -/

/-- **Nodes of blocks that come after what they stand in can be placed one after the other**, if
their ids are visible and new and what holds a block is a container. -/
theorem placeable_of_parentsFirst {blocks : List Block} {known : List Node}
    {entries : List (Block × Option Block)} {nodes : List Node}
    (first : Tree.ParentsFirst blocks entries)
    (same : List.Forall₂ (IsNodeOf r) entries nodes)
    (there : ∀ b ∈ blocks, ∃ m ∈ known, m.id = b.id ∧ m.type = b.type)
    (contain : ∀ e ∈ entries, ∀ p, e.2 = some p → isContainer p.type = true)
    (visible : ∀ n ∈ nodes, Text.isBlank n.id = false)
    (distinct : ((known ++ nodes).map (·.id)).Nodup) : Graph.Placeable known nodes := by
  induction first generalizing known nodes with
  | nil =>
    cases same
    trivial
  | @cons blocks v parent? rest stands _ ih =>
    rcases same with - | ⟨here, later⟩
    next n ns =>
    refine ⟨visible n List.mem_cons_self, ?_, ?_, ?_⟩
    · intro old
      rw [List.map_append, List.nodup_append] at distinct
      exact distinct.2.2 _ old _ List.mem_cons_self rfl
    · -- what the node stands in is known, so that its node is there
      intro p hp
      obtain ⟨b, hb, rfl⟩ := Option.map_eq_some_iff.1 (here.parent ▸ hp)
      obtain ⟨m, hm, hid, htype⟩ := there b (stands b hb)
      exact ⟨m, hm, hid, htype ▸ contain _ List.mem_cons_self b hb⟩
    · refine ih later ?_ (fun e he => contain e (List.mem_cons_of_mem _ he))
        (fun m hm => visible m (List.mem_cons_of_mem _ hm))
        (by rwa [List.append_assoc, List.singleton_append])
      intro b hb
      rcases List.mem_cons.1 hb with rfl | hb
      · exact ⟨n, List.mem_append_right _ List.mem_cons_self, here.id, here.type⟩
      · obtain ⟨m, hm, named⟩ := there b hb
        exact ⟨m, List.mem_append_left _ hm, named⟩

/-- The nodes of a valid document make a graph. -/
theorem Valid.ofParts_ok (valid : d.Valid r maxDepth) {nodes : List Node}
    (same : List.Forall₂ (IsNodeOf r) (Tree.forestPlaced none d.nodes) nodes) :
    ∃ g, Graph.ofParts nodes [] = .ok g ∧ g.nodes = nodes ∧ g.edges = [] := by
  have ids : nodes.map (·.id) = d.nodeIds := map_id_of_isNodeOf same
  have visible : ∀ n ∈ nodes, Text.isBlank n.id = false := by
    intro n hn
    obtain ⟨t, ht, hid⟩ := List.mem_map.1 (ids ▸ List.mem_map_of_mem hn)
    exact hid ▸ valid.visible t ht
  have contain : ∀ e ∈ Tree.forestPlaced none d.nodes, ∀ p, e.2 = some p →
      isContainer p.type = true := by
    intro e he p hp
    obtain ⟨s, hs, rfl, holds⟩ := (exists_of_mem_forestPlaced he).2 p hp
    exact valid.contain s hs holds
  have first : Tree.ParentsFirst [] (Tree.forestPlaced none d.nodes) :=
    Tree.forestPlaced_parentsFirst (by simp) d.nodes
  have placeable : Graph.Placeable [] nodes :=
    placeable_of_parentsFirst first same (by simp) contain visible
      (by rw [List.nil_append, ids]; exact valid.distinct)
  obtain ⟨g, placed, built⟩ := Graph.placeAll_of_placeable placeable
  refine ⟨g, ?_, built⟩
  rw [Graph.ofParts, placed]
  rfl

/-! ### Connecting nodes -/

/-- A document links a node by a handle to another exactly if the block says so. -/
theorem mem_links_iff {source target : String} {handle : Handle} :
    (source, handle, target) ∈ d.links ↔
      ∃ t ∈ Tree.forestPreorder d.nodes,
        t.value.id = source ∧ t.value.outputs.get handle = .node target := by
  simp only [links, Block.links, List.mem_flatMap, List.mem_filterMap, Option.map_eq_some_iff,
    Target.nodeId?_eq_some_iff, Prod.mk.injEq]
  constructor
  · rintro ⟨t, ht, h, -, x, hx, rfl, rfl, rfl⟩
    exact ⟨t, ht, rfl, hx⟩
  · rintro ⟨t, ht, rfl, hx⟩
    exact ⟨t, ht, handle, handle.mem_all, target, hx, rfl, rfl, rfl⟩

/-- Where ids are distinct, a document links no node twice by the same handle. -/
theorem nodup_links (distinct : d.nodeIds.Nodup) :
    (d.links.map fun l => (l.1, l.2.1)).Nodup := by
  have handles : Handle.all.Nodup := by decide
  have sub : (d.links.map fun l => (l.1, l.2.1)).Sublist
      (d.nodeIds.flatMap fun id => Handle.all.map fun h => (id, h)) := by
    rw [links, nodeIds, Tree.forestKeys, List.map_flatMap, List.flatMap_map]
    generalize Tree.forestPreorder d.nodes = ts
    induction ts with
    | nil => exact .refl _
    | cons t rest ih =>
      rw [List.flatMap_cons, List.flatMap_cons]
      refine .append ?_ ih
      cases hs : t.value.outputs.success <;> cases he : t.value.outputs.error <;>
        simp [Block.links, Handle.all, Outputs.get, hs, he, Target.nodeId?]
  refine .sublist sub ?_
  rw [List.nodup_flatMap]
  refine ⟨fun id _ => handles.map fun h k same => (Prod.mk.inj same).2, ?_⟩
  refine distinct.imp fun {a b} apart => ?_
  intro p ha hb
  obtain ⟨h, -, rfl⟩ := List.mem_map.1 ha
  obtain ⟨k, -, same⟩ := List.mem_map.1 hb
  exact apart (Prod.mk.inj same).1.symm

/-- **Links between nodes are all connected**, if no node has two by the same handle. -/
theorem connectAll_ok {links : List (String × Handle × String)}
    (ends : ∀ l ∈ links, l.1 ∈ g.nodeIds ∧ l.2.2 ∈ g.nodeIds)
    (free : (g.takenHandles ++ links.map fun l => (l.1, l.2.1)).Nodup) (wf : g.WellFormed) :
    ∃ g', connectAll g links = .ok g' ∧ g'.nodes = g.nodes
      ∧ g'.links = g.links ++ links ∧ g'.WellFormed := by
  induction links generalizing g with
  | nil => exact ⟨g, rfl, rfl, (List.append_nil _).symm, wf⟩
  | cons l rest ih =>
    obtain ⟨source, handle, target⟩ := l
    have hs : source ∈ g.nodeIds := (ends _ List.mem_cons_self).1
    have ht : target ∈ g.nodeIds := (ends _ List.mem_cons_self).2
    -- of the three reasons to refuse a connection only a taken handle is left
    have untaken : (source, handle) ∉ g.takenHandles := by
      intro taken
      rw [List.nodup_append] at free
      exact free.2.2 _ taken _ List.mem_cons_self rfl
    let e : Edge :=
      { id := g.freeEdgeId (Edge.canonicalId source handle target), source, target, handle }
    have connected : g.connect source target handle = .ok (e.id, g.appendEdge e) :=
      Graph.connect_eq_ok_iff.2 ⟨hs, ht, untaken, rfl, rfl⟩
    obtain ⟨g', done, nodes, edges, wf'⟩ := ih (g := g.appendEdge e)
      (fun l hl => ends l (List.mem_cons_of_mem _ hl))
      (by simpa [Graph.takenHandles, Graph.edges_appendEdge, e] using free)
      (wf.connect connected)
    refine ⟨g', ?_, nodes, ?_, wf'⟩
    · rw [connectAll, connected]
      exact done
    · simpa [Graph.links, Graph.edges_appendEdge, e] using edges

/-! ### Loading -/

/-- A valid document can be rebuilt as its own graph. -/
theorem Valid.rebuild_ok (valid : d.Valid r maxDepth) :
    ∃ g, d.rebuild r = .ok g ∧ IsGraphOf r d g := by
  obtain ⟨flat, apart, same, links⟩ := valid.flatten_ok
  obtain ⟨g, built, nodes_eq, edges_eq⟩ := valid.ofParts_ok same
  have wf := Graph.wellFormed_of_ofParts built
  have ids : g.nodeIds = d.nodeIds := by
    rw [Graph.nodeIds, nodes_eq, map_id_of_isNodeOf same]
  have ends : ∀ l ∈ d.links, l.1 ∈ g.nodeIds ∧ l.2.2 ∈ g.nodeIds := by
    rintro ⟨source, handle, target⟩ hl
    obtain ⟨t, ht, rfl, leads⟩ := mem_links_iff.1 hl
    rw [ids]
    exact ⟨List.mem_map_of_mem ht, valid.attached t ht handle target leads⟩
  have untaken : g.takenHandles = [] := by simp [Graph.takenHandles, edges_eq]
  obtain ⟨g', connected, nodes_eq', edges_eq', wf'⟩ := connectAll_ok ends
    (by rw [untaken]; exact nodup_links valid.distinct) wf
  refine ⟨g', ?_, ?_⟩
  · simp only [rebuild, apart, links, built, connected, bind, Except.bind, Except.mapError]
  · refine ⟨?_, by rw [edges_eq', Graph.links, edges_eq, List.map_nil, List.nil_append], wf'⟩
    rw [nodes_eq', nodes_eq]
    exact same

/-- **A valid document is loaded** as its own graph. -/
theorem Valid.load_ok (valid : d.Valid r maxDepth) :
    ∃ g, d.load r maxDepth = .ok g ∧ IsGraphOf r d g := by
  obtain ⟨g, built, isGraph⟩ := valid.rebuild_ok
  refine ⟨g, ?_, isGraph⟩
  rw [load, check_errors_eq_nil_iff_valid.2 valid]
  exact built

/-- What is loaded is a valid document, and its own graph. -/
theorem valid_of_load (loaded : d.load r maxDepth = .ok g) :
    d.Valid r maxDepth ∧ IsGraphOf r d g := by
  have valid : d.Valid r maxDepth := by
    rw [← check_errors_eq_nil_iff_valid]
    by_contra wrong
    rw [load_error_of_check d r maxDepth wrong] at loaded
    cases loaded
  obtain ⟨g', loaded', isGraph⟩ := valid.load_ok
  rw [loaded] at loaded'
  cases loaded'
  exact ⟨valid, isGraph⟩

/-- No check of a document finds a fault of a graph. -/
theorem graph_not_mem_check_errors (cause : GraphError) :
    LoadError.graph cause ∉ (d.check r maxDepth).errors := by
  have alone : ∀ v, LoadError.graph cause ∉ visitErrors r maxDepth v := by
    rintro (t | t) he
    · rcases of_mem_blockErrors he with h | h | h <;> cases h
    · cases List.mem_singleton.1 he
  have dangling : ∀ ids b, LoadError.graph cause ∉ danglingOutputs ids b := by
    intro ids b he
    obtain ⟨_, _, h⟩ := of_mem_danglingOutputs he
    cases h
  have start : ∀ ids, LoadError.graph cause ∉ d.startErrors ids := by
    intro ids he
    obtain ⟨_, h⟩ := of_mem_startErrors he
    cases h
  simp only [check, errors, List.mem_append, List.mem_flatMap, List.mem_map, triggerErrors]
  grind

/-- **Loading is decided by the check.** A document is loaded exactly if nothing is wrong with
it, and rejected with everything that is wrong otherwise: taking it apart meets no unknown type
any more, and no edit is refused. What is loaded are its nodes in pre-order, each under what it
stands in and of the category of its type, and its outputs in the same order. -/
theorem load_decided_by_check (d : Document) (r : Registry) (maxDepth : Nat) :
    ((∃ g, d.load r maxDepth = .ok g) ↔ (d.check r maxDepth).errors = [])
      ∧ ((d.check r maxDepth).errors ≠ [] →
        d.load r maxDepth = .error (d.check r maxDepth).errors)
      ∧ ((d.check r maxDepth).errors = [] → ∃ flat, d.flatten r = .ok flat)
      ∧ (∀ errors cause, d.load r maxDepth = .error errors → .graph cause ∉ errors)
      ∧ ∀ g, d.load r maxDepth = .ok g →
        List.Forall₂ (IsNodeOf r) (Tree.forestPlaced none d.nodes) g.nodes
          ∧ g.links = d.links ∧ g.violations = [] := by
  have accepted : (d.check r maxDepth).errors = [] → ∃ g, d.load r maxDepth = .ok g := by
    intro clean
    obtain ⟨g, loaded, -⟩ := (check_errors_eq_nil_iff_valid.1 clean).load_ok
    exact ⟨g, loaded⟩
  refine ⟨⟨?_, accepted⟩, d.load_error_of_check r maxDepth, ?_, ?_, ?_⟩
  · rintro ⟨g, loaded⟩
    exact check_errors_eq_nil_iff_valid.2 (valid_of_load loaded).1
  · intro clean
    obtain ⟨flat, apart, -⟩ := (check_errors_eq_nil_iff_valid.1 clean).flatten_ok
    exact ⟨flat, apart⟩
  · intro errors cause rejected
    by_cases clean : (d.check r maxDepth).errors = []
    · obtain ⟨g, loaded⟩ := accepted clean
      rw [loaded] at rejected
      cases rejected
    · rw [d.load_error_of_check r maxDepth clean] at rejected
      cases rejected
      exact graph_not_mem_check_errors cause
  · intro g loaded
    obtain ⟨-, isGraph⟩ := valid_of_load loaded
    exact ⟨isGraph.nodes, isGraph.links, isGraph.wellFormed.violations_eq_nil⟩

end Document

end Workflow
