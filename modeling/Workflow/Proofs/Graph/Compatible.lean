import Workflow.Proofs.Graph.Placement

/-!
# Compatible nodes

The order in which nodes come has no say in whether they make a graph. Nodes that are compatible
are never refused once their parents are there, and as long as a chain of parents ends, one of the
nodes that wait has its parent in the graph.

## Main results

* `WellFormed.of_perm`: whether a graph is well formed does not depend on the order of its nodes.
* `Compatible.exists_pass`: no pass over compatible nodes fails.
* `exists_ready`: among nodes that wait one is ready if the chain of parents of any of them ends.
-/

namespace Workflow.Graph

variable {g g' whole : Graph} {nodes waiting : List Node}

/-! ### The order of nodes -/

/-- A parent can hold a node wherever it is listed. -/
theorem HasContainer.mono {id : String} (more : g.nodes ⊆ g'.nodes) (h : g.HasContainer id) :
    g'.HasContainer id := by
  obtain ⟨m, hm, rest⟩ := h
  exact ⟨m, more hm, rest⟩

/-- **Whether a graph is well formed** does not depend on the order of its nodes. -/
theorem WellFormed.of_perm (wf : g.WellFormed) (perm : g.nodes.Perm g'.nodes)
    (edges : g'.edges = g.edges) : g'.WellFormed where
  nodeIdsVisible n hn := wf.nodeIdsVisible n (perm.mem_iff.2 hn)
  nodeIdsDistinct := (perm.map _).nodup_iff.1 wf.nodeIdsDistinct
  edgeIdsDistinct := edges ▸ wf.edgeIdsDistinct
  edgesAttached := by
    intro e he
    obtain ⟨source, target⟩ := wf.edgesAttached e (edges ▸ he)
    exact ⟨(perm.map _).mem_iff.1 source, (perm.map _).mem_iff.1 target⟩
  handlesDistinct := edges ▸ wf.handlesDistinct
  parentsContain n hn p hp :=
    HasContainer.mono perm.subset (wf.parentsContain n (perm.mem_iff.2 hn) p hp)
  rooted n hn := (wf.rooted n (perm.mem_iff.2 hn)).mono perm.subset

/-! ### Compatible nodes -/

/-- Nodes that do not get in each other's way: their ids are visible and distinct, and whichever
of them is named as a parent is a container. A parent need not be among them. -/
structure Compatible (nodes : List Node) : Prop where
  /-- No id is blank. -/
  visible : ∀ n ∈ nodes, Text.isBlank n.id = false
  /-- No two nodes have the same id. -/
  distinct : (nodes.map (·.id)).Nodup
  /-- Nodes that are named as parents are containers. -/
  contain : ∀ n ∈ nodes, ∀ m ∈ nodes, n.parent? = some m.id → isContainer m.type = true

/-- Some of compatible nodes are compatible. -/
theorem Compatible.sublist (compatible : Compatible nodes) {fewer : List Node}
    (part : fewer.Sublist nodes) : Compatible fewer where
  visible n hn := compatible.visible n (part.subset hn)
  distinct := compatible.distinct.sublist (part.map _)
  contain n hn m hm := compatible.contain n (part.subset hn) m (part.subset hm)

/-- Compatible nodes are compatible in any order. -/
theorem Compatible.perm (compatible : Compatible nodes) {others : List Node}
    (perm : nodes.Perm others) : Compatible others where
  visible n hn := compatible.visible n (perm.mem_iff.2 hn)
  distinct := (perm.map _).nodup_iff.1 compatible.distinct
  contain n hn m hm := compatible.contain n (perm.mem_iff.2 hn) m (perm.mem_iff.2 hm)

/-- The nodes of a well-formed graph are compatible. -/
theorem WellFormed.compatible (wf : g.WellFormed) : Compatible g.nodes where
  visible := wf.nodeIdsVisible
  distinct := wf.nodeIdsDistinct
  contain _ hn _ hm := wf.isContainer_of_parent hn hm

/-- A node that is compatible with those of a graph is added once it is ready. -/
theorem Compatible.addNode_of_isReady (wf : g.WellFormed) {n : Node}
    (compatible : Compatible (g.nodes ++ n :: waiting)) (ready : g.isReady n = true) :
    g.addNode n = .ok (g.appendNode n) := by
  have here : n ∈ g.nodes ++ n :: waiting := by simp
  refine (addNode_eq_ok_iff wf).2 ⟨compatible.visible n here, ?_, ?_, rfl⟩
  · intro old
    have distinct := compatible.distinct
    rw [List.map_append, List.nodup_append] at distinct
    exact distinct.2.2 _ old _ List.mem_cons_self rfl
  · intro p hp
    obtain ⟨m, hm, rfl⟩ := List.mem_map.1 (isReady_iff.1 ready p hp)
    exact ⟨m, hm, rfl, compatible.contain n here m (List.mem_append_left _ hm) hp⟩

/-- **No pass over compatible nodes fails**, whether or not their parents come. -/
theorem Compatible.exists_pass (wf : g.WellFormed) (compatible : Compatible (g.nodes ++ nodes)) :
    ∃ g' waiting, Pass g nodes g' waiting := by
  induction nodes generalizing g with
  | nil => exact ⟨g, [], .done⟩
  | cons n rest ih =>
    cases ready : g.isReady n with
    | true =>
      have added := compatible.addNode_of_isReady wf ready
      have regroup : (g.appendNode n).nodes ++ rest = g.nodes ++ n :: rest := by simp
      obtain ⟨g', waiting, pass⟩ := ih (wf.addNode added) (regroup ▸ compatible)
      exact ⟨g', waiting, .place ready added pass⟩
    | false =>
      have part : (g.nodes ++ rest).Sublist (g.nodes ++ n :: rest) :=
        (List.Sublist.refl _).append (List.sublist_cons_self n rest)
      obtain ⟨g', waiting, pass⟩ := ih wf (compatible.sublist part)
      exact ⟨g', n :: waiting, .keep ready pass⟩

/-! ### Ready nodes -/

/-- Among nodes that wait, one is ready if the chain of parents of any of them ends: where the
chain enters the graph, or at its end. -/
theorem exists_ready {n : Node} (rooted : Rooted whole n)
    (parts : ∀ m ∈ whole.nodes, m ∈ g.nodes ∨ m ∈ waiting) (hn : n ∈ waiting) :
    ∃ m ∈ waiting, g.isReady m = true := by
  induction rooted with
  | @top n _ none_above =>
    refine ⟨n, hn, isReady_iff.2 fun p hp => ?_⟩
    rw [none_above] at hp
    cases hp
  | @child n parent _ hp above ih =>
    have listed : parent ∈ whole.nodes := by cases above <;> assumption
    rcases parts parent listed with there | waits
    · refine ⟨n, hn, isReady_iff.2 fun p hp' => ?_⟩
      rw [hp, Option.some.injEq] at hp'
      exact hp' ▸ List.mem_map_of_mem there
    · exact ih waits

end Workflow.Graph
