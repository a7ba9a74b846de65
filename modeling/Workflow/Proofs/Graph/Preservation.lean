import Workflow.Graph.History
import Workflow.Proofs.Graph.Passes

/-!
# Edits keep graphs well formed

Every edit takes a well-formed graph to a well-formed graph, so every session does. Of the
conditions only the last is hard: that every chain of parents ends. An edit that changes
parents is shown to make nothing stand in itself, by following what stands in what back to the
graph before the edit.

## Main results

* `WellFormed.apply`: what one edit gives is well formed.
* `WellFormed.run`: what a session gives is well formed.
* `wellFormed_of_ofParts`: a graph of parts is well formed.
* `run_wellFormed`: **every session**, from the empty graph or from a graph of parts, ends in a
  well-formed graph of which nothing is reported.
-/

namespace Workflow

open Json

namespace Graph

variable {g g' : Graph}

/-! ### What a well-formed graph may be changed into -/

/-- Chains of parents end in every graph that has the same nodes and perhaps more. -/
theorem Rooted.mono (more : g.nodes ⊆ g'.nodes) {n : Node} (h : Rooted g n) : Rooted g' n := by
  induction h with
  | top hn none_above => exact .top (more hn) none_above
  | child hn hp _ ih => exact .child (more hn) hp ih

/-- The empty graph is well formed. -/
theorem wellFormed_empty : empty.WellFormed := by
  constructor <;> simp [empty, ofLists]

/-- Other edges may be given to the nodes of a well-formed graph if they are in order
themselves. -/
theorem WellFormed.withEdges (wf : g.WellFormed) (nodes : g'.nodes = g.nodes)
    (ids : g'.edgeIds.Nodup) (handles : g'.takenHandles.Nodup)
    (attached : ∀ e ∈ g'.edges, e.source ∈ g.nodeIds ∧ e.target ∈ g.nodeIds) :
    g'.WellFormed where
  nodeIdsVisible := nodes ▸ wf.nodeIdsVisible
  nodeIdsDistinct := nodes ▸ wf.nodeIdsDistinct
  edgeIdsDistinct := ids
  edgesAttached := nodes ▸ attached
  handlesDistinct := handles
  parentsContain := nodes ▸ wf.parentsContain
  rooted := by
    intro n hn
    rw [nodes] at hn
    exact (wf.rooted n hn).mono (nodes ▸ fun _ h => h)

/-- The nodes of a well-formed graph may be changed, and some of them removed, if what is left
has its parents and nothing comes to stand in itself. -/
theorem WellFormed.withNodes (wf : g.WellFormed) (ids : g'.nodeIds.Sublist g.nodeIds)
    (edges : g'.edges.Sublist g.edges)
    (attached : ∀ e ∈ g'.edges, e.source ∈ g'.nodeIds ∧ e.target ∈ g'.nodeIds)
    (contain : ∀ n ∈ g'.nodes, ∀ p, n.parent? = some p → g'.HasContainer p)
    (acyclic : ∀ id, ¬ Inside g' id id) : g'.WellFormed where
  nodeIdsVisible := by
    intro n hn
    obtain ⟨m, hm, same⟩ := List.mem_map.1 (ids.subset (List.mem_map_of_mem hn))
    exact same ▸ wf.nodeIdsVisible m hm
  nodeIdsDistinct := wf.nodeIdsDistinct.sublist ids
  edgeIdsDistinct := wf.edgeIdsDistinct.sublist (edges.map _)
  edgesAttached := attached
  handlesDistinct := wf.handlesDistinct.sublist (edges.map _)
  parentsContain := contain
  rooted := by
    have exist : g'.ParentsExist := by
      intro n hn p hp
      obtain ⟨m, hm, rfl, -⟩ := contain n hn p hp
      exact List.mem_map_of_mem hm
    exact fun n hn =>
      rooted_of_acyclic (wf.nodeIdsDistinct.sublist ids) exist (fun m _ => acyclic m.id) hn

/-! ### Nodes -/

/-- A well-formed graph may be extended by a node with a new and visible id whose parent may
hold it. -/
theorem WellFormed.appendNode (wf : g.WellFormed) {n : Node}
    (visible : Text.isBlank n.id = false) (new : n.id ∉ g.nodeIds)
    (place : ∀ p, n.parent? = some p → g.HasContainer p) : (g.appendNode n).WellFormed where
  nodeIdsVisible := by
    intro m hm
    rcases List.mem_append.1 hm with hm | hm
    · exact wf.nodeIdsVisible m hm
    · rwa [List.mem_singleton.1 hm]
  nodeIdsDistinct := by
    rw [nodes_appendNode, List.map_append, List.nodup_append]
    refine ⟨wf.nodeIdsDistinct, List.nodup_singleton _, ?_⟩
    rintro a ha b hb rfl
    have same : a = n.id := List.mem_singleton.1 hb
    exact new (same ▸ ha)
  edgeIdsDistinct := wf.edgeIdsDistinct
  edgesAttached := by
    intro e he
    obtain ⟨source, target⟩ := wf.edgesAttached e he
    simp only [nodes_appendNode, List.map_append, List.mem_append]
    exact ⟨.inl source, .inl target⟩
  handlesDistinct := wf.handlesDistinct
  parentsContain := by
    have old : ∀ p, g.HasContainer p → (g.appendNode n).HasContainer p := by
      rintro p ⟨m, hm, rest⟩
      exact ⟨m, List.mem_append_left _ hm, rest⟩
    intro m hm p hp
    rcases List.mem_append.1 hm with hm | hm
    · exact old p (wf.parentsContain m hm p hp)
    · exact old p (place p (List.mem_singleton.1 hm ▸ hp))
  rooted := by
    have more : g.nodes ⊆ (g.appendNode n).nodes := List.subset_append_left _ _
    intro m hm
    rcases List.mem_append.1 hm with hm | hm
    · exact (wf.rooted m hm).mono more
    · obtain rfl := List.mem_singleton.1 hm
      have here : m ∈ (g.appendNode m).nodes := List.mem_append_right _ hm
      cases hp : m.parent? with
      | none => exact .top here hp
      | some p =>
        obtain ⟨q, hq, rfl, -⟩ := place p hp
        exact .child here hp ((wf.rooted q hq).mono more)

/-- Adding a node keeps a graph well formed. -/
theorem WellFormed.addNode (wf : g.WellFormed) {n : Node} (h : g.addNode n = .ok g') :
    g'.WellFormed := by
  obtain ⟨visible, new, place, rfl⟩ := (addNode_eq_ok_iff wf).1 h
  exact wf.appendNode visible new place

/-- If a step upwards leads to where a node stood before, so does every chain of steps. -/
theorem Inside.of_steps
    (steps : ∀ n ∈ g'.nodes, ∀ p, n.parent? = some p → Inside g n.id p) {a b : String}
    (h : Inside g' a b) : Inside g a b := by
  induction h with
  | step hn hp => exact steps _ hn _ hp
  | trans hn hp _ ih => exact (steps _ hn _ hp).append ih

/-- A change that leaves the types of nodes alone keeps a graph well formed. -/
theorem WellFormed.touch (wf : g.WellFormed) {id : String} {t : Touch}
    (type_eq : ∀ n, (t.apply n).type = n.type) (h : g.touch id t = .ok g') :
    g'.WellFormed := by
  let view := fun n : Node => (n.id, n.type, n.parent?)
  obtain ⟨views, edges⟩ := touch_ok view
    (fun n => by simp only [view, t.id_eq, t.parent_eq, type_eq]) h
  have ids : g'.nodeIds = g.nodeIds := (touch_ok (·.id) t.id_eq h).1
  have before : ∀ n ∈ g'.nodes, ∃ m ∈ g.nodes, m.id = n.id ∧ m.parent? = n.parent? := by
    intro n hn
    have hview : view n ∈ g.nodes.map view := views ▸ List.mem_map_of_mem hn
    obtain ⟨m, hm, same⟩ := List.mem_map.1 hview
    simp only [view, Prod.mk.injEq] at same
    exact ⟨m, hm, same.1, same.2.2⟩
  have contained : ∀ p, g.HasContainer p → g'.HasContainer p := by
    rintro p ⟨m, hm, rfl, holds⟩
    have hview : view m ∈ g'.nodes.map view := views ▸ List.mem_map_of_mem hm
    obtain ⟨n, hn, same⟩ := List.mem_map.1 hview
    simp only [view, Prod.mk.injEq] at same
    exact ⟨n, hn, same.1, same.2.1 ▸ holds⟩
  refine wf.withNodes (ids ▸ List.Sublist.refl _) (edges ▸ List.Sublist.refl _) ?_ ?_ ?_
  · rw [edges, ids]
    exact wf.edgesAttached
  · intro n hn p hp
    obtain ⟨m, hm, -, same⟩ := before n hn
    exact contained p (wf.parentsContain m hm p (same ▸ hp))
  · intro x loop
    have old : Inside g x x := loop.of_steps fun n hn p hp => by
      obtain ⟨m, hm, same, same'⟩ := before n hn
      exact same ▸ .step hm (same' ▸ hp)
    obtain ⟨n, hn, rfl⟩ := List.mem_map.1 (old.mem_nodeIds wf.parentsExist)
    exact wf.acyclic hn old

/-- A move leaves the ids as they were. -/
theorem nodeIds_moved {id : String} {parent? : Option String}
    (moved : g'.nodes = g.nodes.map fun n => if n.id = id then { n with parent? } else n) :
    g'.nodeIds = g.nodeIds := by
  rw [nodeIds, moved, List.map_map, nodeIds]
  refine List.map_congr_left fun n _ => ?_
  by_cases here : n.id = id <;> simp [here]

/-- What could hold others before a move can do so after it. -/
theorem HasContainer.moved {id p : String} {parent? : Option String} (h : g.HasContainer p)
    (moved : g'.nodes = g.nodes.map fun n => if n.id = id then { n with parent? } else n) :
    g'.HasContainer p := by
  obtain ⟨m, hm, rfl, holds⟩ := h
  refine ⟨_, moved ▸ List.mem_map_of_mem hm, ?_⟩
  by_cases here : m.id = id <;> simp [here, holds]

/-- What stands in what after `id` was moved: as before the move, or by way of `id`. -/
theorem inside_of_moved {id : String} {parent? : Option String}
    (moved : g'.nodes = g.nodes.map fun n => if n.id = id then { n with parent? } else n)
    {a b : String} (h : Inside g' a b) :
    Inside g a b ∨ (a = id ∨ Inside g a id)
      ∧ ∃ p, parent? = some p ∧ (p = b ∨ Inside g p b) := by
  have step : ∀ n ∈ g'.nodes, ∀ p, n.parent? = some p →
      Inside g n.id p ∨ n.id = id ∧ parent? = some p := by
    intro n hn p hp
    rw [moved] at hn
    obtain ⟨m, hm, rfl⟩ := List.mem_map.1 hn
    by_cases here : m.id = id
    · rw [if_pos here] at hp ⊢
      exact .inr ⟨here, hp⟩
    · rw [if_neg here] at hp ⊢
      exact .inl (.step hm hp)
  induction h with
  | step hn hp =>
    rcases step _ hn _ hp with old | ⟨here, new⟩
    · exact .inl old
    · exact .inr ⟨.inl here, _, new, .inl rfl⟩
  | trans hn hp _ ih =>
    rcases step _ hn _ hp with old | ⟨here, new⟩
    · rcases ih with above | ⟨rfl | below, rest⟩
      · exact .inl (old.append above)
      · exact .inr ⟨.inr old, rest⟩
      · exact .inr ⟨.inr (old.append below), rest⟩
    · rcases ih with above | ⟨-, rest⟩
      · exact .inr ⟨.inl here, _, new, .inr above⟩
      · exact .inr ⟨.inl here, rest⟩

/-- Moving a node keeps a graph well formed. -/
theorem WellFormed.setParent (wf : g.WellFormed) {id : String} {parent? : Option String}
    (h : g.setParent id parent? = .ok g') : g'.WellFormed := by
  obtain ⟨-, legal, result⟩ := (setParent_eq_ok_iff wf.nodeIds_nodup wf.parentsExist).1 h
  have nodes : g'.nodes = g.nodes.map fun n => if n.id = id then { n with parent? } else n :=
    result ▸ rfl
  have edges : g'.edges = g.edges := result ▸ rfl
  have ids : g'.nodeIds = g.nodeIds := nodeIds_moved nodes
  refine wf.withNodes (ids ▸ List.Sublist.refl _) (edges ▸ List.Sublist.refl _) ?_ ?_ ?_
  · rw [edges, ids]
    exact wf.edgesAttached
  · intro n hn p hp
    rw [nodes] at hn
    obtain ⟨m, hm, rfl⟩ := List.mem_map.1 hn
    by_cases here : m.id = id
    · rw [if_pos here] at hp
      exact (legal p hp).1.moved nodes
    · rw [if_neg here] at hp
      exact HasContainer.moved (wf.parentsContain m hm p hp) nodes
  · intro x loop
    rcases inside_of_moved nodes loop with old | ⟨below, p, hp, above⟩
    · obtain ⟨n, hn, rfl⟩ := List.mem_map.1 (old.mem_nodeIds wf.parentsExist)
      exact wf.acyclic hn old
    · -- from the new parent down to `id`, against what was checked
      obtain ⟨-, apart, outside⟩ := legal p hp
      rcases above with rfl | above <;> rcases below with rfl | below
      · exact apart rfl
      · exact outside below
      · exact outside above
      · exact outside (above.append below)

/-- Removing nodes keeps a graph well formed if those that stay have their parents, and stand
in nothing in which they did not stand. -/
theorem WellFormed.without (wf : g.WellFormed) {nodes : List Node} {doomed : List String}
    (ids : nodes.map (·.id) = g.nodeIds)
    (contain : ∀ n ∈ nodes, n.id ∉ doomed → ∀ p, n.parent? = some p →
      p ∉ doomed ∧ ∃ m ∈ nodes, m.id = p ∧ isContainer m.type = true)
    (steps : ∀ n ∈ nodes, n.id ∉ doomed → ∀ p, n.parent? = some p → Inside g n.id p) :
    (without nodes g.edges doomed).WellFormed := by
  obtain ⟨mem_nodes, mem_edges⟩ := mem_without nodes g.edges doomed
  have kept : ∀ id ∈ g.nodeIds, id ∉ doomed →
      id ∈ (Graph.without nodes g.edges doomed).nodeIds := by
    intro id hid safe
    obtain ⟨n, hn, rfl⟩ := List.mem_map.1 (ids ▸ hid)
    exact List.mem_map_of_mem ((mem_nodes n).2 ⟨hn, safe⟩)
  refine wf.withNodes ?_ List.filter_sublist ?_ ?_ ?_
  · rw [← ids]
    exact List.filter_sublist.map _
  · intro e he
    obtain ⟨he, source, target⟩ := (mem_edges e).1 he
    obtain ⟨hs, ht⟩ := wf.edgesAttached e he
    exact ⟨kept _ hs source, kept _ ht target⟩
  · intro n hn p hp
    obtain ⟨hn, safe⟩ := (mem_nodes n).1 hn
    obtain ⟨safe_parent, m, hm, rfl, holds⟩ := contain n hn safe p hp
    exact ⟨m, (mem_nodes m).2 ⟨hm, safe_parent⟩, rfl, holds⟩
  · intro x loop
    have old : Inside g x x := loop.of_steps fun n hn =>
      steps n ((mem_nodes n).1 hn).1 ((mem_nodes n).1 hn).2
    obtain ⟨n, hn, rfl⟩ := List.mem_map.1 (old.mem_nodeIds wf.parentsExist)
    exact wf.acyclic hn old

/-- Removing a node keeps a graph well formed, whatever happens to its children. -/
theorem WellFormed.removeNode (wf : g.WellFormed) {id : String} {policy : RemovalPolicy}
    {removed : List Node} (h : g.removeNode id policy = .ok (removed, g')) :
    g'.WellFormed := by
  obtain ⟨n, found, result⟩ := removeNode_ok h
  obtain ⟨hn, rfl⟩ := mem_of_node?_eq_some found
  cases policy with
  | cascade =>
    rw [show g' = _ from result]
    refine wf.without rfl ?_ fun m hm _ p hp => .step hm hp
    intro m hm safe p hp
    exact ⟨fun doomed => safe (child_mem_descendants hm hp doomed), wf.parentsContain m hm p hp⟩
  | reparent =>
    rw [show g' = _ from result]
    have lifted : ∀ m ∈ liftChildren g.nodes n.id n.parent?, ∃ k ∈ g.nodes, k.id = m.id
        ∧ ∀ p, m.parent? = some p → p ≠ n.id ∧ g.HasContainer p ∧ Inside g k.id p := by
      intro m hm
      obtain ⟨k, hk, rfl⟩ := List.mem_map.1 hm
      by_cases child : k.parent? = some n.id
      · refine ⟨k, hk, by rw [if_pos child], ?_⟩
        rw [if_pos child]
        intro p hp
        refine ⟨?_, wf.parentsContain n hn p hp, .trans hk child (.step hn hp)⟩
        rintro rfl
        exact wf.parent?_ne_self hn hp
      · refine ⟨k, hk, by rw [if_neg child], ?_⟩
        rw [if_neg child]
        intro p hp
        refine ⟨?_, wf.parentsContain k hk p hp, .step hk hp⟩
        rintro rfl
        exact child hp
    have ids : (liftChildren g.nodes n.id n.parent?).map (·.id) = g.nodeIds := by
      rw [liftChildren, List.map_map, nodeIds]
      refine List.map_congr_left fun m _ => ?_
      by_cases child : m.parent? = some n.id <;> simp [child]
    refine wf.without ids ?_ ?_
    · intro m hm _ p hp
      obtain ⟨k, -, -, above⟩ := lifted m hm
      obtain ⟨other, ⟨q, hq, rfl, holds⟩, -⟩ := above p hp
      refine ⟨by simpa using other, _, List.mem_map_of_mem hq, ?_⟩
      by_cases child : q.parent? = some n.id <;> simp [child, holds]
    · intro m hm _ p hp
      obtain ⟨k, -, same, above⟩ := lifted m hm
      exact same ▸ (above p hp).2.2

/-! ### Edges -/

/-- A well-formed graph may be extended by an edge between its nodes with a free handle and a
free id. -/
theorem WellFormed.appendEdge (wf : g.WellFormed) {e : Edge} (source : e.source ∈ g.nodeIds)
    (target : e.target ∈ g.nodeIds) (handle : (e.source, e.handle) ∉ g.takenHandles)
    (id : e.id ∉ g.edgeIds) : (g.appendEdge e).WellFormed := by
  refine wf.withEdges rfl ?_ ?_ ?_
  · rw [edgeIds, edges_appendEdge, List.map_append]
    exact wf.edgeIdsDistinct.append (List.nodup_singleton _) (by simpa [edgeIds] using id)
  · rw [takenHandles, edges_appendEdge, List.map_append]
    exact wf.handlesDistinct.append (List.nodup_singleton _)
      (by simpa [takenHandles] using handle)
  · intro e' he'
    rcases List.mem_append.1 he' with he' | he'
    · exact wf.edgesAttached e' he'
    · obtain rfl := List.mem_singleton.1 he'
      exact ⟨source, target⟩

/-- Adding an edge keeps a graph well formed. -/
theorem WellFormed.addEdge (wf : g.WellFormed) {e : Edge} (h : g.addEdge e = .ok g') :
    g'.WellFormed := by
  obtain ⟨source, target, handle, id, rfl⟩ := addEdge_eq_ok_iff.1 h
  exact wf.appendEdge source target handle id

/-- Connecting two nodes keeps a graph well formed. -/
theorem WellFormed.connect (wf : g.WellFormed) {source target id : String} {handle : Handle}
    (h : g.connect source target handle = .ok (id, g')) : g'.WellFormed := by
  obtain ⟨hs, ht, free, rfl, rfl⟩ := connect_eq_ok_iff.1 h
  exact wf.appendEdge hs ht free (g.freeEdgeId_not_mem _)

/-- Removing an edge keeps a graph well formed. -/
theorem WellFormed.removeEdge (wf : g.WellFormed) {id : String} {e : Edge}
    (h : g.removeEdge id = .ok (e, g')) : g'.WellFormed := by
  obtain ⟨nodes, fewer⟩ := removeEdge_ok h
  exact wf.withEdges nodes (wf.edgeIdsDistinct.sublist (fewer.map _))
    (wf.handlesDistinct.sublist (fewer.map _)) fun e he => wf.edgesAttached e (fewer.subset he)

/-! ### Sessions -/

/-- Changing a configuration keeps a graph well formed. -/
theorem WellFormed.editConfig (wf : g.WellFormed) {id : String} {f : Fields → Fields}
    (h : g.editConfig id f = .ok g') : g'.WellFormed :=
  wf.touch (fun _ => rfl) h

/-- What holds of every result of an attempt holds of the graph it is mapped to. -/
theorem wellFormed_of_map {α : Type} {x : Except GraphError α} {f : α → Outcome × Graph}
    {outcome : Outcome} (h : x.map f = .ok (outcome, g'))
    (keeps : ∀ a, x = .ok a → (f a).2.WellFormed) : g'.WellFormed := by
  obtain ⟨a, done, same⟩ := map_eq_ok_iff.1 h
  have kept := keeps a done
  rwa [same] at kept

/-- **One edit** keeps a graph well formed. -/
theorem WellFormed.apply (wf : g.WellFormed) {edit : Edit} {outcome : Outcome}
    (h : edit.apply g = .ok (outcome, g')) : g'.WellFormed := by
  cases edit with
  | addNode n => exact wellFormed_of_map h fun _ => wf.addNode
  | removeNode id policy => exact wellFormed_of_map h fun _ => wf.removeNode
  | setParent id parent? => exact wellFormed_of_map h fun _ => wf.setParent
  | setLabel id label => exact wellFormed_of_map h fun _ => wf.touch fun _ => rfl
  | setPosition id position => exact wellFormed_of_map h fun _ => wf.touch fun _ => rfl
  | setConfig id key value =>
    exact wellFormed_of_map h fun _ done => wf.editConfig (setConfig_ok done)
  | removeConfig id key =>
    exact wellFormed_of_map h fun _ done => wf.editConfig (removeConfig_ok done)
  | editConfig id f => exact wellFormed_of_map h fun _ => wf.editConfig
  | addEdge e => exact wellFormed_of_map h fun _ => wf.addEdge
  | connect source target handle => exact wellFormed_of_map h fun _ => wf.connect
  | removeEdge id => exact wellFormed_of_map h fun _ => wf.removeEdge

/-- An edit, whether it succeeds or fails, keeps a graph well formed. -/
theorem WellFormed.attempt (wf : g.WellFormed) (edit : Edit) :
    (edit.attempt g).WellFormed := by
  rw [Edit.attempt]
  split
  · next done => exact wf.apply done
  · exact wf

/-- **A session** keeps a graph well formed. -/
theorem WellFormed.run (wf : g.WellFormed) (edits : List Edit) : (g.run edits).WellFormed := by
  induction edits generalizing g with
  | nil => exact wf
  | cons edit rest ih => exact ih (wf.attempt edit)

/-! ### Graphs of parts -/

/-- A pass over waiting nodes keeps a graph well formed. -/
theorem Pass.wellFormed {nodes waiting : List Node} (pass : Pass g nodes g' waiting)
    (wf : g.WellFormed) : g'.WellFormed := by
  induction pass with
  | done => exact wf
  | place _ added _ ih => exact ih (wf.addNode added)
  | keep _ _ ih => exact ih wf

/-- Passes over waiting nodes keep a graph well formed. -/
theorem Passes.wellFormed {waiting : List Node} (passes : Passes g waiting g')
    (wf : g.WellFormed) : g'.WellFormed := by
  induction passes with
  | done => exact wf
  | more _ pass _ _ ih => exact ih (pass.wellFormed wf)

/-- Adding edges keeps a graph well formed. -/
theorem WellFormed.addEdges (wf : g.WellFormed) {edges : List Edge}
    (h : g.addEdges edges = .ok g') : g'.WellFormed := by
  induction edges generalizing g with
  | nil => exact Except.ok.inj h ▸ wf
  | cons e rest ih =>
    rw [Graph.addEdges] at h
    split at h
    · cases h
    · next added => exact ih (wf.addEdge added) h

/-- A graph of parts is well formed. -/
theorem wellFormed_of_ofParts {nodes : List Node} {edges : List Edge}
    (h : ofParts nodes edges = .ok g) : g.WellFormed := by
  obtain ⟨placed, passes, added⟩ := ofParts_eq_ok_iff.1 h
  exact (passes.wellFormed wellFormed_empty).addEdges added

/-- **Every session**, from the empty graph or from a graph of parts, ends in a well-formed
graph, of which nothing is reported. -/
theorem run_wellFormed {start : Graph}
    (begun : start = empty ∨ ∃ nodes edges, ofParts nodes edges = .ok start)
    (edits : List Edit) : (start.run edits).WellFormed ∧ (start.run edits).violations = [] := by
  have wf : start.WellFormed := by
    rcases begun with rfl | ⟨nodes, edges, built⟩
    · exact wellFormed_empty
    · exact wellFormed_of_ofParts built
  exact ⟨wf.run edits, (wf.run edits).violations_eq_nil⟩

/-- A loop and its body, of which the body comes first. -/
def loopNodes : List Node :=
  [{ id := "body", type := "control.if", label := "If", category := .control,
     parent? := some "loop" },
    { id := "loop", type := "control.loop", label := "For Each", category := .control }]

/-- A session in which the loop cannot be moved into its body, is connected to it from there,
and is removed with it. -/
def loopSession : List Edit :=
  [.setParent "loop" (some "body"), .connect "body" "loop" .error, .removeNode "loop" .cascade]

/-- The session with the loop starts from a graph of parts, and ends as `run_wellFormed` says. -/
theorem run_wellFormed_loopSession :
    ∃ start, ofParts loopNodes [.canonical "loop" "body" .success] = .ok start
      ∧ (start.run loopSession).WellFormed ∧ (start.run loopSession).violations = [] := by
  have builds : (ofParts loopNodes
      [.canonical "loop" "body" .success]).toOption.isSome = true := by decide +kernel
  obtain ⟨start, built⟩ := exists_eq_ok_of_toOption builds
  exact ⟨start, built, run_wellFormed (.inr ⟨_, _, built⟩) _⟩

end Graph

end Workflow
