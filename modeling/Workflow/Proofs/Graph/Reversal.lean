import Workflow.Proofs.Graph.Moves
import Workflow.Proofs.Graph.Removal

/-!
# Taking edits back

What an edit adds can be removed again, and a node that was moved can be moved back. The edit that
takes another one back depends on the graph, as it has to name the parent that a node had, and on
what the other one gave, the id of a connection. The relation `Reverts` says which edits belong
together. None of the way back is refused, and it ends in the very graph it started from: the same
nodes and edges in the same order, and with them the same index, so that every look-up answers as
before. That the index was extended by one entry on the way, or partly or wholly built again, cannot
be seen.

## Main results

* `WellFormed.removeNode_addNode`, `removeEdge_appendEdge`: what was added is removed alone.
* `WellFormed.setParent_setParent`: a node that was moved can go back.
* `apply_of_reverts`: **edits are taken back exactly**, on every graph with which nothing is wrong.
-/

namespace Workflow

namespace Graph

variable {g g' : Graph} {n : Node} {e : Edge} {id : String} {parent? : Option String}

/-! ### A node that was added -/

/-- Where something stands in a node, the node has a child. -/
theorem Inside.exists_child {a b : String} (h : Inside g a b) :
    ∃ m ∈ g.nodes, m.parent? = some b := by
  induction h with
  | step hn hp => exact ⟨_, hn, hp⟩
  | trans _ _ _ ih => exact ih

/-- **A node without children goes alone**, by either policy. -/
theorem WellFormed.removeNode_of_childless (wf : g.WellFormed) (hn : n ∈ g.nodes)
    (childless : ∀ m ∈ g.nodes, m.parent? ≠ some n.id) (policy : RemovalPolicy) :
    g.removeNode n.id policy = .ok ([n], Graph.without g.nodes g.edges [n.id]) := by
  have gone : ∀ other, (g.doomed n.id policy).contains other = true ↔ other = n.id := by
    intro other
    rw [contains_doomed_iff]
    refine ⟨?_, .inl⟩
    rintro (same | ⟨-, inside⟩)
    · exact same
    · obtain ⟨m, hm, child⟩ := inside.exists_child
      exact absurd child (childless m hm)
  have unmoved : g.nodes.map (movedUp n policy) = g.nodes :=
    (List.map_congr_left fun m hm => movedUp_of_ne (childless m hm) policy).trans (List.map_id' _)
  have taken : (g.nodes.filter fun m => (g.doomed n.id policy).contains m.id) = [n] := by
    rw [← filter_id_eq_singleton wf.nodeIds_nodup hn]
    refine List.filter_congr fun m _ => ?_
    rw [Bool.eq_iff_iff, gone, beq_iff_eq]
  have left : Graph.without g.nodes g.edges (g.doomed n.id policy)
      = Graph.without g.nodes g.edges [n.id] := by
    refine without_congr (fun other => ?_) g.nodes g.edges
    rw [← List.contains_iff_mem, gone, List.mem_singleton]
  rw [removeNode_eq ((node?_eq_some_iff wf.nodeIds_nodup).2 ⟨hn, rfl⟩)]
  simp only [unmoved, taken, left]
  simp

/-- A node that was added has no children: what was there before has its parents there. -/
theorem WellFormed.childless_of_addNode (wf : g.WellFormed) (added : g.addNode n = .ok g') :
    ∀ m ∈ g'.nodes, m.parent? ≠ some n.id := by
  have wf' := wf.addNode added
  obtain ⟨-, new, -, rfl⟩ := (addNode_eq_ok_iff wf).1 added
  intro m hm child
  obtain old | rfl := (List.mem_append.1 hm).imp_right List.mem_singleton.1
  · exact new (wf.parentsExist m old n.id child)
  · exact wf'.parent?_ne_self hm child

/-- Without a node that is new, everything is left as it was. -/
theorem WellFormed.without_appendNode (wf : g.WellFormed) (new : n.id ∉ g.nodeIds) :
    Graph.without (g.appendNode n).nodes (g.appendNode n).edges [n.id] = g := by
  have others : ∀ id ∈ g.nodeIds, (!([n.id] : List String).contains id) = true := by
    intro id hid
    have apart : id ≠ n.id := fun same => new (same ▸ hid)
    simp [apart]
  refine ext_lists ?_ ?_
  · change (g.nodes ++ [n]).filter (fun m => !([n.id] : List String).contains m.id) = g.nodes
    rw [List.filter_append, List.filter_eq_self.2 fun m hm => others m.id (List.mem_map_of_mem hm)]
    simp
  · refine List.filter_eq_self.2 fun e he => ?_
    obtain ⟨source, target⟩ := wf.edgesAttached e he
    rw [others _ source, others _ target, Bool.and_self]

/-- **A node that was added is removed alone**, by either policy, and the graph is as before. -/
theorem WellFormed.removeNode_addNode (wf : g.WellFormed) (added : g.addNode n = .ok g')
    (policy : RemovalPolicy) : g'.removeNode n.id policy = .ok ([n], g) := by
  have wf' := wf.addNode added
  have childless := wf.childless_of_addNode added
  obtain ⟨-, new, -, rfl⟩ := (addNode_eq_ok_iff wf).1 added
  have hn : n ∈ (g.appendNode n).nodes := List.mem_append_right _ List.mem_cons_self
  rw [wf'.removeNode_of_childless hn childless policy, wf.without_appendNode new]

/-! ### An edge that was added -/

/-- **An edge that was added is removed again**, and the graph is as before. -/
theorem removeEdge_appendEdge (new : e.id ∉ g.edgeIds) :
    (g.appendEdge e).removeEdge e.id = .ok (e, g) := by
  have found : (g.appendEdge e).index.edge[e.id]? = some g.edges.length := by
    have before : g.edges.findIdx? (·.id == e.id) = none := by
      rw [List.findIdx?_eq_none_iff]
      intro other listed
      rw [beq_eq_false_iff_ne]
      intro same
      exact new (same ▸ List.mem_map_of_mem listed)
    rw [edgePosition_eq, edges_appendEdge, List.findIdx?_append, before]
    simp
  have last : (g.appendEdge e).edges[g.edges.length]? = some e := by
    rw [edges_appendEdge, List.getElem?_concat_length]
  have rest : (g.edges ++ [e]).eraseIdx g.edges.length = g.edges := by
    rw [List.eraseIdx_append_of_length_le (Nat.le_refl _)]
    simp
  have back : (g.appendEdge e).dropEdge g.edges.length = g := ext_lists rfl rest
  simp only [removeEdge, found, last, back]

/-! ### A node that was moved -/

/-- **A node that was moved can go back** to where it stood, and the graph is as before. -/
theorem WellFormed.setParent_setParent (wf : g.WellFormed)
    (moved : g.setParent id parent? = .ok g') : g'.setParent id (g.parentOf? id) = .ok g := by
  have wf' := wf.setParent moved
  obtain ⟨known, -, result⟩ := (setParent_eq_ok_iff wf.nodeIds_nodup wf.parentsExist).1 moved
  have nodes : g'.nodes = g.nodes.map fun n => if n.id = id then { n with parent? } else n :=
    result ▸ rfl
  have edges : g'.edges = g.edges := result ▸ rfl
  obtain ⟨n, hn, rfl⟩ := List.mem_map.1 known
  rw [parentOf?_eq wf.nodeIds_nodup hn]
  refine (setParent_eq_ok_iff wf'.nodeIds_nodup wf'.parentsExist).2 ⟨?_, fun p hp => ?_, ?_⟩
  · rwa [nodeIds_moved nodes]
  · refine ⟨HasContainer.moved (wf.parentsContain n hn p hp) nodes, ?_, fun inside => ?_⟩
    · rintro rfl
      exact wf.parent?_ne_self hn hp
    · exact wf.acyclic hn (.trans hn hp ((wf.inside_setParent_iff moved).1 inside))
  · refine ext_lists ?_ edges
    change g'.nodes.map _ = g.nodes
    rw [nodes, List.map_map]
    refine (List.map_congr_left fun m hm => ?_).trans (List.map_id' _)
    by_cases here : m.id = n.id
    · obtain rfl := node_eq_of_id_eq wf.nodeIds_nodup hm hn here
      simp
    · simp [here]

/-! ### Edits and the way back -/

/-- Which edit takes back another one, that was made on `g` and had some outcome, and what it gives
itself. -/
inductive Reverts (g : Graph) : Edit → Outcome → Edit → Outcome → Prop where
  /-- A node that was added is removed, whatever would happen to its children. -/
  | addNode (n : Node) (policy : RemovalPolicy) :
      Reverts g (.addNode n) .done (.removeNode n.id policy) (.removed [n])
  /-- An edge that was added is removed. -/
  | addEdge (e : Edge) : Reverts g (.addEdge e) .done (.removeEdge e.id) (.disconnected e)
  /-- An edge by which nodes were connected is removed under the id that it got. -/
  | connect (source target : String) (handle : Handle) (id : String) :
      Reverts g (.connect source target handle) (.connected id) (.removeEdge id)
        (.disconnected { id, source, target, handle })
  /-- A node that was moved goes back to the parent that it had. -/
  | setParent (id : String) (parent? : Option String) :
      Reverts g (.setParent id parent?) .done (.setParent id (g.parentOf? id)) .done

/-- **Edits are taken back exactly.** On a graph with which nothing is wrong, the edit that takes
back another one succeeds, gives what the other one has added, and leaves the graph as it was, with
its nodes and edges in order and with its index. -/
theorem apply_of_reverts (clean : g.violations = []) {edit back : Edit} {outcome given : Outcome}
    (reverts : g.Reverts edit outcome back given) (done : edit.apply g = .ok (outcome, g')) :
    back.apply g' = .ok (given, g) := by
  have wf := wellFormed_of_violations_eq_nil clean
  cases reverts with
  | addNode n policy =>
    obtain ⟨_, added, same⟩ := map_eq_ok_iff.1 done
    cases same
    rw [Edit.apply, wf.removeNode_addNode added policy]
    rfl
  | addEdge e =>
    obtain ⟨_, added, same⟩ := map_eq_ok_iff.1 done
    cases same
    obtain ⟨-, -, -, new, rfl⟩ := addEdge_eq_ok_iff.1 added
    rw [Edit.apply, removeEdge_appendEdge new]
    rfl
  | connect source target handle id =>
    obtain ⟨⟨_, _⟩, connected, same⟩ := map_eq_ok_iff.1 done
    cases same
    obtain ⟨-, -, -, rfl, rfl⟩ := connect_eq_ok_iff.1 connected
    rw [Edit.apply, removeEdge_appendEdge (g.freeEdgeId_not_mem _)]
    rfl
  | setParent id parent? =>
    obtain ⟨_, moved, same⟩ := map_eq_ok_iff.1 done
    cases same
    rw [Edit.apply, wf.setParent_setParent moved]
    rfl

/-- The condition in the guarded part is moved into the loop with its step, and goes back. -/
theorem apply_of_reverts_guardedGraph :
    guardedGraph.violations = []
      ∧ guardedGraph.Reverts (.setParent "check" (some "each")) .done
        (.setParent "check" (some "guard")) .done
      ∧ ∃ g', (Edit.setParent "check" (some "each")).apply guardedGraph = .ok (.done, g')
        ∧ (Edit.setParent "check" (some "guard")).apply g' = .ok (.done, guardedGraph) := by
  have clean : guardedGraph.violations = [] := by decide +kernel
  have stood : guardedGraph.parentOf? "check" = some "guard" := by decide +kernel
  have reverts : guardedGraph.Reverts (.setParent "check" (some "each")) .done
      (.setParent "check" (some "guard")) .done := stood ▸ .setParent "check" (some "each")
  have moves : (guardedGraph.setParent "check" (some "each")).toOption.isSome = true := by
    decide +kernel
  obtain ⟨g', moved⟩ := exists_eq_ok_of_toOption moves
  have done : (Edit.setParent "check" (some "each")).apply guardedGraph = .ok (.done, g') :=
    map_eq_ok_iff.2 ⟨g', moved, rfl⟩
  exact ⟨clean, reverts, g', done, apply_of_reverts clean reverts done⟩

end Graph

end Workflow
