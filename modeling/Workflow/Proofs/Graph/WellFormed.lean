import Workflow.Proofs.Graph.Ancestry

/-!
# Well-formedness and its check

The predicate `WellFormed` and the check `violations` tell the same: nothing is reported of a
graph exactly if it is well formed. The two directions meet in the walk upwards, by which the
check finds cycles.

## Main results

* `WellFormed.violations_eq_nil`: nothing is reported of a well-formed graph.
* `wellFormed_of_violations_eq_nil`: a graph of which nothing is reported is well formed.
-/

namespace Workflow.Graph

variable {g : Graph}

namespace WellFormed

/-- No id is listed twice. -/
theorem nodeIds_nodup (wf : g.WellFormed) : g.nodeIds.Nodup :=
  wf.nodeIdsDistinct

/-- No id is empty. -/
theorem id_ne_empty (wf : g.WellFormed) {n : Node} (hn : n ∈ g.nodes) : n.id ≠ "" := by
  intro empty
  have visible := wf.nodeIdsVisible n hn
  rw [empty] at visible
  cases visible

/-- Parents exist. -/
theorem parentsExist (wf : g.WellFormed) : g.ParentsExist := by
  intro n hn p hp
  obtain ⟨m, hm, rfl, -⟩ := wf.parentsContain n hn p hp
  exact List.mem_map_of_mem hm

/-- No node stands in itself. -/
theorem acyclic (wf : g.WellFormed) {n : Node} (hn : n ∈ g.nodes) : ¬ Inside g n.id n.id :=
  (wf.rooted n hn).not_inside_self wf.nodeIds_nodup

/-- No node is its own parent. -/
theorem parent?_ne_self (wf : g.WellFormed) {n : Node} (hn : n ∈ g.nodes) :
    n.parent? ≠ some n.id :=
  fun hp => wf.acyclic hn (.step hn hp)

/-- The node that is named as a parent is a container. -/
theorem isContainer_of_parent (wf : g.WellFormed) {n m : Node} (hn : n ∈ g.nodes)
    (hm : m ∈ g.nodes) (hp : n.parent? = some m.id) : isContainer m.type = true := by
  obtain ⟨m', hm', same, holds⟩ := wf.parentsContain n hn m.id hp
  rwa [node_eq_of_id_eq wf.nodeIds_nodup hm' hm same] at holds

/-- A node in which others stand is a container. -/
theorem isContainer_of_childrenOf (wf : g.WellFormed) {m : Node} (hm : m ∈ g.nodes)
    (some_inside : g.childrenOf m.id ≠ []) : isContainer m.type = true := by
  obtain ⟨n, inside⟩ := List.exists_mem_of_ne_nil _ some_inside
  obtain ⟨hn, hp⟩ := mem_childrenOf.1 inside
  exact wf.isContainer_of_parent hn hm hp

end WellFormed

/-! ### The single checks -/

/-- No end of an edge dangles exactly if both ends of every edge exist. -/
theorem danglingEnds_eq_nil_iff :
    g.danglingEnds = [] ↔ ∀ e ∈ g.edges, e.source ∈ g.nodeIds ∧ e.target ∈ g.nodeIds := by
  simp [danglingEnds, List.flatMap_eq_nil_iff, List.filter_eq_nil_iff, contains_iff_mem_nodeIds]

/-- Nothing is wrong with the place of a node exactly if its parent, should it have one, is a
container that neither is the node nor stands in it. -/
theorem containmentFaults_eq_nil_iff {n : Node} :
    g.containmentFaults n = [] ↔ ∀ p, n.parent? = some p →
      g.parentFault p = [] ∧ n.id ∉ g.ancestors p ∧ p ≠ n.id := by
  cases hp : n.parent? with
  | none => simp [containmentFaults, hp]
  | some p =>
    simp only [containmentFaults, hp, isCyclic, List.map_eq_nil_iff, List.append_eq_nil_iff,
      ite_eq_right_iff, reduceCtorEq, imp_false, Bool.or_eq_true, List.contains_iff_mem,
      beq_iff_eq, not_or, Option.some.injEq, forall_eq', ne_eq]

/-- With distinct ids, nothing is wrong with a parent exactly if it is a container. -/
theorem parentFault_eq_nil_iff (distinct : g.nodeIds.Nodup) {p : String} :
    g.parentFault p = [] ↔ ∃ m ∈ g.nodes, m.id = p ∧ isContainer m.type = true := by
  have found : g.nodes.reverse.find? (·.id == p) = g.node? p := by
    rw [node?_eq_find?]
    exact (find?_key_of_perm distinct g.nodes.reverse_perm.symm p).symm
  have meant : ∀ m, g.node? p = some m ↔ m ∈ g.nodes ∧ m.id = p :=
    fun _ => node?_eq_some_iff distinct
  rw [parentFault, found]
  split
  · next none_found =>
    simp only [none_found, reduceCtorEq, false_iff] at meant
    simp only [reduceCtorEq, false_iff]
    rintro ⟨m, hm, hid, -⟩
    exact meant m ⟨hm, hid⟩
  · next q hq =>
    simp only [hq, Option.some.injEq] at meant
    simp only [ite_eq_left_iff, Bool.not_eq_true, reduceCtorEq, imp_false, Bool.not_eq_false]
    constructor
    · exact fun holds => ⟨q, ((meant q).1 rfl).1, ((meant q).1 rfl).2, holds⟩
    · rintro ⟨m, hm, hid, holds⟩
      rwa [(meant m).2 ⟨hm, hid⟩]

/-! ### The check as a whole -/

/-- **Completeness of the predicate**: nothing is reported of a well-formed graph. -/
theorem WellFormed.violations_eq_nil (wf : g.WellFormed) : g.violations = [] := by
  rw [violations_eq_nil_iff_parts]
  refine ⟨wf.nodeIdsVisible, wf.nodeIdsDistinct, wf.edgeIdsDistinct,
    danglingEnds_eq_nil_iff.2 wf.edgesAttached, wf.handlesDistinct, ?_⟩
  intro n hn
  rw [containmentFaults_eq_nil_iff]
  intro p hp
  refine ⟨(parentFault_eq_nil_iff wf.nodeIds_nodup).2 (wf.parentsContain n hn p hp), ?_, ?_⟩
  · exact fun loop => wf.acyclic hn (.trans hn hp (inside_of_mem_ancestors loop))
  · rintro rfl
    exact wf.parent?_ne_self hn hp

/-- **Soundness of the check**: a graph of which nothing is reported is well formed. -/
theorem wellFormed_of_violations_eq_nil (h : g.violations = []) : g.WellFormed := by
  obtain ⟨visible, distinct, edgeIds, attached, handles, places⟩ :=
    (violations_eq_nil_iff_parts g).1 h
  have place : ∀ n ∈ g.nodes, ∀ p, n.parent? = some p →
      g.parentFault p = [] ∧ n.id ∉ g.ancestors p ∧ p ≠ n.id :=
    fun n hn => containmentFaults_eq_nil_iff.1 (places n hn)
  have contain : ∀ n ∈ g.nodes, ∀ p, n.parent? = some p →
      ∃ m ∈ g.nodes, m.id = p ∧ isContainer m.type = true :=
    fun n hn p hp => (parentFault_eq_nil_iff distinct).1 (place n hn p hp).1
  have exist : g.ParentsExist := by
    intro n hn p hp
    obtain ⟨m, hm, rfl, -⟩ := contain n hn p hp
    exact List.mem_map_of_mem hm
  have acyclic : ∀ n ∈ g.nodes, ¬ Inside g n.id n.id := by
    intro n hn loop
    obtain ⟨p, hp, same | above⟩ := (inside_iff distinct hn).1 loop
    · exact (place n hn p hp).2.2 same
    · exact (place n hn p hp).2.1 (mem_ancestors_of_inside distinct exist above)
  exact
    { nodeIdsVisible := visible
      nodeIdsDistinct := distinct
      edgeIdsDistinct := edgeIds
      edgesAttached := danglingEnds_eq_nil_iff.1 attached
      handlesDistinct := handles
      parentsContain := contain
      rooted := fun _ hn => rooted_of_acyclic distinct exist acyclic hn }

end Workflow.Graph
