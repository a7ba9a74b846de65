import Mathlib.Order.Lattice.Nat
import Workflow.Proofs.Graph.Upstream
import Workflow.Proofs.Scope
import Workflow.Proofs.Search.Distance

/-!
# Outputs in the order of their distance

A node sees the outputs of the nodes that edges lead from to it, one node after the other. The
search for them goes backwards along the edges and in layers, so that it discovers a node on one of
the shortest paths from it, and no node further away before. Only edges are steps: what stands in
what does not occur in a path.

## Main results

* `mem_predecessors_iff_path`: the predecessors of a node are the others with a path to it.
* `predecessors_pairwise_distance`: predecessors are listed by their distance.
* `visibleOutputs_nearest_first`: **a node sees the outputs of the nodes upstream**, each once, and
  those of the nearest first.
-/

namespace Workflow.Graph

variable {g : Graph} {r : Registry} {id : String} {n : Node}

/-! ### Paths -/

/-- So many edges, of either handle and one behind the other, lead from one id to another. -/
inductive Path (g : Graph) : Nat → String → String → Prop where
  /-- No edge leads from an id to itself. -/
  | here {id : String} : Path g 0 id id
  /-- An edge leads to where a path begins. -/
  | edge {length : Nat} {e : Edge} {last : String} : e ∈ g.edges → Path g length e.target last →
      Path g (length + 1) e.source last

/-- The length of the shortest path from one id to another, if there is any. -/
noncomputable def distance (g : Graph) (source target : String) : Nat :=
  sInf {length | g.Path length source target}

/-- The shortest path is a path. -/
theorem Path.distance {length : Nat} {source target : String} (path : g.Path length source target) :
    g.Path (g.distance source target) source target :=
  Nat.sInf_mem (s := {length | g.Path length source target}) ⟨length, path⟩

/-- In a well-formed graph an id leads straight to another exactly by an edge. -/
theorem WellFormed.leadsTo_iff (wf : g.WellFormed) {source target : String} :
    g.LeadsTo source target ↔ ∃ e ∈ g.edges, e.source = source ∧ e.target = target := by
  constructor
  · rintro ⟨-, handle, listed⟩
    obtain ⟨e, he, same⟩ := List.mem_map.1 listed
    simp only [Prod.mk.injEq] at same
    exact ⟨e, he, same.1, same.2.2⟩
  · rintro ⟨e, he, rfl, rfl⟩
    exact ⟨(wf.edgesAttached e he).1, e.handle, List.mem_map_of_mem he⟩

/-- **The search backwards** has come as far as the paths are long. -/
theorem WellFormed.reachedIn_sources_iff (wf : g.WellFormed) {length : Nat} {other : String} :
    ReachedIn g.sources [id] length other ↔ g.Path length other id := by
  constructor
  · intro reached
    induction reached with
    | start first =>
      obtain rfl := List.mem_singleton.1 first
      exact .here
    | step _ onward ih =>
      obtain ⟨e, he, rfl, rfl⟩ := wf.leadsTo_iff.1 (mem_sources_iff.1 onward)
      exact .edge he ih
  · intro path
    induction path with
    | here => exact .start (List.mem_singleton_self _)
    | edge he _ ih =>
      exact .step ih (mem_sources_iff.2 (wf.leadsTo_iff.2 ⟨_, he, rfl, rfl⟩))

/-! ### Predecessors -/

/-- Edges lead from an id to another, one after the other, exactly if there is a path. -/
theorem WellFormed.reflTransGen_leadsTo_iff (wf : g.WellFormed) {source target : String} :
    Relation.ReflTransGen g.LeadsTo source target ↔ ∃ length, g.Path length source target := by
  constructor
  · intro leads
    induction leads using Relation.ReflTransGen.head_induction_on with
    | refl => exact ⟨0, .here⟩
    | head first _ ih =>
      obtain ⟨e, he, rfl, rfl⟩ := wf.leadsTo_iff.1 first
      obtain ⟨length, path⟩ := ih
      exact ⟨length + 1, .edge he path⟩
  · rintro ⟨length, path⟩
    induction path with
    | here => exact .refl
    | edge he _ ih => exact .head (wf.leadsTo_iff.2 ⟨_, he, rfl, rfl⟩) ih

/-- **The predecessors of a node** are the others with a path to it. -/
theorem WellFormed.mem_predecessors_iff_path (wf : g.WellFormed) {other : String} :
    other ∈ g.predecessors id ↔ other ≠ id ∧ ∃ length, g.Path length other id := by
  rw [← wf.reflTransGen_leadsTo_iff, ← mem_cons_predecessors_iff, List.mem_cons]
  constructor
  · intro upstream
    refine ⟨?_, .inr upstream⟩
    rintro rfl
    exact g.not_mem_predecessors_self other upstream
  · rintro ⟨apart, found⟩
    exact found.resolve_left apart

/-- **Predecessors are listed by their distance.** -/
theorem WellFormed.predecessors_pairwise_distance (wf : g.WellFormed) (id : String) :
    (g.predecessors id).Pairwise fun a b => g.distance a id ≤ g.distance b id := by
  have searched := reachable_pairwise g.sources (g.nodes.length + 2) [id]
  rw [← cons_predecessors] at searched
  refine (List.pairwise_cons.1 searched).2.imp_of_mem fun {a b} _ hb noFurther => ?_
  obtain ⟨-, length, path⟩ := wf.mem_predecessors_iff_path.1 hb
  obtain ⟨fewer, less, shorter⟩ := noFurther _ (wf.reachedIn_sources_iff.2 path.distance)
  exact (Nat.sInf_le (wf.reachedIn_sources_iff.1 shorter)).trans less

/-- Nodes that are looked up have the ids they are looked up by. -/
theorem map_id_filterMap_node? {ids : List String} (known : ids ⊆ g.nodeIds) :
    (ids.filterMap g.node?).map (·.id) = ids := by
  induction ids with
  | nil => rfl
  | cons first rest ih =>
    obtain ⟨here, later⟩ := List.cons_subset.1 known
    rw [← contains_iff_mem_nodeIds, contains_eq_any, ← List.isSome_find?, ← node?_eq_find?] at here
    obtain ⟨m, found⟩ := Option.isSome_iff_exists.1 here
    rw [List.filterMap_cons, found, List.map_cons, ih later, (mem_of_node?_eq_some found).2]

/-- Looking ids up gives the nodes that have one of them. -/
theorem mem_filterMap_node? (distinct : g.nodeIds.Nodup) {ids : List String} {m : Node} :
    m ∈ ids.filterMap g.node? ↔ m ∈ g.nodes ∧ m.id ∈ ids := by
  simp only [List.mem_filterMap, node?_eq_some_iff distinct]
  constructor
  · rintro ⟨other, listed, hm, rfl⟩
    exact ⟨hm, listed⟩
  · rintro ⟨hm, listed⟩
    exact ⟨m.id, listed, hm, rfl⟩

/-! ### What a node sees -/

/-- **A node sees the outputs of the nodes upstream.** In a graph of which nothing is reported they
are those of the other nodes with a path to it, each of them once, and those of the nearest
first. A search with a queue for these nodes ends, and discovers them in this order. -/
theorem visibleOutputs_nearest_first (clean : g.violations = []) (hn : n ∈ g.nodes) :
    ∃ upstream : List Node,
      g.visibleOutputs r n.id = .ok (upstream.flatMap r.offers)
        ∧ (∀ listed, Drains g.sources [n.id] [n.id] listed ↔ listed = upstream.map (·.id))
        ∧ upstream.Nodup
        ∧ (∀ m, m ∈ upstream ↔ m ∈ g.nodes ∧ m ≠ n ∧ ∃ length, g.Path length m.id n.id)
        ∧ upstream.Pairwise fun a b => g.distance a.id n.id ≤ g.distance b.id n.id := by
  have wf := wellFormed_of_violations_eq_nil clean
  have distinct := wf.nodeIds_nodup
  have known : g.predecessors n.id ⊆ g.nodeIds := by
    intro other upstream
    obtain ⟨_, first, -⟩ := Relation.TransGen.head'_iff.1 (mem_predecessors_iff.1 upstream).2
    exact first.1
  have ids := map_id_filterMap_node? known
  refine ⟨(g.predecessors n.id).filterMap g.node?, ?_, fun listed => ?_, ?_, fun m => ?_, ?_⟩
  · refine visibleOutputs_eq_ok_iff.2 ⟨?_, rfl⟩
    exact (contains_iff_mem_nodeIds g n.id).2 (List.mem_map_of_mem hn)
  · rw [ids]
    exact drains_predecessors_iff
  · exact List.Nodup.of_map (·.id) (ids.symm ▸ g.nodup_predecessors n.id)
  · have same_id : m ∈ g.nodes → (m.id = n.id ↔ m = n) :=
      fun hm => ⟨node_eq_of_id_eq distinct hm hn, congrArg Node.id⟩
    rw [mem_filterMap_node? distinct, wf.mem_predecessors_iff_path]
    exact and_congr_right fun hm => and_congr_left fun _ => not_congr (same_id hm)
  · have listed := wf.predecessors_pairwise_distance n.id
    rw [← ids, List.pairwise_map] at listed
    exact listed

/-- A check inside a loop, which goes back to what it checks. -/
def pollCheck : Node :=
  { id := "check", type := "control.if", label := "Check", category := .control,
    parent? := some "each" }

/-- A loop with a call and its check, into which the flow leads straight. -/
def pollGraph : Graph :=
  .ofLists
    [{ id := "start", type := "trigger.manual", label := "Start", category := .trigger },
      { id := "each", type := "control.loop", label := "Each", category := .control },
      { id := "call", type := "logging.log", label := "Call", category := .logging,
        parent? := some "each" },
      pollCheck]
    [.canonical "start" "call" .success, .canonical "call" "check" .success,
      .canonical "check" "call" .error]

/-- In the graph with the loop the check sees what the theorem says. -/
theorem visibleOutputs_nearest_first_pollGraph :
    pollGraph.violations = [] ∧ pollCheck ∈ pollGraph.nodes
      ∧ ∃ upstream : List Node,
        pollGraph.visibleOutputs .builtin "check"
            = .ok (upstream.flatMap Registry.builtin.offers)
          ∧ (∀ listed, Drains pollGraph.sources ["check"] ["check"] listed
            ↔ listed = upstream.map (·.id))
          ∧ upstream.Nodup
          ∧ (∀ m, m ∈ upstream ↔ m ∈ pollGraph.nodes ∧ m ≠ pollCheck
            ∧ ∃ length, pollGraph.Path length m.id "check")
          ∧ upstream.Pairwise fun a b =>
            pollGraph.distance a.id "check" ≤ pollGraph.distance b.id "check" := by
  have clean : pollGraph.violations = [] := by decide +kernel
  have listed : pollCheck ∈ pollGraph.nodes := by simp [pollGraph, ofLists]
  exact ⟨clean, listed, visibleOutputs_nearest_first clean listed⟩

-- neither the loop around the check nor the check itself is upstream
example : pollGraph.predecessors "check" = ["call", "start"] := by decide +kernel

end Workflow.Graph
