import Workflow.Proofs.Graph.Acceptance

/-!
# What a removal takes away

A node is removed alone, and its children move up to where it stood, or with everything that stands
in it. What is taken away is found by a walk downwards through the children, while nodes and edges
are sorted out afterwards, each by itself. Told without the walk: a node is gone if it is the one
that was to be removed, or if its chain of parents leads there; an edge is gone if a node at one of
its ends is; nothing else is touched, and nothing changes its place.

## Main results

* `filter_id_eq_singleton`: with distinct ids, one node has the id of a node.
* `contains_doomed_iff`: which ids the removal sorts out.
* `removeNode_decided`: **a removal takes away exactly what the policy says**, on every graph with
  which nothing is wrong.
-/

namespace Workflow

namespace Graph

variable {g : Graph} {n m : Node} {id other : String}

/-! ### What is gone -/

/-- An id is gone when a node is removed: that of the node, and with `cascade` those of the nodes
that stand in it. -/
def IsGone (g : Graph) (policy : RemovalPolicy) (id other : String) : Prop :=
  other = id ∨ policy = .cascade ∧ Inside g other id

/-- The ids that a removal sorts out. -/
def doomed (g : Graph) (id : String) : RemovalPolicy → List String
  | .cascade => id :: g.descendants id
  | .reparent => [id]

/-- **Which ids the removal sorts out**: those that are gone. -/
theorem contains_doomed_iff {policy : RemovalPolicy} :
    (g.doomed id policy).contains other = true ↔ g.IsGone policy id other := by
  cases policy with
  | reparent => simp [doomed, IsGone]
  | cascade =>
    rw [doomed, List.contains_iff_mem, mem_cons_descendants_iff, IsGone, and_iff_right rfl]

/-! ### What stays -/

/-- A node that stays when `n` is removed. The children of `n` that stay move up to where it
stood. -/
def movedUp (n : Node) (policy : RemovalPolicy) (m : Node) : Node :=
  if policy = .reparent ∧ m.parent? = some n.id then { m with parent? := n.parent? } else m

/-- A node keeps its id when it moves up. -/
@[simp] theorem id_movedUp (n : Node) (policy : RemovalPolicy) (m : Node) :
    (movedUp n policy m).id = m.id := by
  rw [movedUp]
  split <;> rfl

/-- Nothing moves up in a cascade. -/
theorem movedUp_cascade (n m : Node) : movedUp n .cascade m = m :=
  if_neg fun child => nomatch child.1

/-- A node stays where it is if its parent is not the one that is removed. -/
theorem movedUp_of_ne (apart : m.parent? ≠ some n.id) (policy : RemovalPolicy) :
    movedUp n policy m = m :=
  if_neg fun child => apart child.2

/-- Moving up and choosing by the id can change places. -/
theorem filter_map_movedUp (n : Node) (policy : RemovalPolicy) (p : String → Bool)
    (nodes : List Node) :
    (nodes.map (movedUp n policy)).filter (fun m => p m.id)
      = (nodes.filter fun m => p m.id).map (movedUp n policy) := by
  simp only [List.filter_map, Function.comp_def, id_movedUp]

/-! ### The removal -/

/-- What is taken away are ids, in whichever order they are listed. -/
theorem without_congr {doomed doomed' : List String} (same : ∀ id, id ∈ doomed ↔ id ∈ doomed')
    (nodes : List Node) (edges : List Edge) :
    without nodes edges doomed = without nodes edges doomed' := by
  have contains_eq : ∀ id, doomed.contains id = doomed'.contains id := by
    intro id
    rw [Bool.eq_iff_iff, List.contains_iff_mem, List.contains_iff_mem]
    exact same id
  simp only [without, contains_eq]

/-- With distinct ids, one node has the id of a node. -/
theorem filter_id_eq_singleton (distinct : g.nodeIds.Nodup) (hn : n ∈ g.nodes) :
    (g.nodes.filter fun m => m.id == n.id) = [n] := by
  have chosen : (g.nodes.filter fun m => m.id == n.id).Perm [n] := by
    refine (List.perm_ext_iff_of_nodup ?_ (List.nodup_singleton n)).2 fun m => ?_
    · exact (List.Nodup.of_map _ distinct).filter _
    · rw [List.mem_filter, beq_iff_eq, List.mem_singleton]
      constructor
      · rintro ⟨hm, same⟩
        exact node_eq_of_id_eq distinct hm hn same
      · rintro rfl
        exact ⟨hn, rfl⟩
  exact List.perm_singleton.1 chosen

/-- What a removal gives, whatever happens to the children: of the nodes, moved up or not, those
that it sorts out, with the requested one in front, and the graph without them. -/
theorem removeNode_eq (found : g.node? n.id = some n) (policy : RemovalPolicy) :
    g.removeNode n.id policy =
      let removed := (g.nodes.map (movedUp n policy)).filter fun m =>
        (g.doomed n.id policy).contains m.id
      .ok ((removed.filter fun m => m.id == n.id) ++ removed.filter fun m => m.id != n.id,
        without (g.nodes.map (movedUp n policy)) g.edges (g.doomed n.id policy)) := by
  unfold removeNode
  rw [found]
  cases policy with
  | cascade =>
    simp only [List.map_id'' (movedUp_cascade n), doomed]
  | reparent =>
    have lifted : g.nodes.map (movedUp n .reparent) = liftChildren g.nodes n.id n.parent? :=
      List.map_congr_left fun m _ => by simp only [movedUp, true_and]
    simp only [lifted, doomed]

/-- The requested node is sorted out as it was. -/
theorem WellFormed.filter_requested (wf : g.WellFormed) (hn : n ∈ g.nodes)
    (policy : RemovalPolicy) :
    ((g.nodes.map (movedUp n policy)).filter fun m =>
      m.id == n.id && (g.doomed n.id policy).contains m.id) = [n] := by
  have own : (g.doomed n.id policy).contains n.id = true := contains_doomed_iff.2 (.inl rfl)
  have chosen : ∀ m ∈ g.nodes, (m.id == n.id && (g.doomed n.id policy).contains m.id)
      = (m.id == n.id) := by
    intro m _
    by_cases same : m.id = n.id
    · rw [same, own, Bool.and_true]
    · simp [same]
  rw [filter_map_movedUp n policy fun id => id == n.id && (g.doomed n.id policy).contains id,
    List.filter_congr chosen, filter_id_eq_singleton wf.nodeIds_nodup hn, List.map_singleton,
    movedUp_of_ne (wf.parent?_ne_self hn)]

/-- So are the other nodes that are gone: there are only some in a cascade, where nothing moves
up. -/
theorem filter_others (g : Graph) (n : Node) (policy : RemovalPolicy) :
    ((g.nodes.map (movedUp n policy)).filter fun m =>
        m.id != n.id && (g.doomed n.id policy).contains m.id)
      = g.nodes.filter fun m => (g.doomed n.id policy).contains m.id && m.id != n.id := by
  rw [filter_map_movedUp n policy fun id => id != n.id && (g.doomed n.id policy).contains id,
    List.map_congr_left ?_, List.map_id']
  · exact List.filter_congr fun m _ => Bool.and_comm _ _
  · intro m chosen
    obtain ⟨-, chosen⟩ := List.mem_filter.1 chosen
    obtain ⟨apart, gone⟩ := Bool.and_eq_true_iff.1 chosen
    obtain same | ⟨rfl, -⟩ := contains_doomed_iff.1 gone
    · exact absurd same (bne_iff_ne.1 apart)
    · exact movedUp_cascade n m

/-- **A removal takes away exactly what the policy says.** On a graph with which nothing is wrong
it takes every node that exists. The nodes that are gone are given back as they were, the requested
one first and the others in the order of creation. Edges are gone exactly if one of their ends is.
What stays, stays as it is and in its order, but for the children of a node that is removed alone:
their parent is now the one that it had. -/
theorem removeNode_decided (clean : g.violations = []) (hn : n ∈ g.nodes)
    (policy : RemovalPolicy) :
    ∃ gone : String → Bool, (∀ id, gone id = true ↔ g.IsGone policy n.id id)
      ∧ g.removeNode n.id policy
        = .ok (n :: g.nodes.filter (fun m => gone m.id && m.id != n.id),
            ofLists ((g.nodes.filter fun m => !gone m.id).map (movedUp n policy))
              (g.edges.filter fun e => !gone e.source && !gone e.target)) := by
  have wf := wellFormed_of_violations_eq_nil clean
  have found : g.node? n.id = some n := (node?_eq_some_iff wf.nodeIds_nodup).2 ⟨hn, rfl⟩
  refine ⟨(g.doomed n.id policy).contains, fun id => contains_doomed_iff, ?_⟩
  rw [removeNode_eq found]
  simp only [List.filter_filter, wf.filter_requested hn, filter_others, without,
    filter_map_movedUp n policy fun id => !(g.doomed n.id policy).contains id,
    List.singleton_append]

/-- A loop in a loop. -/
def retryLoop : Node :=
  { id := "retry", type := "control.loop", label := "Retry", category := .control,
    parent? := some "each" }

/-- A loop with a loop inside and a step in each, of which the inner one is listed first. Edges
lead into the loops and out of them. -/
def retryGraph : Graph :=
  .ofLists
    [{ id := "start", type := "trigger.manual", label := "Start", category := .trigger },
      { id := "call", type := "logging.log", label := "Call", category := .logging,
        parent? := some "retry" },
      { id := "each", type := "control.loop", label := "Each", category := .control },
      retryLoop,
      { id := "done", type := "logging.log", label := "Done", category := .logging,
        parent? := some "each" }]
    [.canonical "start" "call" .success, .canonical "start" "done" .error,
      .canonical "call" "done" .success, .canonical "done" "each" .success]

/-- From the graph with the loops, the inner one is removed with all that stands in it. -/
theorem removeNode_decided_retryGraph :
    retryGraph.violations = [] ∧ retryLoop ∈ retryGraph.nodes
      ∧ ∃ gone : String → Bool, (∀ id, gone id = true ↔ retryGraph.IsGone .cascade "retry" id)
        ∧ retryGraph.removeNode "retry" .cascade
          = .ok (retryLoop :: retryGraph.nodes.filter (fun m => gone m.id && m.id != "retry"),
              ofLists ((retryGraph.nodes.filter fun m => !gone m.id).map
                  (movedUp retryLoop .cascade))
                (retryGraph.edges.filter fun e => !gone e.source && !gone e.target)) := by
  have clean : retryGraph.violations = [] := by decide +kernel
  have listed : retryLoop ∈ retryGraph.nodes := by simp [retryGraph, ofLists]
  exact ⟨clean, listed, removeNode_decided clean listed .cascade⟩

-- the step goes with its loop and takes its edges along
example : ((retryGraph.removeNode "retry" .cascade).toOption.map fun result =>
    (result.1.map (·.id), result.2.nodeIds, result.2.edges.map (·.id)))
      = some (["retry", "call"], ["start", "each", "done"],
        ["start-error-done", "done-success-each"]) := by
  decide +kernel

-- the step moves up, and no edge is lost
example : ((retryGraph.removeNode "retry" .reparent).toOption.map fun result =>
    (result.1.map (·.id), result.2.parentOf? "call", result.2.edges.length))
      = some (["retry"], some "each", 4) := by
  decide +kernel

end Graph

end Workflow
