import Workflow.Proofs.Graph.WellFormed

/-!
# The walk upwards without its bound

The walk from a node to the containers around it is a loop: it goes on to the next parent until
there is none, or until it has met the parent before. Nothing in the loop counts its turns. Its
runs are told by a relation, `Climbs`, one rule for each way a turn can go, and the bounded walk
that the check calls is the one run there is: on every graph, be the ids distinct or not, the
parents there or not, the chain closed or not.

What carries the proof is that every id the walk goes on from is the id of a node. The ids that
were met are such ids and distinct, so that there are never more of them than nodes.

## Main results

* `Climbs.unique`: the loop has at most one run.
* `climbs_ancestors_iff`: the containers of a node are exactly what the loop lists.
* `violations_decide_wellFormed`: **the check ends, and reports nothing exactly of well-formed
  graphs.**
-/

namespace Workflow.Graph

variable {g : Graph}

/-- A run of the loop upwards, with the ids it has met, the id it is at, and the ids that it
lists from there on. -/
inductive Climbs (g : Graph) : List String → Option String → List String → Prop where
  /-- There is no further parent. -/
  | top {seen : List String} : Climbs g seen none []
  /-- The parent has been met before. -/
  | back {seen : List String} {id : String} : id ∈ seen → Climbs g seen (some id) []
  /-- The parent is new: it is listed, and the loop goes on from it. -/
  | up {seen above : List String} {id : String} : id ∉ seen →
      Climbs g (id :: seen) (g.parentOf? id) above → Climbs g seen (some id) (id :: above)

/-- **The loop has at most one run.** The induction is on the run. -/
theorem Climbs.unique {seen : List String} {current? : Option String} {above above' : List String}
    (run : Climbs g seen current? above) (run' : Climbs g seen current? above') :
    above = above' := by
  induction run generalizing above' with
  | top =>
    cases run'
    rfl
  | back met =>
    cases run' with
    | back => rfl
    | up new => exact absurd met new
  | up new _ ih =>
    cases run' with
    | back met => exact absurd met new
    | up _ later => rw [ih later]

/-- What holds before every turn of the loop of which at most `bound` turns are counted. -/
structure Climbing (g : Graph) (bound : Nat) (seen : List String) : Prop where
  /-- Nothing was met twice. -/
  distinct : seen.Nodup
  /-- The loop has only gone on from nodes. -/
  nodes : seen ⊆ g.nodeIds
  /-- There are more turns left than nodes. -/
  room : g.nodes.length < bound + seen.length

/-- Before every turn of the loop there is a turn left. -/
theorem Climbing.bound_pos {bound : Nat} {seen : List String} (h : Climbing g bound seen) :
    0 < bound := by
  have fits : seen.length ≤ g.nodeIds.length := h.distinct.length_le_of_subset h.nodes
  have size : g.nodeIds.length = g.nodes.length := List.length_map _
  have room := h.room
  omega

/-- A turn of the loop from a node that was not met before leaves the loop as it was. -/
theorem Climbing.advance {bound : Nat} {seen : List String} (h : Climbing g (bound + 1) seen)
    {id : String} (new : id ∉ seen) (node : id ∈ g.nodeIds) : Climbing g bound (id :: seen) where
  distinct := List.nodup_cons.2 ⟨new, h.distinct⟩
  nodes := List.cons_subset.2 ⟨node, h.nodes⟩
  room := by
    have room := h.room
    rw [List.length_cons]
    omega

/-- Where the chain of parents ends, the loop does, whatever is left of the bound. -/
theorem ancestorsFrom_none (g : Graph) (bound : Nat) (seen : List String) :
    g.ancestorsFrom bound seen none = [] := by
  cases bound <;> rfl

/-- **The bounded walk is a run of the loop** if there are turns left for all the nodes. The
induction is on the bound. -/
theorem climbs_ancestorsFrom {bound : Nat} {seen : List String} (h : Climbing g bound seen)
    (current? : Option String) : Climbs g seen current? (g.ancestorsFrom bound seen current?) := by
  induction bound generalizing seen current? with
  | zero => exact absurd h.bound_pos (Nat.lt_irrefl 0)
  | succ bound ih =>
    cases current? with
    | none => exact .top
    | some id =>
      rw [ancestorsFrom]
      split
      · next met => exact .back met
      · next new =>
        refine .up new ?_
        cases parent : g.parentOf? id with
        | none =>
          rw [ancestorsFrom_none]
          exact .top
        | some p =>
          -- only an id that a node has is gone on from
          obtain ⟨n, hn, rfl, -⟩ := exists_of_parentOf?_eq_some parent
          exact ih (h.advance new (List.mem_map_of_mem hn)) (some p)

/-- **The loop ends on every graph**, and lists the containers of the node. -/
theorem climbs_ancestors_iff {id : String} {above : List String} :
    Climbs g [] (g.parentOf? id) above ↔ above = g.ancestors id := by
  have start : Climbing g (g.nodes.length + 1) [] :=
    { distinct := List.nodup_nil
      nodes := List.nil_subset _
      room := Nat.lt_succ_self _ }
  have run : Climbs g [] (g.parentOf? id) (g.ancestors id) := climbs_ancestorsFrom start _
  constructor
  · exact fun run' => run'.unique run
  · rintro rfl
    exact run

/-- **The check decides what is well formed.** On every graph the loops in it end, with the
containers that the check looks through, and nothing is reported exactly if the graph is well
formed. -/
theorem violations_decide_wellFormed (g : Graph) :
    (∀ id above, Climbs g [] (g.parentOf? id) above ↔ above = g.ancestors id)
      ∧ (g.violations = [] ↔ g.WellFormed) :=
  ⟨fun _ _ => climbs_ancestors_iff,
    wellFormed_of_violations_eq_nil, WellFormed.violations_eq_nil⟩

end Workflow.Graph
