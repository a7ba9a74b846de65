import Workflow.Proofs.Search

/-!
# The search with a queue

A search can also be run as a loop with a queue: what is in front of the queue is expanded, and
what is discovered by that goes to its back. Nothing in the loop counts its turns, and nothing in
it says where a layer ends. Its runs are told by a relation, `Drains`, and the search in layers is
the one run there is.

A layer is expanded as a whole or element by element: what is fresh is the same, in the same order
(`fresh_append`). So the queue holds what is left of a layer and, behind it, what has been
discovered of the next one.

## Main results

* `Drains.unique`: the loop has at most one run.
* `Drains.expand`: expanding a layer element by element.
* `drains_reachable_iff`, `drains_singleton_iff`: **the loop ends**, and lists what the search in
  layers lists.
-/

namespace Workflow

variable {α : Type} [DecidableEq α]

/-! ### Fresh elements -/

/-- What is fresh depends only on which elements were seen. -/
theorem fresh_congr {seen seen' : List α} (same : ∀ a, a ∈ seen ↔ a ∈ seen') (xs : List α) :
    fresh seen xs = fresh seen' xs := by
  induction xs generalizing seen seen' with
  | nil => rfl
  | cons x xs ih =>
    have more : ∀ a, a ∈ x :: seen ↔ a ∈ x :: seen' := by simp [same]
    simp only [fresh, same, ih same, ih more]

/-- What is fresh in the second of two lists is not in the first. -/
theorem fresh_append (seen xs ys : List α) :
    fresh seen (xs ++ ys) = fresh seen xs ++ fresh (fresh seen xs ++ seen) ys := by
  induction xs generalizing seen with
  | nil => rfl
  | cons x xs ih =>
    by_cases old : x ∈ seen
    · simp only [List.cons_append, fresh, old, if_true, ih]
    · have same : ∀ a, a ∈ fresh (x :: seen) xs ++ x :: seen
          ↔ a ∈ x :: fresh (x :: seen) xs ++ seen := by
        simp [or_left_comm]
      simp only [List.cons_append, fresh, old, if_false, ih, fresh_congr same]

/-! ### Runs of the loop -/

/-- A run of the loop, with what it has seen, its queue, and what it discovers from there on. -/
inductive Drains (next : α → List α) : List α → List α → List α → Prop where
  /-- The queue is empty. -/
  | done {seen : List α} : Drains next seen [] []
  /-- What is in front is expanded; what is fresh is seen, and goes to the back. -/
  | turn {seen rest later : List α} {a : α} :
      Drains next (fresh seen (next a) ++ seen) (rest ++ fresh seen (next a)) later →
      Drains next seen (a :: rest) (fresh seen (next a) ++ later)

variable {next : α → List α} {seen layer queue later : List α}

/-- **The loop has at most one run.** The induction is on the run. -/
theorem Drains.unique (run : Drains next seen queue later) {later' : List α}
    (run' : Drains next seen queue later') : later = later' := by
  induction run generalizing later' with
  | done =>
    cases run'
    rfl
  | turn _ ih =>
    cases run' with
    | turn run' => rw [ih run']

/-- A run depends only on which elements were seen. -/
theorem Drains.congr (run : Drains next seen queue later) {seen' : List α}
    (same : ∀ a, a ∈ seen ↔ a ∈ seen') : Drains next seen' queue later := by
  induction run generalizing seen' with
  | done => exact .done
  | turn _ ih =>
    rw [fresh_congr same] at ih ⊢
    exact .turn (ih fun a => by simp [same])

/-- **A layer is expanded** element by element. Behind what is left of it the queue holds what has
been discovered. -/
theorem Drains.expand {discovered : List α}
    (run : Drains next (fresh seen (layer.flatMap next) ++ seen)
      (discovered ++ fresh seen (layer.flatMap next)) later) :
    Drains next seen (layer ++ discovered) (fresh seen (layer.flatMap next) ++ later) := by
  induction layer generalizing seen discovered with
  | nil => simpa [fresh] using run
  | cons a rest ih =>
    rw [List.flatMap_cons, fresh_append] at run ⊢
    rw [List.cons_append, List.append_assoc]
    refine .turn ?_
    rw [List.append_assoc]
    refine ih ?_
    rw [List.append_assoc]
    refine run.congr fun b => ?_
    simp only [List.mem_append, or_left_comm, or_assoc]

/-- A search in layers goes on as a run of the loop, provided that there are layers left for all
elements. The induction is on the layers that are left. -/
theorem Frontier.exists_drains {known : List α} {bound : Nat}
    (frontier : Frontier next known bound seen layer)
    (steps : ∀ a ∈ known, ∀ b ∈ next a, b ∈ known) :
    ∃ later, layersFrom next bound seen layer = layer ++ later
      ∧ Drains next (layer ++ seen) layer later := by
  induction bound generalizing seen layer with
  | zero => exact absurd frontier.bound_pos (Nat.lt_irrefl 0)
  | succ bound ih =>
    cases layer with
    | nil => exact ⟨[], rfl, .done⟩
    | cons x xs =>
      obtain ⟨later, listed, run⟩ := ih (frontier.advance steps)
      have expanded : Drains next (x :: xs ++ seen) (x :: xs ++ []) _ := .expand run
      rw [List.append_nil] at expanded
      exact ⟨_, by rw [layersFrom, listed], expanded⟩

/-- **The loop ends**, and what it discovers from the start on is what the search in layers
lists. -/
theorem drains_reachable_iff {known start : List α} {bound : Nat}
    (steps : ∀ a ∈ known, ∀ b ∈ next a, b ∈ known) (inside : start ⊆ known)
    (room : known.length < bound) (distinct : start.Nodup) :
    Drains next start start later ↔ reachable next bound start = start ++ later := by
  have frontier : Frontier next known bound [] (fresh [] start) := frontier_start inside room
  rw [reachable]
  rw [fresh_eq_self distinct fun a _ => List.not_mem_nil] at frontier ⊢
  obtain ⟨listed, layers, run⟩ := frontier.exists_drains steps
  rw [List.append_nil] at run
  rw [layers, List.append_cancel_left_eq]
  constructor
  · exact run.unique
  · rintro rfl
    exact run

/-- **The loop from a single element ends**, and discovers what the search in layers lists behind
its start. -/
theorem drains_singleton_iff {known found : List α} {a : α} {bound : Nat}
    (steps : ∀ b, next b ⊆ known) (room : (a :: known).length < bound)
    (searched : a :: found = reachable next bound [a]) :
    Drains next [a] [a] later ↔ later = found := by
  have onward : ∀ b ∈ a :: known, ∀ c ∈ next b, c ∈ a :: known :=
    fun b _ c hc => List.mem_cons_of_mem a (steps b hc)
  have start : [a] ⊆ a :: known := by simp
  rw [drains_reachable_iff onward start room (List.pairwise_singleton _ a), ← searched,
    List.singleton_append]
  exact ⟨fun same => (List.cons.inj same).2.symm, fun same => by rw [same]⟩

end Workflow
