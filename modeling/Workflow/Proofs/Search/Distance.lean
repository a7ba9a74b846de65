import Mathlib.Data.List.Pairwise
import Workflow.Proofs.Search

/-!
# How far a search has come

A search in layers goes through the elements in the order of their distance from the start. Between
two layers it has seen what is nearer than the layer, and the layer is what is as far away and has
not been seen. This is the whole invariant (`Nearer`): it determines both lists up to their order.

## Main results

* `Nearer.advance`: the next layer is one step further away.
* `layersFrom_pairwise`, `reachable_pairwise`: **a search lists what is nearer first**.
-/

namespace Workflow

variable {α : Type}

/-- What so many steps lead to from the start. -/
inductive ReachedIn (next : α → List α) (start : List α) : Nat → α → Prop where
  /-- No step leads to the start. -/
  | start {a : α} : a ∈ start → ReachedIn next start 0 a
  /-- One step more leads to where a step leads from there. -/
  | step {steps : Nat} {a b : α} : ReachedIn next start steps a → b ∈ next a →
      ReachedIn next start (steps + 1) b

/-- An element is no further away than another: however many steps lead to the other, no more lead
to it. -/
def NoFurther (next : α → List α) (start : List α) (a b : α) : Prop :=
  ∀ steps, ReachedIn next start steps b → ∃ fewer ≤ steps, ReachedIn next start fewer a

/-- What holds between two layers of a search: fewer than `steps` steps lead to what was seen, and
no fewer to what stands in the layer. -/
structure Nearer (next : α → List α) (start : List α) (steps : Nat) (seen layer : List α) :
    Prop where
  /-- What is nearer has been seen, and nothing else. -/
  mem_seen : ∀ a, a ∈ seen ↔ ∃ fewer < steps, ReachedIn next start fewer a
  /-- What has not been seen and is as far away stands in the layer, and nothing else. -/
  mem_layer : ∀ a, a ∈ layer ↔ ReachedIn next start steps a ∧ a ∉ seen

variable {next : α → List α} {start seen layer : List α} {steps : Nat}

/-- What stands in a layer is no further away than what has not been seen before it. -/
theorem Nearer.noFurther (nearer : Nearer next start steps seen layer) {a b : α} (ha : a ∈ layer)
    (hb : b ∉ seen) : NoFurther next start a b := by
  intro more reached
  refine ⟨steps, ?_, ((nearer.mem_layer a).1 ha).1⟩
  by_contra fewer
  exact hb ((nearer.mem_seen b).2 ⟨more, Nat.lt_of_not_le fewer, reached⟩)

variable [DecidableEq α]

/-- **The next layer** is one step further away. -/
theorem Nearer.advance (nearer : Nearer next start steps seen layer) :
    Nearer next start (steps + 1) (layer ++ seen) (fresh (layer ++ seen) (layer.flatMap next)) := by
  have mem_seen : ∀ a, a ∈ layer ++ seen ↔ ∃ fewer < steps + 1, ReachedIn next start fewer a := by
    intro a
    rw [List.mem_append, nearer.mem_layer, nearer.mem_seen]
    constructor
    · rintro (⟨reached, -⟩ | ⟨fewer, less, reached⟩)
      · exact ⟨steps, Nat.lt_succ_self steps, reached⟩
      · exact ⟨fewer, Nat.lt_succ_of_lt less, reached⟩
    · rintro ⟨fewer, less, reached⟩
      by_cases before : ∃ fewer < steps, ReachedIn next start fewer a
      · exact .inr before
      · rcases Nat.lt_succ_iff_lt_or_eq.1 less with less | rfl
        · exact absurd ⟨fewer, less, reached⟩ before
        · exact .inl ⟨reached, before⟩
  refine ⟨mem_seen, fun b => ?_⟩
  rw [mem_fresh, List.mem_flatMap]
  refine and_congr_left fun new => ⟨?_, fun reached => ?_⟩
  · rintro ⟨a, ha, onward⟩
    exact .step ((nearer.mem_layer a).1 ha).1 onward
  · cases reached with
    | @step _ a _ reached onward =>
      -- had the element before it been seen, so would this one
      refine ⟨a, (nearer.mem_layer a).2 ⟨reached, fun old => new ?_⟩, onward⟩
      obtain ⟨fewer, less, reached⟩ := (nearer.mem_seen a).1 old
      exact (mem_seen b).2 ⟨fewer + 1, Nat.succ_lt_succ less, .step reached onward⟩

/-- **A search lists what is nearer first**, from any layer on. The induction is on the layers that
are left. -/
theorem layersFrom_pairwise (bound : Nat) (nearer : Nearer next start steps seen layer) :
    (layersFrom next bound seen layer).Pairwise (NoFurther next start) := by
  induction bound generalizing steps seen layer with
  | zero => exact .nil
  | succ bound ih =>
    cases layer with
    | nil => exact .nil
    | cons x xs =>
      rw [layersFrom, List.pairwise_append]
      have unseen : ∀ b ∈ x :: xs, b ∉ seen := fun b hb => ((nearer.mem_layer b).1 hb).2
      refine ⟨List.pairwise_of_forall_mem_list fun a ha b hb => nearer.noFurther ha (unseen b hb),
        ih nearer.advance, fun a ha b hb => nearer.noFurther ha fun old => ?_⟩
      exact not_mem_seen_of_mem_layersFrom next bound (x :: xs ++ seen) _
        (fun _ hc => (mem_fresh.1 hc).2) hb (List.mem_append_right _ old)

/-- A search begins with the start, of which nothing is nearer. -/
theorem nearer_start (next : α → List α) (start : List α) :
    Nearer next start 0 [] (fresh [] start) where
  mem_seen a := by simp
  mem_layer a := by
    rw [mem_fresh]
    refine and_congr_left fun _ => ⟨.start, fun reached => ?_⟩
    cases reached with
    | start first => exact first

/-- **A search lists what is nearer first.** -/
theorem reachable_pairwise (next : α → List α) (bound : Nat) (start : List α) :
    (reachable next bound start).Pairwise (NoFurther next start) :=
  layersFrom_pairwise bound (nearer_start next start)

end Workflow
