import Workflow.Occurrence

/-!
# Breadth-first search

A search runs in layers: the start, then everything one step away that has not been seen, and
so on. Each layer keeps the order in which its elements were discovered. The number of layers
is bounded by the caller; a bound above the number of elements that exist is never felt.

## Main results

* `nodup_reachable`: nothing is reached twice.
-/

namespace Workflow

variable {α : Type} [DecidableEq α]

/-- The elements of `layer`, of the layer one step further, and so on. What is in `seen` or in
an earlier layer is not discovered again. -/
def layersFrom (next : α → List α) : Nat → List α → List α → List α
  | 0, _, _ => []
  | _ + 1, _, [] => []
  | bound + 1, seen, x :: xs =>
    let layer := x :: xs
    layer ++ layersFrom next bound (layer ++ seen) (fresh (layer ++ seen) (layer.flatMap next))

/-- Everything that can be reached from `start`, nearest first. -/
def reachable (next : α → List α) (bound : Nat) (start : List α) : List α :=
  layersFrom next bound [] (fresh [] start)

/-! ### What a search lists -/

/-- Nothing that was seen before is discovered. -/
theorem not_mem_seen_of_mem_layersFrom (next : α → List α) (bound : Nat) (seen layer : List α)
    (apart : ∀ x ∈ layer, x ∉ seen) {a : α} (ha : a ∈ layersFrom next bound seen layer) :
    a ∉ seen := by
  induction bound generalizing seen layer with
  | zero => simp [layersFrom] at ha
  | succ bound ih =>
    cases layer with
    | nil => simp [layersFrom] at ha
    | cons x xs =>
      rw [layersFrom, List.mem_append] at ha
      rcases ha with ha | ha
      · exact apart a ha
      · have later := ih (x :: xs ++ seen) _ (fun y hy => (mem_fresh.1 hy).2) ha
        exact fun hs => later (List.mem_append_right _ hs)

/-- Nothing is discovered twice. -/
theorem nodup_layersFrom (next : α → List α) (bound : Nat) (seen layer : List α)
    (distinct : layer.Nodup) : (layersFrom next bound seen layer).Nodup := by
  induction bound generalizing seen layer with
  | zero => simp [layersFrom]
  | succ bound ih =>
    cases layer with
    | nil => simp [layersFrom]
    | cons x xs =>
      rw [layersFrom, List.nodup_append]
      refine ⟨distinct, ih _ _ (nodup_fresh _ _), ?_⟩
      intro a ha b hb hab
      subst hab
      -- from the next layer on, this one counts as seen
      have later := not_mem_seen_of_mem_layersFrom next bound (x :: xs ++ seen) _
        (fun y hy => (mem_fresh.1 hy).2) hb
      exact later (List.mem_append_left _ ha)

/-- Nothing is reached twice. -/
theorem nodup_reachable (next : α → List α) (bound : Nat) (start : List α) :
    (reachable next bound start).Nodup :=
  nodup_layersFrom next bound [] _ (nodup_fresh [] start)

end Workflow
