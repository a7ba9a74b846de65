import Workflow.Proofs.Search.Stack
import Workflow.Tree

/-!
# Forests walked with a stack

A forest is walked in pre-order by the loop with a stack: a tree is taken from the top, and its
children are pushed in reverse. The walk with a bound keeps the depth of each tree beside it on the
stack, and pushes no children of a tree that stands too deep.

The stack holds what is left of the children of several trees, one above the other. The proofs
never look at it as a whole: a tree on top is worked off in its own pre-order, whatever is below, so
that the induction is on the forest.

## Main results

* `pops_walk_iff`: **the loop ends**, and takes the trees in the order of the walk.
* `exists_pops_forestBounded`: the loop with a bound ends, and meets what the walk with a bound
  meets.
-/

namespace Workflow.Tree

variable {α : Type}

/-! ### Without a bound -/

/-- A forest on the stack, its first tree on top, is worked off in pre-order. -/
theorem pops_forestPreorder (ts : List (Tree α)) :
    Pops children ts.reverse (forestPreorder ts) := by
  induction ts using forestInduction with
  | nil => exact .done
  | cons v cs rest below beside =>
    have first : Pops children [node v cs] (node v cs :: forestPreorder cs) := .expand below
    exact first.cons beside

/-- **The loop ends**, and takes the trees in the order of the walk. -/
theorem pops_walk_iff {ts taken : List (Tree α)} :
    Pops children ts.reverse taken ↔ taken = walk ts := by
  rw [walk_eq_preorder]
  exact (pops_forestPreorder ts).iff_eq

/-! ### With a bound -/

/-- The children of a tree that stands at some depth, one deeper, unless the tree stands too deep
itself. -/
def childrenWithin (maxDepth : Nat) (e : Tree α × Nat) : List (Tree α × Nat) :=
  if e.2 ≤ maxDepth then e.1.children.map fun c => (c, e.2 + 1) else []

/-- What a walk with a bound meets in a tree that stands at some depth. -/
def visitOf (maxDepth : Nat) (e : Tree α × Nat) : Visit α :=
  if e.2 ≤ maxDepth then .within e.1 else .below e.1

/-- A tree on the stack of the loop with a bound is worked off through the levels that are left, if
its children are. -/
theorem exists_pops_bounded {maxDepth depth : Nat} (v : α) {cs : List (Tree α)}
    (below : ∃ taken, Pops (childrenWithin maxDepth) (cs.map fun c => (c, depth + 1)).reverse taken
      ∧ taken.map (visitOf maxDepth) = forestBounded (maxDepth + 1 - (depth + 1)) cs) :
    ∃ taken, Pops (childrenWithin maxDepth) [(node v cs, depth)] taken
      ∧ taken.map (visitOf maxDepth) = bounded (maxDepth + 1 - depth) (node v cs) := by
  by_cases within : depth ≤ maxDepth
  · obtain ⟨taken, run, met⟩ := below
    have pushed : childrenWithin maxDepth (node v cs, depth) = cs.map fun c => (c, depth + 1) :=
      if_pos within
    have left : maxDepth + 1 - depth = maxDepth + 1 - (depth + 1) + 1 := by omega
    refine ⟨_, .expand (by rwa [pushed]), ?_⟩
    rw [List.map_cons, met, left, bounded, visitOf, if_pos within]
  · have pushed : childrenWithin maxDepth (node v cs, depth) = [] := if_neg within
    have left : maxDepth + 1 - depth = 0 := by omega
    refine ⟨[(node v cs, depth)], .expand (by rw [pushed]; exact .done), ?_⟩
    rw [left, bounded, List.map_singleton, visitOf, if_neg within]

/-- **The loop with a bound ends**, and meets what the walk through the levels that are left
meets. -/
theorem exists_pops_forestBounded (maxDepth depth : Nat) (ts : List (Tree α)) :
    ∃ taken, Pops (childrenWithin maxDepth) (ts.map fun t => (t, depth)).reverse taken
      ∧ taken.map (visitOf maxDepth) = forestBounded (maxDepth + 1 - depth) ts := by
  induction ts using forestInduction generalizing depth with
  | nil => exact ⟨[], .done, rfl⟩
  | cons v cs rest below beside =>
    obtain ⟨first, run, met⟩ := exists_pops_bounded v (below (depth + 1))
    obtain ⟨later, run', met'⟩ := beside depth
    refine ⟨first ++ later, run.cons run', ?_⟩
    rw [List.map_append, met, met', forestBounded]

end Workflow.Tree
