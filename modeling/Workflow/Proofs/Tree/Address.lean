import Mathlib.Data.List.Basic
import Workflow.Tree

/-!
# Addresses in a forest

Where a tree stands in a forest is told by the way down to it: the position of its root among the
roots, then positions among children, one for each level. The same tree may stand at several
addresses. The pre-order of a forest lists what stands at every address, once, in the order of
addresses, in which `[0]` comes before `[0, 3]` and this before `[1]`.

A walk with a bound meets what stands at the addresses that are short enough, and just one step
further.

## Main results

* `mem_forestAddressed_iff`, `forestAddressed_ordered`: **each address at which a tree stands is
  listed**, once and in order.
* `forestAddressed_snd`: the trees that are listed are the pre-order.
* `forestBounded_eq_filterMap`: **what a walk with a bound meets**, by the length of addresses.
-/

namespace Workflow.Tree

variable {α : Type}

/-! ### What stands at an address -/

/-- What stands inside a tree, so many steps down at these positions among the children. -/
def at? : List Nat → Tree α → Option (Tree α)
  | [], t => some t
  | i :: address, t => t.children[i]?.bind (at? address)

/-- What stands at an address of a forest. -/
def forestAt? (forest : List (Tree α)) : List Nat → Option (Tree α)
  | [] => none
  | i :: address => forest[i]?.bind (at? address)

mutual

/-- The tree and all trees inside it in pre-order, each with its address. -/
def addressed : Tree α → List (List Nat × Tree α)
  | node v cs => ([], node v cs) :: forestAddressed 0 cs

/-- The trees of a forest and all trees inside them in pre-order, each with its address. The first
root has the position `i`. -/
def forestAddressed (i : Nat) : List (Tree α) → List (List Nat × Tree α)
  | [] => []
  | t :: rest => (addressed t).map (fun e => (i :: e.1, e.2)) ++ forestAddressed (i + 1) rest

end

/-- The addresses of a forest begin with that of its first root, and go on below it. -/
theorem forestAddressed_cons (i : Nat) (v : α) (cs rest : List (Tree α)) :
    forestAddressed i (node v cs :: rest)
      = ([i], node v cs) :: ((forestAddressed 0 cs).map (fun e => (i :: e.1, e.2))
        ++ forestAddressed (i + 1) rest) := rfl

/-- **The trees of a forest with addresses** are those of the pre-order. -/
theorem forestAddressed_snd (i : Nat) (ts : List (Tree α)) :
    (forestAddressed i ts).map (·.2) = forestPreorder ts := by
  induction ts using forestInduction generalizing i with
  | nil => rfl
  | cons v cs rest below beside =>
    rw [forestAddressed_cons, List.map_cons, List.map_append, List.map_map, beside,
      forestPreorder_cons, ← below 0]
    rfl

/-- A tree with an address in a forest, the first root of which has the position `i`. -/
theorem mem_forestAddressed_from_iff {address : List Nat} {s : Tree α} (i : Nat)
    (ts : List (Tree α)) : (address, s) ∈ forestAddressed i ts ↔
      ∃ j path, address = (i + j) :: path ∧ ts[j]?.bind (at? path) = some s := by
  induction ts using forestInduction generalizing i address with
  | nil => simp [forestAddressed]
  | cons v cs rest below beside =>
    rw [forestAddressed_cons, List.mem_cons, List.mem_append, beside]
    constructor
    · rintro (root | inside | ⟨j, path, rfl, there⟩)
      · cases root
        exact ⟨0, [], rfl, rfl⟩
      · obtain ⟨⟨deeper, u⟩, held, same⟩ := List.mem_map.1 inside
        cases same
        obtain ⟨j, path, rfl, there⟩ := (below 0).1 held
        exact ⟨0, (0 + j) :: path, rfl, by rw [Nat.zero_add]; exact there⟩
      · exact ⟨j + 1, path, by rw [Nat.add_right_comm, Nat.add_assoc], there⟩
    · rintro ⟨j, path, rfl, there⟩
      cases j with
      | succ j => exact .inr (.inr ⟨j, path, by rw [Nat.add_right_comm, Nat.add_assoc], there⟩)
      | zero =>
        cases path with
        | nil =>
          cases there
          exact .inl rfl
        | cons k deeper =>
          have held : (k :: deeper, s) ∈ forestAddressed 0 cs :=
            (below 0).2 ⟨k, deeper, by rw [Nat.zero_add], there⟩
          exact .inr (.inl (List.mem_map_of_mem (f := fun e => (i :: e.1, e.2)) held))

/-- **A tree with an address in a forest** is what stands there. -/
theorem mem_forestAddressed_iff {address : List Nat} {s : Tree α} {ts : List (Tree α)} :
    (address, s) ∈ forestAddressed 0 ts ↔ forestAt? ts address = some s := by
  rw [mem_forestAddressed_from_iff]
  cases address with
  | nil => simp [forestAt?]
  | cons i below => simp [forestAt?]

/-! ### The order of addresses -/

/-- Every address in a forest begins with the position of a root. -/
theorem cons_of_mem_forestAddressed {i : Nat} {ts : List (Tree α)} {e : List Nat × Tree α}
    (he : e ∈ forestAddressed i ts) : ∃ j path, i ≤ j ∧ e.1 = j :: path := by
  obtain ⟨j, path, same, -⟩ := (mem_forestAddressed_from_iff i ts).1 he
  exact ⟨i + j, path, Nat.le_add_right i j, same⟩

/-- What begins with the position of a root comes before the addresses behind that root. -/
theorem lt_of_mem_forestAddressed {i : Nat} {ts : List (Tree α)} {e : List Nat × Tree α}
    (he : e ∈ forestAddressed (i + 1) ts) (path : List Nat) : i :: path < e.1 := by
  obtain ⟨j, path', further, same⟩ := cons_of_mem_forestAddressed he
  rw [same]
  exact List.cons_lt_cons_iff.2 (.inl further)

/-- **The addresses in a forest ascend.** -/
theorem forestAddressed_ordered (i : Nat) (ts : List (Tree α)) :
    ((forestAddressed i ts).map (·.1)).Pairwise (· < ·) := by
  rw [List.pairwise_map]
  induction ts using forestInduction generalizing i with
  | nil => exact .nil
  | cons v cs rest below beside =>
    rw [forestAddressed_cons, List.pairwise_cons, List.pairwise_append, List.pairwise_map]
    refine ⟨fun e he => ?_, ?_, beside (i + 1), ?_⟩
    · rcases List.mem_append.1 he with inside | later
      · obtain ⟨d, hd, rfl⟩ := List.mem_map.1 inside
        obtain ⟨j, path, -, same⟩ := cons_of_mem_forestAddressed hd
        rw [same]
        exact List.cons_lt_cons_self.2 (List.nil_lt_cons j path)
      · exact lt_of_mem_forestAddressed later []
    · exact (below 0).imp fun {d e} lt => List.cons_lt_cons_self.2 lt
    · intro d hd e he
      obtain ⟨c, -, rfl⟩ := List.mem_map.1 hd
      exact lt_of_mem_forestAddressed he c.1

/-! ### All occurrences -/

/-- How deep an address leads. The roots of a forest stand at depth 0. -/
def depthAt (address : List Nat) : Nat :=
  address.length - 1

/-- Every occurrence of a tree in a forest, with its address. -/
structure ListsOccurrences (forest : List (Tree α)) (occurrences : List (List Nat × Tree α)) :
    Prop where
  /-- What stands at an address is listed with it, and nothing else. -/
  mem_iff : ∀ address t, (address, t) ∈ occurrences ↔ forestAt? forest address = some t
  /-- The addresses ascend, so that none is listed twice. -/
  ordered : (occurrences.map (·.1)).Pairwise (· < ·)

/-- **The pre-order with addresses** lists every occurrence. -/
theorem listsOccurrences_forestAddressed (ts : List (Tree α)) :
    ListsOccurrences ts (forestAddressed 0 ts) where
  mem_iff _ _ := mem_forestAddressed_iff
  ordered := forestAddressed_ordered 0 ts

/-! ### Walks with a bound -/

/-- What a walk through so many levels meets of what stands at an address. -/
def visitAt (levels : Nat) (e : List Nat × Tree α) : Option (Visit α) :=
  if e.1.length < levels then some (.within e.2)
  else if e.1.length = levels then some (.below e.2)
  else none

/-- One level up, what stands at an address is met if it was met one level further down. -/
theorem visitAt_succ (levels i : Nat) (e : List Nat × Tree α) :
    visitAt (levels + 1) (i :: e.1, e.2) = visitAt levels e := by
  simp [visitAt]

/-- No level is left for what stands in a forest. -/
theorem filterMap_visitAt_zero (i : Nat) (ts : List (Tree α)) :
    (forestAddressed i ts).filterMap (visitAt 0) = [] := by
  rw [List.filterMap_eq_nil_iff]
  intro e he
  obtain ⟨j, path, -, same⟩ := cons_of_mem_forestAddressed he
  simp [visitAt, same]

/-- **A walk through the first levels of a forest** meets what stands at short addresses. -/
theorem forestBounded_eq_filterMap (levels i : Nat) (ts : List (Tree α)) :
    forestBounded levels ts = (forestAddressed i ts).filterMap (visitAt (levels + 1)) := by
  induction ts using forestInduction generalizing levels i with
  | nil => rfl
  | cons v cs rest below beside =>
    have inside : ((forestAddressed 0 cs).map fun e => (i :: e.1, e.2)).filterMap
        (visitAt (levels + 1)) = (forestAddressed 0 cs).filterMap (visitAt levels) := by
      rw [List.filterMap_map]
      exact List.filterMap_congr fun e _ => visitAt_succ levels i e
    rw [forestAddressed_cons, List.filterMap_cons, List.filterMap_append, inside,
      ← beside levels (i + 1), forestBounded]
    cases levels with
    | zero =>
      rw [filterMap_visitAt_zero]
      simp [bounded, visitAt]
    | succ levels =>
      rw [← below levels 0]
      simp [bounded, visitAt]

/-- The tree that a walk meets within its bound. -/
def Visit.within? : Visit α → Option (Tree α)
  | .within t => some t
  | .below _ => none

/-- The tree that a walk meets below its bound. -/
def Visit.below? : Visit α → Option (Tree α)
  | .within _ => none
  | .below t => some t

/-- **Within its bound a walk meets** what stands no deeper than that. -/
theorem filterMap_within?_forestBounded (maxDepth : Nat) (ts : List (Tree α)) :
    (forestBounded (maxDepth + 1) ts).filterMap Visit.within?
      = ((forestAddressed 0 ts).filter fun e => depthAt e.1 ≤ maxDepth).map (·.2) := by
  rw [forestBounded_eq_filterMap _ 0, List.filterMap_filterMap, ← List.filterMap_eq_map,
    ← List.filterMap_eq_filter, List.filterMap_filterMap]
  refine List.filterMap_congr fun e _ => ?_
  simp only [visitAt, depthAt]
  grind [Visit.within?]

/-- **Below its bound a walk meets** what stands one deeper than that. -/
theorem filterMap_below?_forestBounded (maxDepth : Nat) (ts : List (Tree α)) :
    (forestBounded (maxDepth + 1) ts).filterMap Visit.below?
      = ((forestAddressed 0 ts).filter fun e => depthAt e.1 = maxDepth + 1).map (·.2) := by
  rw [forestBounded_eq_filterMap _ 0, List.filterMap_filterMap, ← List.filterMap_eq_map,
    ← List.filterMap_eq_filter, List.filterMap_filterMap]
  refine List.filterMap_congr fun e _ => ?_
  simp only [visitAt, depthAt]
  grind [Visit.below?]

end Workflow.Tree
