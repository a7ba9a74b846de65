/-!
# Trees

Values with a list of children each. A **forest** is a list of trees. The pre-order lists a
tree before its children, and a walk with a list of trees still to visit gives the same.

## Main results

* `forestInduction`: induction on a forest, whose first tree is taken apart.
* `walk_eq_preorder`: the walk visits in pre-order.
* `forestBounded_eq_preorder`: a walk with a depth bound that no tree exceeds visits everything.
-/

namespace Workflow

/-- A value with children. -/
inductive Tree (α : Type) where
  | node (value : α) (children : List (Tree α))

namespace Tree

variable {α : Type}

/-- The value at the root. -/
def value : Tree α → α
  | node v _ => v

/-- The trees below the root. -/
def children : Tree α → List (Tree α)
  | node _ cs => cs

/-- **Induction on a forest.** Its first tree is taken apart, into the forest below the root and
the trees beside it. -/
@[elab_as_elim]
theorem forestInduction {motive : List (Tree α) → Prop} (nil : motive [])
    (cons : ∀ v cs rest, motive cs → motive rest → motive (node v cs :: rest)) :
    ∀ ts, motive ts
  | [] => nil
  | node v cs :: rest =>
    cons v cs rest (forestInduction nil cons cs) (forestInduction nil cons rest)

/-! ### Pre-order -/

mutual

/-- The tree and all trees inside it, each before those below it. -/
def preorder : Tree α → List (Tree α)
  | node v cs => node v cs :: forestPreorder cs

/-- The trees of a forest and all trees inside them, each before those below it. -/
def forestPreorder : List (Tree α) → List (Tree α)
  | [] => []
  | t :: rest => preorder t ++ forestPreorder rest

end

mutual

/-- How many values a tree holds. -/
def size : Tree α → Nat
  | node _ cs => forestSize cs + 1

/-- How many values a forest holds. -/
def forestSize : List (Tree α) → Nat
  | [] => 0
  | t :: rest => size t + forestSize rest

end

/-- The pre-order of a forest begins with its first root, and goes on below it. -/
theorem forestPreorder_cons (v : α) (cs rest : List (Tree α)) :
    forestPreorder (node v cs :: rest)
      = node v cs :: (forestPreorder cs ++ forestPreorder rest) := rfl

/-- The pre-order of two forests. -/
theorem forestPreorder_append (ts us : List (Tree α)) :
    forestPreorder (ts ++ us) = forestPreorder ts ++ forestPreorder us := by
  induction ts with
  | nil => rfl
  | cons t ts ih => simp [forestPreorder, ih]

/-- The size of two forests. -/
theorem forestSize_append (ts us : List (Tree α)) :
    forestSize (ts ++ us) = forestSize ts + forestSize us := by
  induction ts with
  | nil => simp [forestSize]
  | cons t ts ih => simp [forestSize, ih, Nat.add_assoc]

/-- Visits the first tree that waits, and then its children before the others. -/
def walk : List (Tree α) → List (Tree α)
  | [] => []
  | node v cs :: waiting => node v cs :: walk (cs ++ waiting)
termination_by waiting => forestSize waiting
decreasing_by
  simp only [forestSize_append, forestSize, size]
  omega

/-- The walk visits in pre-order. -/
theorem walk_eq_preorder (ts : List (Tree α)) : walk ts = forestPreorder ts := by
  fun_induction walk ts with
  | case1 => rfl
  | case2 v cs waiting ih =>
    rw [ih, forestPreorder_append, forestPreorder_cons]

/-! ### Walks with a bound -/

/-- What a walk with a bound meets. -/
inductive Visit (α : Type) where
  /-- A tree within the bound; its children are visited too. -/
  | within (t : Tree α)
  /-- A tree just below the bound; nothing inside it is visited. -/
  | below (t : Tree α)

mutual

/-- Visits a tree in pre-order, but only the first `levels` levels of it. -/
def bounded (levels : Nat) : Tree α → List (Visit α)
  | node v cs =>
    match levels with
    | 0 => [.below (node v cs)]
    | levels + 1 => .within (node v cs) :: forestBounded levels cs

/-- Visits a forest in pre-order, but only the first `levels` levels of it. -/
def forestBounded (levels : Nat) : List (Tree α) → List (Visit α)
  | [] => []
  | t :: rest => bounded levels t ++ forestBounded levels rest

end

mutual

/-- How many levels a tree has. -/
def height : Tree α → Nat
  | node _ cs => forestHeight cs + 1

/-- How many levels a forest has. -/
def forestHeight : List (Tree α) → Nat
  | [] => 0
  | t :: rest => max (height t) (forestHeight rest)

end

/-- A walk with a bound that no tree of a forest exceeds visits everything. -/
theorem forestBounded_eq_preorder (levels : Nat) (ts : List (Tree α))
    (low : forestHeight ts ≤ levels) :
    forestBounded levels ts = (forestPreorder ts).map .within := by
  induction ts using forestInduction generalizing levels with
  | nil => rfl
  | cons v cs rest below beside =>
    rw [forestHeight, height] at low
    cases levels with
    | zero => omega
    | succ levels =>
      rw [forestBounded, bounded, below levels (by omega), beside (levels + 1) (by omega),
        forestPreorder_cons, List.map_cons, List.map_append, List.cons_append]

/-! ### Placement -/

mutual

/-- The values in pre-order, each with the value of the tree it stands in. -/
def placed (parent? : Option α) : Tree α → List (α × Option α)
  | node v cs => (v, parent?) :: forestPlaced (some v) cs

/-- The values of a forest in pre-order, each with the value of the tree it stands in. -/
def forestPlaced (parent? : Option α) : List (Tree α) → List (α × Option α)
  | [] => []
  | t :: rest => placed parent? t ++ forestPlaced parent? rest

end

/-- A placement begins with the value of the first root, and goes on below it. -/
theorem forestPlaced_cons (parent? : Option α) (v : α) (cs rest : List (Tree α)) :
    forestPlaced parent? (node v cs :: rest)
      = (v, parent?) :: (forestPlaced (some v) cs ++ forestPlaced parent? rest) := rfl

/-- Placement keeps the pre-order. -/
theorem forestPlaced_fst (parent? : Option α) (ts : List (Tree α)) :
    (forestPlaced parent? ts).map (·.1) = (forestPreorder ts).map value := by
  induction ts using forestInduction generalizing parent? with
  | nil => rfl
  | cons v cs rest below beside =>
    rw [forestPlaced_cons, forestPreorder_cons, List.map_cons, List.map_cons, List.map_append,
      List.map_append, below, beside, value]

/-! ### Equality -/

mutual

/-- Equality of trees, given one of values. -/
def same (eq : α → α → Bool) : Tree α → Tree α → Bool
  | node v cs, node w ds => eq v w && forestSame eq cs ds

/-- Equality of forests, given one of values. -/
def forestSame (eq : α → α → Bool) : List (Tree α) → List (Tree α) → Bool
  | [], [] => true
  | t :: ts, u :: us => same eq t u && forestSame eq ts us
  | _, _ => false

end

end Tree

end Workflow
