import Workflow.Tree

/-!
# Trees, pre-orders and placements

Facts about trees and forests that do not depend on what the trees hold. A forest is told by
two lists: its pre-order, and its placement, which lists each value with the value of the tree
it stands in. Where keys are distinct, the placement can be read back: the entries under a
value are the children of its tree, in order.

## Main results

* `forestPreorder_perm`: a pre-order holds the roots, and the children of all its trees.
* `forall_forestPreorder`: what is handed down from the roots to children holds everywhere.
* `mem_forestPlaced_iff`: a placement holds the roots under what the forest stands in, and
  every other tree under its parent.
* `forestPlaced_parentsFirst`: a placement lists a value after the one it stands in.
* `under_forestPlaced_roots`, `under_forestPlaced`: with distinct keys, a placement gives
  back the roots and the children of every tree, in order.
* `forestPlaced_map`, `forestPreorder_map`: values may be exchanged before or after.
* `forestHeight_le_of_within`: a walk with a bound that meets nothing below it visits
  everything.
-/

namespace Workflow.Tree

variable {α β : Type}

/-! ### What a pre-order holds -/

/-- A pre-order begins with its tree. -/
theorem preorder_eq_cons (t : Tree α) : t.preorder = t :: forestPreorder t.children := by
  cases t
  rfl

/-- A tree is in its own pre-order. -/
theorem mem_preorder_self (t : Tree α) : t ∈ t.preorder := by
  rw [preorder_eq_cons]
  exact List.mem_cons_self

/-- The pre-order of a forest of one tree. -/
@[simp] theorem forestPreorder_singleton (t : Tree α) : forestPreorder [t] = t.preorder := by
  rw [forestPreorder, forestPreorder, List.append_nil]

/-- The pre-order of a forest is that of its trees, one after the other. -/
theorem forestPreorder_eq_flatMap (ts : List (Tree α)) :
    forestPreorder ts = ts.flatMap preorder := by
  induction ts with
  | nil => rfl
  | cons t rest ih => rw [forestPreorder, ih, List.flatMap_cons]

/-- What is in the pre-order of a forest is in that of one of its trees. -/
theorem mem_forestPreorder_iff {s : Tree α} {ts : List (Tree α)} :
    s ∈ forestPreorder ts ↔ ∃ t ∈ ts, s ∈ t.preorder := by
  rw [forestPreorder_eq_flatMap, List.mem_flatMap]

/-- The trees of a forest are in its pre-order. -/
theorem mem_forestPreorder_of_mem {t : Tree α} {ts : List (Tree α)} (h : t ∈ ts) :
    t ∈ forestPreorder ts :=
  mem_forestPreorder_iff.2 ⟨t, h, t.mem_preorder_self⟩

/-- **A pre-order holds the roots and the children of all its trees**, each as often as it
stands there. -/
theorem forestPreorder_perm (ts : List (Tree α)) :
    (forestPreorder ts).Perm (ts ++ (forestPreorder ts).flatMap children) := by
  induction ts using forestInduction with
  | nil => exact .refl _
  | cons v cs rest below beside =>
    have exchanged : (forestPreorder cs ++ forestPreorder rest).Perm
        (rest ++ (cs ++ ((forestPreorder cs).flatMap children
          ++ (forestPreorder rest).flatMap children))) := by
      rw [← List.append_assoc cs]
      exact (below.append beside).trans (List.perm_append_comm_assoc _ _ _)
    rw [forestPreorder_cons, List.flatMap_cons, List.flatMap_append, children]
    exact .cons _ exchanged

/-- With a tree, a pre-order holds its children. -/
theorem mem_forestPreorder_of_mem_children {ts : List (Tree α)} {s c : Tree α}
    (hs : s ∈ forestPreorder ts) (hc : c ∈ s.children) : c ∈ forestPreorder ts :=
  (forestPreorder_perm ts).mem_iff.2
    (List.mem_append_right _ (List.mem_flatMap.2 ⟨s, hs, hc⟩))

/-- What holds of the roots of a forest and is handed down to children holds of all its trees. -/
theorem forall_forestPreorder {p : Tree α → Prop} {ts : List (Tree α)}
    (down : ∀ s ∈ forestPreorder ts, p s → ∀ c ∈ s.children, p c) (roots : ∀ t ∈ ts, p t) :
    ∀ u ∈ forestPreorder ts, p u := by
  induction ts using forestInduction with
  | nil => rintro u ⟨⟩
  | cons v cs rest below beside =>
    rw [forestPreorder_cons] at down ⊢
    have root : p (node v cs) := roots _ List.mem_cons_self
    intro u hu
    rcases List.mem_cons.1 hu with rfl | hu
    · exact root
    rcases List.mem_append.1 hu with inside | later
    · exact below (fun s hs => down s (List.mem_cons_of_mem _ (List.mem_append_left _ hs)))
        (down _ List.mem_cons_self root) u inside
    · exact beside (fun s hs => down s (List.mem_cons_of_mem _ (List.mem_append_right _ hs)))
        (fun t ht => roots t (List.mem_cons_of_mem _ ht)) u later

/-- What holds of a tree and is handed down to children holds of all its trees. -/
theorem forall_preorder {p : Tree α → Prop} (t : Tree α)
    (down : ∀ s ∈ t.preorder, p s → ∀ c ∈ s.children, p c) (root : p t) :
    ∀ u ∈ t.preorder, p u := by
  rw [← forestPreorder_singleton] at down ⊢
  exact forall_forestPreorder down (List.forall_mem_singleton.2 root)

/-! ### What a placement holds -/

/-- **A placement** holds the roots under what the forest stands in, and every other value
under that of its parent. -/
theorem mem_forestPlaced_iff {parent? : Option α} {e : α × Option α} (ts : List (Tree α)) :
    e ∈ forestPlaced parent? ts ↔ (∃ t ∈ ts, e = (t.value, parent?))
      ∨ ∃ s ∈ forestPreorder ts, ∃ c ∈ s.children, e = (c.value, some s.value) := by
  induction ts using forestInduction generalizing parent? with
  | nil => simp [forestPlaced, forestPreorder]
  | cons v cs rest below beside =>
    rw [forestPlaced_cons, List.mem_cons, List.mem_append, below, beside, forestPreorder_cons]
    simp only [List.mem_cons, List.mem_append, or_and_right, exists_or, exists_eq_left, value,
      children]
    grind

/-! ### The order of a placement -/

/-- Every value stands in one that is known or comes before it. -/
inductive ParentsFirst : List α → List (α × Option α) → Prop where
  /-- Nothing is left to be placed. -/
  | nil {known : List α} : ParentsFirst known []
  /-- The next value stands in a known one, and is known from then on. -/
  | cons {known : List α} {v : α} {parent? : Option α} {rest : List (α × Option α)} :
      (∀ p, parent? = some p → p ∈ known) → ParentsFirst (v :: known) rest →
      ParentsFirst known ((v, parent?) :: rest)

/-- More may be known. -/
theorem ParentsFirst.mono {known more : List α} {entries : List (α × Option α)}
    (h : ParentsFirst known entries) (sub : known ⊆ more) : ParentsFirst more entries := by
  induction h generalizing more with
  | nil => exact .nil
  | cons stands _ ih =>
    exact .cons (fun p hp => sub (stands p hp)) (ih (List.cons_subset_cons _ sub))

/-- Two lists of entries may be joined. -/
theorem ParentsFirst.append {known : List α} {entries later : List (α × Option α)}
    (h : ParentsFirst known entries) (h' : ParentsFirst known later) :
    ParentsFirst known (entries ++ later) := by
  induction h with
  | nil => exact h'
  | cons stands _ ih => exact .cons stands (ih (h'.mono (List.subset_cons_self _ _)))

/-- **A placement** lists a value after the one it stands in. -/
theorem forestPlaced_parentsFirst {parent? : Option α} {known : List α}
    (outside : ∀ p, parent? = some p → p ∈ known) (ts : List (Tree α)) :
    ParentsFirst known (forestPlaced parent? ts) := by
  induction ts using forestInduction generalizing parent? known with
  | nil => exact .nil
  | cons v cs rest below beside =>
    -- the first root is known from here on, below it and beside it
    refine .cons outside ((below ?_).append (beside fun p hp => ?_))
    · rintro p ⟨⟩
      exact List.mem_cons_self
    · exact List.mem_cons_of_mem _ (outside p hp)

/-! ### Reading a placement back -/

section Keys

variable {κ : Type} {key : α → κ}

/-- The keys of a forest, in pre-order. -/
def forestKeys (key : α → κ) (ts : List (Tree α)) : List κ :=
  (forestPreorder ts).map fun t => key t.value

/-- The keys of a forest, tree by tree. -/
theorem forestKeys_cons (t : Tree α) (ts : List (Tree α)) :
    forestKeys key (t :: ts)
      = key t.value :: (forestKeys key t.children ++ forestKeys key ts) := by
  simp [forestKeys, forestPreorder, preorder_eq_cons]

variable [DecidableEq κ]

/-- The entries of a placement that stand under a key. -/
def under (key : α → κ) (k? : Option κ) (entries : List (α × Option α)) :
    List (α × Option α) :=
  entries.filter fun e => e.2.map key == k?

/-- Nothing stands under a key that the forest does not hold. -/
theorem under_forestPlaced_eq_nil {parent? : Option α} {ts : List (Tree α)} {k : κ}
    (outside : parent?.map key ≠ some k) (absent : k ∉ forestKeys key ts) :
    under key (some k) (forestPlaced parent? ts) = [] := by
  rw [under, List.filter_eq_nil_iff]
  intro e he
  rw [mem_forestPlaced_iff] at he
  rcases he with ⟨t, -, rfl⟩ | ⟨s, hs, c, -, rfl⟩
  · simpa using outside
  · have other : key s.value ≠ k := by
      rintro rfl
      exact absent (List.mem_map_of_mem hs)
    simpa using other

/-- Under what a forest stands in stand its roots, in order. -/
theorem under_forestPlaced_roots {parent? : Option α} {ts : List (Tree α)}
    (outside : ∀ k ∈ forestKeys key ts, parent?.map key ≠ some k) :
    under key (parent?.map key) (forestPlaced parent? ts)
      = ts.map fun t => (t.value, parent?) := by
  induction ts with
  | nil => rfl
  | cons t rest ih =>
    obtain ⟨v, cs⟩ := t
    have apart : parent?.map key ≠ some (key v) := outside _ (by simp [forestKeys_cons, value])
    have inside : ∀ k ∈ forestKeys key cs, parent?.map key ≠ some k :=
      fun k hk => outside k (by simp [forestKeys_cons, children, hk])
    have later : ∀ k ∈ forestKeys key rest, parent?.map key ≠ some k :=
      fun k hk => outside k (by simp [forestKeys_cons, hk])
    have below : under key (parent?.map key) (forestPlaced (some v) cs) = [] := by
      rw [under, List.filter_eq_nil_iff]
      intro e he
      rw [mem_forestPlaced_iff] at he
      rcases he with ⟨t, -, rfl⟩ | ⟨s, hs, c, -, rfl⟩
      · simpa using apart.symm
      · simpa using (inside _ (List.mem_map_of_mem hs)).symm
    rw [forestPlaced, placed]
    simp only [under, List.filter_append, List.filter_cons, BEq.rfl, if_true] at below ih ⊢
    rw [below, ih later]
    rfl

/-- **Under the value of any tree of a forest** stand the values of its children, in order. -/
theorem under_forestPlaced {parent? : Option α} {s : Tree α}
    (outside : parent?.map key ≠ some (key s.value)) (ts : List (Tree α))
    (distinct : (forestKeys key ts).Nodup) (hs : s ∈ forestPreorder ts) :
    under key (some (key s.value)) (forestPlaced parent? ts)
      = s.children.map fun c => (c.value, some s.value) := by
  induction ts using forestInduction generalizing parent? with
  | nil => cases hs
  | cons v cs rest below beside =>
    simp only [forestKeys_cons, value, children, List.nodup_cons, List.mem_append, not_or,
      List.nodup_append] at distinct
    obtain ⟨⟨not_below, not_beside⟩, distinct_below, distinct_beside, apart⟩ := distinct
    have parts : under key (some (key s.value)) (forestPlaced parent? (node v cs :: rest))
        = under key (some (key s.value)) (forestPlaced (some v) cs)
          ++ under key (some (key s.value)) (forestPlaced parent? rest) := by
      rw [forestPlaced_cons, under, List.filter_cons_of_neg (by simpa using outside),
        List.filter_append]
      rfl
    rw [parts]
    -- of the two parts one is empty, wherever the tree stands, because its key stands there once
    rcases List.mem_cons.1 hs with rfl | hs
    · have apart_below : ∀ k ∈ forestKeys key cs, (some v).map key ≠ some k := by
        rintro k hk ⟨⟩
        exact not_below hk
      rw [under_forestPlaced_eq_nil outside not_beside, List.append_nil]
      exact under_forestPlaced_roots apart_below
    rcases List.mem_append.1 hs with hs | hs
    · have held : key s.value ∈ forestKeys key cs := List.mem_map_of_mem hs
      have other : (some v).map key ≠ some (key s.value) :=
        fun same => not_below (Option.some.inj same ▸ held)
      rw [under_forestPlaced_eq_nil outside fun again => apart _ held _ again rfl,
        List.append_nil, below other distinct_below hs]
    · have held : key s.value ∈ forestKeys key rest := List.mem_map_of_mem hs
      have other : (some v).map key ≠ some (key s.value) :=
        fun same => not_beside (Option.some.inj same ▸ held)
      rw [under_forestPlaced_eq_nil other fun again => apart _ again _ held rfl,
        List.nil_append, beside outside distinct_beside hs]

end Keys

/-! ### Exchanging values -/

mutual

/-- The tree with other values. -/
def map (f : α → β) : Tree α → Tree β
  | node v cs => node (f v) (forestMap f cs)

/-- The forest with other values. -/
def forestMap (f : α → β) : List (Tree α) → List (Tree β)
  | [] => []
  | t :: rest => map f t :: forestMap f rest

end

/-- The trees of a forest get their other values one by one. -/
theorem forestMap_eq_map (f : α → β) (ts : List (Tree α)) :
    forestMap f ts = ts.map (map f) := by
  induction ts with
  | nil => rfl
  | cons t rest ih => rw [forestMap, ih, List.map_cons]

@[simp] theorem value_map (f : α → β) (t : Tree α) : (t.map f).value = f t.value := by
  cases t
  rfl

@[simp] theorem children_map (f : α → β) (t : Tree α) :
    (t.map f).children = forestMap f t.children := by
  cases t
  rfl

/-- With other values a tree has children if it had. -/
theorem children_map_eq_nil_iff {f : α → β} {t : Tree α} :
    (t.map f).children = [] ↔ t.children = [] := by
  rw [children_map, forestMap_eq_map, List.map_eq_nil_iff]

/-- A forest stays as it is exactly if every value in it does. -/
theorem forestMap_eq_self_iff {f : α → α} (ts : List (Tree α)) :
    forestMap f ts = ts ↔ ∀ u ∈ forestPreorder ts, f u.value = u.value := by
  induction ts using forestInduction with
  | nil => simp [forestMap, forestPreorder]
  | cons v cs rest below beside =>
    rw [forestMap, map, List.cons.injEq, node.injEq, below, beside, forestPreorder_cons,
      List.forall_mem_cons, List.forall_mem_append, and_assoc]
    rfl

/-- The pre-order of a forest is the same for other values. -/
theorem forestPreorder_map (f : α → β) (ts : List (Tree α)) :
    forestPreorder (forestMap f ts) = (forestPreorder ts).map (map f) := by
  induction ts using forestInduction with
  | nil => rfl
  | cons v cs rest below beside =>
    rw [forestMap, map, forestPreorder_cons, below, beside, forestPreorder_cons, List.map_cons,
      List.map_append, map]

/-- A tree of a forest with other values is a tree of the forest, with other values. -/
theorem mem_forestPreorder_map {f : α → β} {ts : List (Tree α)} {t : Tree β} :
    t ∈ forestPreorder (forestMap f ts) ↔ ∃ u ∈ forestPreorder ts, u.map f = t := by
  rw [forestPreorder_map, List.mem_map]

/-- The keys of a forest with other values. -/
theorem forestKeys_map {κ : Type} (key : β → κ) (f : α → β) (ts : List (Tree α)) :
    forestKeys key (forestMap f ts) = forestKeys (key ∘ f) ts := by
  rw [forestKeys, forestPreorder_map, List.map_map, forestKeys]
  refine List.map_congr_left fun t _ => ?_
  rw [Function.comp_apply, value_map, Function.comp_apply]

/-- The placement of a forest is the same for other values. -/
theorem forestPlaced_map (f : α → β) (parent? : Option α) (ts : List (Tree α)) :
    forestPlaced (parent?.map f) (forestMap f ts)
      = (forestPlaced parent? ts).map fun e => (f e.1, e.2.map f) := by
  induction ts using forestInduction generalizing parent? with
  | nil => rfl
  | cons v cs rest below beside =>
    have inside := below (some v)
    rw [Option.map_some] at inside
    rw [forestMap, map, forestPlaced_cons, inside, beside, forestPlaced_cons, List.map_cons,
      List.map_append]

/-- A forest has as many levels for other values. -/
theorem forestHeight_map (f : α → β) (ts : List (Tree α)) :
    forestHeight (forestMap f ts) = forestHeight ts := by
  induction ts using forestInduction with
  | nil => rfl
  | cons v cs rest below beside =>
    rw [forestMap, map, forestHeight, height, below, beside, forestHeight, height]

/-! ### Levels -/

/-- A forest has no more than so many levels exactly if none of its trees has more. -/
theorem forestHeight_le_iff {levels : Nat} {ts : List (Tree α)} :
    forestHeight ts ≤ levels ↔ ∀ t ∈ ts, t.height ≤ levels := by
  induction ts with
  | nil => simp [forestHeight]
  | cons t rest ih => rw [forestHeight, Nat.max_le, ih, List.forall_mem_cons]

/-- The number of levels of a forest of one tree. -/
@[simp] theorem forestHeight_singleton (t : Tree α) : forestHeight [t] = t.height := by
  rw [forestHeight, forestHeight, Nat.max_zero]

/-- A tree has no more than one level more than so many exactly if no child has more. -/
theorem height_le_succ_iff {levels : Nat} {t : Tree α} :
    t.height ≤ levels + 1 ↔ ∀ c ∈ t.children, c.height ≤ levels := by
  obtain ⟨v, cs⟩ := t
  rw [height, Nat.succ_le_succ_iff, forestHeight_le_iff, children]

/-- A forest below whose first levels a walk meets nothing has no more levels. -/
theorem forestHeight_le_of_within {levels : Nat} (ts : List (Tree α))
    (all : ∀ v ∈ forestBounded levels ts, ∃ s, v = .within s) : forestHeight ts ≤ levels := by
  induction ts using forestInduction generalizing levels with
  | nil => exact Nat.zero_le _
  | cons v cs rest below beside =>
    cases levels with
    | zero =>
      obtain ⟨s, hs⟩ := all (.below (node v cs)) List.mem_cons_self
      cases hs
    | succ levels =>
      have inside : forestHeight cs ≤ levels :=
        below fun w hw => all w (List.mem_cons_of_mem _ (List.mem_append_left _ hw))
      have later : forestHeight rest ≤ levels + 1 :=
        beside fun w hw => all w (List.mem_cons_of_mem _ (List.mem_append_right _ hw))
      rw [forestHeight, height]
      omega

end Workflow.Tree
