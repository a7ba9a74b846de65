import Mathlib.Data.List.Sort

/-!
# What stands before what

The order of the elements of a list, as a relation between two of them. In a list without
duplicates the relation determines the list: two such lists with the same elements are the same
if the same elements stand before the same, and this holds of every choice of elements too.

## Main results

* `Before.antisymm`: where no element is twice, no two stand before each other.
* `before_turned_iff`: which elements keep their order when the two sides of another change places.
* `filter_eq_of_before`, `Before.of_filter_eq`: **choices are the same** exactly if the elements
  that are chosen stand before each other in the same way.
-/

namespace Workflow

variable {α : Type} {xs ys : List α} {a b : α}

/-- `a` stands before `b` in a list. -/
def Before (xs : List α) (a b : α) : Prop :=
  [a, b].Sublist xs

instance [DecidableEq α] : Decidable (Before xs a b) :=
  inferInstanceAs (Decidable ([a, b].Sublist xs))

/-- What stands before something is in the list. -/
theorem Before.left_mem (h : Before xs a b) : a ∈ xs :=
  h.subset List.mem_cons_self

/-- What something stands before is in the list. -/
theorem Before.right_mem (h : Before xs a b) : b ∈ xs :=
  h.subset (List.mem_cons_of_mem a List.mem_cons_self)

/-- What stands before something in a part of a list does so in the list. -/
theorem Before.sublist (h : Before xs a b) (part : xs.Sublist ys) : Before ys a b :=
  List.Sublist.trans h part

/-- What stands before something does so in every view of the list. -/
theorem Before.map {β : Type} (f : α → β) (h : Before xs a b) : Before (xs.map f) (f a) (f b) :=
  List.Sublist.map f h

/-- **No two elements stand before each other** where none is twice. -/
theorem Before.antisymm (distinct : xs.Nodup) (h : Before xs a b) (h' : Before xs b a) :
    a = b := by
  induction xs with
  | nil => cases h
  | cons x rest ih =>
    obtain ⟨new, distinct⟩ := List.nodup_cons.1 distinct
    cases h with
    | cons _ later =>
      cases h' with
      | cons _ later' => exact ih distinct later later'
      | cons_cons _ _ => exact absurd (Before.right_mem later) new
    | cons_cons _ _ =>
      cases h' with
      | cons _ later' => exact absurd (Before.right_mem later') new
      | cons_cons _ _ => rfl

/-- One element stands before another in two lists, one after the other, if it does in one of them,
or if they stand in one each. -/
theorem before_append_iff :
    Before (xs ++ ys) a b ↔ Before xs a b ∨ (a ∈ xs ∧ b ∈ ys) ∨ Before ys a b := by
  constructor
  · intro h
    obtain ⟨first, second, split, part, part'⟩ := List.sublist_append_iff.1 h
    cases first with
    | nil =>
      obtain rfl : second = [a, b] := split.symm
      exact .inr (.inr part')
    | cons x first =>
      cases first with
      | nil =>
        cases split
        exact .inr (.inl ⟨part.subset List.mem_cons_self, part'.subset List.mem_cons_self⟩)
      | cons y first =>
        cases first <;> cases split
        exact .inl part
  · rintro (h | ⟨ha, hb⟩ | h)
    · exact h.sublist (List.sublist_append_left xs ys)
    · exact (List.singleton_sublist.2 ha).append (List.singleton_sublist.2 hb)
    · exact h.sublist (List.sublist_append_right xs ys)

/-- One element stands before another in a list if it is the first and the other comes later, or if
both come later. -/
theorem before_cons_iff {x : α} : Before (x :: xs) a b ↔ (a = x ∧ b ∈ xs) ∨ Before xs a b := by
  have alone : ¬ Before [x] a b := fun h => by simpa using List.Sublist.length_le h
  rw [← List.singleton_append, before_append_iff, or_iff_right alone, List.mem_singleton]

section Middle

variable {m : α}

/-- Before an element of which there is one stands what is in front of it. -/
theorem before_middle_left_iff (distinct : (xs ++ m :: ys).Nodup) :
    Before (xs ++ m :: ys) a m ↔ a ∈ xs := by
  obtain ⟨new, -⟩ := List.nodup_cons.1 (List.nodup_middle.1 distinct)
  rw [List.mem_append, not_or] at new
  rw [before_append_iff, before_cons_iff, and_iff_left List.mem_cons_self]
  constructor
  · rintro (h | ha | ⟨-, later⟩ | h)
    · exact absurd h.right_mem new.1
    · exact ha
    · exact absurd later new.2
    · exact absurd h.right_mem new.2
  · exact fun ha => .inr (.inl ha)

/-- Behind an element of which there is one stands what is left after it. -/
theorem before_middle_right_iff (distinct : (xs ++ m :: ys).Nodup) :
    Before (xs ++ m :: ys) m b ↔ b ∈ ys := by
  obtain ⟨new, -⟩ := List.nodup_cons.1 (List.nodup_middle.1 distinct)
  rw [List.mem_append, not_or] at new
  rw [before_append_iff, before_cons_iff]
  constructor
  · rintro (h | ⟨first, -⟩ | ⟨-, hb⟩ | h)
    · exact absurd h.left_mem new.1
    · exact absurd first new.1
    · exact hb
    · exact absurd h.left_mem new.2
  · exact fun hb => .inr (.inr (.inl ⟨rfl, hb⟩))

/-- **When the two sides of an element change places**, two others keep their order exactly if the
element does not stand between them. -/
theorem before_turned_iff (distinct : (xs ++ m :: ys).Nodup) (ha : a ≠ m) (hb : b ≠ m)
    (order : Before (xs ++ m :: ys) a b) :
    Before (ys ++ xs) a b ↔ ¬ (Before (xs ++ m :: ys) a m ∧ Before (xs ++ m :: ys) m b) := by
  have apart : ∀ c ∈ xs, c ∉ ys := fun c hx hy =>
    (List.nodup_append.1 distinct).2.2 c hx c (List.mem_cons_of_mem m hy) rfl
  rw [before_middle_left_iff distinct, before_middle_right_iff distinct]
  rw [before_append_iff, before_cons_iff, List.mem_cons] at order
  rw [before_append_iff]
  constructor
  · rintro (h | ⟨first, -⟩ | h) ⟨left, right⟩
    · exact apart a left h.left_mem
    · exact apart a left first
    · exact apart b h.right_mem right
  · intro between
    rcases order with h | ⟨left, same | right⟩ | ⟨same, -⟩ | h
    · exact .inr (.inr h)
    · exact absurd same hb
    · exact absurd ⟨left, right⟩ between
    · exact absurd same ha
    · exact .inl h

end Middle

/-- The elements of a list stand before each other as they are listed. -/
theorem pairwise_before (xs : List α) : xs.Pairwise (Before xs) :=
  List.pairwise_iff_forall_sublist.2 id

/-- **Choices from two lists are the same** if what is chosen stands before each other in the same
way. -/
theorem filter_eq_of_before (distinct : xs.Nodup) (perm : xs.Perm ys) {p : α → Bool}
    (same : ∀ a ∈ xs, ∀ b ∈ xs, p a = true → p b = true → Before ys a b → Before xs a b) :
    xs.filter p = ys.filter p := by
  have ordered : (xs.filter p).Pairwise (Before xs) :=
    (pairwise_before xs).sublist List.filter_sublist
  have ordered' : (ys.filter p).Pairwise (Before xs) := by
    refine List.pairwise_iff_forall_sublist.2 fun {a b} chosen => ?_
    obtain ⟨ha, pa⟩ := List.mem_filter.1 (Before.left_mem chosen)
    obtain ⟨hb, pb⟩ := List.mem_filter.1 (Before.right_mem chosen)
    exact same a (perm.mem_iff.2 ha) b (perm.mem_iff.2 hb) pa pb
      (Before.sublist chosen List.filter_sublist)
  exact (perm.filter p).eq_of_pairwise (fun _ _ _ _ h h' => h.antisymm distinct h') ordered
    ordered'

/-- Elements that are chosen stand before each other as in any list with the same choice. -/
theorem Before.of_filter_eq {p : α → Bool} (chosen : xs.filter p = ys.filter p)
    (pa : p a = true) (pb : p b = true) (h : Before xs a b) : Before ys a b := by
  have kept := List.Sublist.filter p h
  rw [List.filter_eq_self.2 (by simp [pa, pb]), chosen] at kept
  exact kept.trans List.filter_sublist

end Workflow
