/-!
# First and later occurrences

A list is split by what has been seen before: the first occurrence of each element is
**fresh**, every later one comes **again**. Duplicate ids are found with the second, and a
breadth-first search keeps its layers apart with the first.

## Main results

* `again_nil_eq_nil_iff`: nothing comes again exactly in a list without duplicates.
* `mem_fresh`, `nodup_fresh`: the fresh elements are the unseen ones, each once.
-/

namespace Workflow

variable {α : Type} [DecidableEq α]

/-- The first occurrences of the elements that are not in `seen`. -/
def fresh (seen : List α) : List α → List α
  | [] => []
  | x :: xs => if x ∈ seen then fresh seen xs else x :: fresh (x :: seen) xs

/-- Every occurrence of an element that is in `seen` or occurred before. -/
def again (seen : List α) : List α → List α
  | [] => []
  | x :: xs => if x ∈ seen then x :: again seen xs else again (x :: seen) xs

/-- The elements that occur more than once, each one once, in the order in which they occur
for the second time. -/
def repeated (xs : List α) : List α :=
  fresh [] (again [] xs)

/-! ### Fresh elements -/

/-- The fresh elements are those that have not been seen. -/
theorem mem_fresh {seen xs : List α} {a : α} : a ∈ fresh seen xs ↔ a ∈ xs ∧ a ∉ seen := by
  induction xs generalizing seen with
  | nil => simp [fresh]
  | cons x xs ih =>
    by_cases hx : x ∈ seen
    · simp only [fresh, hx, if_true, ih, List.mem_cons]
      constructor
      · rintro ⟨ha, hs⟩
        exact ⟨.inr ha, hs⟩
      · rintro ⟨rfl | ha, hs⟩
        · exact absurd hx hs
        · exact ⟨ha, hs⟩
    · simp only [fresh, hx, if_false, List.mem_cons, ih, not_or]
      constructor
      · rintro (rfl | ⟨ha, -, hs⟩)
        · exact ⟨.inl rfl, hx⟩
        · exact ⟨.inr ha, hs⟩
      · rintro ⟨rfl | ha, hs⟩
        · exact .inl rfl
        · by_cases hax : a = x
          · exact .inl hax
          · exact .inr ⟨ha, hax, hs⟩

/-- No element is fresh twice. -/
theorem nodup_fresh (seen xs : List α) : (fresh seen xs).Nodup := by
  induction xs generalizing seen with
  | nil => simp [fresh]
  | cons x xs ih =>
    by_cases hx : x ∈ seen
    · simpa [fresh, hx] using ih seen
    · simp only [fresh, hx, if_false, List.nodup_cons]
      exact ⟨fun h => (mem_fresh.1 h).2 List.mem_cons_self, ih (x :: seen)⟩

/-- A list without duplicates, of which nothing has been seen, is fresh as it is. -/
theorem fresh_eq_self {seen xs : List α} (distinct : xs.Nodup) (unseen : ∀ x ∈ xs, x ∉ seen) :
    fresh seen xs = xs := by
  induction xs generalizing seen with
  | nil => rfl
  | cons x xs ih =>
    rw [List.nodup_cons] at distinct
    have hx : x ∉ seen := unseen x List.mem_cons_self
    simp only [fresh, hx, if_false]
    rw [ih distinct.2]
    intro y hy
    simp only [List.mem_cons, not_or]
    exact ⟨fun h => distinct.1 (h ▸ hy), unseen y (List.mem_cons_of_mem x hy)⟩

/-! ### Later occurrences -/

/-- Nothing comes again exactly if the list has no duplicates and nothing of it was seen. -/
theorem again_eq_nil_iff {seen xs : List α} :
    again seen xs = [] ↔ xs.Nodup ∧ ∀ x ∈ xs, x ∉ seen := by
  induction xs generalizing seen with
  | nil => simp [again]
  | cons x xs ih =>
    by_cases hx : x ∈ seen
    · simp [again, hx]
    · simp only [again, hx, if_false, ih, List.mem_cons, not_or, List.nodup_cons, forall_eq_or_imp,
        not_false_eq_true, true_and]
      constructor
      · rintro ⟨distinct, apart⟩
        exact ⟨⟨fun h => (apart x h).1 rfl, distinct⟩, fun y hy => (apart y hy).2⟩
      · rintro ⟨⟨hn, distinct⟩, unseen⟩
        exact ⟨distinct, fun y hy => ⟨fun h => hn (h ▸ hy), unseen y hy⟩⟩

/-- Nothing comes again exactly in a list without duplicates. -/
theorem again_nil_eq_nil_iff {xs : List α} : again [] xs = [] ↔ xs.Nodup := by
  simp [again_eq_nil_iff]

/-- No element is repeated exactly in a list without duplicates. -/
theorem repeated_eq_nil_iff {xs : List α} : repeated xs = [] ↔ xs.Nodup := by
  have none_again : again [] xs = [] ↔ xs.Nodup := again_nil_eq_nil_iff
  rw [← none_again, List.eq_nil_iff_forall_not_mem, List.eq_nil_iff_forall_not_mem]
  simp [repeated, mem_fresh]

end Workflow
