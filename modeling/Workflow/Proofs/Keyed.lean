import Mathlib.Data.List.Nodup

/-!
# Lists with distinct keys

What looking up and changing elements by a key means in a list in which no two elements have
the same key: the element with the key is found, wherever it stands, and changing the first one
is changing the only one.

## Main results

* `find?_key_eq_some_iff`, `find?_key_of_perm`: a search finds the element with the key, in
  whichever order the list is.
* `modify_findIdx?_eq_map`: changing the first element with a key changes no other.
* `filter_flatMap_owner`: what one element gives is found again among all that is given.
* `agree_flatMap`: what elements give agrees in any order of the elements.
-/

namespace Workflow

variable {α κ : Type} [DecidableEq κ] {key : α → κ} {xs : List α}

/-- **A search by a key** finds the element with the key. -/
theorem find?_key_eq_some_iff (distinct : (xs.map key).Nodup) {k : κ} {x : α} :
    xs.find? (key · == k) = some x ↔ x ∈ xs ∧ key x = k := by
  constructor
  · intro found
    exact ⟨List.mem_of_find?_eq_some found, by simpa using List.find?_some found⟩
  · rintro ⟨hx, rfl⟩
    cases found : xs.find? (key · == key x) with
    | none => simpa using List.find?_eq_none.1 found x hx
    | some y =>
      have same : key y = key x := by simpa using List.find?_some found
      rw [List.inj_on_of_nodup_map distinct (List.mem_of_find?_eq_some found) hx same]

/-- A search finds the same in any order. -/
theorem find?_key_of_perm {ys : List α} (distinct : (xs.map key).Nodup) (perm : xs.Perm ys)
    (k : κ) : xs.find? (key · == k) = ys.find? (key · == k) := by
  have distinct' : (ys.map key).Nodup := (perm.map key).nodup_iff.1 distinct
  ext x
  rw [find?_key_eq_some_iff distinct, find?_key_eq_some_iff distinct', perm.mem_iff]

/-- **Changing the first element with a key** is changing every element with it. -/
theorem modify_findIdx?_eq_map (distinct : (xs.map key).Nodup) {k : κ} {i : Nat}
    (found : xs.findIdx? (key · == k) = some i) (f : α → α) :
    xs.modify i f = xs.map fun x => if key x = k then f x else x := by
  induction xs generalizing i with
  | nil => simp at found
  | cons x rest ih =>
    rw [List.map_cons, List.nodup_cons] at distinct
    rw [List.findIdx?_cons] at found
    by_cases here : key x = k
    · simp only [here, BEq.rfl, if_true, Option.some.injEq] at found
      subst found here
      have others : rest.map (fun y => if key y = key x then f y else y) = rest.map id := by
        apply List.map_congr_left
        intro y hy
        have other : key y ≠ key x := fun same => distinct.1 (same ▸ List.mem_map_of_mem hy)
        rw [if_neg other, id]
      rw [List.modify_zero_cons, List.map_cons, if_pos rfl, others, List.map_id]
    · simp only [here, beq_iff_eq, if_false, Option.map_eq_some_iff] at found
      obtain ⟨j, later, rfl⟩ := found
      rw [List.modify_succ_cons, List.map_cons, if_neg here, ih distinct.2 later]

/-! ### What is given by one element -/

variable {β : Type} {owner : β → κ} {f : α → List β} {ys : List α}

/-- **What one element gives is found again** among all that is given, if it can be told whose it
is. The induction is on the elements, of which the first with the key is the only one. -/
theorem filter_flatMap_owner (distinct : (xs.map key).Nodup)
    (owned : ∀ x, ∀ b ∈ f x, owner b = key x) (k : κ) :
    (xs.flatMap f).filter (owner · == k) = (xs.find? (key · == k)).toList.flatMap f := by
  induction xs with
  | nil => rfl
  | cons x rest ih =>
    rw [List.map_cons, List.nodup_cons] at distinct
    rw [List.flatMap_cons, List.filter_append, ih distinct.2]
    by_cases here : key x = k
    · have all : (f x).filter (owner · == k) = f x :=
        List.filter_eq_self.2 fun b hb => by simp [owned x b hb, here]
      have none_behind : rest.find? (key · == k) = none := by
        refine List.find?_eq_none.2 fun y hy same => distinct.1 ?_
        rw [here, ← eq_of_beq same]
        exact List.mem_map_of_mem hy
      rw [all, none_behind, List.find?_cons_of_pos (by simpa using here)]
      rfl
    · have none_here : (f x).filter (owner · == k) = [] :=
        List.filter_eq_nil_iff.2 fun b hb => by simp [owned x b hb, here]
      rw [none_here, List.find?_cons_of_neg (by simpa using here), List.nil_append]

/-- Two lists of findings are the same up to order, and those of each owner are in the same
order. -/
structure Agree (owner : β → κ) (found found' : List β) : Prop where
  /-- The same is found. -/
  perm : found.Perm found'
  /-- What is found about one owner is found in the same order. -/
  order : ∀ k, found.filter (owner · == k) = found'.filter (owner · == k)

/-- What elements with distinct keys give agrees in any order of the elements. -/
theorem agree_flatMap (distinct : (xs.map key).Nodup) (perm : xs.Perm ys)
    (owned : ∀ x, ∀ b ∈ f x, owner b = key x) :
    Agree owner (xs.flatMap f) (ys.flatMap f) where
  perm := perm.flatMap_right f
  order k := by
    rw [filter_flatMap_owner distinct owned,
      filter_flatMap_owner ((perm.map key).nodup_iff.1 distinct) owned,
      find?_key_of_perm distinct perm]

end Workflow
