import Mathlib.Logic.Relation

/-!
# The search that marks what it takes

A search with a queue may mark an element when it puts it into the queue, as `Drains` does, or only
when it takes it from there. In the second case an element can stand in the queue several times, and
is passed over once it is marked. The order of such a search is another one, and its queue can be
longer than there are elements; what is marked in the end is the same.

The loop has no bound. It ends since every turn either marks an element that can be expanded, of
which there are only so many, or makes the queue shorter.

## Main results

* `Marks.unique`: the loop has at most one run.
* `exists_marks`: **the loop ends**, if only some elements can be expanded.
* `Marks.mem_iff`: **the loop marks exactly what steps lead to** from its start.
-/

namespace Workflow

variable {α : Type}

/-- A run of the loop, with what is marked, its queue, and what is marked when it ends. -/
inductive Marks (next : α → List α) : List α → List α → List α → Prop where
  /-- The queue is empty. -/
  | done {marked : List α} : Marks next marked [] marked
  /-- What is in front is marked already. -/
  | pass {marked rest final : List α} {a : α} : a ∈ marked → Marks next marked rest final →
      Marks next marked (a :: rest) final
  /-- What is in front is marked, and what a step leads to goes to the back. -/
  | take {marked rest final : List α} {a : α} : a ∉ marked →
      Marks next (a :: marked) (rest ++ next a) final → Marks next marked (a :: rest) final

variable {next : α → List α} {marked queue final start : List α}

/-- **The loop has at most one run.** The induction is on the run. -/
theorem Marks.unique (run : Marks next marked queue final) {final' : List α}
    (run' : Marks next marked queue final') : final = final' := by
  induction run generalizing final' with
  | done =>
    cases run'
    rfl
  | pass old _ ih =>
    cases run' with
    | pass _ run' => exact ih run'
    | take new _ => exact absurd old new
  | take new _ ih =>
    cases run' with
    | pass old _ => exact absurd old new
    | take _ run' => exact ih run'

/-! ### The end of the loop -/

section Ending

variable [DecidableEq α]

/-- Marking an element leaves fewer of those without a mark. -/
theorem length_unmarked_lt {known : List α} {a : α} (ha : a ∈ known) (new : a ∉ marked) :
    (known.filter (· ∉ a :: marked)).length < (known.filter (· ∉ marked)).length := by
  have both : known.filter (· ∉ a :: marked) = (known.filter (· ∉ marked)).filter (· ≠ a) := by
    rw [List.filter_filter]
    exact List.filter_congr fun b _ => by simp
  rw [both, List.length_filter_lt_length_iff_exists]
  exact ⟨a, by simp [ha, new], by simp⟩

/-- Marking an element that is none of the known ones leaves as many of those without a mark. -/
theorem unmarked_cons_of_not_mem {known : List α} {a : α} (unknown : a ∉ known) :
    known.filter (· ∉ a :: marked) = known.filter (· ∉ marked) := by
  refine List.filter_congr fun b hb => ?_
  have other : b ≠ a := fun same => unknown (same ▸ hb)
  simp [other]

/-- **The loop ends**, from whatever it has marked and with whatever is in its queue, if no step
leads on from any but some elements. The induction is on how many of these have no mark, and within
on the queue. -/
theorem exists_marks {known : List α} (last : ∀ a, a ∉ known → next a = [])
    (marked queue : List α) : ∃ final, Marks next marked queue final := by
  induction left : (known.filter (· ∉ marked)).length using Nat.strongRecOn
    generalizing marked queue with
  | ind count fewer =>
    induction queue generalizing marked with
    | nil => exact ⟨marked, .done⟩
    | cons a rest shorter =>
      by_cases old : a ∈ marked
      · obtain ⟨final, run⟩ := shorter marked left
        exact ⟨final, .pass old run⟩
      · by_cases ha : a ∈ known
        · obtain ⟨final, run⟩ := fewer _ (left ▸ length_unmarked_lt ha old) (a :: marked)
            (rest ++ next a) rfl
          exact ⟨final, .take old run⟩
        · have same : (known.filter (· ∉ a :: marked)).length = count := by
            rw [unmarked_cons_of_not_mem ha, left]
          obtain ⟨final, run⟩ := shorter (a :: marked) same
          refine ⟨final, .take old ?_⟩
          rwa [last a ha, List.append_nil]

end Ending

/-! ### What is marked -/

/-- What holds of the marked and of the queue, and is handed on by every step, holds of everything
that is marked in the end. -/
theorem Marks.induction {motive : α → Prop} (run : Marks next marked queue final)
    (step : ∀ a, motive a → ∀ b ∈ next a, motive b) (before : ∀ a ∈ marked, motive a)
    (waiting : ∀ a ∈ queue, motive a) : ∀ a ∈ final, motive a := by
  induction run with
  | done => exact before
  | pass _ _ ih => exact ih before (List.forall_mem_cons.1 waiting).2
  | take _ _ ih =>
    obtain ⟨first, waiting⟩ := List.forall_mem_cons.1 waiting
    refine ih (List.forall_mem_cons.2 ⟨first, before⟩) fun b hb => ?_
    exact (List.mem_append.1 hb).elim (waiting b) (step _ first b)

/-- What is marked stays so, and what is in the queue is marked in the end. -/
theorem Marks.subset (run : Marks next marked queue final) :
    marked ⊆ final ∧ queue ⊆ final := by
  induction run with
  | done => exact ⟨fun _ => id, List.nil_subset _⟩
  | pass old _ ih => exact ⟨ih.1, List.cons_subset.2 ⟨ih.1 old, ih.2⟩⟩
  | take _ _ ih =>
    obtain ⟨first, marked⟩ := List.cons_subset.1 ih.1
    exact ⟨marked, List.cons_subset.2 ⟨first, (List.append_subset.1 ih.2).1⟩⟩

/-- No step leads out of what is marked in the end, if none leads from the marked but to the marked
and the queue. -/
theorem Marks.closed (run : Marks next marked queue final)
    (expanded : ∀ a ∈ marked, ∀ b ∈ next a, b ∈ marked ∨ b ∈ queue) :
    ∀ a ∈ final, ∀ b ∈ next a, b ∈ final := by
  induction run with
  | done => exact fun a ha b hb => (expanded a ha b hb).resolve_right List.not_mem_nil
  | pass old _ ih =>
    refine ih fun a ha b hb => ?_
    rcases expanded a ha b hb with known | waiting
    · exact .inl known
    · rcases List.mem_cons.1 waiting with rfl | waiting
      · exact .inl old
      · exact .inr waiting
  | take _ _ ih =>
    refine ih fun a ha b hb => ?_
    rcases List.mem_cons.1 ha with rfl | ha
    · exact .inr (List.mem_append_right _ hb)
    · rcases expanded a ha b hb with known | waiting
      · exact .inl (List.mem_cons_of_mem _ known)
      · rcases List.mem_cons.1 waiting with rfl | waiting
        · exact .inl List.mem_cons_self
        · exact .inr (List.mem_append_left _ waiting)

/-- **The loop marks exactly what steps lead to** from its start. -/
theorem Marks.mem_iff (run : Marks next [] start final) {a : α} :
    a ∈ final ↔ ∃ s ∈ start, Relation.ReflTransGen (fun b c => c ∈ next b) s a := by
  constructor
  · refine run.induction
      (motive := fun b => ∃ s ∈ start, Relation.ReflTransGen (fun b c => c ∈ next b) s b)
      ?_ (List.forall_mem_nil _) ?_ a
    · rintro b ⟨s, first, path⟩ c onward
      exact ⟨s, first, path.tail onward⟩
    · exact fun s first => ⟨s, first, .refl⟩
  · rintro ⟨s, first, path⟩
    induction path with
    | refl => exact run.subset.2 first
    | tail _ onward found => exact run.closed (by simp) _ found _ onward

end Workflow
