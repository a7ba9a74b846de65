import Mathlib.Logic.Relation
import Workflow.Search

/-!
# What a search finds

A search in layers ends with a set that no step leads out of, provided that its bound exceeds
the number of elements there are. The invariant between two layers is `Frontier`: what was
seen has only led to what was seen or stands in the layer, and the layers that are left suffice
for the elements that are left.

## Main results

* `layersFrom_closed`: no step leads out of what a search from a frontier lists.
* `start_subset_reachable`, `reachable_closed`: a search finds its start and whatever a step
  leads to from what it finds.
* `reachable_induction`: nothing else is found.
* `mem_reachable_iff`: **a search finds exactly what steps lead to**, in whatever order.
-/

namespace Workflow

variable {α : Type}

/-- What holds between two layers of a search in which only elements of `known` turn up. -/
structure Frontier (next : α → List α) (known : List α) (bound : Nat) (seen layer : List α) :
    Prop where
  /-- Nothing stands in the layer twice, or was seen before. -/
  distinct : (layer ++ seen).Nodup
  /-- Only known elements turn up. -/
  subset : layer ++ seen ⊆ known
  /-- What was seen has been expanded. -/
  expanded : ∀ a ∈ seen, ∀ b ∈ next a, b ∈ layer ++ seen
  /-- There are more layers left than elements. -/
  room : known.length < bound + seen.length

/-- A search is never at a frontier with no layer left. -/
theorem Frontier.bound_pos {next : α → List α} {known seen layer : List α} {bound : Nat}
    (h : Frontier next known bound seen layer) : 0 < bound := by
  have seen_distinct : seen.Nodup := (List.nodup_append.1 h.distinct).2.1
  have seen_known : seen ⊆ known := fun a ha => h.subset (List.mem_append_right _ ha)
  have fits : seen.length ≤ known.length := seen_distinct.length_le_of_subset seen_known
  have room := h.room
  omega

variable [DecidableEq α]

/-- Expanding a layer gives a frontier again. -/
theorem Frontier.advance {next : α → List α} {known seen : List α} {bound : Nat} {x : α}
    {xs : List α} (h : Frontier next known (bound + 1) seen (x :: xs))
    (steps : ∀ a ∈ known, ∀ b ∈ next a, b ∈ known) :
    Frontier next known bound (x :: xs ++ seen)
      (fresh (x :: xs ++ seen) ((x :: xs).flatMap next)) where
  distinct := by
    rw [List.nodup_append]
    refine ⟨nodup_fresh _ _, h.distinct, ?_⟩
    rintro a ha b hb rfl
    exact (mem_fresh.1 ha).2 hb
  subset := by
    intro a ha
    rcases List.mem_append.1 ha with ha | ha
    · obtain ⟨b, hb, hab⟩ := List.mem_flatMap.1 (mem_fresh.1 ha).1
      exact steps b (h.subset (List.mem_append_left _ hb)) a hab
    · exact h.subset ha
  expanded := by
    intro a ha b hb
    by_cases known_before : b ∈ x :: xs ++ seen
    · exact List.mem_append_right _ known_before
    · rcases List.mem_append.1 ha with ha | ha
      · refine List.mem_append_left _ (mem_fresh.2 ⟨?_, known_before⟩)
        exact List.mem_flatMap.2 ⟨a, ha, hb⟩
      · exact absurd (h.expanded a ha b hb) known_before
  room := by
    have room := h.room
    simp only [List.length_append, List.length_cons]
    omega

/-- **No step leads out** of what a search from a frontier lists. -/
theorem layersFrom_closed {next : α → List α} {known : List α} {bound : Nat}
    {seen layer : List α} (h : Frontier next known bound seen layer)
    (steps : ∀ a ∈ known, ∀ b ∈ next a, b ∈ known) :
    ∀ a ∈ seen ++ layersFrom next bound seen layer, ∀ b ∈ next a,
      b ∈ seen ++ layersFrom next bound seen layer := by
  induction bound generalizing seen layer with
  | zero => exact absurd h.bound_pos (Nat.lt_irrefl 0)
  | succ bound ih =>
    cases layer with
    | nil =>
      intro a ha b hb
      rw [layersFrom, List.append_nil] at ha ⊢
      simpa using h.expanded a ha b hb
    | cons x xs =>
      have later := ih (h.advance steps)
      have regroup : ∀ (rest : List α) (c : α),
          c ∈ seen ++ (x :: xs ++ rest) ↔ c ∈ x :: xs ++ seen ++ rest := by
        intro rest c
        simp only [List.mem_append, or_assoc, or_left_comm]
      intro a ha b hb
      rw [layersFrom] at ha ⊢
      exact (regroup _ b).2 (later a ((regroup _ a).1 ha) b hb)

/-- The start of a search is a frontier. -/
theorem frontier_start {next : α → List α} {known start : List α} {bound : Nat}
    (inside : start ⊆ known) (room : known.length < bound) :
    Frontier next known bound [] (fresh [] start) where
  distinct := by simpa using nodup_fresh [] start
  subset := by
    intro a ha
    rw [List.append_nil] at ha
    exact inside (mem_fresh.1 ha).1
  expanded := by simp
  room := by simpa using room

/-- No step leads out of what a search finds. -/
theorem reachable_closed {next : α → List α} {known start : List α} {bound : Nat}
    (steps : ∀ a ∈ known, ∀ b ∈ next a, b ∈ known) (inside : start ⊆ known)
    (room : known.length < bound) {a b : α} (ha : a ∈ reachable next bound start)
    (hb : b ∈ next a) : b ∈ reachable next bound start := by
  have closed := layersFrom_closed (frontier_start inside room) steps
  simp only [List.nil_append] at closed
  exact closed a ha b hb

/-- A search finds its start. -/
theorem start_subset_reachable {next : α → List α} {start : List α} {bound : Nat}
    (room : 0 < bound) : start ⊆ reachable next bound start := by
  intro a ha
  have first : a ∈ fresh [] start := mem_fresh.2 ⟨ha, List.not_mem_nil⟩
  obtain ⟨bound, rfl⟩ := Nat.exists_eq_succ_of_ne_zero (Nat.ne_of_gt room)
  rw [reachable]
  cases layer : fresh [] start with
  | nil => simp [layer] at first
  | cons x xs =>
    rw [layer] at first
    rw [layersFrom]
    exact List.mem_append_left _ first

/-- What holds of the layer and is handed on by every step holds of everything listed. -/
theorem layersFrom_induction {next : α → List α} {motive : α → Prop}
    (step : ∀ a, motive a → ∀ b ∈ next a, motive b) (bound : Nat) (seen layer : List α)
    (start : ∀ a ∈ layer, motive a) : ∀ a ∈ layersFrom next bound seen layer, motive a := by
  induction bound generalizing seen layer with
  | zero => simp [layersFrom]
  | succ bound ih =>
    cases layer with
    | nil => simp [layersFrom]
    | cons x xs =>
      intro a ha
      rw [layersFrom] at ha
      rcases List.mem_append.1 ha with ha | ha
      · exact start a ha
      · refine ih _ _ ?_ a ha
        intro b hb
        obtain ⟨c, hc, hcb⟩ := List.mem_flatMap.1 (mem_fresh.1 hb).1
        exact step c (start c hc) b hcb

/-- What holds of the start and is handed on by every step holds of everything found. -/
theorem reachable_induction {next : α → List α} {motive : α → Prop} {bound : Nat}
    {start : List α} (step : ∀ a, motive a → ∀ b ∈ next a, motive b)
    (first : ∀ a ∈ start, motive a) {a : α} (ha : a ∈ reachable next bound start) : motive a :=
  layersFrom_induction step bound [] _ (fun b hb => first b (mem_fresh.1 hb).1) a ha

/-- **A search finds exactly what steps lead to** from its start. -/
theorem mem_reachable_iff {next : α → List α} {known start : List α} {bound : Nat}
    (steps : ∀ a ∈ known, ∀ b ∈ next a, b ∈ known) (inside : start ⊆ known)
    (room : known.length < bound) {a : α} :
    a ∈ reachable next bound start ↔
      ∃ s ∈ start, Relation.ReflTransGen (fun b c => c ∈ next b) s a := by
  constructor
  · refine reachable_induction
      (motive := fun b => ∃ s ∈ start, Relation.ReflTransGen (fun b c => c ∈ next b) s b) ?_ ?_
    · rintro b ⟨s, first, path⟩ c onward
      exact ⟨s, first, path.tail onward⟩
    · exact fun s first => ⟨s, first, .refl⟩
  · rintro ⟨s, first, path⟩
    induction path with
    | refl => exact start_subset_reachable (Nat.zero_lt_of_lt room) first
    | tail _ onward found => exact reachable_closed steps inside room found onward

end Workflow
