import Mathlib.Data.List.Forall2

/-!
# Attempts

What it means that a composed attempt succeeds, said of its parts: of one attempt after
another, and of attempts on all elements of a list.

## Main results

* `bind_eq_ok_iff`: two attempts in a row.
* `mapM_eq_ok_iff`: attempts on a list, matched with their results one by one.
* `mapM_eq_failingWith`: attempts on a list fail with the first fault of an element.
* `Settles`: an attempt that succeeds exactly under a condition, and what it gives then.
-/

namespace Workflow

variable {ε α β : Type}

/-- The result of a mapped attempt is the mapped result of the attempt. -/
theorem map_eq_ok_iff {f : α → β} {x : Except ε α} {b : β} :
    x.map f = .ok b ↔ ∃ a, x = .ok a ∧ f a = b := by
  cases x <;> simp [Except.map]

/-- A mapped attempt fails exactly as the attempt does. -/
theorem map_eq_error_iff {f : α → β} {x : Except ε α} {e : ε} :
    x.map f = .error e ↔ x = .error e := by
  cases x <;> simp [Except.map]

/-- An attempt succeeds however its errors are worded. -/
theorem mapError_eq_ok_iff {ε' : Type} {f : ε → ε'} {x : Except ε α} {a : α} :
    x.mapError f = .ok a ↔ x = .ok a := by
  cases x <;> simp [Except.mapError]

/-- Two attempts in a row succeed exactly if the second one succeeds with what the first one
gives. -/
theorem bind_eq_ok_iff {f : α → Except ε β} {x : Except ε α} {b : β} :
    x >>= f = .ok b ↔ ∃ a, x = .ok a ∧ f a = .ok b := by
  cases x <;> simp [bind, Except.bind]

/-- An attempt of which a result is left has succeeded. -/
theorem exists_eq_ok_of_toOption {x : Except ε α}
    (h : x.toOption.isSome = true) : ∃ a, x = .ok a := by
  cases x with
  | error e => cases h
  | ok a => exact ⟨a, rfl⟩

/-- An attempt of which a result of some kind is left has given one. -/
theorem exists_eq_ok_of_any {x : Except ε α} {p : α → Bool} (h : x.toOption.any p = true) :
    ∃ a, x = .ok a ∧ p a = true := by
  cases x with
  | error e => cases h
  | ok a => exact ⟨a, rfl, h⟩

/-- Attempts on all elements of a list succeed exactly if each one does, and give the results
in order. -/
theorem mapM_eq_ok_iff {f : α → Except ε β} {xs : List α} {ys : List β} :
    xs.mapM f = .ok ys ↔ List.Forall₂ (fun x y => f x = .ok y) xs ys := by
  induction xs generalizing ys with
  | nil => simp [pure, Except.pure, eq_comm]
  | cons x rest ih =>
    simp only [List.mapM_cons, bind_eq_ok_iff, ih, List.forall₂_cons_left_iff, pure,
      Except.pure, Except.ok.injEq]
    constructor
    · rintro ⟨y, hy, ys, hys, rfl⟩
      exact ⟨y, ys, hy, hys, rfl⟩
    · rintro ⟨y, ys, hy, hys, rfl⟩
      exact ⟨y, hy, ys, hys, rfl⟩

/-- Attempts that succeed on each element of a list succeed on the list. -/
theorem exists_mapM_eq_ok {f : α → Except ε β} {xs : List α}
    (each : ∀ x ∈ xs, ∃ y, f x = .ok y) : ∃ ys, xs.mapM f = .ok ys := by
  simp only [mapM_eq_ok_iff]
  induction xs with
  | nil => exact ⟨[], .nil⟩
  | cons x rest ih =>
    obtain ⟨y, hy⟩ := each x List.mem_cons_self
    obtain ⟨ys, hys⟩ := ih fun x' hx' => each x' (List.mem_cons_of_mem x hx')
    exact ⟨y :: ys, .cons hy hys⟩

/-- An attempt that fails with what is wrong, if anything is. -/
def failingWith (fault? : Option ε) (a : α) : Except ε α :=
  match fault? with
  | none => .ok a
  | some e => .error e

/-- Attempts on a list fail with the first thing that is wrong with an element. -/
theorem mapM_eq_failingWith {f : α → Except ε β} {fault? : α → Option ε} {result : α → β}
    {xs : List α} (each : ∀ x ∈ xs, f x = failingWith (fault? x) (result x)) :
    xs.mapM f = failingWith (xs.findSome? fault?) (xs.map result) := by
  induction xs with
  | nil => rfl
  | cons x rest ih =>
    rw [List.forall_mem_cons] at each
    rw [List.mapM_cons, each.1, ih each.2, List.findSome?_cons, List.map_cons]
    cases fault? x with
    | some e => rfl
    | none => cases rest.findSome? fault? <;> rfl

/-! ### Attempts with a condition -/

/-- An attempt that gives `a` if `p` holds, and fails if not. -/
def Settles (x : Except ε α) (p : Prop) (a : α) : Prop :=
  (p → x = .ok a) ∧ (¬ p → ∃ e, x = .error e)

/-- What succeeds anyway has no condition. -/
theorem Settles.ok (a : α) : Settles (.ok a : Except ε α) True a :=
  ⟨fun _ => rfl, fun never => absurd trivial never⟩

/-- What fails anyway has a condition that never holds. -/
theorem Settles.error (e : ε) (a : α) : Settles (.error e : Except ε α) False a :=
  ⟨False.elim, fun _ => ⟨e, rfl⟩⟩

/-- Only the truth of the condition counts. -/
theorem Settles.congr {x : Except ε α} {p q : Prop} {a : α} (settles : Settles x p a)
    (same : p ↔ q) : Settles x q a :=
  ⟨fun hq => settles.1 (same.2 hq), fun hq => settles.2 fun hp => hq (same.1 hp)⟩

/-- **Two attempts in a row** succeed under the conditions of both. -/
theorem Settles.bind {x : Except ε α} {f : α → Except ε β} {p q : Prop} {a : α} {b : β}
    (first : Settles x p a) (second : Settles (f a) q b) : Settles (x >>= f) (p ∧ q) b := by
  by_cases hp : p
  · rw [first.1 hp]
    exact second.congr (by simp [hp])
  · obtain ⟨e, failed⟩ := first.2 hp
    rw [failed]
    exact (Settles.error e b).congr (by simp [hp])

/-- A mapped attempt succeeds under the same condition. -/
theorem Settles.map {x : Except ε α} {p : Prop} {a : α} (settles : Settles x p a) (f : α → β) :
    Settles (x.map f) p (f a) := by
  refine ⟨fun hp => by rw [settles.1 hp]; rfl, fun hp => ?_⟩
  obtain ⟨e, failed⟩ := settles.2 hp
  exact ⟨e, by rw [failed]; rfl⟩

/-- An attempt with a condition gives one result, and gives it exactly if the condition holds. -/
theorem Settles.eq_ok_iff {x : Except ε α} {p : Prop} {a b : α} (settles : Settles x p a) :
    x = .ok b ↔ p ∧ a = b := by
  by_cases hp : p
  · rw [settles.1 hp, Except.ok.injEq, and_iff_right hp]
  · obtain ⟨e, failed⟩ := settles.2 hp
    rw [failed]
    exact iff_of_false (by simp) fun both => hp both.1

/-! ### Matched lists -/

/-- In a match of two lists, every element of the second is matched with one of the first. -/
theorem exists_of_mem_right {R : α → β → Prop} {xs : List α} {ys : List β}
    (h : List.Forall₂ R xs ys) {y : β} (hy : y ∈ ys) : ∃ x ∈ xs, R x y := by
  induction h with
  | nil => cases hy
  | @cons x y' xs ys here _ ih =>
    rcases List.mem_cons.1 hy with rfl | hy
    · exact ⟨x, List.mem_cons_self, here⟩
    · obtain ⟨x', hx', there⟩ := ih hy
      exact ⟨x', List.mem_cons_of_mem x hx', there⟩

/-- A match of two lists may be weakened by what holds of the elements of the first. -/
theorem forall₂_imp_of_mem {R S : α → β → Prop} {xs : List α} {ys : List β}
    (h : List.Forall₂ R xs ys) (imp : ∀ x ∈ xs, ∀ y, R x y → S x y) : List.Forall₂ S xs ys := by
  have both := (List.forall₂_and_left xs ys).2 ⟨fun x hx => hx, h⟩
  refine both.imp ?_
  rintro x y ⟨hx, matched⟩
  exact imp x hx y matched

/-- A match of lists is transitive if it is from the elements of the first. -/
theorem forall₂_trans_of_mem {R : α → α → Prop} {xs ys zs : List α} (h : List.Forall₂ R xs ys)
    (h' : List.Forall₂ R ys zs) (trans : ∀ x ∈ xs, ∀ y z, R x y → R y z → R x z) :
    List.Forall₂ R xs zs := by
  induction h generalizing zs with
  | nil => exact h'
  | cons here _ ih =>
    cases h' with
    | cons here' later' =>
      exact .cons (trans _ List.mem_cons_self _ _ here here')
        (ih later' fun x hx => trans x (List.mem_cons_of_mem _ hx))

end Workflow
