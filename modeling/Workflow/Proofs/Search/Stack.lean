import Mathlib.Data.List.Basic

/-!
# The search with a stack

A walk in depth can be run as a loop with a stack: what is on top is taken, and what one step leads
to from there is pushed, the last one first, so that the first one is on top. Nothing is marked, so
that such a loop need not end, and nothing in it says where the part of the stack begins that one
element has brought. Its runs are told by a relation, `Pops`. A stack is a list whose last element
is on top.

What carries every proof about the loop is that the elements on top are worked off, with all that
they lead to, before what is below them is touched (`Pops.append`).

## Main results

* `Pops.unique`, `Pops.iff_eq`: the loop has at most one run.
* `Pops.cons`, `Pops.expand`: a run is put together from those of the single elements.
-/

namespace Workflow

variable {α : Type} {next : α → List α}

/-- A run of the loop, with its stack and what it takes from there on. -/
inductive Pops (next : α → List α) : List α → List α → Prop where
  /-- The stack is empty. -/
  | done : Pops next [] []
  /-- What is on top is taken, and what it leads to is pushed in reverse. -/
  | turn {stack taken : List α} {a : α} : Pops next (stack ++ (next a).reverse) taken →
      Pops next (stack ++ [a]) (a :: taken)

/-- With an empty stack nothing is taken. -/
theorem pops_nil_iff {taken : List α} : Pops next [] taken ↔ taken = [] := by
  constructor
  · intro run
    generalize empty : ([] : List α) = stack at run
    cases run with
    | done => rfl
    | turn _ => simp at empty
  · rintro rfl
    exact .done

/-- With something on top, this is taken and the loop goes on with what it leads to. -/
theorem pops_concat_iff {stack taken : List α} {a : α} :
    Pops next (stack ++ [a]) taken ↔
      ∃ later, taken = a :: later ∧ Pops next (stack ++ (next a).reverse) later := by
  constructor
  · intro run
    generalize whole : stack ++ [a] = full at run
    cases run with
    | done => simp at whole
    | turn run =>
      obtain ⟨rfl, top⟩ := List.append_inj' whole rfl
      cases top
      exact ⟨_, rfl, run⟩
  · rintro ⟨later, rfl, run⟩
    exact .turn run

/-- **The loop has at most one run.** The induction is on the run. -/
theorem Pops.unique {stack taken taken' : List α} (run : Pops next stack taken)
    (run' : Pops next stack taken') : taken = taken' := by
  induction run generalizing taken' with
  | done => exact (pops_nil_iff.1 run').symm
  | turn _ ih =>
    obtain ⟨later, rfl, rest⟩ := pops_concat_iff.1 run'
    rw [ih rest]

/-- If the loop ends, it does so in this one way. -/
theorem Pops.iff_eq {stack taken other : List α} (run : Pops next stack taken) :
    Pops next stack other ↔ other = taken := by
  constructor
  · exact fun run' => run'.unique run
  · rintro rfl
    exact run

/-- **What is on top is worked off** before what is below it. The induction is on the run of the
upper part. -/
theorem Pops.append {lower upper first later : List α} (run : Pops next upper first)
    (below : Pops next lower later) : Pops next (lower ++ upper) (first ++ later) := by
  induction run with
  | done => rwa [List.append_nil]
  | turn _ ih =>
    rw [← List.append_assoc, List.cons_append]
    refine .turn ?_
    rwa [List.append_assoc]

/-- An element is worked off with what it leads to. -/
theorem Pops.expand {a : α} {later : List α} (run : Pops next (next a).reverse later) :
    Pops next [a] (a :: later) := by
  rw [← List.nil_append [a]]
  exact .turn run

/-- Elements are worked off one after the other, if the first one is on top. -/
theorem Pops.cons {a : α} {rest first later : List α} (run : Pops next [a] first)
    (below : Pops next rest.reverse later) : Pops next (a :: rest).reverse (first ++ later) := by
  rw [List.reverse_cons]
  exact run.append below

end Workflow
