import Workflow.Proofs.Tree

/-!
# Levels of a forest

At which level a tree stands in a forest, as a relation: the roots at level 0, and the children of
a tree one level below it. The same tree may stand at several levels.

## Main results

* `standsAt_succ_iff`: what stands below the roots stands in the children of one.
* `forestHeight_le_iff_standsAt`: **the height of a forest** bounds the levels at which trees
  stand in it, and is the least number that does.
-/

namespace Workflow.Tree

variable {α : Type} {forest : List (Tree α)} {t c : Tree α} {level : Nat}

/-- A tree stands at a level of a forest. -/
inductive StandsAt (forest : List (Tree α)) : Nat → Tree α → Prop where
  /-- The roots stand at level 0. -/
  | root {t : Tree α} : t ∈ forest → StandsAt forest 0 t
  /-- A child stands one level below its parent. -/
  | child {level : Nat} {t c : Tree α} : StandsAt forest level t → c ∈ t.children →
      StandsAt forest (level + 1) c

/-- The trees at the top level are the roots. -/
theorem standsAt_zero_iff : StandsAt forest 0 t ↔ t ∈ forest := by
  constructor
  · intro h
    cases h with
    | root ht => exact ht
  · exact .root

/-- **What stands below the roots** stands in the children of one of them, one level higher. -/
theorem standsAt_succ_iff :
    StandsAt forest (level + 1) c ↔ ∃ t ∈ forest, StandsAt t.children level c := by
  constructor
  · intro h
    induction level generalizing c with
    | zero =>
      cases h with
      | child top hc => exact ⟨_, standsAt_zero_iff.1 top, .root hc⟩
    | succ level ih =>
      cases h with
      | child above hc =>
        obtain ⟨t, ht, inside⟩ := ih above
        exact ⟨t, ht, .child inside hc⟩
  · rintro ⟨t, ht, inside⟩
    induction inside with
    | root hc => exact .child (.root ht) hc
    | child _ hc ih => exact .child ih hc

/-- **The height of a forest** is at most so many exactly if trees stand at lower levels only. -/
theorem forestHeight_le_iff_standsAt {levels : Nat} :
    forestHeight forest ≤ levels ↔ ∀ level t, StandsAt forest level t → level < levels := by
  induction levels generalizing forest with
  | zero =>
    rw [forestHeight_le_iff]
    constructor
    · intro flat level t stands
      induction stands with
      | @root t ht =>
        have tall : 0 < t.height := by
          cases t
          exact Nat.succ_pos _
        have := flat t ht
        omega
      | child _ _ ih => exact absurd ih (Nat.not_lt_zero _)
    · exact fun none_stands t ht => absurd (none_stands 0 t (.root ht)) (Nat.not_lt_zero 0)
  | succ levels ih =>
    have below_root : ∀ t : Tree α, t.height ≤ levels + 1 ↔ forestHeight t.children ≤ levels :=
      fun t => height_le_succ_iff.trans forestHeight_le_iff.symm
    rw [forestHeight_le_iff]
    simp only [below_root, ih]
    constructor
    · intro inside level t stands
      cases level with
      | zero => exact Nat.succ_pos levels
      | succ level =>
        obtain ⟨root, hroot, below⟩ := standsAt_succ_iff.1 stands
        exact Nat.succ_lt_succ (inside root hroot level t below)
    · intro bounded root hroot level t below
      exact Nat.lt_of_succ_lt_succ (bounded _ t (standsAt_succ_iff.2 ⟨root, hroot, below⟩))

end Workflow.Tree
