import Mathlib.Data.List.TakeWhile
import Workflow.Text.Blank

/-!
# Trimming

A text is trimmed by dropping white space from both of its ends. What is left stands between white
space and is **tight**: it has none at either end. Nothing is left of white space alone, and only a
tight text is left as it is, so that trimming again changes nothing.

## Main results

* `exists_trimChars`: what is left is tight and stands between white space.
* `trimChars_eq_self_iff`: a text is left as it is exactly if it is tight.
* `trim_eq_empty_iff`: nothing is left exactly of a blank text.
* `exists_trim_eq_iff`: a text is left by trimming exactly if trimming leaves it alone.
-/

namespace Workflow.Text

/-- Trimming takes characters away and changes none. -/
theorem trimChars_sublist (cs : List Char) : (trimChars cs).Sublist cs := by
  have back := (List.dropWhile_sublist (l := (cs.dropWhile isBlankChar).reverse)
    isBlankChar).reverse
  rw [List.reverse_reverse] at back
  exact back.trans (List.dropWhile_sublist _)

/-- No white space stands at either end. -/
def IsTight (cs : List Char) : Prop :=
  (∀ c, cs.head? = some c → isBlankChar c = false)
    ∧ ∀ c, cs.getLast? = some c → isBlankChar c = false

/-- What is left of the white space at the front has none there. -/
theorem head?_dropWhile_isBlankChar {cs : List Char} {c : Char}
    (first : (cs.dropWhile isBlankChar).head? = some c) : isBlankChar c = false := by
  have ink := List.head?_dropWhile_not isBlankChar cs
  rw [first] at ink
  exact ink

/-- **Trimming takes white space away from both ends**, and leaves none there. -/
theorem exists_trimChars (cs : List Char) :
    ∃ lead trail, cs = lead ++ trimChars cs ++ trail ∧ (∀ c ∈ lead, isBlankChar c = true)
      ∧ (∀ c ∈ trail, isBlankChar c = true) ∧ IsTight (trimChars cs) := by
  have front := List.takeWhile_append_dropWhile (p := isBlankChar) (l := cs)
  have back : cs.dropWhile isBlankChar
      = trimChars cs ++ ((cs.dropWhile isBlankChar).reverse.takeWhile isBlankChar).reverse := by
    rw [trimChars, ← List.reverse_append, List.takeWhile_append_dropWhile, List.reverse_reverse]
  refine ⟨cs.takeWhile isBlankChar, _, (by rw [List.append_assoc, ← back, front]),
    fun _ => List.mem_takeWhile_imp, fun c hc => List.mem_takeWhile_imp (List.mem_reverse.1 hc),
    fun c first => ?_, fun c last => ?_⟩
  · have ahead : (cs.dropWhile isBlankChar).head? = some c := by
      rw [back, List.head?_append, first]
      rfl
    exact head?_dropWhile_isBlankChar ahead
  · rw [trimChars, List.getLast?_reverse] at last
    exact head?_dropWhile_isBlankChar last

/-- Trimming leaves a text alone exactly if it has no white space at either end. -/
theorem trimChars_eq_self_iff (cs : List Char) : trimChars cs = cs ↔ IsTight cs := by
  obtain ⟨lead, trail, split, before, behind, tight⟩ := exists_trimChars cs
  constructor
  · intro same
    rwa [same] at tight
  · rintro ⟨first, last⟩
    have none_before : lead = [] := by
      refine List.eq_nil_iff_forall_not_mem.2 fun _ hc => ?_
      obtain ⟨c, lead, rfl⟩ := List.exists_cons_of_ne_nil (List.ne_nil_of_mem hc)
      have ink := first c (by rw [split]; rfl)
      rw [before c List.mem_cons_self] at ink
      cases ink
    have none_behind : trail = [] := by
      refine List.eq_nil_iff_forall_not_mem.2 fun _ hc => ?_
      have some_behind := List.getLast?_eq_some_getLast (List.ne_nil_of_mem hc)
      have ink := last _ (by rw [split, List.getLast?_append, some_behind]; rfl)
      rw [behind _ (List.getLast_mem _)] at ink
      cases ink
    rw [none_before, none_behind, List.nil_append, List.append_nil] at split
    exact split.symm

/-- Trimming leaves no character exactly of white space. -/
theorem trimChars_eq_nil_iff (cs : List Char) :
    trimChars cs = [] ↔ ∀ c ∈ cs, isBlankChar c = true := by
  obtain ⟨lead, trail, split, before, behind, tight⟩ := exists_trimChars cs
  constructor
  · intro nothing c hc
    rw [split, nothing, List.append_nil, List.mem_append] at hc
    exact hc.elim (before c) (behind c)
  · intro all
    -- a first character would be white space, and none that is left stands in front
    refine List.eq_nil_iff_forall_not_mem.2 fun _ hc => ?_
    obtain ⟨c, rest, kept⟩ := List.exists_cons_of_ne_nil (List.ne_nil_of_mem hc)
    have held : c ∈ cs := (trimChars_sublist cs).subset (kept ▸ List.mem_cons_self)
    have ink := tight.1 c (by rw [kept]; rfl)
    rw [all c held] at ink
    cases ink

/-- **Trimming leaves nothing** exactly of a blank text. -/
theorem trim_eq_empty_iff (s : String) : trim s = "" ↔ isBlank s = true := by
  rw [← String.toList_inj, trim, String.toList_ofList, isBlank, List.all_eq_true]
  exact trimChars_eq_nil_iff s.toList

/-- **A text is left by trimming** exactly if trimming leaves it alone. -/
theorem exists_trim_eq_iff {s : String} : (∃ raw, trim raw = s) ↔ trim s = s := by
  constructor
  · rintro ⟨raw, rfl⟩
    obtain ⟨-, -, -, -, -, tight⟩ := exists_trimChars raw.toList
    rw [trim, trim, String.toList_ofList, (trimChars_eq_self_iff _).2 tight]
  · exact fun same => ⟨s, same⟩

end Workflow.Text
