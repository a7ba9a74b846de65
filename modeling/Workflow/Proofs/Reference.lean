import Workflow.Proofs.Text
import Workflow.Reference

/-!
# Writing and reading references

A reference is written by putting a label and a path together, whatever they are. It is read by
looking for delimiters and taking white space away. The two agree only where neither part holds a
character that ends it, and where taking white space away leaves each part as it is: such a pair
is **writable**.

## Main results

* `front?_eq_some_iff`: what a reference looks like at the front of a text.
* `eq_of_raw_eq`: references that look alike are alike, wherever they stand.
* `scan_render`: **a writable pair is read as it was written**, and nothing else with it.
* `writable_of_mem_scan_render`: only a writable pair is read as it was written, or with more at
  the end of its path.
-/

namespace Workflow

namespace Reference

/-! ### Parts -/

/-- A part that reading leaves alone: there is something to read, and no white space around it
unless it is a single character. -/
def IsPart (cs : List Char) : Prop :=
  cs ≠ [] ∧ (Text.trimChars cs = cs ∨ cs.length = 1)

/-- A part that is read has no characters but those that were written. -/
theorem part?_sublist {cs part : List Char} (read : part? cs = some part) : part.Sublist cs := by
  rw [part?] at read
  split at read
  · obtain ⟨c, last, rfl⟩ := Option.map_eq_some_iff.1 read
    exact List.singleton_sublist.2 (List.mem_of_getLast? last)
  · cases read
    exact Text.trimChars_sublist cs

/-- Reading leaves a part alone exactly if it is one. -/
theorem part?_eq_self_iff (cs : List Char) : part? cs = some cs ↔ IsPart cs := by
  rw [part?, IsPart]
  split
  · next blank =>
    -- of white space alone the last character is read
    rw [blank, List.length_eq_one_iff, Option.map_eq_some_iff]
    constructor
    · rintro ⟨c, -, rfl⟩
      exact ⟨List.cons_ne_nil c [], .inr ⟨c, rfl⟩⟩
    · rintro ⟨ink, rfl | ⟨c, rfl⟩⟩
      · exact absurd rfl ink
      · exact ⟨c, rfl, rfl⟩
  · next ink =>
    rw [Option.some.injEq]
    constructor
    · intro same
      exact ⟨fun blank => ink (same.trans blank), .inl same⟩
    · rintro ⟨-, same | single⟩
      · exact same
      · refine (Text.trimChars_sublist cs).eq_of_length_le ?_
        rw [single]
        exact List.length_pos_iff.2 ink

/-! ### The dot -/

/-- The first dot parts what stands before it from what stands behind it. -/
theorem sides_of_not_mem {left : List Char} (noDot : '.' ∉ left) (right : List Char) :
    sides (left ++ '.' :: right) = (left, right) := by
  have before : ∀ c ∈ left, decide (c ≠ '.') = true := fun c mem =>
    decide_eq_true fun dot => noDot (dot ▸ mem)
  rw [sides, List.takeWhile_append_of_pos before, List.dropWhile_append_of_pos before]
  simp

/-- Where something stands behind the first dot, the sides are all but the dot. -/
theorem length_sides {cs : List Char} (behind : (sides cs).2 ≠ []) :
    (sides cs).1.length + 1 + (sides cs).2.length = cs.length := by
  have whole := congrArg List.length (List.takeWhile_append_dropWhile (p := (· ≠ '.')) (l := cs))
  have rest : (cs.dropWhile (· ≠ '.')).length ≠ 0 := by
    intro none
    rw [List.length_eq_zero_iff] at none
    exact behind (by rw [sides, none]; rfl)
  rw [List.length_append] at whole
  simp only [sides, List.length_drop]
  omega

/-! ### The front of a text -/

/-- A character that may stand between the braces of a reference. -/
def IsInner (c : Char) : Prop :=
  c ≠ '\x7b' ∧ c ≠ '\x7d'

/-- What stands before the next closing brace has no brace in it. -/
theorem body?_eq_some_iff {cs body : List Char} :
    body? cs = some body ↔ (∀ c ∈ body, IsInner c) ∧ ∃ rest, cs = body ++ '\x7d' :: rest := by
  induction cs generalizing body with
  | nil => simp [body?]
  | cons c cs ih =>
    rw [body?]
    constructor
    · intro read
      split at read
      · next closing =>
        cases read
        exact ⟨by simp, cs, by rw [closing]; rfl⟩
      · next closing =>
        split at read
        · cases read
        · next opening =>
          obtain ⟨body, later, rfl⟩ := Option.map_eq_some_iff.1 read
          obtain ⟨inner, rest, rfl⟩ := ih.1 later
          exact ⟨List.forall_mem_cons.2 ⟨⟨opening, closing⟩, inner⟩, rest, rfl⟩
    · rintro ⟨inner, rest, whole⟩
      cases body with
      | nil =>
        cases whole
        rw [if_pos rfl]
      | cons b body =>
        cases whole
        obtain ⟨⟨opening, closing⟩, inner⟩ := List.forall_mem_cons.1 inner
        rw [if_neg closing, if_neg opening, ih.2 ⟨inner, rest, rfl⟩]
        rfl

/-- The characters of a reference whose braces hold `body`. -/
def wrap (body : List Char) : List Char :=
  '$' :: '\x7b' :: (body ++ ['\x7d'])

/-- The reference is what its braces say if they hold `body`. -/
structure HasBody (ref : Reference) (body : List Char) : Prop where
  /-- There is no brace inside. -/
  inner : ∀ c ∈ body, IsInner c
  /-- The label is what is read before the first dot. -/
  label : part? (sides body).1 = some ref.label.toList
  /-- The path is what is read behind it. -/
  path : part? (sides body).2 = some ref.path.toList
  /-- The reference stands in the text with its braces. -/
  raw : ref.raw.toList = wrap body

/-- **What a reference looks like** at the front of a text. -/
theorem front?_eq_some_iff {cs : List Char} {ref : Reference} :
    front? cs = some ref ↔ ∃ body rest, cs = wrap body ++ rest ∧ ref.HasBody body := by
  constructor
  · intro read
    unfold front? at read
    split at read
    · next cs =>
      split at read
      · cases read
      · next body held =>
        split at read
        · next label path left right =>
          cases read
          obtain ⟨inner, rest, rfl⟩ := body?_eq_some_iff.1 held
          refine ⟨body, rest, by simp [wrap], inner, ?_, ?_, String.toList_ofList⟩
          · rw [left, String.toList_ofList]
          · rw [right, String.toList_ofList]
        · cases read
    · cases read
  · rintro ⟨body, rest, rfl, holds⟩
    have held : body? (body ++ '\x7d' :: rest) = some body :=
      body?_eq_some_iff.2 ⟨holds.inner, rest, rfl⟩
    have whole : wrap body ++ rest = '$' :: '\x7b' :: (body ++ '\x7d' :: rest) := by simp [wrap]
    have raw : '$' :: '\x7b' :: (body ++ ['\x7d']) = ref.raw.toList := holds.raw.symm
    simp only [whole, front?, held, holds.label, holds.path, String.ofList_toList,
      List.cons_append, raw]

namespace HasBody

variable {ref ref' : Reference} {body body' : List Char}

/-- Braces hold one thing only, and it makes the reference. -/
theorem unique (holds : ref.HasBody body) (holds' : ref'.HasBody body')
    (same : ref.raw = ref'.raw) : ref = ref' := by
  have bodies : body = body' := by
    have texts := congrArg String.toList same
    rw [holds.raw, holds'.raw, wrap, wrap] at texts
    simpa using texts
  subst bodies
  have labels := Option.some.inj (holds.label.symm.trans holds'.label)
  have paths := Option.some.inj (holds.path.symm.trans holds'.path)
  obtain ⟨label, path, raw⟩ := ref
  obtain ⟨label', path', raw'⟩ := ref'
  rw [String.toList_inj] at labels paths
  rw [Reference.mk.injEq]
  exact ⟨labels, paths, same⟩

/-- Something stands on the right side of the dot. -/
theorem behind (holds : ref.HasBody body) : (sides body).2 ≠ [] := by
  intro none
  have path := holds.path
  rw [(part?_eq_none_iff _).2 none] at path
  cases path

/-- What is read of the braces is not longer than what stands there. -/
theorem length_le (holds : ref.HasBody body) :
    ref.label.toList.length + 1 + ref.path.toList.length ≤ body.length := by
  have left := (part?_sublist holds.label).length_le
  have right := (part?_sublist holds.path).length_le
  have whole := length_sides holds.behind
  omega

end HasBody

/-! ### Scanning -/

/-- A reference that scanning finds stands at the front of some rest of the text. -/
theorem exists_front?_of_mem_scanFrom {ref : Reference} {cs : List Char} {skip : Nat}
    (found : ref ∈ scanFrom skip cs) :
    ∃ before rest, cs = before ++ rest ∧ front? rest = some ref := by
  induction skip, cs using scanFrom.induct with
  | case1 skip =>
    rw [scanFrom] at found
    cases found
  | case2 skip c cs ih =>
    rw [scanFrom] at found
    obtain ⟨before, rest, rfl, front⟩ := ih found
    exact ⟨c :: before, rest, rfl, front⟩
  | case3 c cs none ih =>
    rw [scanFrom, none] at found
    obtain ⟨before, rest, rfl, front⟩ := ih found
    exact ⟨c :: before, rest, rfl, front⟩
  | case4 c cs first here ih =>
    rw [scanFrom, here] at found
    rcases List.mem_cons.1 found with rfl | later
    · exact ⟨[], c :: cs, rfl, here⟩
    · obtain ⟨before, rest, rfl, front⟩ := ih later
      exact ⟨c :: before, rest, rfl, front⟩

/-- A reference that scanning finds has a body, which stands in the text between its braces. -/
theorem exists_hasBody_of_mem_scan {ref : Reference} {text : String} (found : ref ∈ scan text) :
    ∃ before body rest, text.toList = before ++ wrap body ++ rest ∧ ref.HasBody body := by
  obtain ⟨before, rest, whole, front⟩ := exists_front?_of_mem_scanFrom found
  obtain ⟨body, rest, rfl, holds⟩ := front?_eq_some_iff.1 front
  exact ⟨before, body, rest, by rw [whole, List.append_assoc], holds⟩

/-- **References that look alike are alike**, whatever the texts in which they stand. -/
theorem eq_of_raw_eq {ref ref' : Reference} {text text' : String} (found : ref ∈ scan text)
    (found' : ref' ∈ scan text') (same : ref.raw = ref'.raw) : ref = ref' := by
  obtain ⟨_, _, _, -, holds⟩ := exists_hasBody_of_mem_scan found
  obtain ⟨_, _, _, -, holds'⟩ := exists_hasBody_of_mem_scan found'
  exact holds.unique holds' same

/-- A text that is one reference has that one and no other. -/
theorem HasBody.scan_raw {ref : Reference} {body : List Char} (holds : ref.HasBody body) :
    scan ref.raw = [ref] := by
  have front : front? (wrap body) = some ref :=
    front?_eq_some_iff.2 ⟨body, [], by rw [List.append_nil], holds⟩
  have length : ref.raw.length - 1 = ('\x7b' :: (body ++ ['\x7d'])).length := by
    rw [← String.length_toList, holds.raw]
    rfl
  rw [scan, holds.raw]
  rw [wrap] at front ⊢
  rw [scanFrom, front]
  change ref :: scanFrom (ref.raw.length - 1) _ = [ref]
  rw [scanFrom_skip, length, List.drop_length, scanFrom]

/-! ### Writing -/

/-- A label and a path that are read as they were written. -/
structure Writable (label path : String) : Prop where
  /-- No brace and no dot ends the label early. -/
  label_inner : ∀ c ∈ label.toList, IsInner c ∧ c ≠ '.'
  /-- No brace ends the path early; dots may stand in it. -/
  path_inner : ∀ c ∈ path.toList, IsInner c
  /-- Nothing is taken away from the label. -/
  label_isPart : IsPart label.toList
  /-- Nothing is taken away from the path. -/
  path_isPart : IsPart path.toList

/-- What is written stands between braces. -/
theorem toList_render (label path : String) :
    (render label path).toList = wrap (label.toList ++ '.' :: path.toList) := by
  simp [render, wrap]

/-- A writable pair is what the braces around it say. -/
theorem Writable.hasBody {label path : String} (writable : Writable label path) :
    HasBody ⟨label, path, render label path⟩ (label.toList ++ '.' :: path.toList) := by
  have noDot : '.' ∉ label.toList := fun dot => (writable.label_inner '.' dot).2 rfl
  refine ⟨?_, ?_, ?_, toList_render label path⟩
  · intro c mem
    rcases List.mem_append.1 mem with left | right
    · exact (writable.label_inner c left).1
    · rcases List.mem_cons.1 right with rfl | right
      · exact ⟨by decide, by decide⟩
      · exact writable.path_inner c right
  · rw [sides_of_not_mem noDot]
    exact (part?_eq_self_iff _).2 writable.label_isPart
  · rw [sides_of_not_mem noDot]
    exact (part?_eq_self_iff _).2 writable.path_isPart

/-- **A writable pair is read as it was written**, and nothing else with it. -/
theorem scan_render {label path : String} (writable : Writable label path) :
    scan (render label path) = [⟨label, path, render label path⟩] :=
  writable.hasBody.scan_raw

/-- A label that is read whole has no dot in it: reading would have stopped there. -/
theorem HasBody.dot_not_mem {ref : Reference} {right : List Char}
    (holds : ref.HasBody (ref.label.toList ++ '.' :: right)) : '.' ∉ ref.label.toList := by
  intro dot
  obtain ⟨first, later, split, noDot⟩ := List.eq_append_cons_of_mem dot
  have read := holds.label
  rw [split, List.append_assoc, List.cons_append, sides_of_not_mem noDot] at read
  have shorter : (first ++ '.' :: later).length ≤ first.length := (part?_sublist read).length_le
  rw [List.length_append, List.length_cons] at shorter
  omega

/-- What stands between braces is writable if it is read as it stands there. -/
theorem HasBody.writable {ref : Reference} {path : String}
    (holds : ref.HasBody (ref.label.toList ++ '.' :: path.toList))
    (begins : path.toList <+: ref.path.toList) : Writable ref.label path := by
  have noDot := holds.dot_not_mem
  have left := holds.label
  have right := holds.path
  rw [sides_of_not_mem noDot] at left right
  have same : path.toList = ref.path.toList :=
    begins.eq_of_length_le (part?_sublist right).length_le
  rw [← same] at right
  refine ⟨fun c mem => ⟨?_, fun dot => noDot (dot ▸ mem)⟩, fun c mem => ?_, ?_, ?_⟩
  · exact holds.inner c (List.mem_append_left _ mem)
  · exact holds.inner c (List.mem_append_right _ (List.mem_cons_of_mem _ mem))
  · exact (part?_eq_self_iff _).1 left
  · exact (part?_eq_self_iff _).1 right

/-- **Only a writable pair is read as it was written**, even if the path may go on. Since reading
takes characters away and adds none, there is no room left for anything around it. -/
theorem writable_of_mem_scan_render {label path : String} {ref : Reference}
    (found : ref ∈ scan (render label path)) (sameLabel : ref.label = label)
    (begins : path.toList <+: ref.path.toList) : Writable label path := by
  obtain ⟨before, body, rest, whole, holds⟩ := exists_hasBody_of_mem_scan found
  subst sameLabel
  rw [toList_render] at whole
  have read := holds.length_le
  have longer := begins.length_le
  have room := congrArg List.length whole
  simp only [wrap, List.length_append, List.length_cons, List.length_nil] at room
  obtain rfl : before = [] := List.length_eq_zero_iff.1 (by omega)
  obtain rfl : rest = [] := List.length_eq_zero_iff.1 (by omega)
  obtain rfl : ref.label.toList ++ '.' :: path.toList = body := by
    rw [List.nil_append, List.append_nil, wrap, wrap] at whole
    simpa only [List.cons.injEq, true_and, List.append_cancel_right_eq] using whole
  exact holds.writable begins

end Reference

end Workflow
