import Mathlib.Data.List.Forall2
import Workflow.Proofs.Reference.Pattern

/-!
# The grammar of references

What a reference is, told without a reader: a dollar sign, and between braces a body with no brace
in it and with something on both sides of its first dot. Such places cannot overlap, since the
opening of a second one would be a brace in the body of the first. So the references of a text are
all its substrings of this form, and scanning, which goes on behind a reference that it has found,
misses none.

## Main results

* `hasBody_iff`: what is read of a reference is what its body tells.
* `length_wrap_le_of_standsAt`: **references do not overlap.**
* `exists_isSpots`: scanning from some place on finds what stands there.
* `scan_decided`: **scanning recognises exactly the grammar**, as the pattern of references does,
  and reads back exactly the writable pairs.
-/

namespace Workflow.Reference

open Text (isBlankChar IsTight)

/-! ### The grammar -/

/-- What stands between the braces of a reference: no brace, and something on both sides of the
first dot. -/
def IsBody (body : List Char) : Prop :=
  (∀ c ∈ body, IsInner c)
    ∧ ∃ left right, body = left ++ '.' :: right ∧ '.' ∉ left ∧ left ≠ [] ∧ right ≠ []

/-- One side of the dot is read as this: without the white space around it, or as the last character
if it is nothing but white space. -/
def ReadsAs (side part : List Char) : Prop :=
  ((∃ c ∈ side, isBlankChar c = false) ∧ part = Text.trimChars side)
    ∨ ((∀ c ∈ side, isBlankChar c = true) ∧ ∃ c, side.getLast? = some c ∧ part = [c])

/-- A reference says what its body does. -/
structure Tells (ref : Reference) (body : List Char) : Prop where
  /-- The sides of the first dot are read as the label and the path. -/
  sides : ∃ left right, body = left ++ '.' :: right ∧ '.' ∉ left
    ∧ ReadsAs left ref.label.toList ∧ ReadsAs right ref.path.toList
  /-- The reference stands in the text with its braces. -/
  raw : ref.raw.toList = wrap body

/-- The braces around a body stand in a text, behind so many characters. -/
def StandsAt (text : List Char) (place : Nat) (body : List Char) : Prop :=
  ∃ before rest, text = before ++ (wrap body ++ rest) ∧ before.length = place

/-- A part is read as the grammar says. -/
theorem part?_eq_some_iff {side part : List Char} :
    part? side = some part ↔ ReadsAs side part := by
  rw [part?, ReadsAs]
  split
  · next blank =>
    have all := (Text.trimChars_eq_nil_iff side).1 blank
    have none_visible : ¬ ∃ c ∈ side, isBlankChar c = false := by
      rintro ⟨c, hc, visible⟩
      rw [all c hc] at visible
      cases visible
    rw [Option.map_eq_some_iff]
    simp only [none_visible, false_and, false_or, and_iff_right all, eq_comm (a := part)]
  · next trimmed ink =>
    have visible : ¬ ∀ c ∈ side, isBlankChar c = true := fun all =>
      ink ((Text.trimChars_eq_nil_iff side).2 all)
    simp only [visible, false_and, or_false, Option.some.injEq, eq_comm (a := part)]
    refine (and_iff_right ?_).symm
    simpa only [not_forall, Bool.not_eq_true, exists_prop] using visible

/-- What a reference says of its body is what is read of it. -/
theorem hasBody_iff {ref : Reference} {body : List Char} :
    ref.HasBody body ↔ IsBody body ∧ ref.Tells body := by
  constructor
  · intro holds
    obtain ⟨left, right, rfl, noDot, split⟩ := exists_sides holds.behind
    have label := holds.label
    have path := holds.path
    rw [split] at label path
    refine ⟨⟨holds.inner, left, right, rfl, noDot, ?_, ?_⟩,
      ⟨left, right, rfl, noDot, part?_eq_some_iff.1 label, part?_eq_some_iff.1 path⟩, holds.raw⟩
    · rintro rfl
      cases label
    · rintro rfl
      cases path
  · rintro ⟨⟨inner, -⟩, ⟨left, right, rfl, noDot, label, path⟩, raw⟩
    refine ⟨inner, ?_, ?_, raw⟩
    · rw [sides_of_not_mem noDot]
      exact part?_eq_some_iff.2 label
    · rw [sides_of_not_mem noDot]
      exact part?_eq_some_iff.2 path

/-- A reference is read of every body. -/
theorem IsBody.exists_hasBody {body : List Char} (isBody : IsBody body) :
    ∃ ref : Reference, ref.HasBody body := by
  obtain ⟨inner, left, right, rfl, noDot, some_left, some_right⟩ := isBody
  exact Reference.exists_hasBody inner noDot some_left some_right

/-! ### Places -/

section Places

variable {text rest body body' : List Char} {place : Nat}

/-- What stands at the front of a text. -/
theorem standsAt_zero_iff : StandsAt text 0 body ↔ ∃ rest, text = wrap body ++ rest := by
  simp [StandsAt]

/-- What stands further behind stands behind the first character. -/
theorem standsAt_succ_iff {c : Char} :
    StandsAt (c :: text) (place + 1) body ↔ StandsAt text place body := by
  constructor
  · rintro ⟨before, rest, split, length⟩
    obtain ⟨d, before, rfl⟩ := List.exists_cons_of_length_eq_add_one length
    rw [List.cons_append, List.cons.injEq] at split
    exact ⟨before, rest, split.2, Nat.succ.inj length⟩
  · rintro ⟨before, rest, rfl, length⟩
    exact ⟨c :: before, rest, rfl, congrArg Nat.succ length⟩

/-- At one place stands one body. -/
theorem eq_of_wrap_append_eq {rest' : List Char} (inner : ∀ c ∈ body, IsInner c)
    (inner' : ∀ c ∈ body', IsInner c) (same : wrap body ++ rest = wrap body' ++ rest') :
    body = body' := by
  have behind : body ++ '\x7d' :: rest = body' ++ '\x7d' :: rest' := by simpa [wrap] using same
  have read : body? (body ++ '\x7d' :: rest) = some body := body?_eq_some_iff.2 ⟨inner, _, rfl⟩
  have read' : body? (body' ++ '\x7d' :: rest') = some body' :=
    body?_eq_some_iff.2 ⟨inner', _, rfl⟩
  rw [behind, read'] at read
  exact (Option.some.inj read).symm

/-- No braces open inside a body, nor where it ends. -/
theorem length_lt_of_standsAt (inner : ∀ c ∈ body, IsInner c)
    (stands : StandsAt (body ++ '\x7d' :: rest) place body') : body.length < place := by
  induction body generalizing place with
  | nil =>
    cases place with
    | zero =>
      obtain ⟨_, opens⟩ := standsAt_zero_iff.1 stands
      cases opens
    | succ place => exact Nat.zero_lt_succ place
  | cons b body ih =>
    obtain ⟨-, inner⟩ := List.forall_mem_cons.1 inner
    cases place with
    | zero =>
      obtain ⟨_, opens⟩ := standsAt_zero_iff.1 stands
      rw [wrap, List.cons_append, List.cons_append, List.cons.injEq] at opens
      cases body with
      | nil => cases opens.2
      | cons c body =>
        obtain ⟨same, -⟩ := List.cons.inj opens.2
        exact absurd same (inner c List.mem_cons_self).1
    | succ place => exact Nat.succ_lt_succ (ih inner (standsAt_succ_iff.1 stands))

/-- **References do not overlap**: behind the front of one, no other begins before it ends. -/
theorem length_wrap_le_of_standsAt (inner : ∀ c ∈ body, IsInner c)
    (stands : StandsAt (wrap body ++ rest) (place + 1) body') :
    (wrap body).length ≤ place + 1 := by
  have text : wrap body ++ rest = '$' :: '\x7b' :: (body ++ '\x7d' :: rest) := by simp [wrap]
  rw [text, standsAt_succ_iff] at stands
  cases place with
  | zero =>
    obtain ⟨_, opens⟩ := standsAt_zero_iff.1 stands
    cases opens
  | succ place =>
    have behind := length_lt_of_standsAt inner (standsAt_succ_iff.1 stands)
    simp only [wrap, List.length_cons, List.length_append, List.length_nil]
    omega

end Places

/-! ### Scanning -/

/-- The places of references in a text, from some place on and each with the body that stands
there. -/
structure IsSpots (start : Nat) (text : List Char) (refs : List Reference)
    (spots : List (Nat × List Char)) : Prop where
  /-- Each reference tells what stands at its place. -/
  told : List.Forall₂ (fun spot ref => ref.Tells spot.2) spots refs
  /-- Each reference begins behind the one before. -/
  apart : spots.Pairwise fun a b => a.1 + (wrap a.2).length ≤ b.1
  /-- No place is missed. -/
  mem_iff : ∀ place body, (place, body) ∈ spots ↔
    start ≤ place ∧ StandsAt text place body ∧ IsBody body

namespace IsSpots

variable {start : Nat} {text : List Char} {refs : List Reference}
  {spots : List (Nat × List Char)}

/-- Places in a text are further behind with a character in front of it. -/
theorem shift (isSpots : IsSpots start text refs spots) (c : Char) :
    IsSpots (start + 1) (c :: text) refs (spots.map fun spot => (spot.1 + 1, spot.2)) where
  told := List.forall₂_map_left_iff.2 isSpots.told
  apart := by
    rw [List.pairwise_map]
    refine isSpots.apart.imp fun {a b} later => ?_
    rw [Nat.add_right_comm]
    exact Nat.succ_le_succ later
  mem_iff place body := by
    cases place with
    | zero => simp
    | succ place =>
      rw [Nat.succ_le_succ_iff, standsAt_succ_iff, ← isSpots.mem_iff]
      simp

/-- Places may be looked for from further in front, if nothing stands there. -/
theorem of_none {first : Nat} (isSpots : IsSpots start text refs spots)
    (le : first ≤ start)
    (none : ∀ place body, first ≤ place → StandsAt text place body → IsBody body →
      start ≤ place) : IsSpots first text refs spots where
  told := isSpots.told
  apart := isSpots.apart
  mem_iff place body := by
    rw [isSpots.mem_iff]
    constructor
    · rintro ⟨later, stands⟩
      exact ⟨le.trans later, stands⟩
    · rintro ⟨later, stands, isBody⟩
      exact ⟨none place body later stands isBody, stands, isBody⟩

/-- A reference at the front comes before what stands behind it. -/
theorem cons {ref : Reference} {body rest : List Char} (holds : ref.HasBody body)
    (isSpots : IsSpots (wrap body).length (wrap body ++ rest) refs spots) :
    IsSpots 0 (wrap body ++ rest) (ref :: refs) ((0, body) :: spots) where
  told := .cons (hasBody_iff.1 holds).2 isSpots.told
  apart := by
    refine List.pairwise_cons.2 ⟨fun spot hs => ?_, isSpots.apart⟩
    rw [Nat.zero_add]
    exact ((isSpots.mem_iff spot.1 spot.2).1 hs).1
  mem_iff place body' := by
    rw [List.mem_cons, isSpots.mem_iff, Prod.mk.injEq]
    constructor
    · rintro (⟨rfl, rfl⟩ | ⟨-, stands⟩)
      · exact ⟨Nat.le_refl 0, standsAt_zero_iff.2 ⟨rest, rfl⟩, (hasBody_iff.1 holds).1⟩
      · exact ⟨Nat.zero_le place, stands⟩
    · rintro ⟨-, stands, isBody⟩
      cases place with
      | zero =>
        obtain ⟨rest', same⟩ := standsAt_zero_iff.1 stands
        exact .inl ⟨rfl, (eq_of_wrap_append_eq holds.inner isBody.1 same).symm⟩
      | succ place =>
        exact .inr ⟨length_wrap_le_of_standsAt holds.inner stands, stands, isBody⟩

end IsSpots

/-- **Scanning from some place on** finds what stands there. The induction is on the scan. -/
theorem exists_isSpots (skip : Nat) (cs : List Char) :
    ∃ spots, IsSpots skip cs (scanFrom skip cs) spots := by
  induction skip, cs using scanFrom.induct with
  | case1 skip =>
    refine ⟨[], by rw [scanFrom]; exact .nil, .nil, fun place body => ?_⟩
    simp [StandsAt, wrap]
  | case2 skip c cs ih =>
    obtain ⟨spots, isSpots⟩ := ih
    exact ⟨_, isSpots.shift c⟩
  | case3 c cs none ih =>
    obtain ⟨spots, isSpots⟩ := ih
    rw [scanFrom, none]
    refine ⟨_, (isSpots.shift c).of_none (Nat.zero_le 1) fun place body _ stands isBody => ?_⟩
    rw [Nat.one_le_iff_ne_zero]
    rintro rfl
    obtain ⟨rest, whole⟩ := standsAt_zero_iff.1 stands
    obtain ⟨ref, holds⟩ := isBody.exists_hasBody
    rw [front?_eq_some_iff.2 ⟨body, rest, whole, holds⟩] at none
    cases none
  | case4 c cs ref here ih =>
    obtain ⟨spots, isSpots⟩ := ih
    rw [scanFrom, here]
    obtain ⟨body, rest, whole, holds⟩ := front?_eq_some_iff.1 here
    have length : ref.raw.length - 1 + 1 = (wrap body).length := by
      rw [← String.length_toList, holds.raw]
      rfl
    have later := isSpots.shift c
    rw [whole, length] at later
    rw [whole]
    exact ⟨_, later.cons holds⟩

/-! ### Writing and reading -/

/-- A side is read as it stands exactly if there is something, without white space at either end or
of one character. -/
theorem isPart_toList_iff (side : String) :
    IsPart side.toList ↔ side ≠ "" ∧ (side.length = 1 ∨ IsTight side.toList) := by
  rw [IsPart, Text.trimChars_eq_self_iff, or_comm, String.length_toList, ne_eq, ne_eq,
    String.toList_eq_nil_iff]

/-- Which pairs are writable, character by character. -/
theorem writable_iff (label path : String) :
    Writable label path ↔
      (label ≠ "" ∧ '.' ∉ label.toList ∧ '\x7b' ∉ label.toList ∧ '\x7d' ∉ label.toList)
        ∧ (path ≠ "" ∧ '\x7b' ∉ path.toList ∧ '\x7d' ∉ path.toList)
        ∧ (label.length = 1 ∨ IsTight label.toList) ∧ (path.length = 1 ∨ IsTight path.toList) := by
  constructor
  · intro writable
    obtain ⟨some_label, label_shape⟩ := (isPart_toList_iff label).1 writable.label_isPart
    obtain ⟨some_path, path_shape⟩ := (isPart_toList_iff path).1 writable.path_isPart
    refine ⟨⟨some_label, fun hc => (writable.label_inner _ hc).2 rfl,
      fun hc => (writable.label_inner _ hc).1.1 rfl, fun hc => (writable.label_inner _ hc).1.2 rfl⟩,
      ⟨some_path, fun hc => (writable.path_inner _ hc).1 rfl,
        fun hc => (writable.path_inner _ hc).2 rfl⟩, label_shape, path_shape⟩
  · rintro ⟨⟨some_label, dot, opening, closing⟩, ⟨some_path, opening', closing'⟩, label_shape,
      path_shape⟩
    have avoids : ∀ {d : Char} {cs : List Char}, d ∉ cs → ∀ c ∈ cs, c ≠ d :=
      fun absent c hc same => absent (same ▸ hc)
    exact
      { label_inner := fun c hc =>
          ⟨⟨avoids opening c hc, avoids closing c hc⟩, avoids dot c hc⟩
        path_inner := fun c hc => ⟨avoids opening' c hc, avoids closing' c hc⟩
        label_isPart := (isPart_toList_iff label).2 ⟨some_label, label_shape⟩
        path_isPart := (isPart_toList_iff path).2 ⟨some_path, path_shape⟩ }

/-- **Scanning recognises exactly the grammar.** On every text it finds what the pattern of
references finds. Told without either: there is one reference for each place where braces hold a
body, from left to right and without overlap, and it tells what stands there. So a label and a path
are read back from the reference that is written for them, and nothing else with them, exactly if
neither is empty, no brace is in them and no dot in the label, and each is of one character or has
no white space at either end. -/
theorem scan_decided :
    (∀ text, scan text = (Pattern.find pattern text.toList).map ofParts
        ∧ ∃ spots : List (Nat × List Char),
          List.Forall₂ (fun spot ref => Tells ref spot.2) spots (scan text)
          ∧ spots.Pairwise (fun a b => a.1 + (wrap a.2).length ≤ b.1)
          ∧ ∀ place body, (place, body) ∈ spots ↔
            StandsAt text.toList place body ∧ IsBody body)
      ∧ ∀ label path, (∃ raw, scan (render label path) = [⟨label, path, raw⟩]) ↔
        (label ≠ "" ∧ '.' ∉ label.toList ∧ '\x7b' ∉ label.toList ∧ '\x7d' ∉ label.toList)
          ∧ (path ≠ "" ∧ '\x7b' ∉ path.toList ∧ '\x7d' ∉ path.toList)
          ∧ (label.length = 1 ∨ IsTight label.toList)
          ∧ (path.length = 1 ∨ IsTight path.toList) := by
  constructor
  · intro text
    obtain ⟨spots, isSpots⟩ := exists_isSpots 0 text.toList
    refine ⟨scan_eq_find text, spots, isSpots.told, isSpots.apart, fun place body => ?_⟩
    rw [isSpots.mem_iff, and_iff_right (Nat.zero_le place)]
  · intro label path
    rw [← writable_iff]
    constructor
    · rintro ⟨raw, alone⟩
      have found : ⟨label, path, raw⟩ ∈ scan (render label path) := by
        rw [alone]
        exact List.mem_singleton_self _
      exact writable_of_mem_scan_render found rfl (List.prefix_refl _)
    · exact fun writable => ⟨_, scan_render writable⟩

-- a reference in the body of another is found, a side of white space is its last character
example : (scan "$\x7ba$\x7bb.c\x7d $\x7b . \x7d").map (fun ref => (ref.label, ref.path))
    = [("b", "c"), (" ", " ")] := by
  decide +kernel

end Workflow.Reference
