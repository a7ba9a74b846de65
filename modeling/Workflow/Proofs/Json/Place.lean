import Mathlib.Data.List.Basic
import Workflow.Reference

/-!
# The places of texts in a value

A place in a value is told by the way to it: the first number says which of the items or entries is
entered, the next one which of those inside it, and so on. The texts of a value are listed as they
are come across on the way from the left to the right, that is in the lexicographic order of their
places.

## Main results

* `map_snd_placedTexts`: the texts of a value, once their places are forgotten.
* `mem_placedTexts_iff`: **the texts of a value are those at its places.**
* `placedTexts_pairwise`: texts are listed in the order of their places.
-/

namespace Workflow

/-! ### Numbered lists -/

/-- What is numbered is numbered in order. -/
theorem pairwise_zipIdx {α : Type} (xs : List α) : xs.zipIdx.Pairwise fun a b => a.2 < b.2 := by
  rw [← List.pairwise_map (f := Prod.snd), List.zipIdx_map_snd]
  exact List.pairwise_lt_range'

/-- Numbers that are not looked at do not matter. -/
theorem flatMap_zipIdx {α β : Type} (xs : List α) (f : α → List β) :
    (xs.zipIdx.flatMap fun x => f x.1) = xs.flatMap f := by
  conv_rhs => rw [← List.zipIdx_map_fst 0 xs, List.flatMap_map]

namespace Json.Value

/-! ### Values inside a value -/

/-- The values that stand directly in a value, in order. -/
def children : Value → List Value
  | .arr items => items
  | .obj fields => fields.map (·.2)
  | _ => []

/-- The value at a place. -/
def at? (v : Value) : List Nat → Option Value
  | [] => some v
  | i :: place => v.children[i]?.bind fun child => child.at? place

/-- What stands directly in a value is smaller than it. -/
theorem sizeOf_lt_of_mem_children {v child : Value} (listed : child ∈ v.children) :
    sizeOf child < sizeOf v := by
  cases v with
  | null | bool _ | num _ | str _ => cases listed
  | arr items =>
    have smaller : sizeOf child < sizeOf items := List.sizeOf_lt_of_mem listed
    simp only [arr.sizeOf_spec]
    omega
  | obj fields =>
    obtain ⟨⟨key, child⟩, hf, rfl⟩ := List.mem_map.1 listed
    have smaller := List.sizeOf_lt_of_mem hf
    simp only [obj.sizeOf_spec, Prod.mk.sizeOf_spec] at smaller ⊢
    omega

/-- What a value has as soon as all those directly in it have it, every value has. -/
theorem childInduction {P : Value → Prop} (step : ∀ v, (∀ child ∈ v.children, P child) → P v)
    (v : Value) : P v :=
  step v fun child _ => childInduction step child
termination_by v
decreasing_by exact sizeOf_lt_of_mem_children ‹_›

/-! ### Texts with their places -/

/-- A text of the value at a position stands that much further inside. -/
def inside (i : Nat) (placed : List Nat × String) : List Nat × String :=
  (i :: placed.1, placed.2)

mutual

/-- The texts inside a value, each with its place. -/
def placedTexts : Value → List (List Nat × String)
  | .str s => [([], s)]
  | .arr items => placedTextsOfItems 0 items
  | .obj fields => placedTextsOfEntries 0 fields
  | _ => []

/-- The texts inside items, the first of which has a position. -/
def placedTextsOfItems : Nat → List Value → List (List Nat × String)
  | _, [] => []
  | i, v :: rest => (placedTexts v).map (inside i) ++ placedTextsOfItems (i + 1) rest

/-- The texts inside the values of entries, the first of which has a position. -/
def placedTextsOfEntries : Nat → List (String × Value) → List (List Nat × String)
  | _, [] => []
  | i, (_, v) :: rest => (placedTexts v).map (inside i) ++ placedTextsOfEntries (i + 1) rest

end

/-- Items are gone through one after the other. -/
theorem placedTextsOfItems_eq (i : Nat) (items : List Value) :
    placedTextsOfItems i items
      = (items.zipIdx i).flatMap fun child => child.1.placedTexts.map (inside child.2) := by
  induction items generalizing i with
  | nil => rfl
  | cons v rest ih => rw [placedTextsOfItems, ih, List.zipIdx_cons, List.flatMap_cons]

/-- Entries are gone through as their values are. -/
theorem placedTextsOfEntries_eq (i : Nat) (fields : List (String × Value)) :
    placedTextsOfEntries i fields = placedTextsOfItems i (fields.map (·.2)) := by
  induction fields generalizing i with
  | nil => rfl
  | cons entry rest ih =>
    rw [placedTextsOfEntries, ih, List.map_cons, placedTextsOfItems]

/-- Items are gone through one after the other, too, when places do not matter. -/
theorem textsOfItems_eq (items : List Value) : textsOfItems items = items.flatMap texts := by
  induction items with
  | nil => rfl
  | cons v rest ih => rw [textsOfItems, ih, List.flatMap_cons]

/-- So are the values of entries. -/
theorem textsOfEntries_eq (fields : List (String × Value)) :
    textsOfEntries fields = textsOfItems (fields.map (·.2)) := by
  induction fields with
  | nil => rfl
  | cons entry rest ih => rw [textsOfEntries, ih, List.map_cons, textsOfItems]

/-- A value is a text, or its texts are those of the values directly in it. -/
theorem text_or_children (v : Value) :
    (∃ s, v = .str s)
      ∨ (∀ s, v ≠ .str s) ∧ v.texts = v.children.flatMap texts
        ∧ v.placedTexts
          = v.children.zipIdx.flatMap fun child => child.1.placedTexts.map (inside child.2) := by
  cases v with
  | str s => exact .inl ⟨s, rfl⟩
  | null | bool _ | num _ => exact .inr ⟨nofun, rfl, rfl⟩
  | arr items => exact .inr ⟨nofun, textsOfItems_eq items, placedTextsOfItems_eq 0 items⟩
  | obj fields =>
    refine .inr ⟨nofun, (textsOfEntries_eq fields).trans (textsOfItems_eq _), ?_⟩
    exact (placedTextsOfEntries_eq 0 fields).trans (placedTextsOfItems_eq 0 _)

/-- The texts of a value, once their places are forgotten. -/
theorem map_snd_placedTexts (v : Value) : v.placedTexts.map (·.2) = v.texts := by
  induction v using childInduction with
  | step v ih =>
    obtain ⟨s, rfl⟩ | ⟨-, texts, placed⟩ := v.text_or_children
    · rfl
    · rw [texts, placed, List.map_flatMap, ← flatMap_zipIdx _ Value.texts]
      refine List.flatMap_congr fun child listed => ?_
      rw [List.map_map, ← ih child.1 (List.fst_mem_of_mem_zipIdx listed)]
      rfl

/-- **The texts of a value are those at its places.** -/
theorem mem_placedTexts_iff {v : Value} {place : List Nat} {text : String} :
    (place, text) ∈ v.placedTexts ↔ v.at? place = some (.str text) := by
  induction v using childInduction generalizing place with
  | step v ih =>
    obtain ⟨s, rfl⟩ | ⟨noText, -, placed⟩ := v.text_or_children
    · cases place with
      | nil => simp [placedTexts, at?, eq_comm]
      | cons i place => simp [placedTexts, at?, children]
    · simp only [placed, List.mem_flatMap, List.mem_map, inside]
      constructor
      · rintro ⟨⟨child, i⟩, listed, ⟨further, text⟩, found, same⟩
        cases same
        have entered := List.mem_zipIdx_iff_getElem?.1 listed
        rw [at?, entered, Option.bind_some]
        exact (ih child (List.mem_of_getElem? entered)).1 found
      · intro found
        cases place with
        | nil => exact absurd (Option.some.inj found) (noText text)
        | cons i place =>
          obtain ⟨child, entered, found⟩ := Option.bind_eq_some_iff.1 found
          refine ⟨(child, i), List.mem_zipIdx_iff_getElem?.2 entered, (place, text), ?_, rfl⟩
          exact (ih child (List.mem_of_getElem? entered)).2 found

/-- Texts are listed in the order of their places. -/
theorem placedTexts_pairwise (v : Value) : v.placedTexts.Pairwise fun a b => a.1 < b.1 := by
  induction v using childInduction with
  | step v ih =>
    obtain ⟨s, rfl⟩ | ⟨-, -, placed⟩ := v.text_or_children
    · exact List.pairwise_singleton _ _
    · rw [placed, List.pairwise_flatMap]
      refine ⟨fun child listed => ?_, ?_⟩
      · rw [List.pairwise_map]
        exact (ih child.1 (List.fst_mem_of_mem_zipIdx listed)).imp fun before =>
          List.cons_lt_cons_iff.2 (.inr ⟨rfl, before⟩)
      · refine (pairwise_zipIdx v.children).imp fun {a b} before x hx y hy => ?_
        obtain ⟨x, -, rfl⟩ := List.mem_map.1 hx
        obtain ⟨y, -, rfl⟩ := List.mem_map.1 hy
        exact List.cons_lt_cons_iff.2 (.inl before)

end Json.Value

end Workflow
