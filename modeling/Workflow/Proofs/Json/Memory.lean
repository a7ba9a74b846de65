import Workflow.Proofs.Json.Reading

/-!
# Values in memory

A value that is read where it is, without ever being a text, is seen completely: every number is
taken for itself, and there is room for as many containers as stand in it. So what a reader makes
of written values, whatever it makes of numbers and however little room it has, is what it makes
of values in memory too, and these are read as themselves.

## Main results

* `Scanned.seen_some`: with room enough, what is seen of a value is its own tree.
* `Value.reread_some`, `Value.fits_some`: a value in memory is read as itself, and fits.
* `settles_ofValue`: **what is read of a value in memory.**
-/

namespace Workflow.Json

variable {α : Type} {room : Nat}

/-! ### Numbers are taken for themselves -/

namespace Value

mutual

/-- No number is refused. -/
theorem legible_some : ∀ v : Value, v.Legible some
  | .null => trivial
  | .bool _ => trivial
  | .num _ => rfl
  | .str _ => trivial
  | .arr items => by
    rw [Legible]
    exact legibleItems_some items
  | .obj fields => by
    rw [Legible]
    exact legibleFields_some fields

/-- No number of any item is refused. -/
theorem legibleItems_some : ∀ vs : List Value, LegibleItems some vs
  | [] => trivial
  | v :: rest => ⟨legible_some v, legibleItems_some rest⟩

/-- No number of the value of any entry is refused. -/
theorem legibleFields_some : ∀ fs : List (String × Value), LegibleFields some fs
  | [] => trivial
  | (_, v) :: rest => ⟨legible_some v, legibleFields_some rest⟩

end

mutual

/-- A value in memory is read as itself. -/
theorem reread_some : ∀ v : Value, v.reread some = v
  | .null => rfl
  | .bool _ => rfl
  | .num _ => rfl
  | .str _ => rfl
  | .arr items => by rw [reread, rereadItems_some items]
  | .obj fields => by rw [reread, rereadFields_some fields]

/-- So are items. -/
theorem rereadItems_some : ∀ vs : List Value, rereadItems some vs = vs
  | [] => rfl
  | v :: rest => by rw [rereadItems, reread_some v, rereadItems_some rest]

/-- So are entries. -/
theorem rereadFields_some : ∀ fs : List (String × Value), rereadFields some fs = fs
  | [] => rfl
  | (_, v) :: rest => by rw [rereadFields, reread_some v, rereadFields_some rest]

end

/-- A value in memory fits in the room it takes. -/
theorem fits_some (v : Value) : v.Fits some v.height :=
  ⟨Nat.le_refl _, legible_some v⟩

end Value

/-! ### Everything is seen -/

namespace Scanned

open Value

mutual

/-- **With room enough**, what is seen of a value is its own tree. -/
theorem seen_some (room : Nat) : ∀ v : Value, v.height ≤ room → v.seen some room = ofValue v
  | .null, _ => rfl
  | .bool _, _ => rfl
  | .num _, _ => rfl
  | .str _, _ => rfl
  | .arr items, enough => by
    cases room with
    | zero => exact absurd enough (Nat.not_succ_le_zero _)
    | succ room => rw [seen, seenItems_some room items (Nat.le_of_succ_le_succ enough), ofValue]
  | .obj fields, enough => by
    cases room with
    | zero => exact absurd enough (Nat.not_succ_le_zero _)
    | succ room => rw [seen, seenFields_some room fields (Nat.le_of_succ_le_succ enough), ofValue]

/-- The same for items. -/
theorem seenItems_some (room : Nat) :
    ∀ vs : List Value, Value.heightItems vs ≤ room → seenItems some room vs = ofItems vs
  | [], _ => rfl
  | v :: rest, enough => by
    obtain ⟨first, others⟩ := Nat.max_le.1 enough
    rw [seenItems, seen_some room v first, seenItems_some room rest others, ofItems]

/-- The same for entries. -/
theorem seenFields_some (room : Nat) :
    ∀ fs : List (String × Value), Value.heightFields fs ≤ room →
      seenFields some room fs = ofFields fs
  | [], _ => rfl
  | (k, v) :: rest, enough => by
    obtain ⟨first, others⟩ := Nat.max_le.1 enough
    rw [seenFields, seen_some room v first, seenFields_some room rest others, ofFields]

end

end Scanned

/-- A well-keyed object in memory is read as itself. -/
theorem ReadsFrom.fields_some {config : Fields} (keyed : (Value.obj config).WellKeyed) :
    ReadsFrom some Decoder.fields (.obj config) True config := by
  have reads : ReadsFrom some Decoder.fields (.obj config) True
      (Value.rereadFields some config) := .fields keyed
  rwa [Value.rereadFields_some] at reads

/-- A list in memory is read as itself if every item is. -/
theorem ReadsFrom.list_some {item : Decoder α} {write : α → Value} {q : α → Prop} (as : List α)
    (reads : ∀ a ∈ as, ReadsFrom some item (write a) (q a) a) :
    ReadsFrom some (Decoder.list item) (.arr (as.map write)) (∀ a ∈ as, q a) as := by
  simpa using ReadsFrom.list (f := id) as reads

/-- **What is read of a value in memory**: what a reader makes of it if only its own condition
holds, since the value fits anyway. -/
theorem settles_ofValue {item : Decoder α} {v : Value} {q : Prop} {a : α}
    (settles : Settles (item (v.seen some v.height)) (v.Fits some v.height ∧ q) a) :
    Settles (ofValue item v) q a := by
  rw [Scanned.seen_some v.height v (Nat.le_refl _)] at settles
  exact settles.congr (and_iff_right v.fits_some)

end Workflow.Json
