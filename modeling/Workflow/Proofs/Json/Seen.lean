import Workflow.Json.Scanned
import Workflow.Proofs.Attempt

/-!
# Values as a reader sees them

A written value is seen as a tree again, but not always as its own: a reader goes into a limited
number of containers, so that what stands deeper is only seen to be a container, and it takes some
numbers for others and refuses some. What a reader makes of a number is a parameter here; a
reader of values in memory leaves them as they are.

## Main results

* `Value.seen`: what is seen of a value.
* `Value.Fits`: a value fits if it is seen completely, that is, if it is no higher than there is
  room and no number in it is refused.
* `Scanned.value_seen`: a value that fits is read, and any other is not.
-/

namespace Workflow.Json

/-- What a reader makes of a number: another number, or nothing if it refuses it. -/
abbrev NumberReading := Number → Option Number

namespace Value

variable (read? : NumberReading)

/-- What is seen of a number. One that is refused is only passed over without harm. -/
def seenNumber : Option Number → Scanned
  | some n => .num n
  | none => .broken .scalar .malformed none

mutual

/-- What is seen of a value by a reader that goes into `room` containers. -/
def seen (room : Nat) : Value → Scanned
  | .null => .null
  | .bool b => .bool b
  | .num n => seenNumber (read? n)
  | .str s => .str s
  | .arr items =>
    match room with
    | 0 => .deep .square none
    | room + 1 => .arr (seenItems room items) none
  | .obj fields =>
    match room with
    | 0 => .deep .curly none
    | room + 1 => .obj (seenFields room fields) none

/-- What is seen of the items of an array. -/
def seenItems (room : Nat) : List Value → List Scanned
  | [] => []
  | v :: rest => seen room v :: seenItems room rest

/-- What is seen of the entries of an object. -/
def seenFields (room : Nat) : List (String × Value) → List (Key × Scanned)
  | [] => []
  | (k, v) :: rest => (Scanned.key k, seen room v) :: seenFields room rest

end

/-- Each item is seen alone. -/
theorem seenItems_eq_map (room : Nat) (items : List Value) :
    seenItems read? room items = items.map (seen read? room) := by
  induction items with
  | nil => rfl
  | cons v rest ih => rw [seenItems, ih, List.map_cons]

/-! ### What is not seen completely -/

mutual

/-- How deep arrays and objects nest in a value. -/
def height : Value → Nat
  | .arr items => heightItems items + 1
  | .obj fields => heightFields fields + 1
  | _ => 0

/-- The height of the highest item. -/
def heightItems : List Value → Nat
  | [] => 0
  | v :: rest => max (height v) (heightItems rest)

/-- The height of the highest value of an entry. -/
def heightFields : List (String × Value) → Nat
  | [] => 0
  | (_, v) :: rest => max (height v) (heightFields rest)

end

mutual

/-- No number of a value is refused. -/
def Legible : Value → Prop
  | .num n => (read? n).isSome = true
  | .arr items => LegibleItems items
  | .obj fields => LegibleFields fields
  | _ => True

/-- No number of any item is refused. -/
def LegibleItems : List Value → Prop
  | [] => True
  | v :: rest => Legible v ∧ LegibleItems rest

/-- No number of the value of any entry is refused. -/
def LegibleFields : List (String × Value) → Prop
  | [] => True
  | (_, v) :: rest => Legible v ∧ LegibleFields rest

end

mutual

/-- What a value is read as: its numbers are what the reader makes of them. -/
def reread : Value → Value
  | .num n => .num ((read? n).getD n)
  | .arr items => .arr (rereadItems items)
  | .obj fields => .obj (rereadFields fields)
  | v => v

/-- What items are read as. -/
def rereadItems : List Value → List Value
  | [] => []
  | v :: rest => reread v :: rereadItems rest

/-- What entries are read as. -/
def rereadFields : List (String × Value) → List (String × Value)
  | [] => []
  | (k, v) :: rest => (k, reread v) :: rereadFields rest

end

/-- A value is seen completely: it is no higher than there is room, and no number is refused. -/
def Fits (room : Nat) (v : Value) : Prop :=
  v.height ≤ room ∧ v.Legible read?

variable {read?} {room : Nat}

/-- Items are as high as the highest one. -/
theorem heightItems_le_iff {items : List Value} :
    heightItems items ≤ room ↔ ∀ v ∈ items, v.height ≤ room := by
  induction items with
  | nil => simp [heightItems]
  | cons v rest ih => rw [heightItems, Nat.max_le, ih, List.forall_mem_cons]

/-- Entries are as high as the highest value. -/
theorem heightFields_le_iff {fields : List (String × Value)} :
    heightFields fields ≤ room ↔ ∀ e ∈ fields, e.2.height ≤ room := by
  induction fields with
  | nil => simp [heightFields]
  | cons e rest ih => rw [heightFields, Nat.max_le, ih, List.forall_mem_cons]

/-- Items are legible if each one is. -/
theorem legibleItems_iff {items : List Value} :
    LegibleItems read? items ↔ ∀ v ∈ items, v.Legible read? := by
  induction items with
  | nil => simp [LegibleItems]
  | cons v rest ih => simp [LegibleItems, ih]

/-- Entries are legible if each value is. -/
theorem legibleFields_iff {fields : List (String × Value)} :
    LegibleFields read? fields ↔ ∀ e ∈ fields, e.2.Legible read? := by
  induction fields with
  | nil => simp [LegibleFields]
  | cons e rest ih => simp [LegibleFields, ih]

/-- A text always fits. -/
@[simp] theorem fits_str (s : String) : (Value.str s).Fits read? room :=
  ⟨Nat.zero_le _, trivial⟩

/-- So does what stands for nothing. -/
@[simp] theorem fits_null : Value.null.Fits read? room :=
  ⟨Nat.zero_le _, trivial⟩

/-- A number fits if it is not refused. -/
@[simp] theorem fits_num {n : Number} : (Value.num n).Fits read? room ↔ (read? n).isSome = true :=
  and_iff_right (Nat.zero_le _)

/-- No array fits if there is no room. -/
@[simp] theorem not_fits_arr_zero {items : List Value} : ¬ (Value.arr items).Fits read? 0 :=
  fun fits => Nat.not_succ_le_zero _ fits.1

/-- No object fits if there is no room. -/
@[simp] theorem not_fits_obj_zero {fields : List (String × Value)} :
    ¬ (Value.obj fields).Fits read? 0 :=
  fun fits => Nat.not_succ_le_zero _ fits.1

/-- **An array fits** if every item fits in what room it leaves. -/
@[simp] theorem fits_arr_succ {items : List Value} :
    (Value.arr items).Fits read? (room + 1) ↔ ∀ v ∈ items, v.Fits read? room := by
  rw [Fits, height, Nat.succ_le_succ_iff, heightItems_le_iff, Legible, legibleItems_iff]
  exact forall₂_and.symm

/-- **An object fits** if the value of every entry fits in what room it leaves. -/
@[simp] theorem fits_obj_succ {fields : List (String × Value)} :
    (Value.obj fields).Fits read? (room + 1) ↔ ∀ e ∈ fields, e.2.Fits read? room := by
  rw [Fits, height, Nat.succ_le_succ_iff, heightFields_le_iff, Legible, legibleFields_iff]
  exact forall₂_and.symm

/-- Entries are read one by one. -/
theorem rereadFields_eq_map (fields : List (String × Value)) :
    rereadFields read? fields = fields.map fun e => (e.1, reread read? e.2) := by
  induction fields with
  | nil => rfl
  | cons e rest ih => rw [rereadFields, ih, List.map_cons]

/-- Items are well keyed if each one is. -/
theorem wellKeyedItems_iff {items : List Value} :
    WellKeyedItems items ↔ ∀ v ∈ items, v.WellKeyed := by
  induction items with
  | nil => simp [WellKeyedItems]
  | cons v rest ih => simp [WellKeyedItems, ih]

/-- Entries are well keyed if each value is. -/
theorem wellKeyedEntries_iff {fields : List (String × Value)} :
    WellKeyedEntries fields ↔ ∀ e ∈ fields, e.2.WellKeyed := by
  induction fields with
  | nil => simp [WellKeyedEntries]
  | cons e rest ih => simp [WellKeyedEntries, ih]

/-- An entry is lower than its object. -/
theorem height_lt_of_mem {fields : List (String × Value)} {e : String × Value} (he : e ∈ fields) :
    e.2.height < (Value.obj fields).height :=
  Nat.lt_succ_of_le (heightFields_le_iff.1 (Nat.le_refl _) e he)

/-- An item is lower than its array. -/
theorem height_lt_of_mem_items {items : List Value} {v : Value} (hv : v ∈ items) :
    v.height < (Value.arr items).height :=
  Nat.lt_succ_of_le (heightItems_le_iff.1 (Nat.le_refl _) v hv)

/-- Whatever is seen of a number may be passed over. -/
theorem skipFault_seenNumber (n? : Option Number) : (seenNumber n?).skipFault = none := by
  cases n? <;> rfl

end Value

namespace Scanned

open Value

variable {read? : NumberReading} {room : Nat}

mutual

/-- What is seen of a value may be passed over. -/
theorem skipFault_seen (room : Nat) : ∀ v : Value, (v.seen read? room).skipFault = none
  | .null => rfl
  | .bool _ => rfl
  | .num _ => skipFault_seenNumber _
  | .str _ => rfl
  | .arr items => by
    cases room with
    | zero => rfl
    | succ room => simp [seen, skipFault, skipFault_seenItems room items]
  | .obj fields => by
    cases room with
    | zero => rfl
    | succ room => simp [seen, skipFault, skipFault_seenFields room fields]

/-- So may what is seen of items. -/
theorem skipFault_seenItems (room : Nat) :
    ∀ vs : List Value, skipFaultItems (seenItems read? room vs) = none
  | [] => rfl
  | v :: rest => by
    simp [seenItems, skipFaultItems, skipFault_seen room v, skipFault_seenItems room rest]

/-- So may what is seen of entries. -/
theorem skipFault_seenFields (room : Nat) :
    ∀ fs : List (String × Value), skipFaultFields (seenFields read? room fs) = none
  | [] => rfl
  | (_, v) :: rest => by
    simp [seenFields, skipFaultFields, key, skipFault_seen room v, skipFault_seenFields room rest]

end

mutual

/-- Of a value as much is seen as it is high, or as there is room. -/
theorem height_seen (room : Nat) : ∀ v : Value, (v.seen read? room).height = min v.height room
  | .null => (Nat.zero_min room).symm
  | .bool _ => (Nat.zero_min room).symm
  | .num n => by
    rw [seen]
    cases read? n <;> exact (Nat.zero_min room).symm
  | .str _ => (Nat.zero_min room).symm
  | .arr items => by
    cases room with
    | zero => rfl
    | succ room =>
      rw [seen, height, heightItems_seenItems room items, Value.height, Nat.succ_min_succ]
  | .obj fields => by
    cases room with
    | zero => rfl
    | succ room =>
      rw [seen, height, heightFields_seenFields room fields, Value.height, Nat.succ_min_succ]

/-- The same for items. -/
theorem heightItems_seenItems (room : Nat) : ∀ vs : List Value,
    heightItems (seenItems read? room vs) = min (Value.heightItems vs) room
  | [] => (Nat.zero_min room).symm
  | v :: rest => by
    rw [seenItems, heightItems, height_seen room v, heightItems_seenItems room rest,
      Value.heightItems]
    omega

/-- The same for entries. -/
theorem heightFields_seenFields (room : Nat) : ∀ fs : List (String × Value),
    heightFields (seenFields read? room fs) = min (Value.heightFields fs) room
  | [] => (Nat.zero_min room).symm
  | (_, v) :: rest => by
    rw [seenFields, heightFields, height_seen room v, heightFields_seenFields room rest,
      Value.heightFields]
    omega

end

/-- The keys of what entries are read as are theirs. -/
theorem keys_rereadFields (fields : List (String × Value)) :
    (rereadFields read? fields).map (·.1) = fields.map (·.1) := by
  rw [rereadFields_eq_map, List.map_map]
  rfl

mutual

/-- **A well-keyed value is read** if it fits, and not otherwise. -/
theorem value_seen (room : Nat) : ∀ v : Value, v.WellKeyed →
    Settles (value (v.seen read? room)) (v.Fits read? room) (v.reread read?)
  | .null, _ => (Settles.ok _).congr (by simp)
  | .bool b, _ => (Settles.ok _).congr (iff_of_true trivial ⟨Nat.zero_le _, trivial⟩)
  | .num n, _ => by
    rw [seen, reread]
    cases read : read? n with
    | none => exact (Settles.error _ _).congr (by simp [read])
    | some m => exact (Settles.ok _).congr (by simp [read])
  | .str s, _ => (Settles.ok _).congr (by simp)
  | .arr items, keyed => by
    rw [Value.WellKeyed] at keyed
    cases room with
    | zero => exact (Settles.error _ _).congr (by simp)
    | succ room =>
      rw [seen, value, reread]
      refine Settles.congr (Settles.bind (values_seenItems room items keyed) (Settles.ok _)) ?_
      simp
  | .obj fields, keyed => by
    rw [Value.WellKeyed] at keyed
    cases room with
    | zero => exact (Settles.error _ _).congr (by simp)
    | succ room =>
      have distinct : ((rereadFields read? fields).map (·.1)).Nodup := by
        rw [keys_rereadFields]
        exact keyed.1
      have whole : Settles
          (close none (Value.obj (Fields.ofEntries (rereadFields read? fields)))) True
          (Value.obj (rereadFields read? fields)) := by
        rw [Fields.ofEntries_eq_self _ distinct]
        exact Settles.ok _
      rw [seen, value, reread]
      refine Settles.congr (Settles.bind (entries_seenFields room fields keyed.2) whole) ?_
      simp

/-- Well-keyed items are read if every one fits. -/
theorem values_seenItems (room : Nat) : ∀ vs : List Value, Value.WellKeyedItems vs →
    Settles (values (seenItems read? room vs)) (∀ v ∈ vs, v.Fits read? room)
      (rereadItems read? vs)
  | [], _ => (Settles.ok _).congr (by simp)
  | v :: rest, keyed => by
    rw [Value.WellKeyedItems] at keyed
    rw [seenItems, values, rereadItems]
    refine Settles.congr (Settles.bind (value_seen room v keyed.1)
      (Settles.bind (values_seenItems room rest keyed.2) (Settles.ok _))) ?_
    simp

/-- Entries with well-keyed values are read if every value fits. -/
theorem entries_seenFields (room : Nat) : ∀ fs : List (String × Value),
    Value.WellKeyedEntries fs →
      Settles (entries (seenFields read? room fs)) (∀ e ∈ fs, e.2.Fits read? room)
        (rereadFields read? fs)
  | [], _ => (Settles.ok _).congr (by simp)
  | (k, v) :: rest, keyed => by
    rw [Value.WellKeyedEntries] at keyed
    rw [seenFields, entries, rereadFields]
    refine Settles.congr (Settles.bind (Settles.ok k) (Settles.bind (value_seen room v keyed.1)
      (Settles.bind (entries_seenFields room rest keyed.2) (Settles.ok _)))) ?_
    simp

end

end Scanned

end Workflow.Json
