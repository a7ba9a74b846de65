/-!
# JSON values

The values that configurations hold and that every document is written as. An object keeps
its entries in the order of insertion. Whole numbers and doubles are told apart: `1` and
`1.0` are different values.

## Main results

* `Fields.get?_insert`: a read after a write.
* `Fields.keys_insert`: a written key keeps its place, a new one goes to the end.
-/

namespace Workflow.Json

/-- A number keeps the kind it was written in. -/
inductive Number where
  /-- A literal without fraction and exponent. -/
  | int (value : Int)
  /-- Any other literal, and the whole numbers that no machine word holds. -/
  | float (value : Float)

/-- A JSON value. -/
inductive Value where
  | null
  | bool (b : Bool)
  | num (n : Number)
  | str (s : String)
  | arr (items : List Value)
  | obj (fields : List (String × Value))
  deriving Inhabited

/-- A map from keys to values in the order of insertion: the entries of an object. -/
abbrev Fields := List (String × Value)

namespace Fields

/-- The value under `key`; of a repeated key the first. -/
def get? (key : String) : Fields → Option Value
  | [] => none
  | (k, v) :: rest => if k = key then some v else get? key rest

/-- Writes `value` under `key`: in place if the key is there, else at the end. -/
def insert (key : String) (value : Value) : Fields → Fields
  | [] => [(key, value)]
  | (k, v) :: rest => if k = key then (k, value) :: rest else (k, v) :: insert key value rest

/-- The keys in order. -/
def keys (fields : Fields) : List String :=
  fields.map (·.1)

/-- The position of `key`. -/
def position? (key : String) (fields : Fields) : Option Nat :=
  fields.findIdx? (·.1 == key)

/-- Takes the entry at `i` out by moving the last entry into its place. -/
def swapErase (fields : Fields) (i : Nat) : Fields :=
  match fields.getLast? with
  | none => []
  | some last => if i + 1 = fields.length then fields.dropLast else fields.dropLast.set i last

/-- Takes `key` out; the last entry moves into its place. -/
def erase (key : String) (fields : Fields) : Fields :=
  match fields.position? key with
  | none => fields
  | some i => fields.swapErase i

/-- The map that repeated insertion of the entries gives: of a repeated key the last value
counts, at the place of the first. -/
def ofEntries (entries : List (String × Value)) : Fields :=
  entries.foldl (fun fields entry => insert entry.1 entry.2 fields) []

/-! ### Reads after writes -/

/-- A read of the written key gives the written value, any other read is as before. -/
theorem get?_insert (fields : Fields) (key other : String) (value : Value) :
    get? other (insert key value fields) =
      if key = other then some value else get? other fields := by
  induction fields with
  | nil => simp [insert, get?]
  | cons entry rest ih =>
    obtain ⟨k, v⟩ := entry
    by_cases hk : k = key
    · subst hk
      by_cases ho : k = other <;> simp [insert, get?, ho]
    · by_cases ho : k = other
      · subst ho
        simp [insert, get?, hk, Ne.symm hk]
      · simp [insert, get?, hk, ho, ih]

/-- A written key keeps its place; a new key goes to the end. -/
theorem keys_insert (fields : Fields) (key : String) (value : Value) :
    keys (insert key value fields) =
      if key ∈ keys fields then keys fields else keys fields ++ [key] := by
  induction fields with
  | nil => simp [insert, keys]
  | cons entry rest ih =>
    obtain ⟨k, v⟩ := entry
    by_cases hk : k = key
    · subst hk
      simp [insert, keys]
    · simp only [keys] at ih
      by_cases hm : key ∈ rest.map (·.1)
      · simp [insert, keys, hk, Ne.symm hk, ih, hm]
      · simp [insert, keys, hk, Ne.symm hk, ih, hm]

/-- A key is found exactly if it is one of the keys. -/
theorem get?_isSome_iff (fields : Fields) (key : String) :
    (get? key fields).isSome = true ↔ key ∈ keys fields := by
  induction fields with
  | nil => simp [get?, keys]
  | cons entry rest ih =>
    obtain ⟨k, v⟩ := entry
    by_cases hk : k = key
    · simp [get?, keys, hk]
    · simp only [keys] at ih
      simp [get?, keys, hk, Ne.symm hk, ih]

end Fields

/-! ### Equality -/

/-- Whole numbers are equal as integers, doubles as doubles; the kinds never meet. -/
def Number.same : Number → Number → Bool
  | .int a, .int b => a == b
  | .float a, .float b => a == b
  | _, _ => false

/-- The double nearest to a number. -/
def Number.toFloat : Number → Float
  | .int n => Float.ofInt n
  | .float x => x

mutual

/-- Equality of values. The order of an object's entries does not matter. -/
def Value.same : Value → Value → Bool
  | .null, .null => true
  | .bool a, .bool b => a == b
  | .num a, .num b => a.same b
  | .str a, .str b => a == b
  | .arr xs, .arr ys => Value.sameItems xs ys
  | .obj xs, .obj ys => xs.length == ys.length && Value.sameEntries xs ys
  | _, _ => false

/-- Equality item by item. -/
def Value.sameItems : List Value → List Value → Bool
  | [], [] => true
  | x :: xs, y :: ys => Value.same x y && Value.sameItems xs ys
  | _, _ => false

/-- Whether the second map holds every entry of the first. -/
def Value.sameEntries : List (String × Value) → Fields → Bool
  | [], _ => true
  | (k, v) :: rest, ys =>
    (match Fields.get? k ys with
      | some w => Value.same v w
      | none => false) && Value.sameEntries rest ys

end

/-- Equality of maps. -/
def Fields.same (xs ys : Fields) : Bool :=
  Value.same (.obj xs) (.obj ys)

/-! ### Views -/

/-- The text of a string. -/
def Value.text? : Value → Option String
  | .str s => some s
  | _ => none

/-- The items of an array. -/
def Value.items? : Value → Option (List Value)
  | .arr items => some items
  | _ => none

/-- The value under `key` if this is an object that has it. -/
def Value.get? (key : String) : Value → Option Value
  | .obj fields => Fields.get? key fields
  | _ => none

/-- Whether this is an object. -/
def Value.isObject : Value → Bool
  | .obj _ => true
  | _ => false

/-- A whole number. -/
def Value.ofInt (n : Int) : Value :=
  .num (.int n)

/-- A double. What is not finite has no literal, and `null` stands for it. -/
def Value.ofFloat (x : Float) : Value :=
  if x.isFinite then .num (.float x) else .null

/-- A list of texts. -/
def Value.ofTexts (texts : List String) : Value :=
  .arr (texts.map .str)

/-- One entry, or none if there is nothing to write. -/
def entryIf (key : String) : Option Value → List (String × Value)
  | some v => [(key, v)]
  | none => []

mutual

/-- A value is **well keyed** when no object in it, at any depth, repeats a key. Every value
that was read is. -/
def Value.WellKeyed : Value → Prop
  | .arr items => Value.WellKeyedItems items
  | .obj fields => (fields.map (·.1)).Nodup ∧ Value.WellKeyedEntries fields
  | _ => True

/-- Every item is well keyed. -/
def Value.WellKeyedItems : List Value → Prop
  | [] => True
  | v :: rest => Value.WellKeyed v ∧ Value.WellKeyedItems rest

/-- The value of every entry is well keyed. -/
def Value.WellKeyedEntries : List (String × Value) → Prop
  | [] => True
  | (_, v) :: rest => Value.WellKeyed v ∧ Value.WellKeyedEntries rest

end

end Workflow.Json
