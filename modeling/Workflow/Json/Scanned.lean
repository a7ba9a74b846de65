import Workflow.Json.Fault

/-!
# Scanned texts

A text is scanned before it is known which of its values are wanted. Scanning gives a tree
in which every fault stays where it was met, so that a reader who walks the tree in the order
of the text meets the same first problem as one who reads the text directly. A value that
nobody asks for is more easily content than one that is read: it may nest without limit, hold
half a surrogate pair, or a number out of range.

## Main results

* `Scanned.value_ofValue`: a value that is well keyed is read back from its own tree.
* `Scanned.skipFault_ofValue`: a value's own tree holds no fault.
-/

namespace Workflow.Json

/-- The two kinds of container. -/
inductive Bracket where
  | square
  | curly
  deriving DecidableEq

/-- A key of an object: the text or the fault a reader finds, and the fault, if any, that
stops even the one who skips the entry. -/
structure Key where
  /-- What a reader finds. -/
  read : Except Fault String
  /-- What stops the one who skips. -/
  skip : Option Fault

/-- What a value that cannot be read starts like. -/
inductive Fragment where
  /-- Like `null`. -/
  | null
  /-- Like a string. -/
  | text
  /-- Like a truth value or a number. -/
  | scalar
  /-- Like no value. -/
  | nothing
  deriving DecidableEq

/-- A scanned value. A container that the text does not close keeps the fault met in place of
its end. -/
inductive Scanned where
  | null
  | bool (b : Bool)
  | num (n : Number)
  | str (s : String)
  | arr (items : List Scanned) (unclosed : Option Fault)
  | obj (fields : List (Key × Scanned)) (unclosed : Option Fault)
  /-- A container below the nesting limit, with the fault that skipping it meets. -/
  | deep (bracket : Bracket) (onSkip : Option Fault)
  /-- No value: what stands there instead, the fault that a reader meets, and the one that
  skipping meets. -/
  | broken (start : Fragment) (onRead : Fault) (onSkip : Option Fault)

namespace Scanned

mutual

/-- The first fault that skipping this value meets. -/
def skipFault : Scanned → Option Fault
  | .arr items unclosed => (skipFaultItems items).or unclosed
  | .obj fields unclosed => (skipFaultFields fields).or unclosed
  | .deep _ onSkip => onSkip
  | .broken _ _ onSkip => onSkip
  | _ => none

/-- The first fault that skipping these items meets. -/
def skipFaultItems : List Scanned → Option Fault
  | [] => none
  | s :: rest => (skipFault s).or (skipFaultItems rest)

/-- The first fault that skipping these entries meets. -/
def skipFaultFields : List (Key × Scanned) → Option Fault
  | [] => none
  | (k, s) :: rest => (k.skip.or (skipFault s)).or (skipFaultFields rest)

end

/-- The end of a container, once its contents have been read. -/
def close (unclosed : Option Fault) (contents : α) : Except Fault α :=
  match unclosed with
  | none => .ok contents
  | some fault => .error fault

mutual

/-- The value itself. Of a repeated key the last value counts, at the place of the first. -/
def value : Scanned → Except Fault Value
  | .null => .ok .null
  | .bool b => .ok (.bool b)
  | .num n => .ok (.num n)
  | .str s => .ok (.str s)
  | .arr items unclosed => do
    let items ← values items
    close unclosed (.arr items)
  | .obj fields unclosed => do
    let entries ← entries fields
    close unclosed (.obj (Fields.ofEntries entries))
  | .deep _ _ => .error .malformed
  | .broken _ onRead _ => .error onRead

/-- The items of an array. -/
def values : List Scanned → Except Fault (List Value)
  | [] => .ok []
  | s :: rest => do
    let v ← value s
    let vs ← values rest
    return v :: vs

/-- The entries of an object as they stand in the text. -/
def entries : List (Key × Scanned) → Except Fault (List (String × Value))
  | [] => .ok []
  | (k, s) :: rest => do
    let name ← k.read
    let v ← value s
    let more ← entries rest
    return (name, v) :: more

end

mutual

/-- How deep arrays and objects nest in this value. -/
def height : Scanned → Nat
  | .arr items _ => heightItems items + 1
  | .obj fields _ => heightFields fields + 1
  | _ => 0

/-- The height of the highest item. -/
def heightItems : List Scanned → Nat
  | [] => 0
  | s :: rest => max (height s) (heightItems rest)

/-- The height of the highest value of an entry. -/
def heightFields : List (Key × Scanned) → Nat
  | [] => 0
  | (_, s) :: rest => max (height s) (heightFields rest)

end

/-- What a message calls this value; nothing for a value that cannot be read at all. -/
def found? : Scanned → Except Fault Found
  | .null => .ok .null
  | .bool b => .ok (.bool b)
  | .num n => .ok (.num n)
  | .str s => .ok (.text s)
  | .arr _ _ => .ok .sequence
  | .obj _ _ => .ok .map
  | .deep .square _ => .ok .sequence
  | .deep .curly _ => .ok .map
  | .broken _ onRead _ => .error onRead

/-! ### The tree of a value -/

/-- A key without fault. -/
def key (name : String) : Key :=
  ⟨.ok name, none⟩

mutual

/-- The tree that a value in memory is read from. -/
def ofValue : Value → Scanned
  | .null => .null
  | .bool b => .bool b
  | .num n => .num n
  | .str s => .str s
  | .arr items => .arr (ofItems items) none
  | .obj fields => .obj (ofFields fields) none

/-- The trees of the items. -/
def ofItems : List Value → List Scanned
  | [] => []
  | v :: rest => ofValue v :: ofItems rest

/-- The trees of the entries. -/
def ofFields : List (String × Value) → List (Key × Scanned)
  | [] => []
  | (k, v) :: rest => (key k, ofValue v) :: ofFields rest

end

mutual

/-- A value's own tree holds no fault. -/
theorem skipFault_ofValue : ∀ v : Value, (ofValue v).skipFault = none
  | .null => rfl
  | .bool _ => rfl
  | .num _ => rfl
  | .str _ => rfl
  | .arr items => by simp [ofValue, skipFault, skipFault_ofItems items]
  | .obj fields => by simp [ofValue, skipFault, skipFault_ofFields fields]

/-- Nor do the trees of items. -/
theorem skipFault_ofItems : ∀ vs : List Value, skipFaultItems (ofItems vs) = none
  | [] => rfl
  | v :: rest => by
    simp [ofItems, skipFaultItems, skipFault_ofValue v, skipFault_ofItems rest]

/-- Nor do the trees of entries. -/
theorem skipFault_ofFields :
    ∀ fs : List (String × Value), skipFaultFields (ofFields fs) = none
  | [] => rfl
  | (k, v) :: rest => by
    simp [ofFields, skipFaultFields, key, skipFault_ofValue v, skipFault_ofFields rest]

end

end Scanned

/-- Inserting new keys one after the other appends their entries. -/
theorem Fields.foldl_insert_append (done entries : List (String × Value))
    (fresh : ((done ++ entries).map (·.1)).Nodup) :
    entries.foldl (fun fields entry => Fields.insert entry.1 entry.2 fields) done =
      done ++ entries := by
  induction entries generalizing done with
  | nil => simp
  | cons entry rest ih =>
    obtain ⟨k, v⟩ := entry
    have absent : ∀ fs : Fields, k ∉ fs.map (·.1) → Fields.insert k v fs = fs ++ [(k, v)] := by
      intro fs
      induction fs with
      | nil => intro _; rfl
      | cons e es ihe =>
        intro h
        simp only [List.map_cons, List.mem_cons, not_or] at h
        simp [Fields.insert, Ne.symm h.1, ihe h.2]
    have unused : k ∉ done.map (·.1) := by
      simp only [List.map_append, List.map_cons, List.nodup_append] at fresh
      intro h
      exact fresh.2.2 k h k (by simp) rfl
    rw [List.foldl_cons, absent done unused, ih (done ++ [(k, v)]) (by simpa using fresh)]
    simp

/-- Entries without a repeated key are the map they build. -/
theorem Fields.ofEntries_eq_self (entries : List (String × Value))
    (distinct : (entries.map (·.1)).Nodup) : Fields.ofEntries entries = entries := by
  simpa [Fields.ofEntries] using Fields.foldl_insert_append [] entries (by simpa using distinct)

namespace Scanned

mutual

/-- A well-keyed value is read back from its own tree. -/
theorem value_ofValue : ∀ v : Value, v.WellKeyed → (ofValue v).value = .ok v
  | .null, _ => rfl
  | .bool _, _ => rfl
  | .num _, _ => rfl
  | .str _, _ => rfl
  | .arr items, h => by
    simp only [Value.WellKeyed] at h
    simp [ofValue, value, values_ofItems items h, close, bind, Except.bind]
  | .obj fields, h => by
    simp only [Value.WellKeyed] at h
    simp [ofValue, value, entries_ofFields fields h.2, close, bind, Except.bind,
      Fields.ofEntries_eq_self fields h.1]

/-- Well-keyed items are read back from their trees. -/
theorem values_ofItems :
    ∀ vs : List Value, Value.WellKeyedItems vs → values (ofItems vs) = .ok vs
  | [], _ => rfl
  | v :: rest, h => by
    simp only [Value.WellKeyedItems] at h
    simp [ofItems, values, value_ofValue v h.1, values_ofItems rest h.2, bind, Except.bind,
      pure, Except.pure]

/-- Entries with well-keyed values are read back from their trees. -/
theorem entries_ofFields :
    ∀ fs : List (String × Value), Value.WellKeyedEntries fs → entries (ofFields fs) = .ok fs
  | [], _ => rfl
  | (k, v) :: rest, h => by
    simp only [Value.WellKeyedEntries] at h
    simp [ofFields, entries, key, value_ofValue v h.1, entries_ofFields rest h.2, bind,
      Except.bind, pure, Except.pure]

end

end Scanned

end Workflow.Json
