import Workflow.Json.Scanner

/-!
# Decoders

Readers of one kind of value from a scanned tree. A record is read from an object, or from
an array of its fields in order; a reader of records is put together from readers of fields,
and what the whole reports is the first problem in the order of the text:

* a field that stands twice is found at its second key, before the value of that key;
* a field that is missing is found at the end of the object, and of several the first one in
  the order of declaration is named;
* fields that the record does not know are skipped.

## Main results

* `Record.read_ofFields`: on an object without faults, duplicates and unknown fields, a record
  reads what its fields give.
* `Decoder.list_ofItems`: a list is read back from an array if every element is.
-/

namespace Workflow.Json

/-- A reader of one kind of value. -/
abbrev Decoder (α : Type) := Scanned → Except Fault α

namespace Decoder

/-- The refusal of a value of another kind. -/
def refuse (wanted : String) (s : Scanned) : Except Fault α :=
  match s.found? with
  | .ok found => .error (.mismatch (.wrongType found wanted))
  | .error fault => .error fault

/-- A string. -/
def text : Decoder String
  | .str s => .ok s
  | s => refuse "a string" s

/-- A truth value. -/
def bool : Decoder Bool
  | .bool b => .ok b
  | s => refuse "a boolean" s

/-- A double; whole numbers are taken to the nearest one. -/
def float : Decoder Float
  | .num n => .ok n.toFloat
  | s => refuse "f64" s

/-- Any value. -/
def value : Decoder Value :=
  Scanned.value

/-- Reads every item with `item`. -/
def each (item : Decoder α) : List Scanned → Except Fault (List α)
  | [] => .ok []
  | s :: rest => do
    let a ← item s
    let as ← each item rest
    return a :: as

/-- An array whose items are all read by `item`. -/
def list (item : Decoder α) : Decoder (List α)
  | .arr items unclosed => do
    let as ← each item items
    Scanned.close unclosed as
  | .deep .square _ => .error .malformed
  | s => refuse "a sequence" s

/-- Reads the value of every entry with `item`. -/
def eachEntry (item : Decoder α) : List (Key × Scanned) → Except Fault (List (String × α))
  | [] => .ok []
  | (k, s) :: rest => do
    let name ← k.read
    let a ← item s
    let as ← eachEntry item rest
    return (name, a) :: as

/-- The entries of an object, all read by `item`, as they stand in the text. -/
def entries (item : Decoder α) : Decoder (List (String × α))
  | .obj fields unclosed => do
    let as ← eachEntry item fields
    Scanned.close unclosed as
  | .deep .curly _ => .error .malformed
  | s => refuse "a map" s

/-- An object as a map: of a repeated key the last value counts, at the place of the first. -/
def fields : Decoder Fields :=
  fun s => (entries value s).map Fields.ofEntries

/-- `null` is read as nothing, everything else by `item`. What starts like `null` is never
shown to `item`. -/
def nullable (item : Decoder α) : Decoder (Option α)
  | .null => .ok none
  | .broken .null onRead _ => .error onRead
  | s => (item s).map some

/-- One of several named alternatives, by its name. -/
def nameOf (alternatives : List (String × α)) (name : String) : Except Fault α :=
  match alternatives.find? (·.1 == name) with
  | some (_, a) => .ok a
  | none => .error (.mismatch (.unknownVariant name (alternatives.map (·.1))))

/-- What stands for an alternative in an object: `null`. -/
def unit : Decoder Unit
  | .null => .ok ()
  | s => refuse "unit" s

/-- One of several named alternatives: its name, or an object with that name as its only key
and `null` under it. Anything that starts like neither is refused before it is read on, so it
does not matter whether the text breaks off inside it; nor does it after a comma. -/
def oneOf (alternatives : List (String × α)) : Decoder α
  | .str name => nameOf alternatives name
  | .obj ((k, s) :: more) unclosed => do
    let name ← k.read
    let a ← nameOf alternatives name
    unit s
    match more with
    | [] => Scanned.close unclosed a
    | _ => .error .malformed
  | .obj [] (some fault) => .error fault
  | .broken .text onRead _ => .error onRead
  | .broken .nothing onRead _ => .error onRead
  | _ => .error .malformed

end Decoder

/-! ### Records -/

/-- A result, or the place in the text where the first problem stands, and the problem. -/
abbrev Reading (α : Type) := Except (Nat × Fault) α

namespace Reading

/-- Both results, or the problem that stands first; the left one if they stand together. -/
def both : Reading α → Reading β → Reading (α × β)
  | .ok a, .ok b => .ok (a, b)
  | .error e, .ok _ => .error e
  | .ok _, .error e => .error e
  | .error e, .error e' => if e'.1 < e.1 then .error e' else .error e

/-- A result with its place. -/
def located (place : Nat) : Except Fault α → Reading α
  | .ok a => .ok a
  | .error fault => .error (place, fault)

end Reading

/-- The fields of a record as the text gives them. -/
inductive Given where
  /-- An object: keys and values. -/
  | named (fields : List (Key × Scanned)) (unclosed : Option Fault)
  /-- An array: the fields in the order of declaration. -/
  | listed (items : List Scanned) (unclosed : Option Fault)

/-- A reader of records: the names its fields go by, the main name of each first, and what it
makes of the fields that are given. The reader is told what to call a list that is too short,
and the number of its own first field. -/
structure Record (α : Type) where
  /-- The names of each field. -/
  names : List (List String)
  /-- What the fields give. -/
  build : String → Nat → Given → Reading α

namespace Record

/-- A record without fields. -/
def pure (a : α) : Record α :=
  ⟨[], fun _ _ _ => .ok a⟩

/-- Two records one after the other. -/
def both (r : Record α) (s : Record β) : Record (α × β) :=
  ⟨r.names ++ s.names, fun short start given =>
    (r.build short start given).both (s.build short (start + r.names.length) given)⟩

/-- What a record gives, changed by `f`. -/
def map (f : α → β) (r : Record α) : Record β :=
  ⟨r.names, fun short start given => (r.build short start given).map f⟩

instance : Functor Record where
  map := Record.map

instance : Seq Record where
  seq r s := ((r.both (s ())).map fun (f, a) => f a)

instance : Pure Record where
  pure := Record.pure

/-- Whether a key is one of `names`. -/
def Key.isOneOf (names : List String) (k : Key) : Bool :=
  match k.read with
  | .ok name => names.contains name
  | .error _ => false

/-- The places, counted from `i`, and the values of the entries whose keys are among
`names`. -/
def occurrences (names : List String) (i : Nat) : List (Key × Scanned) → List (Nat × Scanned)
  | [] => []
  | (k, s) :: rest =>
    if Key.isOneOf names k then (i, s) :: occurrences names (i + 1) rest
    else occurrences names (i + 1) rest

/-- What a field gives when the text leaves it out: a default, or the problem that it is
missing. -/
def absent (default : Option α) (problem : Mismatch) : Except Fault α :=
  match default with
  | some a => .ok a
  | none => .error (.mismatch problem)

/-- One field among the entries of an object. -/
def fromNamed (name : String) (names : List String) (item : Decoder α) (default : Option α)
    (fields : List (Key × Scanned)) : Reading α :=
  match occurrences names 0 fields with
  | [] => Reading.located (fields.length + 1) (absent default (.missingField name))
  | (i, s) :: more =>
    match item s, more with
    | .error fault, _ => .error (i, fault)
    | .ok a, [] => .ok a
    | .ok _, (j, _) :: _ => .error (j, .mismatch (.duplicateField name))

/-- The field with number `i` of an array. -/
def fromListed (i : Nat) (short : String) (item : Decoder α) (default : Option α)
    (items : List Scanned) (unclosed : Option Fault) : Reading α :=
  match items[i]?, unclosed with
  | some s, _ => Reading.located i (item s)
  | none, some fault => .error (items.length, fault)
  | none, none => Reading.located i (absent default (.wrongLength i short))

/-- One field with a main name, other names it goes by, and a default if it may be left
out. -/
def field (name : String) (others : List String) (item : Decoder α) (default : Option α) :
    Record α :=
  ⟨[name :: others], fun short i given =>
    match given with
    | .named fields _ => fromNamed name (name :: others) item default fields
    | .listed items unclosed => fromListed i short item default items unclosed⟩

/-- A field that must be there. -/
def required (name : String) (item : Decoder α) : Record α :=
  field name [] item none

/-- A field that may be left out. -/
def optional (name : String) (item : Decoder α) (default : α) : Record α :=
  field name [] item (some default)

/-- A field that may be left out or `null`. -/
def nullable (name : String) (item : Decoder α) : Record (Option α) :=
  optional name (Decoder.nullable item) none

/-- The first problem among the entries that are no fields, counted from place `i`, and at
the end of the object. -/
def stray (names : List String) (i : Nat) : List (Key × Scanned) → Option Fault → Reading Unit
  | [], none => .ok ()
  | [], some fault => .error (i, fault)
  | (k, s) :: rest, unclosed =>
    match k.read with
    | .error fault => .error (i, fault)
    | .ok name =>
      match if names.contains name then none else s.skipFault with
      | some fault => .error (i, fault)
      | none => stray names (i + 1) rest unclosed

/-- The problems of the end of an array: items beyond the last field, or no end. -/
def excess (size : Nat) (items : List Scanned) (unclosed : Option Fault) : Reading Unit :=
  if size < items.length then .error (size, .malformed)
  else
    match unclosed with
    | some fault => .error (items.length, fault)
    | none => .ok ()

/-- How many fields a record has, in words. -/
def sizeWords (size : Nat) : String :=
  if size = 1 then "1 element" else Decimal.natText size ++ " elements"

/-- A reading without its place. -/
def settle : Reading α → Except Fault α
  | .ok a => .ok a
  | .error (_, fault) => .error fault

/-- Reads a record from the fields that are given. -/
def readGiven (title : String) (r : Record α) (given : Given) : Except Fault α :=
  let short := title ++ " with " ++ sizeWords r.names.length
  let rest := match given with
    | .named fields unclosed => stray r.names.flatten 0 fields unclosed
    | .listed items unclosed => excess r.names.length items unclosed
  settle (((r.build short 0 given).both rest).map (·.1))

/-- Reads a record that messages call `title`. -/
def read (title : String) (r : Record α) : Decoder α
  | .obj fields unclosed => r.readGiven title (.named fields unclosed)
  | .arr items unclosed => r.readGiven title (.listed items unclosed)
  | .deep _ _ => .error .malformed
  | s => Decoder.refuse title s

end Record

/-! ### Whole texts -/

/-- Reads a whole text: its value, and then nothing more. -/
def Page.read (item : Decoder α) (page : Page) : Except Fault α := do
  let a ← item page.root
  if page.trailing then .error .malformed else return a

/-- Reads a whole text. -/
def decode (item : Decoder α) (text : String) : Except Fault α :=
  (scan text).read item

/-- Reads a value in memory. -/
def ofValue (item : Decoder α) (v : Value) : Except Fault α :=
  item (Scanned.ofValue v)

/-! ### Records in memory -/

/-- The tree of an object without faults. -/
def Scanned.plain (fields : List (String × Value)) : Scanned :=
  .obj (Scanned.ofFields fields) none

/-- A key without fault is one of the names exactly if its text is. -/
theorem Record.isOneOf_key (names : List String) (name : String) :
    Record.Key.isOneOf names (Scanned.key name) = names.contains name := rfl

/-- An object in memory has no stray problem. -/
theorem Record.stray_ofFields (names : List String) (i : Nat) (fields : List (String × Value)) :
    Record.stray names i (Scanned.ofFields fields) none = .ok () := by
  induction fields generalizing i with
  | nil => rfl
  | cons entry rest ih =>
    obtain ⟨k, v⟩ := entry
    simp [Scanned.ofFields, Scanned.key, Record.stray, Scanned.skipFault_ofValue v, ih]

/-- On an object in memory a record reads what its fields give. -/
theorem Record.read_ofFields (title : String) (r : Record α) (fields : List (String × Value)) :
    r.read title (Scanned.plain fields) =
      Record.settle
        (r.build (title ++ " with " ++ sizeWords r.names.length) 0
          (.named (Scanned.ofFields fields) none)) := by
  simp only [read, Scanned.plain, readGiven, stray_ofFields]
  cases r.build (title ++ " with " ++ sizeWords r.names.length) 0
    (.named (Scanned.ofFields fields) none) <;> rfl

/-! ### Lists in memory -/

/-- If `item` reads every element back from what `write` makes of it, it reads them all back in
a row. -/
theorem Decoder.each_ofItems {item : Decoder α} {write : α → Value} (as : List α)
    (h : ∀ a ∈ as, ofValue item (write a) = .ok a) :
    Decoder.each item (Scanned.ofItems (as.map write)) = .ok as := by
  induction as with
  | nil => rfl
  | cons a rest ih =>
    have first := h a List.mem_cons_self
    have others := ih fun b hb => h b (List.mem_cons_of_mem a hb)
    simp only [ofValue] at first
    simp [Scanned.ofItems, Decoder.each, first, others, bind, Except.bind, pure, Except.pure]

/-- A list is read back from an array of what its elements are written as, if every element
is. -/
theorem Decoder.list_ofItems {item : Decoder α} {write : α → Value} (as : List α)
    (h : ∀ a ∈ as, ofValue item (write a) = .ok a) :
    ofValue (Decoder.list item) (.arr (as.map write)) = .ok as := by
  simp [ofValue, Scanned.ofValue, Decoder.list, each_ofItems as h, Scanned.close, bind,
    Except.bind]

end Workflow.Json
