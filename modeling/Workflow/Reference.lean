import Workflow.Text.Blank
import Workflow.Json.Value

/-!
# References

A text of a configuration may refer to an output of another node: `${Label.path}`, written
with a dollar sign and braces. Between the braces stands the label of the node up to the first
dot, and after the dot the path of the output, each with white space around it that does not
count. A part of white space alone stands for its last character.

Text is scanned from left to right. A reference starts at a dollar sign and a brace, ends at
the next closing brace, and has no other brace inside.

## Main results

* `part?_eq_none_iff`: only an empty part is no part.
* `scanFrom_skip`: scanning goes on after a reference that was found.
-/

namespace Workflow

open Json

/-- A reference found in a text. -/
structure Reference where
  /-- The label of the node. -/
  label : String
  /-- The path of the output. -/
  path : String
  /-- The reference as it stands in the text. -/
  raw : String
  deriving DecidableEq, Repr

namespace Reference

/-- Writes a reference. -/
def render (label path : String) : String :=
  String.ofList ['$', '\x7b'] ++ label ++ "." ++ path ++ String.ofList ['\x7d']

/-- What stands before the next closing brace, unless an opening one comes first. -/
def body? : List Char → Option (List Char)
  | [] => none
  | c :: cs =>
    if c = '\x7d' then some []
    else if c = '\x7b' then none
    else (body? cs).map (c :: ·)

/-- One side of the dot without the white space around it; of white space alone the last
character. -/
def part? (cs : List Char) : Option (List Char) :=
  match Text.trimChars cs with
  | [] => cs.getLast?.map fun c => [c]
  | trimmed => some trimmed

/-- The two sides of the first dot. -/
def sides (cs : List Char) : List Char × List Char :=
  (cs.takeWhile (· ≠ '.'), (cs.dropWhile (· ≠ '.')).drop 1)

/-- The reference that stands at the front of a text. -/
def front? : List Char → Option Reference
  | '$' :: '\x7b' :: cs =>
    match body? cs with
    | none => none
    | some body =>
      match part? (sides body).1, part? (sides body).2 with
      | some label, some path =>
        some
          { label := String.ofList label
            path := String.ofList path
            raw := String.ofList ('$' :: '\x7b' :: body ++ ['\x7d']) }
      | _, _ => none
  | _ => none

/-- The references in a text of which the first `skip` characters are passed over. -/
def scanFrom : Nat → List Char → List Reference
  | _, [] => []
  | skip + 1, _ :: cs => scanFrom skip cs
  | 0, c :: cs =>
    match front? (c :: cs) with
    | none => scanFrom 0 cs
    | some r => r :: scanFrom (r.raw.length - 1) cs

/-- The references in a text, from left to right. -/
def scan (text : String) : List Reference :=
  scanFrom 0 text.toList

/-- Only an empty part is no part. -/
theorem part?_eq_none_iff (cs : List Char) : part? cs = none ↔ cs = [] := by
  unfold part?
  split
  · cases cs <;> simp
  · next h =>
    constructor
    · intro e
      cases e
    · rintro rfl
      exact absurd rfl h

/-- Characters that are passed over hold no reference. -/
theorem scanFrom_skip (skip : Nat) (cs : List Char) :
    scanFrom skip cs = scanFrom 0 (cs.drop skip) := by
  induction skip generalizing cs with
  | zero => simp
  | succ skip ih =>
    cases cs with
    | nil => simp [scanFrom]
    | cons c cs => simp [scanFrom, ih]

end Reference

/-! ### Texts of a value -/

mutual

/-- The texts inside a value at any depth, in order. Keys are not among them. -/
def Json.Value.texts : Value → List String
  | .str s => [s]
  | .arr items => Value.textsOfItems items
  | .obj fields => Value.textsOfEntries fields
  | _ => []

/-- The texts inside items. -/
def Json.Value.textsOfItems : List Value → List String
  | [] => []
  | v :: rest => Value.texts v ++ Value.textsOfItems rest

/-- The texts inside the values of entries. -/
def Json.Value.textsOfEntries : List (String × Value) → List String
  | [] => []
  | (_, v) :: rest => Value.texts v ++ Value.textsOfEntries rest

end

end Workflow
