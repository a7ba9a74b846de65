import Workflow.Json.Printer
import Workflow.Text.Quoted

/-!
# Faults of a text

Why a text could not be read. A text is read once, from left to right, and the first
problem counts: the text may end too soon, it may not be JSON, or it may be JSON of another
shape than was wanted. Only the last kind has a message.

## Main results

* `Mismatch.message`: the wording of every shape problem.
-/

namespace Workflow.Json

/-- What stood where another kind of value was wanted. -/
inductive Found where
  | null
  | bool (b : Bool)
  | num (n : Number)
  | text (s : String)
  | sequence
  | map

/-- How a message names what was found. -/
def Found.describe : Found → String
  | .null => "null"
  | .bool b => "boolean `" ++ String.ofList (boolChars b) ++ "`"
  | .num (.int n) => "integer `" ++ String.ofList (Number.int n).chars ++ "`"
  | .num (.float x) => "floating point `" ++ String.ofList (Number.float x).chars ++ "`"
  | .text s => "string " ++ Text.quoted s
  | .sequence => "sequence"
  | .map => "map"

/-- Well-formed JSON of another shape than was wanted. -/
inductive Mismatch where
  /-- A field that may not be left out is missing. -/
  | missingField (name : String)
  /-- A field stands twice in one record. -/
  | duplicateField (name : String)
  /-- A name that is none of the `expected` ones. -/
  | unknownVariant (found : String) (expected : List String)
  /-- A value of another kind. -/
  | wrongType (found : Found) (wanted : String)
  /-- A list of another length. -/
  | wrongLength (found : Nat) (wanted : String)

/-- A name between grave accents. -/
def ticked (name : String) : String :=
  "`" ++ name ++ "`"

/-- The choices that a name had: two are joined by a word, more are listed. -/
def choices : List String → String
  | [a, b] => ticked a ++ " or " ++ ticked b
  | [a] => ticked a
  | names => "one of " ++ ", ".intercalate (names.map ticked)

/-- The message of a shape problem. -/
def Mismatch.message : Mismatch → String
  | .missingField name => "missing field " ++ ticked name
  | .duplicateField name => "duplicate field " ++ ticked name
  | .unknownVariant found expected =>
    "unknown variant " ++ ticked found ++ ", expected " ++ choices expected
  | .wrongType found wanted => "invalid type: " ++ found.describe ++ ", expected " ++ wanted
  | .wrongLength found wanted =>
    "invalid length " ++ Decimal.natText found ++ ", expected " ++ wanted

/-- The first problem of a text. -/
inductive Fault where
  /-- The text ends too soon. -/
  | truncated
  /-- The text is not JSON, or holds what no reader takes: a number out of range, half a
  surrogate pair, nesting that is too deep. -/
  | malformed
  /-- JSON of the wrong shape. -/
  | mismatch (cause : Mismatch)

end Workflow.Json
