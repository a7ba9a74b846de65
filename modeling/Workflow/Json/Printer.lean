import Workflow.Json.Value
import Workflow.Decimal.Notation

/-!
# Writing JSON

Two layouts of one value: the compact one without any space, and the pretty one with two
spaces of indent, a space after each colon, and nothing between the brackets of an empty
array or object. Each printer takes the text that follows, so a value is written in one pass.
-/

namespace Workflow.Json

open Workflow.Decimal

/-- Two lower-case hexadecimal digits. -/
def hexPair (n : Nat) : List Char :=
  [Nat.digitChar (n / 16), Nat.digitChar (n % 16)]

/-- One character inside a string literal. -/
def escapeChar (c : Char) : List Char :=
  if c = '"' then ['\\', '"']
  else if c = '\\' then ['\\', '\\']
  else if c = '\n' then ['\\', 'n']
  else if c = '\r' then ['\\', 'r']
  else if c = '\t' then ['\\', 't']
  else if c = Char.ofNat 8 then ['\\', 'b']
  else if c = Char.ofNat 12 then ['\\', 'f']
  else if c.toNat < 0x20 then ['\\', 'u', '0', '0'] ++ hexPair c.toNat
  else [c]

/-- A string literal, and then `rest`. -/
def stringLiteral (s : String) (rest : List Char) : List Char :=
  '"' :: s.toList.foldr (fun c tail => escapeChar c ++ tail) ('"' :: rest)

/-- A number literal. -/
def Number.chars : Number → List Char
  | .int n => intChars n
  | .float x => floatChars jsonStyle x

/-- A truth value. -/
def boolChars : Bool → List Char
  | true => ['t', 'r', 'u', 'e']
  | false => ['f', 'a', 'l', 's', 'e']

mutual

/-- The compact layout of a value, and then `rest`. -/
def Value.compact : Value → List Char → List Char
  | .null, rest => 'n' :: 'u' :: 'l' :: 'l' :: rest
  | .bool b, rest => boolChars b ++ rest
  | .num n, rest => n.chars ++ rest
  | .str s, rest => stringLiteral s rest
  | .arr items, rest => '[' :: Value.compactItems items (']' :: rest)
  | .obj fields, rest => '\x7b' :: Value.compactEntries fields ('\x7d' :: rest)

/-- The items between commas. -/
def Value.compactItems : List Value → List Char → List Char
  | [], rest => rest
  | v :: [], rest => Value.compact v rest
  | v :: more, rest => Value.compact v (',' :: Value.compactItems more rest)

/-- The entries between commas. -/
def Value.compactEntries : List (String × Value) → List Char → List Char
  | [], rest => rest
  | (k, v) :: [], rest => stringLiteral k (':' :: Value.compact v rest)
  | (k, v) :: more, rest =>
    stringLiteral k (':' :: Value.compact v (',' :: Value.compactEntries more rest))

end

/-- A new line indented by `level` steps, and then `rest`. -/
def newline (level : Nat) (rest : List Char) : List Char :=
  '\n' :: (List.replicate (2 * level) ' ' ++ rest)

mutual

/-- The pretty layout of a value that stands at `level`, and then `rest`. -/
def Value.prettyAt (level : Nat) : Value → List Char → List Char
  | .null, rest => 'n' :: 'u' :: 'l' :: 'l' :: rest
  | .bool b, rest => boolChars b ++ rest
  | .num n, rest => n.chars ++ rest
  | .str s, rest => stringLiteral s rest
  | .arr [], rest => '[' :: ']' :: rest
  | .arr items, rest =>
    '[' :: newline (level + 1) (Value.prettyItems (level + 1) items (newline level (']' :: rest)))
  | .obj [], rest => '\x7b' :: '\x7d' :: rest
  | .obj fields, rest =>
    '\x7b' :: newline (level + 1)
      (Value.prettyEntries (level + 1) fields (newline level ('\x7d' :: rest)))

/-- The items, each on a line of its own. -/
def Value.prettyItems (level : Nat) : List Value → List Char → List Char
  | [], rest => rest
  | v :: [], rest => Value.prettyAt level v rest
  | v :: more, rest =>
    Value.prettyAt level v (',' :: newline level (Value.prettyItems level more rest))

/-- The entries, each on a line of its own. -/
def Value.prettyEntries (level : Nat) : List (String × Value) → List Char → List Char
  | [], rest => rest
  | (k, v) :: [], rest => stringLiteral k (':' :: ' ' :: Value.prettyAt level v rest)
  | (k, v) :: more, rest =>
    stringLiteral k (':' :: ' ' ::
      Value.prettyAt level v (',' :: newline level (Value.prettyEntries level more rest)))

end

/-- A value on one line without spaces. -/
def Value.toCompact (v : Value) : String :=
  String.ofList (v.compact [])

/-- A value in the pretty layout, without a newline at the end. -/
def Value.toPretty (v : Value) : String :=
  String.ofList (v.prettyAt 0 [])

end Workflow.Json
