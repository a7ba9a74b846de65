import Workflow.Json.Fault

/-!
# String literals

The inside of a string literal, after its opening quote. Two walks over the same grammar:
one that gives the text, for a reader that wants it, and one that only finds the end, for a
value that nobody asks for. Only the first one minds halves of surrogate pairs.

## Main results

* `readFrom_plain`: a character that needs no escape is taken as it stands.
-/

namespace Workflow.Json.StringLiteral

/-- The value of a hexadecimal digit. -/
def hexDigit? (c : Char) : Option Nat :=
  if c.isDigit then some (c.toNat - '0'.toNat)
  else if 'a' ≤ c ∧ c ≤ 'f' then some (c.toNat - 'a'.toNat + 10)
  else if 'A' ≤ c ∧ c ≤ 'F' then some (c.toNat - 'A'.toNat + 10)
  else none

/-- The bytes that the first characters of a text take. -/
def byteCount (cs : List Char) : Nat :=
  cs.foldl (fun n c => n + c.utf8Size) 0

/-- The number that the four hexadecimal digits of an escape give. The text must go on for
four bytes before it is asked whether they are digits. -/
def codeUnit (cs : List Char) : Except Fault Nat :=
  if byteCount (cs.take 4) < 4 then .error .truncated
  else
    match cs with
    | a :: b :: c :: d :: _ =>
      match hexDigit? a, hexDigit? b, hexDigit? c, hexDigit? d with
      | some a, some b, some c, some d => .ok (((a * 16 + b) * 16 + c) * 16 + d)
      | _, _, _, _ => .error .malformed
    | _ => .error .malformed

/-- The character that a one-letter escape stands for. -/
def shortEscape? : Char → Option Char
  | '"' => some '"'
  | '\\' => some '\\'
  | '/' => some '/'
  | 'b' => some (Char.ofNat 8)
  | 'f' => some (Char.ofNat 12)
  | 'n' => some '\n'
  | 'r' => some '\r'
  | 't' => some '\t'
  | _ => none

/-- Whether a code unit is the first half of a surrogate pair. -/
def isHigh (n : Nat) : Bool :=
  0xd800 ≤ n && n ≤ 0xdbff

/-- Whether a code unit is the second half of a surrogate pair. -/
def isLow (n : Nat) : Bool :=
  0xdc00 ≤ n && n ≤ 0xdfff

/-- The character of a pair whose first half is `high`; the second half must follow at
once. -/
def pair (high : Nat) : List Char → Except Fault Char
  | [] => .error .truncated
  | '\\' :: [] => .error .truncated
  | '\\' :: 'u' :: cs => do
    let low ← codeUnit cs
    if isLow low then
      return Char.ofNat (0x10000 + (high - 0xd800) * 0x400 + (low - 0xdc00))
    else .error .malformed
  | _ => .error .malformed

/-- An escape that was read: its character, and how many characters it takes behind the
backslash. -/
abbrev Escape := Char × Nat

/-- The escape that starts with the letter `u`, by what follows the letter. -/
def numericEscape (cs : List Char) : Except Fault Escape := do
  let n ← codeUnit cs
  if isLow n then .error .malformed
  else if isHigh n then return (← pair n (cs.drop 4), 11)
  else return (Char.ofNat n, 5)

/-- The escape behind a backslash. -/
def escape : List Char → Except Fault Escape
  | [] => .error .truncated
  | 'u' :: cs => numericEscape cs
  | c :: _ =>
    match shortEscape? c with
    | some d => .ok (d, 1)
    | none => .error .malformed

/-- The text up to the closing quote, once `pass` characters are passed over. `taken` holds
the characters so far, last one first. -/
def readFrom : Nat → List Char → List Char → Except Fault (List Char)
  | _, _, [] => .error .truncated
  | pass + 1, taken, _ :: cs => readFrom pass taken cs
  | 0, taken, c :: cs =>
    if c = '"' then .ok taken.reverse
    else if c = '\\' then
      match escape cs with
      | .error fault => .error fault
      | .ok (d, size) => readFrom size (d :: taken) cs
    else if c.toNat < 0x20 then .error .malformed
    else readFrom 0 (c :: taken) cs

/-- The text of a literal. -/
def read (cs : List Char) : Except Fault String :=
  (readFrom 0 [] cs).map String.ofList

/-- How many characters an escape takes behind the backslash, for a reader that does not mind
what it stands for. -/
def escapeSize : List Char → Except Fault Nat
  | [] => .error .truncated
  | 'u' :: cs => (codeUnit cs).map fun _ => 5
  | c :: _ => if (shortEscape? c).isSome then .ok 1 else .error .malformed

/-- What follows the closing quote, once `pass` characters are passed over. -/
def skipFrom : Nat → List Char → Except Fault (List Char)
  | _, [] => .error .truncated
  | pass + 1, _ :: cs => skipFrom pass cs
  | 0, c :: cs =>
    if c = '"' then .ok cs
    else if c = '\\' then
      match escapeSize cs with
      | .error fault => .error fault
      | .ok size => skipFrom size cs
    else if c.toNat < 0x20 then .error .malformed
    else skipFrom 0 cs

/-- What follows a literal. -/
def skip (cs : List Char) : Except Fault (List Char) :=
  skipFrom 0 cs

/-- A character that needs no escape is taken as it stands. -/
theorem readFrom_plain (taken cs : List Char) (c : Char) (visible : 0x20 ≤ c.toNat)
    (hq : c ≠ '"') (hb : c ≠ '\\') : readFrom 0 taken (c :: cs) = readFrom 0 (c :: taken) cs := by
  simp [readFrom, hq, hb, Nat.not_lt.2 visible]

end Workflow.Json.StringLiteral
