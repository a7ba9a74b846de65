import Workflow.Json.Fault

/-!
# Number literals

The grammar of number literals and the value of one. A whole literal that fits in a signed
or an unsigned 64-bit word is an integer. Every other literal becomes a double from its
leading digits (as many as fit in 64 bits) and one scaling by a power of ten, which may
differ in the last bit from the nearest double.
-/

namespace Workflow.Json

/-- A number literal, taken apart. -/
structure Numeral where
  /-- Whether a minus sign stands in front. -/
  negative : Bool
  /-- The digits before the point. -/
  whole : List Nat
  /-- The digits after the point, if there is one. -/
  fraction : Option (List Nat)
  /-- The exponent, if there is one: whether it is negative, and its digits. -/
  exponent : Option (Bool × List Nat)

/-! ### Grammar -/

/-- The value of a decimal digit. -/
def digit? (c : Char) : Option Nat :=
  if c.isDigit then some (c.toNat - '0'.toNat) else none

/-- The digits at the front, and what follows them. -/
def takeDigits : List Char → List Nat × List Char
  | [] => ([], [])
  | c :: cs =>
    match digit? c with
    | none => ([], c :: cs)
    | some d =>
      match takeDigits cs with
      | (ds, rest) => (d :: ds, rest)

/-- Why a literal is cut off or wrong: the fault for a reader that wants the number, and the
fault for one that skips it. -/
abbrev NumeralFault := Fault × Fault

/-- A literal that ends with the text has been cut off for a reader, and is wrong for one
that skips it. -/
def cutOff : NumeralFault :=
  (.truncated, .malformed)

/-- A literal that is wrong for everyone. -/
def wrong : NumeralFault :=
  (.malformed, .malformed)

/-- At least one digit. -/
def someDigits (cs : List Char) : Except NumeralFault (List Nat × List Char) :=
  match takeDigits cs with
  | ([], []) => .error cutOff
  | ([], _) => .error wrong
  | found => .ok found

/-- The digits before the point: a zero stands alone. -/
def wholeDigits (cs : List Char) : Except NumeralFault (List Nat × List Char) :=
  match someDigits cs with
  | .ok (0 :: _ :: _, _) => .error wrong
  | found => found

/-- The fraction, if a point follows. -/
def fractionPart : List Char → Except NumeralFault (Option (List Nat) × List Char)
  | '.' :: cs => (someDigits cs).map fun (ds, rest) => (some ds, rest)
  | cs => .ok (none, cs)

/-- The sign of an exponent. -/
def exponentSign : List Char → Bool × List Char
  | '+' :: cs => (false, cs)
  | '-' :: cs => (true, cs)
  | cs => (false, cs)

/-- The exponent, if its letter follows. -/
def exponentPart : List Char → Except NumeralFault (Option (Bool × List Nat) × List Char)
  | c :: cs =>
    if c = 'e' ∨ c = 'E' then
      let (negative, digits) := exponentSign cs
      (someDigits digits).map fun (ds, rest) => (some (negative, ds), rest)
    else .ok (none, c :: cs)
  | [] => .ok (none, [])

/-- A literal whose sign has been taken, and what follows it. -/
def scanUnsigned (negative : Bool) (cs : List Char) :
    Except NumeralFault (Numeral × List Char) := do
  let (whole, cs) ← wholeDigits cs
  let (fraction, cs) ← fractionPart cs
  let (exponent, cs) ← exponentPart cs
  return ({ negative, whole, fraction, exponent }, cs)

/-- The literal at the front of a text, and what follows it. -/
def Numeral.scan : List Char → Except NumeralFault (Numeral × List Char)
  | '-' :: cs => scanUnsigned true cs
  | cs => scanUnsigned false cs

/-! ### Value -/

/-- The largest unsigned word. -/
def maxWord : Nat :=
  0xffffffffffffffff

/-- The magnitude of the smallest signed word. -/
def minSignedWord : Nat :=
  0x8000000000000000

/-- The digits as a whole number. -/
def ofDigits (ds : List Nat) : Nat :=
  ds.foldl (fun n d => 10 * n + d) 0

/-- Takes digits into a significand while it fits in a word. The digits that are left are
returned. -/
def absorb (significand : Nat) : List Nat → Nat × List Nat
  | [] => (significand, [])
  | d :: ds =>
    if 10 * significand + d ≤ maxWord then absorb (10 * significand + d) ds
    else (significand, d :: ds)

/-- The power of ten as the nearest double. -/
def powerOfTen (n : Nat) : Float :=
  Float.ofScientific 1 false n

/-- Divides by a power of ten that is too large for a double, in steps of 10 ^ 308. -/
def scaleDown (x : Float) (n : Nat) : Float :=
  if n ≤ 308 then x / powerOfTen n
  else if x == 0 then x
  else scaleDown (x / powerOfTen 308) (n - 308)
termination_by n

/-- The significand scaled by a power of ten; nothing if no double is that large. -/
def scaled (significand : Nat) (exponent : Int) : Option Float :=
  let x := Float.ofNat significand
  if exponent < 0 then some (scaleDown x exponent.natAbs)
  else if exponent ≤ 308 then
    let y := x * powerOfTen exponent.toNat
    if y.isInf then none else some y
  else if x == 0 then some x
  else none

/-- The sign put in front of a double. -/
def signed (negative : Bool) (x : Float) : Float :=
  if negative then -x else x

/-- The largest exponent that is still added up; above it only the sign counts. -/
def maxExponent : Nat :=
  0x7fffffff

/-- The double of a literal. -/
def Numeral.float? (n : Numeral) : Option Float :=
  let (significand, dropped) := absorb 0 n.whole
  let fraction := n.fraction.getD []
  let (significand, unread) := absorb significand fraction
  let base : Int := (dropped.length : Int) - ((fraction.length - unread.length : Nat) : Int)
  match n.exponent with
  | none => (scaled significand base).map (signed n.negative)
  | some (negative, digits) =>
    let e := ofDigits digits
    if maxExponent < e then
      if significand ≠ 0 ∧ negative = false then none else some (signed n.negative 0)
    else
      let exponent : Int := if negative then base - e else base + e
      (scaled significand exponent).map (signed n.negative)

/-- The value of a literal; nothing if it is too large for a double. A minus sign in front of
a whole zero makes it a double, since no integer is negative zero. -/
def Numeral.value? (n : Numeral) : Option Number :=
  match n.fraction, n.exponent with
  | none, none =>
    let whole := ofDigits n.whole
    if n.negative then
      if 0 < whole ∧ whole ≤ minSignedWord then some (.int (-(whole : Int)))
      else n.float?.map .float
    else if whole ≤ maxWord then some (.int whole)
    else n.float?.map .float
  | _, _ => n.float?.map .float

end Workflow.Json
