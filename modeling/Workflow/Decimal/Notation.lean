import Workflow.Decimal.Shortest

/-!
# The notation of doubles

A double is written with its shortest digits, and so that it cannot be taken for a whole
number: either positionally, always with a decimal point, or in scientific notation with a
signed exponent. One record holds the decisions, and the examples at the end show where
positional notation starts and ends.

## Main results

* `natChars_ne_nil`: a number is never written as nothing.
-/

namespace Workflow.Decimal

/-- Where positional notation is used: for numbers whose first digit stands at a power of
ten between `least` and `most`. -/
structure Style where
  /-- The power of ten of the first digit of the smallest positional numbers. -/
  least : Int
  /-- The power of ten of the first digit of the largest positional numbers. -/
  most : Int

/-- Numbers are written positionally from 0.00001 up to, and without, 10 ^ 16. -/
def jsonStyle : Style := ⟨-5, 15⟩

/-- A natural number in decimal. -/
def natChars (n : Nat) : List Char :=
  Nat.toDigits 10 n

/-- A natural number in decimal, as text. -/
def natText (n : Nat) : String :=
  String.ofList (natChars n)

/-- A natural number has at least one digit. -/
theorem natChars_ne_nil (n : Nat) : natChars n ≠ [] := by
  unfold natChars
  exact List.ne_nil_of_length_pos Nat.length_toDigits_pos

/-- An integer in decimal, with a sign only if it is negative. -/
def intChars : Int → List Char
  | .ofNat n => natChars n
  | .negSucc n => '-' :: natChars (n + 1)

/-- An exponent always shows its sign. -/
def exponentChars (e : Int) : List Char :=
  if e < 0 then '-' :: natChars e.natAbs else '+' :: natChars e.natAbs

/-- Positional notation: at least one digit on either side of the point. -/
def Digits.positional (d : Digits) : List Char :=
  let ds := natChars d.digits
  if 0 ≤ d.scale then ds ++ List.replicate d.scale.toNat '0' ++ ['.', '0']
  else
    let places := (-d.scale).toNat
    if places < ds.length then
      ds.take (ds.length - places) ++ '.' :: ds.drop (ds.length - places)
    else
      '0' :: '.' :: List.replicate (places - ds.length) '0' ++ ds

/-- Scientific notation: one digit, the others after a point, and the exponent. -/
def Digits.scientific (d : Digits) (exponent : Int) : List Char :=
  match natChars d.digits with
  | [] => []
  | first :: [] => first :: 'e' :: exponentChars exponent
  | first :: more => first :: '.' :: more ++ 'e' :: exponentChars exponent

/-- The power of ten at which the first digit stands. -/
def Digits.exponent (d : Digits) : Int :=
  d.scale + (width d.digits : Int) - 1

/-- The digits in the notation that `style` chooses. -/
def Digits.chars (style : Style) (d : Digits) : List Char :=
  let e := d.exponent
  if style.least ≤ e ∧ e ≤ style.most then d.positional else d.scientific e

/-! ### Doubles -/

/-- The bit that holds the sign of a double. -/
def signBit : Nat := 0x8000000000000000

/-- The first bit of a mantissa, which is left out where the bits are kept. -/
def leadingBit : Nat := 0x10000000000000

/-- How many exponents the bits of a double have room for. -/
def exponentCount : Nat := 0x800

/-- The sign and the magnitude of a finite double; the magnitude of zero is none. -/
def split (x : Float) : Bool × Option Binary :=
  let bits : Nat := x.toBits.toNat
  let negative : Bool := signBit ≤ bits
  let biased : Nat := bits / leadingBit % exponentCount
  let fraction : Nat := bits % leadingBit
  if biased = 0 then
    if fraction = 0 then (negative, none) else (negative, some ⟨fraction, -1074, false⟩)
  else (negative, some ⟨leadingBit + fraction, biased - 1075, fraction = 0 && 1 < biased⟩)

/-- A finite double as text. -/
def floatChars (style : Style) (x : Float) : List Char :=
  let (negative, magnitude) := split x
  let body := match magnitude with
    | none => ['0', '.', '0']
    | some b => b.shortest.chars style
  if negative then '-' :: body else body

example : floatChars jsonStyle 250 = ['2', '5', '0', '.', '0'] := by decide +kernel

example : floatChars jsonStyle 0.00001 = ['0', '.', '0', '0', '0', '0', '1'] := by decide +kernel

example : floatChars jsonStyle 0.000001 = ['1', 'e', '-', '6'] := by decide +kernel

example : floatChars jsonStyle 1e16 = ['1', 'e', '+', '1', '6'] := by decide +kernel

example : floatChars jsonStyle (-0.0) = ['-', '0', '.', '0'] := by decide +kernel

end Workflow.Decimal
