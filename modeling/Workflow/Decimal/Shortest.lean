/-!
# Shortest decimals

The fewest decimal digits that still name one binary number. A finite double is
`m · 2 ^ q`; every real nearer to it than to its neighbours reads back as that double, and
so does each end of that interval when `m` is even. The digits are those of the first
decimal grid with a point in the interval, and of the points the one nearest to the number.

All of it is exact arithmetic on natural numbers.
-/

namespace Workflow.Decimal

/-- A positive binary number `mantissa · 2 ^ exponent`. `lowest` says that the next smaller
number is half as far away as the next larger one. -/
structure Binary where
  /-- The whole number that is scaled. -/
  mantissa : Nat
  /-- The power of two it is scaled by. -/
  exponent : Int
  /-- Whether the mantissa is the smallest one of its exponent. -/
  lowest : Bool
  deriving Repr, DecidableEq

/-- A positive decimal number `digits · 10 ^ scale`. -/
structure Digits where
  /-- The digits, read as a whole number. -/
  digits : Nat
  /-- The power of ten they are scaled by. -/
  scale : Int
  deriving Repr, DecidableEq

namespace Binary

/-- A quarter of the last place, as the power of two that all ends of the interval are
whole multiples of. -/
def quarter (b : Binary) : Int :=
  b.exponent - 2

/-- The number in quarters of its last place. -/
def centre (b : Binary) : Nat :=
  4 * b.mantissa

/-- The upper end of the interval, in quarters of the last place. -/
def upper (b : Binary) : Nat :=
  4 * b.mantissa + 2

/-- The lower end of the interval, in quarters of the last place. -/
def lower (b : Binary) : Nat :=
  if b.lowest then 4 * b.mantissa - 1 else 4 * b.mantissa - 2

/-- Whether the ends belong to the interval. -/
def closed (b : Binary) : Bool :=
  b.mantissa % 2 == 0

/-- Whether the rational `num / den`, in quarters of the last place, lies in the interval. -/
def contains (b : Binary) (num den : Nat) : Bool :=
  if b.closed then b.lower * den ≤ num && num ≤ b.upper * den
  else b.lower * den < num && num < b.upper * den

end Binary

/-! ### The grid -/

/-- How many decimal digits a natural number has; zero has none. -/
def width (n : Nat) : Nat :=
  if n = 0 then 0 else (Nat.toDigits 10 n).length

/-- The power `base ^ e`, and one for a negative exponent. A fraction is multiplied by a power
with any exponent by multiplying its numerator by this one and its denominator by the one
with the opposite exponent. -/
def power (base : Nat) (e : Int) : Nat :=
  Nat.pow base e.toNat

/-- The power of ten just above the positive rational `num / den`: the least `e` with
`num / den < 10 ^ e`. -/
def magnitude (num den : Nat) : Int :=
  let e : Int := (width num : Int) - (width den : Int)
  if num * power 10 (-e) < den * power 10 e then e else e + 1

/-- The number `b` as a multiple of `10 ^ scale`: a fraction in quarters of its last place. -/
def Binary.onGrid (b : Binary) (scale : Int) : Nat × Nat :=
  (b.centre * power 2 b.quarter * power 10 (-scale), power 2 (-b.quarter) * power 10 scale)

/-- Whether `point · 10 ^ scale` reads back as `b`. -/
def Binary.readsBack (b : Binary) (point : Nat) (scale : Int) : Bool :=
  b.contains (point * power 10 scale * power 2 (-b.quarter))
    (power 2 b.quarter * power 10 (-scale))

/-- The point of the grid `10 ^ scale` that reads back as `b`, if one does. Of two the nearer
one is taken, and of two equally near ones the even one. -/
def Binary.gridPoint? (b : Binary) (scale : Int) : Option Nat :=
  let (num, den) := b.onGrid scale
  let below := num / den
  let rest := num % den
  let above := below + 1
  -- zero stands on every grid, but no positive number is written as zero
  match decide (0 < below) && b.readsBack below scale, b.readsBack above scale with
  | false, false => none
  | true, false => some below
  | false, true => some above
  | true, true =>
    if 2 * rest < den then some below
    else if den < 2 * rest then some above
    else if below % 2 = 0 then some below else some above

/-- The digits without the zeros at their end. -/
def Digits.trimmed : Nat → Digits → Digits
  | 0, d => d
  | n + 1, d =>
    if d.digits % 10 = 0 then Digits.trimmed n { digits := d.digits / 10, scale := d.scale + 1 }
    else d

/-- The shortest digits of `b`: grids are tried from one digit upwards, and seventeen digits
always suffice for a double. -/
def Binary.shortest (b : Binary) : Digits :=
  let top : Int := magnitude (b.onGrid 0).1 (b.onGrid 0).2
  let found := (List.range 17).findSome? fun n =>
    let scale := top - (n + 1 : Nat)
    (b.gridPoint? scale).map fun point => Digits.mk point scale
  Digits.trimmed 18 (found.getD ⟨b.mantissa, 0⟩)

end Workflow.Decimal
