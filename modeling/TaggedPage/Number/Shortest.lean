import TaggedPage.Number.Binary

/-! # Shortest decimal digits

A decimal reads back as a binary number when it lies in the interval of reals
that round to that number. `shortest` looks for the coarsest decimal grid with
a point in the interval: for one digit, two digits, and so on, it tests the two
grid points around the value. Of two points in the interval the nearer is
taken; an exact tie is left to the caller.
-/

namespace TaggedPage.Number

/-- Where an exact tie between two decimals goes. -/
inductive Tie where
  | up
  | toEven
  deriving DecidableEq, Repr

/-- A positive decimal: `digits` times ten to the power `exponent`. -/
structure Decimal where
  digits : Nat
  exponent : Int
  deriving DecidableEq, Repr

/-- The reals that round to one binary number, over a common denominator `den`:
from `low` to `high` around `value`, the ends included when `closed`. -/
structure Interval where
  low : Nat
  value : Nat
  high : Nat
  den : Nat
  closed : Bool

/-- Whether the decimal `digits / scale` lies in the interval. -/
def Interval.contains (i : Interval) (digits scale : Nat) : Bool :=
  if i.closed then
    i.low * scale ≤ digits * i.den && digits * i.den ≤ i.high * scale
  else
    i.low * scale < digits * i.den && digits * i.den < i.high * scale

/-- The rounding interval of a finite positive number of format `f`. Below a
power of two the neighbour is only half as far, save at the least exponent. -/
def BinaryFormat.interval (f : BinaryFormat) (pattern : Nat) : Interval :=
  let (m, q) := f.split pattern
  let narrow := m = Nat.pow 2 (f.precision - 1) ∧ f.minExponent < q
  let low := if narrow then 4 * m - 1 else 4 * m - 2
  let closed := m % 2 = 0
  if 2 ≤ q then
    let unit := Nat.pow 2 (q - 2).toNat
    ⟨low * unit, 4 * m * unit, (4 * m + 2) * unit, 1, closed⟩
  else ⟨low, 4 * m, 4 * m + 2, Nat.pow 2 (2 - q).toNat, closed⟩

/-- The exponent of the greatest power of ten that is at most `num / den`, found
from the estimate that the binary exponent gives, in steps of one. -/
def floorLog10 (num den : Nat) : Int :=
  let atLeast (e : Int) : Bool :=
    if 0 ≤ e then den * Nat.pow 10 e.toNat ≤ num else den ≤ num * Nat.pow 10 (-e).toNat
  let guess := floorLog2 num den * 30103 / 100000
  if atLeast (guess + 1) then guess + 1 else if atLeast guess then guess else guess - 1

/-- The point of the grid of `count` digits that lies in the interval, the nearer
one if both neighbours of the value do. -/
def Interval.onGrid (i : Interval) (tie : Tie) (top : Int) (count : Nat) : Option Decimal :=
  let exponent := top - (count - 1 : Nat)
  let scaledNum := if 0 ≤ exponent then i.value else i.value * Nat.pow 10 (-exponent).toNat
  let scaledDen := if 0 ≤ exponent then i.den * Nat.pow 10 exponent.toNat else i.den
  let below := scaledNum / scaledDen
  let rest := scaledNum % scaledDen
  let holds (digits : Nat) : Bool :=
    if 0 ≤ exponent then i.contains (digits * Nat.pow 10 exponent.toNat) 1
    else i.contains digits (Nat.pow 10 (-exponent).toNat)
  let goesUp : Bool :=
    if 2 * rest = scaledDen then
      match tie with
      | .up => true
      | .toEven => below % 2 = 1
    else scaledDen < 2 * rest
  match holds below, holds (below + 1) with
  | true, true => some ⟨if goesUp then below + 1 else below, exponent⟩
  | true, false => some ⟨below, exponent⟩
  | false, true => some ⟨below + 1, exponent⟩
  | false, false => none

/-- The shortest decimal in the interval, trying grids of `count` digits and more
for `fuel` rounds. -/
def Interval.search (i : Interval) (tie : Tie) (top : Int) : (fuel count : Nat) → Decimal
  | 0, _ => ⟨0, 0⟩
  | fuel + 1, count => (i.onGrid tie top count).getD (i.search tie top fuel (count + 1))

/-- The shortest decimal that reads back as the finite positive number with the
given pattern. Seventeen digits tell any two numbers of either format apart. -/
def shortest (f : BinaryFormat) (tie : Tie) (pattern : Nat) : Decimal :=
  let i := f.interval pattern
  i.search tie (floorLog10 i.value i.den) 18 1

end TaggedPage.Number
