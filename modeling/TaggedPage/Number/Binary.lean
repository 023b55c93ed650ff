/-! # Binary number formats

A finite binary number is a whole significand times a power of two. A format
fixes how many bits the significand may have and how small the power may be;
its numbers, ordered by size, are then numbered consecutively by their bit
patterns. `BinaryFormat.magnitude` gives the pattern of the number nearest to
an exact quotient, with ties going to the even pattern, and
`BinaryFormat.split` recovers significand and exponent from a pattern.

Everything is computed in natural numbers, so no rounding of the host machine
enters the result. Powers are written `Nat.pow`, which means the same whatever
else is imported.
-/

namespace TaggedPage.Number

/-- A format with `precision` significand bits whose least number is two to the
power `minExponent`, and whose infinity has the pattern `infinity`. -/
structure BinaryFormat where
  precision : Nat
  minExponent : Int
  infinity : Nat

def binary32 : BinaryFormat := ⟨24, -149, 0x7F800000⟩

def binary64 : BinaryFormat := ⟨53, -1074, 0x7FF0000000000000⟩

/-- The whole number nearest to `num / den`; a tie goes to the even neighbour. -/
def roundHalfEven (num den : Nat) : Nat :=
  let q := num / den
  let r := num % den
  if 2 * r < den then q else if den < 2 * r then q + 1 else q + q % 2

/-- The whole number nearest to `num / den`; a tie goes up. -/
def roundHalfUp (num den : Nat) : Nat :=
  (2 * num + den) / (2 * den)

/-- Whether two to the power `e` is at most `num / den`. -/
def powLe (e : Int) (num den : Nat) : Bool :=
  if 0 ≤ e then den * Nat.pow 2 e.toNat ≤ num else den ≤ num * Nat.pow 2 (-e).toNat

/-- The exponent of the greatest power of two that is at most `num / den`, for
positive `num` and `den`. -/
def floorLog2 (num den : Nat) : Int :=
  let e : Int := (num.log2 : Int) - den.log2
  if powLe e num den then e else e - 1

namespace BinaryFormat

variable (f : BinaryFormat)

/-- The pattern of the number nearest to `num / den`, ties to the even pattern.
A significand that rounds up to the next power of two carries into the exponent
by plain addition. -/
def magnitude (num den : Nat) : Nat :=
  if num = 0 then 0
  else
    let last := max (floorLog2 num den - (f.precision - 1 : Nat)) f.minExponent
    let significand :=
      if 0 ≤ last then roundHalfEven num (den * Nat.pow 2 last.toNat)
      else roundHalfEven (num * Nat.pow 2 (-last).toNat) den
    min f.infinity ((last - f.minExponent).toNat * Nat.pow 2 (f.precision - 1) + significand)

/-- Significand and exponent of the finite number with the given pattern. -/
def split (pattern : Nat) : Nat × Int :=
  let field := pattern / Nat.pow 2 (f.precision - 1)
  let fraction := pattern % Nat.pow 2 (f.precision - 1)
  if field = 0 then (fraction, f.minExponent)
  else (fraction + Nat.pow 2 (f.precision - 1), f.minExponent + (field - 1 : Nat))

end BinaryFormat

/-- The pattern of a single-precision number without its sign bit. -/
def magnitude32 (x : Float32) : Nat := x.toBits.toNat % Nat.pow 2 31

/-- The sign bit of a single-precision number, set for negative zero too. -/
def isNegative32 (x : Float32) : Bool := Nat.pow 2 31 ≤ x.toBits.toNat

/-- The single-precision number with the given sign and pattern. -/
def ofMagnitude32 (negative : Bool) (pattern : Nat) : Float32 :=
  Float32.ofBits (UInt32.ofNat ((if negative then Nat.pow 2 31 else 0) + pattern))

/-- The single-precision number nearest to the signed quotient `num / den`. -/
def nearest32 (negative : Bool) (num den : Nat) : Float32 :=
  ofMagnitude32 negative (binary32.magnitude num den)

/-- The double-precision number nearest to the signed quotient `num / den`. -/
def nearest64 (negative : Bool) (num den : Nat) : Float :=
  Float.ofBits (UInt64.ofNat ((if negative then Nat.pow 2 63 else 0) + binary64.magnitude num den))

/-- A double-precision number rounded to single precision. -/
def narrow (x : Float) : Float32 :=
  if x.isNaN then Float32.ofBits 0x7FC00000
  else
    let bits := x.toBits.toNat
    let negative := decide (Nat.pow 2 63 ≤ bits)
    let pattern := bits % Nat.pow 2 63
    if binary64.infinity ≤ pattern then ofMagnitude32 negative binary32.infinity
    else
      let (significand, exponent) := binary64.split pattern
      if 0 ≤ exponent then nearest32 negative (significand * Nat.pow 2 exponent.toNat) 1
      else nearest32 negative significand (Nat.pow 2 (-exponent).toNat)

/-- The whole number nearest to `x`, a half going away from zero; a number that
is whole, infinite or no number at all is kept, and so is the sign of zero. -/
def roundHalfAway (x : Float32) : Float32 :=
  let pattern := magnitude32 x
  if binary32.infinity ≤ pattern then x
  else
    let (significand, exponent) := binary32.split pattern
    if 0 ≤ exponent then x
    else nearest32 (isNegative32 x) (roundHalfUp significand (Nat.pow 2 (-exponent).toNat)) 1

end TaggedPage.Number
