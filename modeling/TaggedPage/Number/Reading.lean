import TaggedPage.Number.Binary

/-! # Reading numbers

Decimal notation as it is accepted on a command line: an optional sign, digits
with an optional point, an optional exponent, or one of the words for infinity
and for no number. `readSingle?` gives the single-precision number nearest to
the written decimal.
-/

namespace TaggedPage.Number

/-- The value of a run of decimal digits, most significant first, after `start`. -/
def digitsValue (start : Nat) (digits : List Char) : Nat :=
  digits.foldl (fun n c => 10 * n + (c.toNat - '0'.toNat)) start

def splitSign : List Char → Bool × List Char
  | '-' :: rest => (true, rest)
  | '+' :: rest => (false, rest)
  | rest => (false, rest)

/-- The exponent part of a number: empty, or a letter, a sign and digits. -/
def readExponent? : List Char → Option Int
  | [] => some 0
  | c :: rest =>
    if c = 'e' ∨ c = 'E' then
      let (negative, digits) := splitSign rest
      if digits.isEmpty || !digits.all Char.isDigit then none
      else
        let value : Int := digitsValue 0 digits
        some (if negative then -value else value)
    else none

/-- The single-precision number nearest to `digits` times ten to the power
`exponent`. Beyond the powers where every number is infinite or zero the power
of ten is not computed. -/
def ofDecimal32 (negative : Bool) (digits : Nat) (exponent : Int) : Float32 :=
  let size := exponent + (Nat.toDigits 10 digits).length
  if digits = 0 then ofMagnitude32 negative 0
  else if 50 < size then ofMagnitude32 negative binary32.infinity
  else if size < -60 then ofMagnitude32 negative 0
  else if 0 ≤ exponent then nearest32 negative (digits * Nat.pow 10 exponent.toNat) 1
  else nearest32 negative digits (Nat.pow 10 (-exponent).toNat)

/-- The unsigned words that stand for a number, in any mix of cases. -/
def readWord? (negative : Bool) (text : List Char) : Option Float32 :=
  let word := String.ofList (text.map Char.toLower)
  if word = "inf" ∨ word = "infinity" then some (ofMagnitude32 negative binary32.infinity)
  else if word = "nan" then some (Float32.ofBits 0x7FC00000)
  else none

/-- Digits with an optional point, and an optional exponent behind them. -/
def readDecimal? (negative : Bool) (text : List Char) : Option Float32 :=
  let whole := text.takeWhile Char.isDigit
  let afterWhole := text.dropWhile Char.isDigit
  let (places, afterPlaces) :=
    match afterWhole with
    | '.' :: rest => (rest.takeWhile Char.isDigit, rest.dropWhile Char.isDigit)
    | rest => ([], rest)
  if whole.isEmpty && places.isEmpty then none
  else
    (readExponent? afterPlaces).map fun exponent =>
      ofDecimal32 negative (digitsValue 0 (whole ++ places)) (exponent - places.length)

/-- The number a text stands for, if it stands for one. -/
def readSingle? (text : List Char) : Option Float32 :=
  let (negative, rest) := splitSign text
  (readWord? negative rest).or (readDecimal? negative rest)

end TaggedPage.Number
