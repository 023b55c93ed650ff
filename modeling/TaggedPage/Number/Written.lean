import TaggedPage.Number.Shortest

/-! # Written numbers

The text of a floating-point number: its shortest digits, laid out as a
`NumberStyle` says. Two styles are used. `plainNumber` is the notation of page
descriptions and of messages: always positional, and whole numbers carry no
point. `dataNumber` is the notation of data files: a point in every number, and
an exponent for very large and very small ones.
-/

namespace TaggedPage.Number

/-- How the digits of a number are laid out. -/
structure NumberStyle where
  /-- Where a tie between two shortest decimals goes. -/
  tie : Tie
  /-- Whether a whole number is written with a trailing `.0`. -/
  pointInWhole : Bool
  /-- The exponents of the leading digit that are written without an exponent. -/
  positional : Int → Bool

/-- Always positional, with no point in a whole number; ties go up. -/
def plainNumber : NumberStyle := ⟨.up, false, fun _ => true⟩

/-- With a point in every number; positional from `low` to `high` powers of ten. -/
def dataNumber (low high : Int) : NumberStyle :=
  ⟨.toEven, true, fun e => decide (low ≤ e) && decide (e ≤ high)⟩

/-- The decimal digits of a natural number, most significant first. -/
def digitChars (n : Nat) : List Char := Nat.toDigits 10 n

/-- The decimal without trailing zeros, for at most `fuel` of them. -/
def Decimal.trim (d : Decimal) : Nat → Decimal
  | 0 => d
  | fuel + 1 =>
    if d.digits % 10 = 0 ∧ d.digits ≠ 0 then
      Decimal.trim ⟨d.digits / 10, d.exponent + 1⟩ fuel
    else d

/-- The digits with the point in its place, padded with zeros on either side. -/
def positionalChars (style : NumberStyle) (digits : List Char) (exponent : Int) : List Char :=
  if 0 ≤ exponent then
    digits ++ List.replicate exponent.toNat '0' ++ (if style.pointInWhole then ['.', '0'] else [])
  else
    let places := (-exponent).toNat
    if places < digits.length then
      digits.take (digits.length - places) ++ '.' :: digits.drop (digits.length - places)
    else '0' :: '.' :: (List.replicate (places - digits.length) '0' ++ digits)

/-- One digit, the others behind a point, and the exponent with its sign. -/
def exponentChars (digits : List Char) (leading : Int) : List Char :=
  let mantissa :=
    match digits with
    | first :: second :: rest => first :: '.' :: second :: rest
    | short => short
  let sign := if leading < 0 then '-' else '+'
  mantissa ++ 'e' :: sign :: digitChars leading.natAbs

/-- A positive decimal in the given style. -/
def NumberStyle.decimal (style : NumberStyle) (d : Decimal) : List Char :=
  let d := d.trim 20
  let digits := digitChars d.digits
  let leading := d.exponent + (digits.length - 1 : Nat)
  if style.positional leading then positionalChars style digits d.exponent
  else exponentChars digits leading

/-- The text of the number of format `f` with the given sign and pattern. -/
def NumberStyle.write (style : NumberStyle) (f : BinaryFormat) (negative : Bool)
    (pattern : Nat) : List Char :=
  if f.infinity < pattern then ['N', 'a', 'N']
  else
    (if negative then ['-'] else []) ++
      if pattern = f.infinity then ['i', 'n', 'f']
      else if pattern = 0 then
        if style.pointInWhole then ['0', '.', '0'] else ['0']
      else style.decimal (shortest f style.tie pattern)

def NumberStyle.single (style : NumberStyle) (x : Float32) : List Char :=
  style.write binary32 (isNegative32 x) (magnitude32 x)

def NumberStyle.double (style : NumberStyle) (x : Float) : List Char :=
  style.write binary64 (decide (Nat.pow 2 63 ≤ x.toBits.toNat))
    (x.toBits.toNat % Nat.pow 2 63)

def plain (x : Float32) : String := String.ofList (plainNumber.single x)

end TaggedPage.Number
