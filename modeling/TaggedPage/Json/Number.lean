import TaggedPage.Json.Fault
import TaggedPage.Number.Reading
import TaggedPage.Number.Written

/-! # Numbers of a JSON text

A whole number that fits in 64 bits is kept exactly. Any other number is a
double-precision one: its leading digits, as many as fit in 64 bits, are rounded
once and then multiplied or divided by a power of ten. A number too large to be
finite is a fault.
-/

namespace TaggedPage.Json

/-- A number as it was read. -/
inductive Numeral where
  | natural (value : Nat)
  | negative (magnitude : Nat)
  | float (value : Float)

namespace Numeral

def single : Numeral → Float32
  | .natural value => Number.nearest32 false value 1
  | .negative magnitude => Number.nearest32 true magnitude 1
  | .float value => Number.narrow value

def describe : Numeral → String
  | .natural value => "integer `" ++ toString value ++ "`"
  | .negative magnitude => "integer `-" ++ toString magnitude ++ "`"
  | .float value =>
    "floating point `" ++ String.ofList ((Number.dataNumber (-5) 15).double value) ++ "`"

end Numeral

def maxWord : Nat := Nat.pow 2 64 - 1

/-- Appends digits to a significand as long as it fits in 64 bits; gives the
significand and the number of digits left out. -/
def absorb (significand : Nat) : List Char → Nat × Nat
  | [] => (significand, 0)
  | c :: rest =>
    let longer := Number.digitsValue significand [c]
    if maxWord < longer then (significand, rest.length + 1) else absorb longer rest

def powerOfTen (exponent : Nat) : Float := Number.nearest64 false (Nat.pow 10 exponent) 1

/-- Scales a number by a power of ten, in steps that the greatest finite power
allows; nothing if it becomes infinite. -/
def scale : (fuel : Nat) → (value : Float) → (exponent : Int) → Option Float
  | 0, value, _ => some value
  | fuel + 1, value, exponent =>
    if exponent.natAbs ≤ 308 then
      if 0 ≤ exponent then
        let scaled := value * powerOfTen exponent.natAbs
        if scaled.isInf then none else some scaled
      else some (value / powerOfTen exponent.natAbs)
    else if value == 0.0 then some value
    else if 0 ≤ exponent then none
    else scale fuel (value / powerOfTen 308) (exponent + 308)

/-- The number with the given significand, scaled by a power of ten. -/
def scaled (negative : Bool) (significand : Nat) (exponent : Int) (c : Cursor) :
    Except Fault (Numeral × Cursor) :=
  match scale 8 (UInt64.ofNat significand).toFloat exponent with
  | some value => .ok (.float (if negative then -value else value), c)
  | none => .error (c.here .numberOutOfRange)

def digits (c : Cursor) : List Char × Cursor :=
  let found := c.rest.takeWhile Char.isDigit
  (found, ⟨c.rest.dropWhile Char.isDigit, c.place + found.length⟩)

/-- The cursor behind a sign, if there is one, and whether it is a minus. -/
def exponentSign (c : Cursor) : Bool × Cursor :=
  match c.rest with
  | '+' :: _ => (false, c.next)
  | '-' :: _ => (true, c.next)
  | _ => (false, c)

/-- The number of exponent digits after which the value exceeds 31 bits, if it
does. -/
def overflowAfter? (value count : Nat) : List Char → Option Nat
  | [] => none
  | c :: rest =>
    let longer := Number.digitsValue value [c]
    if Nat.pow 2 31 - 1 < longer then some (count + 1) else overflowAfter? longer (count + 1) rest

/-- Reads what follows the letter of an exponent. An exponent that overflows is a
fault only if it would make the number too large. -/
def readExponent (negative : Bool) (significand : Nat) (base : Int) (c : Cursor) :
    Except Fault (Numeral × Cursor) :=
  let (minus, c) := exponentSign c
  match c.rest with
  | [] => .error (c.here .endInValue)
  | first :: _ =>
    if !first.isDigit then .error (c.ahead .badNumber)
    else
      let (found, behind) := digits c
      match overflowAfter? 0 0 found with
      | some count =>
        if significand ≠ 0 ∧ !minus then .error ⟨.numberOutOfRange, c.place + count⟩
        else .ok (.float (if negative then -0.0 else 0.0), behind)
      | none =>
        let exponent : Int := Number.digitsValue 0 found
        scaled negative significand (if minus then base - exponent else base + exponent) behind

/-- Reads an exponent if there is one, and scales the number. -/
def readScaled (negative : Bool) (significand : Nat) (exponent : Int) (c : Cursor) :
    Except Fault (Numeral × Cursor) :=
  match c.rest with
  | 'e' :: _ => readExponent negative significand exponent c.next
  | 'E' :: _ => readExponent negative significand exponent c.next
  | _ => scaled negative significand exponent c

/-- Reads the digits behind a point, of which there must be one. -/
def readPlaces (negative : Bool) (significand : Nat) (exponent : Int) (c : Cursor) :
    Except Fault (Numeral × Cursor) :=
  let (found, behind) := digits c
  if found.isEmpty then
    .error (c.ahead (if c.rest.isEmpty then .endInValue else .badNumber))
  else
    let (significand, dropped) := absorb significand found
    readScaled negative significand (exponent - (found.length - dropped : Nat)) behind

/-- The number of a whole significand that nothing follows. Minus zero is not a
whole number, nor is one below the range of 64 bits. -/
def wholeNumeral (negative : Bool) (significand : Nat) : Numeral :=
  if !negative then .natural significand
  else if significand = 0 ∨ Nat.pow 2 63 < significand then
    .float (-(UInt64.ofNat significand).toFloat)
  else .negative significand

/-- Reads what follows the whole digits of a number, of which `dropped` did not fit
in the significand. -/
def readFraction (negative : Bool) (significand dropped : Nat) (c : Cursor) :
    Except Fault (Numeral × Cursor) :=
  match c.rest with
  | '.' :: _ => readPlaces negative significand dropped c.next
  | 'e' :: _ => readScaled negative significand dropped c
  | 'E' :: _ => readScaled negative significand dropped c
  | _ =>
    if dropped = 0 then .ok (wholeNumeral negative significand, c)
    else scaled negative significand dropped c

/-- Reads a number behind its sign. A zero in front must be the only whole digit. -/
def readNumeral (negative : Bool) (c : Cursor) : Except Fault (Numeral × Cursor) :=
  match c.rest with
  | [] => .error (c.here .endInValue)
  | '0' :: rest =>
    match rest with
    | d :: _ =>
      if d.isDigit then .error (c.next.ahead .badNumber) else readFraction negative 0 0 c.next
    | [] => readFraction negative 0 0 c.next
  | d :: _ =>
    if d.isDigit then
      let (found, behind) := digits c
      let (significand, dropped) := absorb 0 found
      readFraction negative significand dropped behind
    else .error (c.ahead .badNumber)

def skipDigits (c : Cursor) : Cursor := (digits c).2

/-- The cursor behind an exponent, of which the letter is the next character. -/
def skipExponent (c : Cursor) : Except Fault Cursor :=
  let (_, c) := exponentSign c.next
  match c.rest with
  | first :: _ => if first.isDigit then .ok (skipDigits c) else .error (c.ahead .badNumber)
  | [] => .error (c.here .badNumber)

/-- The cursor behind an exponent, if there is one. -/
def skipScaled (c : Cursor) : Except Fault Cursor :=
  match c.rest with
  | 'e' :: _ => skipExponent c
  | 'E' :: _ => skipExponent c
  | _ => .ok c

def skipFraction (c : Cursor) : Except Fault Cursor :=
  match c.rest with
  | '.' :: _ =>
    let (found, behind) := digits c.next
    if found.isEmpty then .error (c.next.ahead .badNumber) else skipScaled behind
  | _ => skipScaled c

def skipNumeral (c : Cursor) : Except Fault Cursor :=
  match c.rest with
  | [] => .error (c.here .badNumber)
  | '0' :: rest =>
    match rest with
    | d :: _ => if d.isDigit then .error (c.next.ahead .badNumber) else skipFraction c.next
    | [] => skipFraction c.next
  | d :: _ => if d.isDigit then skipFraction (skipDigits c) else .error (c.ahead .badNumber)

end TaggedPage.Json
