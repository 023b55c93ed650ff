import TaggedPage.Text.Blank

/-! # Colours

An opaque colour has three eight-bit channels. `Color.read` takes the written
forms `#RGB` and `#RRGGBB`, `Color.readSixDigits` the six digits alone. A channel
is two hexadecimal digits; a plus sign may stand for the first of them.
-/

namespace TaggedPage

/-- An opaque colour. -/
structure Color where
  red : UInt8
  green : UInt8
  blue : UInt8
  deriving DecidableEq, Repr, Inhabited

/-- One of the three components of a colour. -/
inductive Channel where
  | red
  | green
  | blue
  deriving DecidableEq, Repr

def Channel.name : Channel → String
  | .red => "red"
  | .green => "green"
  | .blue => "blue"

/-- Why a text is not a colour. -/
inductive ColorError where
  /-- The trimmed text does not begin with `#`. -/
  | noHash (text : List Char)
  /-- The trimmed text has a character outside ASCII behind the `#`. -/
  | notAscii (text : List Char)
  /-- Neither three nor six characters follow the `#`. -/
  | badLength (count : Nat)
  /-- Six ASCII characters were wanted. -/
  | notSixDigits (text : List Char)
  /-- The two characters of a channel are not a number. -/
  | badChannel (channel : Channel)
  deriving DecidableEq, Repr

def ColorError.message : ColorError → String
  | .noHash text => "Color must start with #, got: " ++ String.ofList text
  | .notAscii text => "Invalid hex color: " ++ String.ofList text
  | .badLength count => "Invalid hex color length: expected 3 or 6, got " ++ toString count
  | .notSixDigits text => "Expected six hex digits, got: " ++ String.ofList text
  | .badChannel channel =>
    "Invalid " ++ channel.name ++ " component: invalid digit found in string"

/-- The value of a hexadecimal digit of either case. -/
def hexValue? (c : Char) : Option Nat :=
  if '0' ≤ c ∧ c ≤ '9' then some (c.toNat - '0'.toNat)
  else if 'a' ≤ c ∧ c ≤ 'f' then some (c.toNat - 'a'.toNat + 10)
  else if 'A' ≤ c ∧ c ≤ 'F' then some (c.toNat - 'A'.toNat + 10)
  else none

def isHexDigit (c : Char) : Bool := (hexValue? c).isSome

def isAscii (c : Char) : Bool := c.toNat < 128

/-- The number that two characters of a channel spell. -/
def channelValue? (first second : Char) : Option UInt8 :=
  if first = '+' then (hexValue? second).map UInt8.ofNat
  else
    match hexValue? first, hexValue? second with
    | some x, some y => some (UInt8.ofNat (16 * x + y))
    | _, _ => none

namespace Color

def black : Color := ⟨0, 0, 0⟩

def gray (value : UInt8) : Color := ⟨value, value, value⟩

def readChannel (channel : Channel) (first second : Char) : Except ColorError UInt8 :=
  match channelValue? first second with
  | some value => .ok value
  | none => .error (.badChannel channel)

/-- The colour of three pairs of characters, the first faulty channel deciding. -/
def ofPairs (r₁ r₂ g₁ g₂ b₁ b₂ : Char) : Except ColorError Color := do
  let red ← readChannel .red r₁ r₂
  let green ← readChannel .green g₁ g₂
  let blue ← readChannel .blue b₁ b₂
  return ⟨red, green, blue⟩

/-- The colour that six characters spell, with no `#` in front. -/
def readSixDigits (text : List Char) : Except ColorError Color :=
  match text with
  | [r₁, r₂, g₁, g₂, b₁, b₂] =>
    if text.all isAscii then ofPairs r₁ r₂ g₁ g₂ b₁ b₂ else .error (.notSixDigits text)
  | _ => .error (.notSixDigits text)

/-- The colour that a text spells: `#` with three or six digits behind it, white
space around it ignored. In the short form each digit stands for two of it. -/
def read (text : List Char) : Except ColorError Color :=
  match trim text with
  | '#' :: digits =>
    if !digits.all isAscii then .error (.notAscii ('#' :: digits))
    else
      match digits with
      | [r, g, b] => ofPairs r r g g b b
      | [_, _, _, _, _, _] => readSixDigits digits
      | _ => .error (.badLength digits.length)
  | trimmed => .error (.noHash trimmed)

/-- A channel scaled to the range from zero to one. -/
def unit (channel : UInt8) : Float32 := UInt8.toFloat32 channel / 255.0

def units (c : Color) : Float32 × Float32 × Float32 := (unit c.red, unit c.green, unit c.blue)

end Color

end TaggedPage
