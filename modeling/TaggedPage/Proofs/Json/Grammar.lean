import TaggedPage.Proofs.Markup.Grammar

/-! # The grammar of JSON texts

A JSON text is given by a tree that makes every choice its writer has: the white space
between the parts, how a number is written, and which characters of a string are escapes.
`Document.text` is the text of such a tree, and each `spell` puts a part in front of what
follows it, as a reader meets it.

What a value says of keys is its `Shape`: the keys of its objects in the order of the text,
and what stands under them. The same shape has many texts.
-/

namespace TaggedPage.Json

/-- The arrays and objects of a value, and the keys of the objects. A scalar has none. -/
inductive Shape where
  | scalar
  | array (items : List Shape)
  | object (members : List (List Char × Shape))

namespace Grammar

/-- A character of white space. -/
inductive Blank where
  | space
  | tab
  | lineFeed
  | carriageReturn

def Blank.char : Blank → Char
  | .space => ' '
  | .tab => '\t'
  | .lineFeed => '\n'
  | .carriageReturn => '\r'

def spellBlanks (blanks : List Blank) (rest : List Char) : List Char :=
  blanks.map Blank.char ++ rest

/-- One decimal digit or more. -/
structure Digits where
  chars : List Char
  isDigit : ∀ c ∈ chars, c.isDigit = true
  nonempty : chars ≠ []

/-- The exponent of a number; its sign may be left out. -/
structure Exponent where
  capital : Bool
  sign : Option Bool
  digits : Digits

/-- A number. A zero in front is the only whole digit. -/
structure Number where
  negative : Bool
  whole : Digits
  fraction : Option Digits
  exponent : Option Exponent
  no_leading_zero : ∀ more, whole.chars = '0' :: more → more = []

def Exponent.letter (e : Exponent) : Char := if e.capital then 'E' else 'e'

def Exponent.spellAmount (e : Exponent) (rest : List Char) : List Char :=
  match e.sign with
  | none => e.digits.chars ++ rest
  | some false => '+' :: e.digits.chars ++ rest
  | some true => '-' :: e.digits.chars ++ rest

def spellExponent : Option Exponent → List Char → List Char
  | none, rest => rest
  | some e, rest => e.letter :: e.spellAmount rest

def spellFraction : Option Digits → List Char → List Char
  | none, rest => rest
  | some places, rest => '.' :: places.chars ++ rest

def Number.spellUnsigned (n : Number) (rest : List Char) : List Char :=
  n.whole.chars ++ spellFraction n.fraction (spellExponent n.exponent rest)

def Number.spell (n : Number) (rest : List Char) : List Char :=
  if n.negative then '-' :: n.spellUnsigned rest else n.spellUnsigned rest

/-- A hexadecimal digit and its value. -/
structure HexDigit where
  char : Char
  value : Nat
  spelled : Markup.HexDigit char value

/-- A numeric escape, which gives a unit of UTF-16. -/
structure CodeUnit where
  first : HexDigit
  second : HexDigit
  third : HexDigit
  fourth : HexDigit

namespace CodeUnit

def value (u : CodeUnit) : Nat :=
  4096 * u.first.value + 256 * u.second.value + 16 * u.third.value + u.fourth.value

def spellDigits (u : CodeUnit) (rest : List Char) : List Char :=
  u.first.char :: u.second.char :: u.third.char :: u.fourth.char :: rest

/-- The unit is the first half of a character beyond the basic plane. -/
def IsUpper (u : CodeUnit) : Prop := 0xD800 ≤ u.value ∧ u.value ≤ 0xDBFF

/-- The unit is the second half of a character beyond the basic plane. -/
def IsLower (u : CodeUnit) : Prop := 0xDC00 ≤ u.value ∧ u.value ≤ 0xDFFF

instance (u : CodeUnit) : Decidable u.IsUpper := inferInstanceAs (Decidable (_ ∧ _))

instance (u : CodeUnit) : Decidable u.IsLower := inferInstanceAs (Decidable (_ ∧ _))

/-- The character of a unit that stands alone; a half has none and is replaced. -/
def alone (u : CodeUnit) : Char :=
  if u.IsUpper ∨ u.IsLower then '\uFFFD' else Char.ofNat u.value

def paired (upper lower : CodeUnit) : Char :=
  Char.ofNat (0x10000 + (upper.value - 0xD800) * 0x400 + (lower.value - 0xDC00))

end CodeUnit

def shortEscapes : List (Char × Char) :=
  [('"', '"'), ('\\', '\\'), ('/', '/'), ('b', '\x08'), ('f', '\x0c'), ('n', '\n'), ('r', '\r'),
    ('t', '\t')]

/-- Whether a character may stand in a string as it is. -/
def isPlain (c : Char) : Bool := 0x20 ≤ c.toNat && c != '"' && c != '\\'

/-- A part of a string: a character as it is, the short escape of one, or a numeric escape. -/
inductive Piece where
  | plain (char : Char) (allowed : isPlain char = true)
  | short (letter char : Char) (escape : (letter, char) ∈ shortEscapes)
  | unit (unit : CodeUnit)

def Piece.spell : Piece → List Char → List Char
  | .plain char _, rest => char :: rest
  | .short letter _ _, rest => '\\' :: letter :: rest
  | .unit u, rest => '\\' :: 'u' :: u.spellDigits rest

def spellString (pieces : List Piece) (rest : List Char) : List Char :=
  pieces.foldr Piece.spell ('"' :: rest)

/-- The characters of a string. Two numeric escapes may be halves of one character. -/
def stringChars : List Piece → List Char
  | [] => []
  | .plain char _ :: pieces => char :: stringChars pieces
  | .short _ char _ :: pieces => char :: stringChars pieces
  | .unit upper :: .unit lower :: pieces =>
    if upper.IsUpper ∧ lower.IsLower then upper.paired lower :: stringChars pieces
    else upper.alone :: stringChars (.unit lower :: pieces)
  | .unit u :: pieces => u.alone :: stringChars pieces

/-- The key of a member with the white space around it, up to its value. -/
structure Key where
  before : List Blank
  pieces : List Piece
  after : List Blank
  start : List Blank

def Key.spellChars (key : Key) (rest : List Char) : List Char :=
  spellString key.pieces (spellBlanks key.after (':' :: spellBlanks key.start rest))

def Key.spell (key : Key) (rest : List Char) : List Char :=
  spellBlanks key.before ('"' :: key.spellChars rest)

/-- A key without escapes, with no white space around it. -/
def Key.plain (chars : List Char) (allowed : chars.all isPlain = true) : Key :=
  ⟨[], chars.pmap .plain (List.all_eq_true.mp allowed), [], []⟩

def Key.chars (key : Key) : List Char := stringChars key.pieces

mutual

/-- A value. -/
inductive Tree where
  | null
  | bool (value : Bool)
  | number (number : Number)
  | string (pieces : List Piece)
  | emptyArray (inside : List Blank)
  | array (before : List Blank) (first : Tree) (others : Items)
  | emptyObject (inside : List Blank)
  | object (key : Key) (first : Tree) (others : Members)

/-- What stands behind an item of an array: the end, or a comma and another item. -/
inductive Items where
  | close (before : List Blank)
  | item (before start : List Blank) (value : Tree) (others : Items)

/-- What stands behind a member of an object: the end, or a comma and another member. -/
inductive Members where
  | close (before : List Blank)
  | member (before : List Blank) (key : Key) (value : Tree) (others : Members)

end

def Tree.digit (d : Char) (h : d.isDigit = true) : Tree :=
  .number ⟨false, ⟨[d], by simpa using h, by simp⟩, none, none, by simp⟩

mutual

def Tree.spell : Tree → List Char → List Char
  | .null, rest => 'n' :: 'u' :: 'l' :: 'l' :: rest
  | .bool true, rest => 't' :: 'r' :: 'u' :: 'e' :: rest
  | .bool false, rest => 'f' :: 'a' :: 'l' :: 's' :: 'e' :: rest
  | .number n, rest => n.spell rest
  | .string pieces, rest => '"' :: spellString pieces rest
  | .emptyArray inside, rest => '[' :: spellBlanks inside (']' :: rest)
  | .array before first others, rest =>
    '[' :: spellBlanks before (first.spell (others.spell rest))
  | .emptyObject inside, rest => '\x7b' :: spellBlanks inside ('\x7d' :: rest)
  | .object key first others, rest => '\x7b' :: key.spell (first.spell (others.spell rest))

def Items.spell : Items → List Char → List Char
  | .close before, rest => spellBlanks before (']' :: rest)
  | .item before start value others, rest =>
    spellBlanks before (',' :: spellBlanks start (value.spell (others.spell rest)))

def Members.spell : Members → List Char → List Char
  | .close before, rest => spellBlanks before ('\x7d' :: rest)
  | .member before key value others, rest =>
    spellBlanks before (',' :: key.spell (value.spell (others.spell rest)))

end

mutual

def Tree.shape : Tree → Shape
  | .emptyArray _ => .array []
  | .array _ first others => .array (first.shape :: others.shapes)
  | .emptyObject _ => .object []
  | .object key first others => .object ((key.chars, first.shape) :: others.shapes)
  | _ => .scalar

def Items.shapes : Items → List Shape
  | .close _ => []
  | .item _ _ value others => value.shape :: others.shapes

def Members.shapes : Members → List (List Char × Shape)
  | .close _ => []
  | .member _ key value others => (key.chars, value.shape) :: others.shapes

end

/-- A whole text: a value with white space around it. -/
structure Document where
  before : List Blank
  value : Tree
  after : List Blank

def Document.text (d : Document) : String :=
  String.ofList (spellBlanks d.before (d.value.spell (spellBlanks d.after [])))

end Grammar

end TaggedPage.Json
