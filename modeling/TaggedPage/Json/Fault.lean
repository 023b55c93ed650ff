import TaggedPage.Markup.Token

/-! # Faults of a JSON text

Where a text stops being JSON, and why. A place is the number of bytes before it;
a message gives it as a line and a column, which count from the line feeds before
the place. `Cursor` is a place together with the text that follows it.
-/

namespace TaggedPage.Json

/-- The ways in which a text can fail to be JSON. -/
inductive Malformed where
  | endInList
  | endInObject
  | endInString
  | endInValue
  | wantedColon
  | wantedListEnd
  | wantedObjectEnd
  | wantedWord
  | wantedValue
  | badEscape
  | badNumber
  | numberOutOfRange
  | controlCharacter
  | keyNotString
  | loneSurrogate
  | unpairedSurrogate
  | trailingComma
  | trailingCharacters
  | tooDeep
  deriving DecidableEq, Repr

def Malformed.message : Malformed → String
  | .endInList => "EOF while parsing a list"
  | .endInObject => "EOF while parsing an object"
  | .endInString => "EOF while parsing a string"
  | .endInValue => "EOF while parsing a value"
  | .wantedColon => "expected `:`"
  | .wantedListEnd => "expected `,` or `]`"
  | .wantedObjectEnd => "expected `,` or `\x7d`"
  | .wantedWord => "expected ident"
  | .wantedValue => "expected value"
  | .badEscape => "invalid escape"
  | .badNumber => "invalid number"
  | .numberOutOfRange => "number out of range"
  | .controlCharacter => "control character (\\u0000-\\u001F) found while parsing a string"
  | .keyNotString => "key must be a string"
  | .loneSurrogate => "lone leading surrogate in hex escape"
  | .unpairedSurrogate => "unexpected end of hex escape"
  | .trailingComma => "trailing comma"
  | .trailingCharacters => "trailing characters"
  | .tooDeep => "recursion limit exceeded"

/-- A malformation and the place at which it is reported. -/
structure Fault where
  cause : Malformed
  place : Nat
  deriving DecidableEq, Repr

/-- The rest of a text, and the number of bytes before it. -/
structure Cursor where
  rest : List Char
  place : Nat

namespace Cursor

def ofText (text : List Char) : Cursor := ⟨text, 0⟩

def next (c : Cursor) : Cursor :=
  match c.rest with
  | [] => c
  | char :: rest => ⟨rest, c.place + char.utf8Size⟩

/-- The cursor behind white space, of which there are four characters. -/
def skipBlank (c : Cursor) : Cursor :=
  let isSpace (char : Char) : Bool := char = ' ' || char = '\n' || char = '\t' || char = '\r'
  ⟨c.rest.dropWhile isSpace, c.place + (c.rest.takeWhile isSpace).length⟩

/-- A fault reported here. -/
def here (c : Cursor) (cause : Malformed) : Fault := ⟨cause, c.place⟩

/-- A fault found by looking at the next byte, which is counted if there is one. -/
def ahead (c : Cursor) (cause : Malformed) : Fault :=
  ⟨cause, if c.rest.isEmpty then c.place else c.place + 1⟩

/-- A fault found behind the whole text. -/
def atEnd (c : Cursor) (cause : Malformed) : Fault :=
  ⟨cause, c.place + Markup.byteLength c.rest⟩

end Cursor

def lineColumn (place : Nat) (text : List Char) : Nat × Nat :=
  go text 0 1 0
where
  go : List Char → (at_ line column : Nat) → Nat × Nat
    | [], at_, line, column => (line, column + (place - at_))
    | c :: rest, at_, line, column =>
      if place ≤ at_ then (line, column)
      else if place < at_ + c.utf8Size then (line, column + (place - at_))
      else if c = '\n' then go rest (at_ + 1) (line + 1) 0
      else go rest (at_ + c.utf8Size) line (column + c.utf8Size)

end TaggedPage.Json
