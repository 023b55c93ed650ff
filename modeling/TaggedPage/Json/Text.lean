import TaggedPage.Color
import TaggedPage.Json.Fault

/-! # Strings of a JSON text

A string ends at the next quote that no backslash marks. A character beyond the
basic plane may be written as two escapes, and no other use of such a half is
valid. A string whose value is not wanted is held to fewer rules: the halves may
stand alone in it.
-/

namespace TaggedPage.Json

/-- The number of four hexadecimal digits, which are taken as a whole. -/
def fourDigits (c : Cursor) : Except Fault (Nat × Cursor) :=
  match c.rest with
  | a :: b :: d :: e :: rest =>
    match hexValue? a, hexValue? b, hexValue? d, hexValue? e with
    | some a, some b, some d, some e =>
      .ok (4096 * a + 256 * b + 16 * d + e, ⟨rest, c.place + 4⟩)
    | _, _, _, _ => .error ⟨.badEscape, c.place + 4⟩
  | short =>
    if Markup.byteLength short < 4 then .error (c.atEnd .endInString)
    else .error ⟨.badEscape, c.place + 4⟩

/-- The character that the letter behind a backslash stands for. -/
def plainEscape? : Char → Option Char
  | '"' => some '"'
  | '\\' => some '\\'
  | '/' => some '/'
  | 'b' => some '\x08'
  | 'f' => some '\x0c'
  | 'n' => some '\n'
  | 'r' => some '\r'
  | 't' => some '\t'
  | _ => none

/-- The lower half that must follow an upper one, behind a backslash and the letter
`u`, each of which is looked for in turn. -/
def lowerHalf (c : Cursor) : Except Fault (Nat × Cursor) :=
  match c.rest with
  | [] => .error (c.here .endInString)
  | '\\' :: rest =>
    match rest with
    | [] => .error (c.next.here .endInString)
    | 'u' :: _ => do
      let (unit, behind) ← fourDigits c.next.next
      if unit < 0xDC00 ∨ 0xDFFF < unit then .error (behind.here .loneSurrogate)
      else return (unit, behind)
    | _ => .error (c.next.ahead .unpairedSurrogate)
  | _ => .error (c.ahead .unpairedSurrogate)

/-- The character of a numeric escape, whose digits begin at the cursor. -/
def numericEscape (c : Cursor) : Except Fault (Char × Cursor) := do
  let (unit, behind) ← fourDigits c
  if 0xDC00 ≤ unit ∧ unit ≤ 0xDFFF then .error (behind.here .loneSurrogate)
  else if unit < 0xD800 ∨ 0xDBFF < unit then return (Char.ofNat unit, behind)
  else
    let (lower, behind) ← lowerHalf behind
    return (Char.ofNat (0x10000 + (unit - 0xD800) * 0x400 + (lower - 0xDC00)), behind)

def readEscape (c : Cursor) : Except Fault (Char × Cursor) :=
  match c.rest with
  | [] => .error (c.here .endInString)
  | 'u' :: _ => numericEscape c.next
  | letter :: _ =>
    match plainEscape? letter with
    | some char => .ok (char, c.next)
    | none => .error (c.ahead .badEscape)

/-- The cursor behind an escape of a string whose value is not wanted. -/
def skipEscape (c : Cursor) : Except Fault Cursor :=
  match c.rest with
  | [] => .error (c.here .endInString)
  | 'u' :: _ => (fourDigits c.next).map (·.2)
  | letter :: _ =>
    if (plainEscape? letter).isSome then .ok c.next else .error (c.ahead .badEscape)

/-- Whether a character may not stand in a string as it is. -/
def isControl (c : Char) : Bool := c.toNat < 0x20

/-- Reads a string behind its opening quote; `fuel` bounds the number of its
characters. -/
def readStringFrom (before : List Char) : (fuel : Nat) → Cursor → Except Fault (List Char × Cursor)
  | 0, c => .error (c.here .endInString)
  | fuel + 1, c =>
    match c.rest with
    | [] => .error (c.here .endInString)
    | '"' :: _ => .ok (before.reverse, c.next)
    | '\\' :: _ => do
      let (char, behind) ← readEscape c.next
      readStringFrom (char :: before) fuel behind
    | char :: _ =>
      if isControl char then .error (c.ahead .controlCharacter)
      else readStringFrom (char :: before) fuel c.next

def readString (c : Cursor) : Except Fault (List Char × Cursor) :=
  readStringFrom [] (c.rest.length + 1) c

def skipStringFrom : (fuel : Nat) → Cursor → Except Fault Cursor
  | 0, c => .error (c.here .endInString)
  | fuel + 1, c =>
    match c.rest with
    | [] => .error (c.here .endInString)
    | '"' :: _ => .ok c.next
    | '\\' :: _ => do skipStringFrom fuel (← skipEscape c.next)
    | char :: _ =>
      if isControl char then .error (c.here .controlCharacter)
      else skipStringFrom fuel c.next

def skipString (c : Cursor) : Except Fault Cursor := skipStringFrom (c.rest.length + 1) c

end TaggedPage.Json
