import TaggedPage.Color
import TaggedPage.Geometry
import TaggedPage.Number.Reading

/-! # Tags

An inline tag is a word of the tag language between angle brackets:

* `b`, `/b`, `i`, `/i` switch bold and italic on and off;
* a number sets the font size, a number behind a slash unsets it;
* `#` with six hexadecimal digits sets the colour, `/#` unsets it;
* `mt`, `mb`, `ml`, `mr` with a number set a margin, `/m` unsets all margins.

A number is a run of ASCII digits whose value fits in 32 bits. `Tag.ofBody?`
reads the text between the brackets, and `Tag.read?` a whole tag at the start of
a text. No word contains an angle bracket, so the first one behind the opening
bracket decides.
-/

namespace TaggedPage.Markup

/-- A recognized tag. The number of a closing font-size tag is kept but unused. -/
inductive Tag where
  | bold (opens : Bool)
  | italic (opens : Bool)
  | fontSize (points : UInt32) (opens : Bool)
  | color (rgb : Option Color)
  | margin (edge : Edge) (value : UInt32)
  | marginReset
  deriving DecidableEq, Repr

/-- The value of a text of digits, if it fits in 32 bits. -/
def number? (text : List Char) : Option UInt32 :=
  if text.isEmpty || !text.all Char.isDigit then none
  else
    let value := Number.digitsValue 0 text
    if value < Nat.pow 2 32 then some (UInt32.ofNat value) else none

def sixDigits? (text : List Char) : Option Color :=
  if text.all isHexDigit then (Color.readSixDigits text).toOption else none

/-- The edge that a letter of a margin tag names. -/
def edge? : Char → Option Edge
  | 't' => some .top
  | 'b' => some .bottom
  | 'l' => some .left
  | 'r' => some .right
  | _ => none

namespace Tag

/-- The tag that a word behind a slash denotes. -/
def ofCloseBody? : List Char → Option Tag
  | ['b'] => some (.bold false)
  | ['i'] => some (.italic false)
  | ['#'] => some (.color none)
  | ['m'] => some .marginReset
  | digits => (number? digits).map (.fontSize · false)

/-- The tag that the text between two angle brackets denotes. -/
def ofBody? : List Char → Option Tag
  | '/' :: rest => ofCloseBody? rest
  | ['b'] => some (.bold true)
  | ['i'] => some (.italic true)
  | '#' :: digits => (sixDigits? digits).map fun color => .color (some color)
  | 'm' :: letter :: digits => do
    let edge ← edge? letter
    let value ← number? digits
    return .margin edge value
  | digits => (number? digits).map (.fontSize · true)

end Tag

def isBracket (c : Char) : Bool := c = '<' || c = '>'

/-- A tag read at the start of a text: the text between its brackets, the tag,
and what follows it. -/
structure Reading where
  body : List Char
  tag : Tag
  rest : List Char

/-- The tag at the start of a text, if there is one. -/
def read? : List Char → Option Reading
  | '<' :: text =>
    let body := text.takeWhile (!isBracket ·)
    match text.dropWhile (!isBracket ·) with
    | '>' :: rest => (Tag.ofBody? body).map fun tag => ⟨body, tag, rest⟩
    | _ => none
  | _ => none

theorem length_takeWhile_add_length_dropWhile (p : Char → Bool) (text : List Char) :
    (text.takeWhile p).length + (text.dropWhile p).length = text.length := by
  rw [← List.length_append, List.takeWhile_append_dropWhile]

/-- Reading a tag consumes its two brackets and its body. -/
theorem length_of_read? {text : List Char} {r : Reading} (h : read? text = some r) :
    text.length = r.body.length + r.rest.length + 2 := by
  unfold read? at h
  split at h
  · rename_i text
    have hlen := length_takeWhile_add_length_dropWhile (!isBracket ·) text
    dsimp only at h
    split at h
    · rename_i rest hrest
      obtain ⟨tag, _, rfl⟩ := Option.map_eq_some_iff.1 h
      rw [hrest] at hlen
      simp only [List.length_cons] at hlen ⊢
      omega
    · simp at h
  · simp at h

/-- What follows a tag is shorter than the text that begins with it. -/
theorem length_rest_lt_of_read? {text : List Char} {r : Reading} (h : read? text = some r) :
    r.rest.length < text.length := by
  have := length_of_read? h
  omega

end TaggedPage.Markup
