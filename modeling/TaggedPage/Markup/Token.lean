import TaggedPage.Markup.Tag

/-! # Tokens of a line

A line is a sequence of tags and literal characters. At every character the tag
grammar is tried; where it fails the character is literal, so an unfinished
bracket never hides a tag behind it. `tokens` lists the tags with the byte
positions at which they start and stop in the UTF-8 text of the line.
-/

namespace TaggedPage.Markup

/-- The number of bytes of a text in UTF-8. -/
def byteLength : List Char → Nat
  | [] => 0
  | c :: rest => c.utf8Size + byteLength rest

@[simp] theorem byteLength_nil : byteLength [] = 0 := rfl

@[simp] theorem byteLength_cons (c : Char) (text : List Char) :
    byteLength (c :: text) = c.utf8Size + byteLength text := rfl

@[simp] theorem byteLength_append (s t : List Char) :
    byteLength (s ++ t) = byteLength s + byteLength t := by
  induction s with
  | nil => simp
  | cons c s ih => rw [List.cons_append, byteLength_cons, byteLength_cons, ih, Nat.add_assoc]

/-- A tag and the bytes from `start` to `stop` that it occupies in the line. -/
structure Token where
  tag : Tag
  start : Nat
  stop : Nat
  deriving DecidableEq, Repr

/-- The tags of a text that begins at byte `start` of its line. -/
def tokensFrom (start : Nat) (text : List Char) : List Token :=
  match text with
  | [] => []
  | c :: rest =>
    match h : read? (c :: rest) with
    | some reading =>
      let stop := start + byteLength reading.body + 2
      ⟨reading.tag, start, stop⟩ :: tokensFrom stop reading.rest
    | none => tokensFrom (start + c.utf8Size) rest
termination_by text.length
decreasing_by
  · exact length_rest_lt_of_read? h
  · simp

/-- The tags of a line, from left to right. -/
def tokens (line : List Char) : List Token := tokensFrom 0 line

end TaggedPage.Markup
