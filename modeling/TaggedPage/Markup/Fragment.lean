import TaggedPage.Markup.Style
import TaggedPage.Markup.Token
import TaggedPage.Text.Pieces

/-! # Fragments

A fragment is a stretch of text with the style in force where it stands.
`compileLine` cuts a line at its tags and drops them; a stretch without text
makes no fragment. `compileDocument` does so line by line, each line starting
with the plain style.
-/

namespace TaggedPage.Markup

/-- A stretch of text in one style. -/
structure Fragment where
  text : List Char
  style : Style := .plain
  deriving Inhabited

namespace Fragment

def variant (f : Fragment) : Variant := f.style.variant

/-- A fragment of the text, unless the text is empty. -/
def ofText (style : Style) (text : List Char) : List Fragment :=
  if text.isEmpty then [] else [⟨text, style⟩]

end Fragment

/-- The fragments of a text met in the given style, behind the characters in
`before`, which stand in reverse and belong to the stretch that is still open. -/
def compileFrom (style : Style) (before : List Char) (text : List Char) : List Fragment :=
  match text with
  | [] => Fragment.ofText style before.reverse
  | c :: rest =>
    match _h : read? (c :: rest) with
    | some reading =>
      Fragment.ofText style before.reverse ++
        compileFrom (style.apply reading.tag) [] reading.rest
    | none => compileFrom style (c :: before) rest
termination_by text.length
decreasing_by
  · exact length_rest_lt_of_read? _h
  · simp

def compileLine (line : List Char) : List Fragment := compileFrom .plain [] line

def stripTags (line : List Char) : List Char :=
  (compileLine line).flatMap (·.text)

/-- The lines of a text, which is cut at every line feed. -/
def splitLines (text : List Char) : List (List Char) := pieces '\n' text

/-- The line without one carriage return at its end. -/
def dropReturn (line : List Char) : List Char :=
  if line.getLast? = some '\r' then line.dropLast else line

def compileDocument (text : List Char) : List (List Fragment) :=
  (splitLines text).map fun line => compileLine (dropReturn line)

end TaggedPage.Markup
