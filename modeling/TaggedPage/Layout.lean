import TaggedPage.Markup.Fragment

/-! # Layout

Fragments are placed line by line from the top of the page, each behind the one
before it, without wrapping. A line stands below the largest top margin of its
fragments, and the next line follows below the line height and the largest bottom
margin. A fragment is placed behind its left margin and advances the position by
its width and its right margin; one without text draws nothing but advances the
position all the same.

The width of a text is given as a function of the variant and size it is drawn
with, so that what is measured is what is drawn. All sums are in single precision
and in the order in which they are written here.
-/

namespace TaggedPage.Layout

open Markup (Fragment)

/-- The width of a text in a variant at a size. -/
abbrev Measure := List Char → Variant → Float32 → Float32

/-- The values of a document on which layout depends. -/
structure Settings where
  baseFontSize : Float32
  lineHeight : Float32
  leftMargin : Float32
  topMargin : Float32
  pageHeight : Float32
  defaultColor : Color

/-- A text with its position and everything needed to draw it. -/
structure Placement where
  text : List Char
  x : Float32
  y : Float32
  variant : Variant
  size : Float32
  color : Color

/-- The position at which writing goes on. -/
structure Cursor where
  x : Float32
  y : Float32

/-- The larger of two numbers, and the second one of two equal ones, which may differ in
the sign of a zero. What is not a number is passed over in the second place. -/
def larger (a b : Float32) : Float32 := if a ≤ b then b else a

/-- The largest margin of a line at one edge, and at least zero. -/
def lineMargin (edge : Edge) (line : List Fragment) : Float32 :=
  (line.map (·.style.margins.orZero edge)).foldl larger 0

variable (s : Settings) (measure : Measure)

def sizeOf (f : Fragment) : Float32 := f.style.fontSize.getD s.baseFontSize

/-- The distance from a fragment's position to that of the next one. -/
def advance (f : Fragment) : Float32 :=
  measure f.text f.variant (sizeOf s f) + f.style.margins.orZero .right

/-- The placement of a fragment at a position, if it has text. -/
def place (x y : Float32) (f : Fragment) : List Placement :=
  if f.text.isEmpty then []
  else
    [{ text := f.text
       x := x + f.style.margins.orZero .left
       y
       variant := f.variant
       size := sizeOf s f
       color := f.style.color.getD s.defaultColor }]

def placeFrom (x y : Float32) : List Fragment → List Placement
  | [] => []
  | f :: rest => place s x y f ++ placeFrom (x + advance s measure f) y rest

/-- The position behind fragments that begin at a position. -/
def advanceAll (x : Float32) (line : List Fragment) : Float32 :=
  line.foldl (fun x f => x + advance s measure f) x

/-- The position before the first line. -/
def start : Cursor := ⟨s.leftMargin, s.pageHeight - s.topMargin⟩

/-- The base line of a line that begins at height `y`. -/
def baseline (y : Float32) (line : List Fragment) : Float32 := y - lineMargin .top line

/-- The height behind a line that begins at height `y`. -/
def nextHeight (y : Float32) (line : List Fragment) : Float32 :=
  baseline y line - (s.lineHeight + lineMargin .bottom line)

/-- The placements of a line that begins at height `y`. -/
def placeLine (y : Float32) (line : List Fragment) : List Placement :=
  placeFrom s measure s.leftMargin (baseline y line) line

def afterLine (c : Cursor) (line : List Fragment) : Cursor :=
  ⟨advanceAll s measure s.leftMargin line, nextHeight s c.y line⟩

/-- The placements of lines of which the first begins at height `y`. -/
def placeLines (y : Float32) : List (List Fragment) → List Placement
  | [] => []
  | line :: rest => placeLine s measure y line ++ placeLines (nextHeight s y line) rest

def placeDocument (lines : List (List Fragment)) : List Placement :=
  placeLines s measure (start s).y lines

end TaggedPage.Layout
