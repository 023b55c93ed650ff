import TaggedPage.Font.Standard
import TaggedPage.Font.TrueType

/-! # Faces

A face is built in or read from a font file. Either way it has a name and an
advance for every code, and the width of a text is the sum of the advances of its
codes, scaled to the size.
-/

namespace TaggedPage.Font

/-- A face to measure and draw with. -/
inductive Face where
  | standard (font : Standard)
  | trueType (font : TrueType)

namespace Face

def name : Face → String
  | .standard font => font.name
  | .trueType font => font.name

/-- The advance of a code in thousandths of the size. -/
def codeWidth : Face → UInt8 → UInt16
  | .standard font => font.codeWidth
  | .trueType font => font.codeWidth

/-- The sum of the advances of codes, in 32 bits. -/
def unitsOfCodes (f : Face) (codes : List UInt8) : UInt32 :=
  codes.foldl (fun sum code => sum + (f.codeWidth code).toUInt32) 0

/-- The width of a text in thousandths of the size. -/
def units (f : Face) (text : List Char) : UInt32 := f.unitsOfCodes (WinAnsi.encode text)

def widthOf (f : Face) (text : List Char) (size : Float32) : Float32 :=
  (f.units text).toFloat32 * size / 1000.0

end Face

end TaggedPage.Font
