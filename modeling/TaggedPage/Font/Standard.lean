import TaggedPage.Variant

/-! # Built-in faces

Four faces of one sans-serif family are known to every reader of page
descriptions and need no font file. Their advances are tabled for the printable
ASCII codes; every other code has one fallback advance. Slanted faces share the
advances of the upright ones.
-/

namespace TaggedPage.Font

/-- Advances of the codes from 32 to 126 in the regular weight. -/
def regularWidths : List UInt16 :=
  [278, 278, 355, 556, 556, 889, 667, 191, 333, 333, 389, 584, 278, 333, 278, 278,
   556, 556, 556, 556, 556, 556, 556, 556, 556, 556, 278, 278, 584, 584, 584, 556,
   1015, 667, 667, 722, 722, 667, 611, 778, 722, 278, 500, 667, 556, 833, 722, 778,
   667, 778, 722, 667, 611, 722, 667, 944, 667, 667, 611, 278, 278, 278, 469, 556,
   333, 556, 556, 500, 556, 556, 278, 556, 556, 222, 222, 500, 222, 833, 556, 556,
   556, 556, 333, 500, 278, 556, 500, 722, 500, 500, 500, 334, 260, 334, 584]

/-- Advances of the codes from 32 to 126 in the bold weight. -/
def boldWidths : List UInt16 :=
  [278, 333, 474, 556, 556, 889, 722, 238, 333, 333, 389, 584, 278, 333, 278, 278,
   556, 556, 556, 556, 556, 556, 556, 556, 556, 556, 333, 333, 584, 584, 584, 611,
   975, 722, 722, 722, 722, 667, 611, 778, 722, 278, 556, 722, 611, 833, 722, 778,
   667, 778, 722, 667, 611, 722, 667, 944, 667, 667, 611, 333, 278, 333, 584, 556,
   333, 556, 611, 556, 611, 556, 333, 611, 611, 278, 278, 556, 278, 889, 611, 611,
   611, 611, 389, 556, 333, 611, 556, 778, 556, 556, 500, 389, 280, 389, 584]

/-- The advance of a code outside the tables. -/
def fallbackWidth : UInt16 := 556

/-- A face that is drawn by name. -/
structure Standard where
  name : String
  widths : List UInt16

namespace Standard

def helvetica : Variant → Standard
  | .normal => ⟨"Helvetica", regularWidths⟩
  | .bold => ⟨"Helvetica-Bold", boldWidths⟩
  | .italic => ⟨"Helvetica-Oblique", regularWidths⟩
  | .boldItalic => ⟨"Helvetica-BoldOblique", boldWidths⟩

def codeWidth (f : Standard) (code : UInt8) : UInt16 :=
  if code.toNat < 32 then fallbackWidth else f.widths.getD (code.toNat - 32) fallbackWidth

end Standard

end TaggedPage.Font
