import TaggedPage.Color
import TaggedPage.Font.Cmap
import TaggedPage.Font.Metrics
import TaggedPage.Font.Names
import TaggedPage.Number.Binary
import TaggedPage.Text.Quoted
import TaggedPage.Text.WinAnsi
import TaggedPage.Variant

/-! # TrueType faces

A parsed face keeps its file, for embedding, and the metrics that a page needs,
in thousandths of the em square: an advance for every code of the WinAnsi
encoding, the vertical extent, and the box around all glyphs. A code takes the
advance of its character's glyph, of glyph zero where the face has no glyph for
it, and none at all where the encoding defines no character.

A face that varies along axes (`fvar`) is taken as its other tables stand: what `HVAR`, `MVAR` or
`gvar` add to advances and heights at the default place on the axes is left out.
-/

namespace TaggedPage.Font

/-- The first code with an advance of its own. -/
def firstCode : Nat := 32

/-- The last code with an advance of its own. -/
def lastCode : Nat := 255

/-- A face of a font file with its metrics in thousandths of the em square. -/
structure TrueType where
  name : String
  data : ByteArray
  /-- The advances of the codes from `firstCode` to `lastCode`. -/
  widths : List UInt16
  ascent : Float32
  descent : Float32
  capHeight : Float32
  xMin : Float32
  yMin : Float32
  xMax : Float32
  yMax : Float32
  italicAngle : Float32
  fixedPitch : Bool

/-- The tables of a face, as far as they are used. -/
structure FaceTables where
  head : Head
  hhea : Hhea
  hmtx : Option Hmtx
  maps : List Charmap
  os2 : Option Os2
  names : List NameRecord
  monospaced : Bool

/-- Reads the tables of a face. The three tables without which there is no face are
looked at in this order; any other may be missing. -/
def FaceTables.read (d : Directory) : Except FaceError FaceTables :=
  match (d.table? "head").bind Head.read? with
  | none => .error .badHead
  | some head =>
    match (d.table? "hhea").bind Hhea.read? with
    | none => .error .badHhea
    | some hhea =>
      match (d.table? "maxp").bind glyphCount? with
      | none => .error .badMaxp
      | some glyphs =>
        .ok
          { head
            hhea
            hmtx := (d.table? "hmtx").bind fun data => Hmtx.read? data hhea.metricCount glyphs
            maps := ((d.table? "cmap").map charmaps).getD []
            os2 := (d.table? "OS/2").bind Os2.read?
            names := ((d.table? "name").bind nameRecords?).getD []
            monospaced := ((d.table? "post").map isMonospaced).getD false }

/-- A length in units of the face as a number. -/
def unitsToSingle (units : Int) : Float32 :=
  Number.nearest32 (decide (units < 0)) units.natAbs 1

namespace FaceTables

variable (t : FaceTables)

/-- A length in thousandths of the em square, rounded to a whole number. -/
def thousandths (units : Int) : Float32 :=
  Number.roundHalfAway (unitsToSingle units * (1000.0 / unitsToSingle t.head.unitsPerEm))

def advance? (glyph : Nat) : Option Nat := t.hmtx.bind (·.advance? glyph)

/-- The advance of a character: of its own glyph, or else of glyph zero. -/
def charAdvance (c : Char) : Nat :=
  (((glyphOf? t.maps c).bind t.advance?).or (t.advance? 0)).getD 0

/-- The advance of a code in thousandths of the em square. -/
def codeAdvance (code : UInt8) : UInt16 :=
  match WinAnsi.decode? code with
  | some c => (t.thousandths (t.charAdvance c)).toUInt16
  | none => 0

def ascender : Int :=
  verticalExtent t.os2 t.hhea.ascender Os2.typographicAscender Os2.windowsAscender

def descender : Int :=
  verticalExtent t.os2 t.hhea.descender Os2.typographicDescender Os2.windowsDescender

end FaceTables

def isNameChar (c : Char) : Bool :=
  c.isAlphanum || c = '-' || c = '_' || c = '+' || c = '.'

/-- The name under which a face is embedded: its first PostScript name in Unicode,
without the characters that may not stand in a name. -/
def embeddedName (names : List NameRecord) (variant : Variant) : String :=
  let found := (names.find? fun r => r.purpose = postScriptName && r.isUnicode).bind
    NameRecord.unicode?
  match (found.getD []).filter isNameChar with
  | [] => "Tagpress-" ++ variant.name
  | name => String.ofList name

namespace TrueType

/-- The face that tables describe, for use as the given variant. -/
def ofTables (variant : Variant) (data : ByteArray) (t : FaceTables) : TrueType :=
  let ascent := t.thousandths t.ascender
  { name := embeddedName t.names variant
    data
    widths := (List.range (lastCode + 1 - firstCode)).map fun i =>
      t.codeAdvance (UInt8.ofNat (firstCode + i))
    ascent
    descent := t.thousandths t.descender
    capHeight := ((t.os2.bind Os2.capHeight?).map t.thousandths).getD ascent
    xMin := t.thousandths t.head.xMin
    yMin := t.thousandths t.head.yMin
    xMax := t.thousandths t.head.xMax
    yMax := t.thousandths t.head.yMax
    italicAngle := if variant.isItalic then -12.0 else 0.0
    fixedPitch := t.monospaced }

/-- The first face of a font file, for use as the given variant. -/
def read (variant : Variant) (data : ByteArray) : Except FaceError TrueType := do
  let directory ← Directory.ofFile data 0
  return ofTables variant data (← FaceTables.read directory)

/-- The advance of a code, zero where the face has none. -/
def codeWidth (f : TrueType) (code : UInt8) : UInt16 :=
  if code.toNat < firstCode then 0 else f.widths.getD (code.toNat - firstCode) 0

/-- A one-line description of a face that leaves out its bytes. -/
def summary (f : TrueType) : String :=
  "TrueTypeFont \x7b postscript_name: " ++ Quoted.quote f.name ++ ", data_len: " ++
    toString f.data.size ++ " \x7d"

@[simp] theorem length_widths_ofTables (variant : Variant) (data : ByteArray) (t : FaceTables) :
    (ofTables variant data t).widths.length = lastCode + 1 - firstCode := by
  simp [ofTables]

end TrueType

end TaggedPage.Font
