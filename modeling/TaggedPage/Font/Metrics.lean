import TaggedPage.Font.Container

/-! # Metrics tables

The tables that describe a face as a whole, and the advance widths of its
glyphs. All lengths are in the units of the face.
-/

namespace TaggedPage.Font

/-- The `head` table: the size of the em square and the box around all glyphs. -/
structure Head where
  unitsPerEm : Nat
  xMin : Int
  yMin : Int
  xMax : Int
  yMax : Int

/-- Reads a `head` table; its em square has 16 to 16384 units and its glyph
locations are in one of two formats. -/
def Head.read? (data : ByteArray) : Option Head := do
  if data.size < 54 then none
  else
    let units ← u16? data 18
    let locations ← u16? data 50
    if units < 16 ∨ 16384 < units ∨ 1 < locations then none
    else
      return ⟨units, ← i16? data 36, ← i16? data 38, ← i16? data 40, ← i16? data 42⟩

/-- The `hhea` table: vertical extent and the number of full width records. -/
structure Hhea where
  ascender : Int
  descender : Int
  metricCount : Nat

def Hhea.read? (data : ByteArray) : Option Hhea := do
  return ⟨← i16? data 4, ← i16? data 6, ← u16? data 34⟩

/-- The number of glyphs, which a `maxp` table of either version states; it is
never zero. -/
def glyphCount? (data : ByteArray) : Option Nat := do
  let version ← u32? data 0
  let count ← u16? data 4
  if (version = 0x5000 ∨ version = 0x10000) ∧ count ≠ 0 then some count else none

/-- The `hmtx` table: the advances of the first glyphs. All further glyphs of the
face share the last one. -/
structure Hmtx where
  advances : Array Nat
  glyphs : Nat

def Hmtx.read? (data : ByteArray) (metricCount glyphCount : Nat) : Option Hmtx := do
  if metricCount = 0 ∨ data.size < 4 * metricCount then none
  else
    let advances ← (List.range metricCount).mapM fun i => u16? data (4 * i)
    return ⟨advances.toArray, max metricCount glyphCount⟩

def Hmtx.advance? (h : Hmtx) (glyph : Nat) : Option Nat :=
  if h.glyphs ≤ glyph then none
  else (h.advances[glyph]?).or h.advances.back?

/-- The `OS/2` table, kept as it lies in the file once its length is known to fit
its version. -/
structure Os2 where
  version : Nat
  data : ByteArray

namespace Os2

/-- The least length of the table of each version. -/
def leastSize? : (version : Nat) → Option Nat
  | 0 => some 78
  | 1 => some 86
  | 2 | 3 | 4 => some 96
  | 5 => some 100
  | _ => none

def read? (data : ByteArray) : Option Os2 := do
  let version ← u16? data 0
  let size ← leastSize? version
  if data.size < size then none else some ⟨version, data⟩

/-- The bit of the selection flags with the given number. -/
def selects (t : Os2) (bit : Nat) : Bool := ((u16? t.data 62).getD 0).testBit bit

/-- A signed field of the table. -/
def field (t : Os2) (offset : Nat) : Int := (i16? t.data offset).getD 0

/-- Whether the typographic metrics replace those of `hhea`. -/
def usesTypographic (t : Os2) : Bool := 4 ≤ t.version && t.selects 7

def typographicAscender (t : Os2) : Int := t.field 68
def typographicDescender (t : Os2) : Int := t.field 70
def windowsAscender (t : Os2) : Int := t.field 74

/-- The extent below the base line, which the table gives without its sign. The
least number has no counterpart and stays as it is. -/
def windowsDescender (t : Os2) : Int :=
  if t.field 76 = -32768 then -32768 else -t.field 76

/-- The height of capital letters, which the table has from version 2 on. -/
def capHeight? (t : Os2) : Option Int := if t.version < 2 then none else i16? t.data 88

def weight (t : Os2) : Nat := (u16? t.data 4).getD 0

/-- The width class from one to nine; any other value stands for the middle one. -/
def width (t : Os2) : Nat :=
  let n := (u16? t.data 6).getD 0
  if 1 ≤ n ∧ n ≤ 9 then n else 5

end Os2

/-- The first choice of the `OS/2` metrics, or the `hhea` value, or, where that is
zero, the other values of `OS/2` in turn. -/
def verticalExtent (os2 : Option Os2) (hhea : Int) (typographic windows : Os2 → Int) : Int :=
  match os2 with
  | none => hhea
  | some t =>
    if t.usesTypographic then typographic t
    else if hhea ≠ 0 then hhea
    else if typographic t ≠ 0 then typographic t
    else windows t

/-- Whether a `post` table is valid and marks the face as monospaced. Version 2
must also hold its list of glyph names. -/
def isMonospaced (post : ByteArray) : Bool :=
  match u32? post 0, u32? post 12 with
  | some version, some fixed =>
    let named : Bool :=
      match u16? post 32 with
      | some count => 34 + 2 * count ≤ post.size
      | none => false
    let valid : Bool :=
      version = 0x10000 || version = 0x25000 || version = 0x30000 || version = 0x40000 ||
        (version = 0x20000 && named)
    32 ≤ post.size && valid && fixed != 0
  | _, _ => false

end TaggedPage.Font
