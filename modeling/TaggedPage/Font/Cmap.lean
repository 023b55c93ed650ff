import TaggedPage.Font.Container

/-! # Character maps

The `cmap` table maps characters to glyphs through subtables, each for one
platform and encoding and in one of several formats. The subtables are tried in
order; only those for Unicode count, and the first that knows the character
answers. A subtable that cannot be read ends the search.
-/

namespace TaggedPage.Font

/-- A run of characters with the glyph of the first one. -/
structure GlyphGroup where
  first : Nat
  last : Nat
  glyph : Nat

/-- The characters with one high byte: the low bytes that have glyphs, a delta, and where their
glyphs are listed, counted from behind the field that says so. -/
structure ByteRange where
  first : Nat
  count : Nat
  delta : Int
  offset : Nat

/-- One subtable of a character map. -/
inductive Charmap where
  /-- One glyph for each of 256 characters, where glyph zero stands for none. -/
  | bytes (glyphs : Array Nat)
  /-- Ranges of low bytes; `keys` has eight times the number of the range for each high byte. -/
  | highBytes (data : ByteArray) (keys : Array Nat) (ranges : Array ByteRange)
  /-- Segments with a delta or a list of glyphs each, `rangeStart` bytes into `data`. -/
  | segments (data : ByteArray) (ends starts deltas offsets : Array Nat) (rangeStart : Nat)
  /-- Consecutive characters from `first` on. -/
  | trimmed (first : Nat) (glyphs : Array Nat)
  /-- Groups of consecutive characters, in ascending order, with consecutive glyphs. -/
  | runs (groups : Array GlyphGroup)
  /-- Groups of consecutive characters with one glyph for all of a group; the first
  group that holds a character counts. -/
  | shared (groups : List GlyphGroup)
  /-- A format that answers nothing. -/
  | silent

namespace Charmap

def u16s? (data : ByteArray) (offset count : Nat) : Option (Array Nat) := do
  if data.size < offset + 2 * count then none
  else return (← (List.range count).mapM fun i => u16? data (offset + 2 * i)).toArray

/-- The offset of the ranges of a subtable in format 2, which stand behind 256 keys. -/
def rangesStart : Nat := 518

/-- A range of low bytes by its number. -/
def byteRange? (data : ByteArray) (index : Nat) : Option ByteRange := do
  let start := rangesStart + 8 * index
  return ⟨← u16? data start, ← u16? data (start + 2), ← i16? data (start + 4),
    ← u16? data (start + 6)⟩

/-- The keys and the ranges of a subtable in format 2. -/
def readHighBytes? (data : ByteArray) : Option Charmap := do
  let keys ← u16s? data 6 256
  let ranges ← (List.range (keys.foldl max 0 / 8 + 1)).mapM (byteRange? data)
  return .highBytes data keys ranges.toArray

/-- Reads a list of variants, of which the records must be there and nothing else is used. -/
def readVariants? (data : ByteArray) : Option Charmap := do
  let count ← u32? data 6
  if data.size < 10 + 11 * count then none else return .silent

/-- The groups of a subtable: their number, and the groups behind it. -/
def groups? (data : ByteArray) : Option (List GlyphGroup) := do
  let count ← u32? data 12
  if data.size < 16 + 12 * count then none
  else
    (List.range count).mapM fun i => do
      let start := 16 + 12 * i
      return ⟨← u32? data start, ← u32? data (start + 4), ← u32? data (start + 8)⟩

def readSegments? (data : ByteArray) : Option Charmap := do
  let doubled ← u16? data 6
  if doubled < 2 then none
  else
    let count := doubled / 2
    let ends ← u16s? data 14 count
    let starts ← u16s? data (16 + 2 * count) count
    let deltas ← u16s? data (16 + 4 * count) count
    let rangeStart := 16 + 6 * count
    let offsets ← u16s? data rangeStart count
    return .segments data ends starts deltas offsets rangeStart

def read? (data : ByteArray) : Option Charmap := do
  match ← u16? data 0 with
  | 0 =>
    let glyphs ← slice? data 6 256
    return .bytes (glyphs.data.map UInt8.toNat)
  | 2 => readHighBytes? data
  | 4 => readSegments? data
  | 6 =>
    let first ← u16? data 6
    let count ← u16? data 8
    return .trimmed first (← u16s? data 10 count)
  | 10 =>
    let first ← u32? data 12
    let count ← u32? data 16
    return .trimmed first (← u16s? data 20 count)
  | 12 => return .runs (← groups? data).toArray
  | 13 => return .shared (← groups? data)
  | 14 => readVariants? data
  | 8 => return .silent
  | _ => none

/-- The glyph of a character among ranges of low bytes. A listed glyph with its delta is a signed
number and must not come out negative. -/
def highByteGlyph? (data : ByteArray) (keys : Array Nat) (ranges : Array ByteRange) (code : Nat) :
    Option Nat := do
  let index ← if code < 0xFF then some 0 else (keys[code / 256]?).map (· / 8)
  let range ← ranges[index]?
  let low := code % 256
  let behind := range.first + range.count
  if 0x10000 ≤ behind ∨ low < range.first ∨ behind ≤ low then none
  else
    let field := rangesStart + 8 * index + 6
    let listed ← u16? data (field + range.offset + 2 * (low - range.first))
    let glyph := (listed + range.delta).tmod 0x10000
    if listed = 0 ∨ glyph < 0 then none else some glyph.toNat

/-- The glyph of a character in one segment. A delta is added modulo 2¹⁶; a listed
glyph with its delta is a signed number and must not come out negative. -/
def segmentGlyph? (data : ByteArray) (code start delta offset position : Nat) : Option Nat :=
  if offset = 0 then some ((code + delta) % 0x10000)
  else if offset = 0xFFFF then none
  else do
    let listed ← u16? data ((position + 2 * (code - start) + offset) % 0x10000)
    let glyph := (listed + delta) % 0x10000
    if listed = 0 ∨ 0x8000 ≤ glyph then none else some glyph

/-- The glyph of a character among segments in ascending order, between the
segments `low` and `high`. -/
def searchSegments? (data : ByteArray) (ends starts deltas offsets : Array Nat)
    (rangeStart code : Nat) : (fuel low high : Nat) → Option Nat
  | 0, _, _ => none
  | fuel + 1, low, high =>
    if high ≤ low then none
    else do
      let middle := (low + high) / 2
      if (← ends[middle]?) < code then
        searchSegments? data ends starts deltas offsets rangeStart code fuel (middle + 1) high
      else
        let start ← starts[middle]?
        if code < start then
          searchSegments? data ends starts deltas offsets rangeStart code fuel low middle
        else
          segmentGlyph? data code start (← deltas[middle]?) (← offsets[middle]?)
            (rangeStart + 2 * middle)

def runGlyph? (group : GlyphGroup) (code : Nat) : Option Nat :=
  let glyph := group.glyph + code - group.first
  if 0x100000000 ≤ group.glyph + code ∨ 0x10000 ≤ glyph then none else some glyph

def glyph? (map : Charmap) (code : Nat) : Option Nat :=
  match map with
  | .bytes glyphs => (glyphs[code]?).filter (· ≠ 0)
  | .highBytes data keys ranges =>
    if 0x10000 ≤ code then none else highByteGlyph? data keys ranges code
  | .segments data ends starts deltas offsets rangeStart =>
    if 0x10000 ≤ code then none
    else
      searchSegments? data ends starts deltas offsets rangeStart code (starts.size + 1) 0
        starts.size
  | .trimmed first glyphs => if code < first then none else glyphs[code - first]?
  | .runs groups => do
    let order (group : GlyphGroup) : Ordering :=
      if code < group.first then .gt else if group.last < code then .lt else .eq
    let i ← bisect (fun i => (groups[i]?).map order) groups.size
    runGlyph? (← groups[i]?) code
  | .shared groups =>
    ((groups.find? fun group => group.first ≤ code && code ≤ group.last).map (·.glyph)).filter
      (· < 0x10000)
  | .silent => none

/-- Whether a subtable for this platform and encoding maps Unicode characters. The
encoding of the full repertoire counts only in a format with groups. -/
def isUnicode (map : Charmap) (platform encoding : Nat) : Bool :=
  platform = 0 || (platform = 3 && (encoding = 1 || (encoding = 10 &&
    match map with
    | .runs _ | .shared _ => true
    | _ => false)))

end Charmap

/-- The Unicode subtables of a `cmap` table from record `index` on, up to the first
record that cannot be read. -/
def charmapsFrom (data : ByteArray) (index : Nat) : (count : Nat) → List Charmap
  | 0 => []
  | count + 1 =>
    let subtable : Option (Nat × Nat × Charmap) := do
      let platform ← u16? data (4 + 8 * index)
      let encoding ← u16? data (6 + 8 * index)
      let body ← from? data (← u32? data (8 + 8 * index))
      if 4 < platform then none else return (platform, encoding, ← Charmap.read? body)
    match subtable with
    | none => []
    | some (platform, encoding, map) =>
      let rest := charmapsFrom data (index + 1) count
      if map.isUnicode platform encoding then map :: rest else rest

def charmaps (data : ByteArray) : List Charmap :=
  match u16? data 2 with
  | some count => if data.size < 4 + 8 * count then [] else charmapsFrom data 0 count
  | none => []

/-- The glyph of a character: that of the first subtable that has one. -/
def glyphOf? (maps : List Charmap) (c : Char) : Option Nat :=
  maps.findSome? (·.glyph? c.toNat)

end TaggedPage.Font
