import TaggedPage.Font.Bytes

/-! # Font containers

A font file is either a single font or a collection of fonts that share their
data. Each font has a directory of tagged tables. `Directory.ofFile` finds the
directory of one font, and its two look-ups differ on damaged directories:
`table?` goes through all records and lets the last one of a tag decide, while
`sortedTable?` searches as if the records were in ascending order.
-/

namespace TaggedPage.Font

/-- Why font data has no usable face. -/
inductive FaceError where
  | unknownMagic
  | malformed
  | indexOutOfBounds
  | badHead
  | badHhea
  | badMaxp
  deriving DecidableEq, Repr

def FaceError.message : FaceError → String
  | .unknownMagic => "unknown magic"
  | .malformed => "malformed font"
  | .indexOutOfBounds => "face index is out of bounds"
  | .badHead => "the head table is missing or malformed"
  | .badHhea => "the hhea table is missing or malformed"
  | .badMaxp => "the maxp table is missing or malformed"

/-- A table of a font: its tag and where its bytes lie in the file. -/
structure TableRecord where
  tag : Nat
  offset : Nat
  length : Nat
  deriving DecidableEq, Repr

/-- The tables of one font of a file. -/
structure Directory where
  data : ByteArray
  records : Array TableRecord

/-- What the first four bytes of a font say about it. -/
inductive Magic where
  | single
  | collection
  deriving DecidableEq, Repr

def magic? (data : ByteArray) (offset : Nat) : Option Magic :=
  match u32? data offset with
  | some 0x00010000 => some .single
  | some 0x74727565 => some .single
  | some 0x4F54544F => some .single
  | some 0x74746366 => some .collection
  | _ => none

def tableRecord? (data : ByteArray) (offset : Nat) : Option TableRecord := do
  let tag ← u32? data offset
  let start ← u32? data (offset + 8)
  let length ← u32? data (offset + 12)
  return ⟨tag, start, length⟩

/-- The number of faces of a collection whose list of offsets fits the data. -/
def collectionSize? (data : ByteArray) : Option Nat := do
  let count ← u32? data 8
  if 12 + 4 * count ≤ data.size then some count else none

namespace Directory

/-- The directory that stands behind the magic number of a font. -/
def readAt (data : ByteArray) (offset : Nat) : Except FaceError Directory :=
  match u16? data offset with
  | none => .error .malformed
  | some count =>
    if data.size < offset + 8 + 16 * count then .error .malformed
    else
      match (List.range count).mapM fun i => tableRecord? data (offset + 8 + 16 * i) with
      | none => .error .malformed
      | some records => .ok ⟨data, records.toArray⟩

def ofCollection (data : ByteArray) (index : Nat) : Except FaceError Directory :=
  match collectionSize? data with
  | none => .error .malformed
  | some count =>
    if count ≤ index then .error .indexOutOfBounds
    else
      match u32? data (12 + 4 * index) with
      | none => .error .malformed
      | some offset =>
        if offset < 12 + 4 * count ∨ data.size < offset then .error .malformed
        else
          match magic? data offset with
          | some .single => readAt data (offset + 4)
          | _ => .error .unknownMagic

/-- The directory of the face with the given index; a single font has index zero
alone. -/
def ofFile (data : ByteArray) (index : Nat) : Except FaceError Directory :=
  match magic? data 0 with
  | none => .error .unknownMagic
  | some .single => if index = 0 then readAt data 4 else .error .indexOutOfBounds
  | some .collection => ofCollection data index

/-- The bytes of a table, from the last record with the tag. -/
def table? (d : Directory) (tag : String) : Option ByteArray := do
  let record ← d.records.findRev? (·.tag = tagOf tag)
  slice? d.data record.offset record.length

/-- The bytes of a table, found by bisection of the records. -/
def sortedTable? (d : Directory) (tag : String) : Option ByteArray := do
  let wanted := tagOf tag
  let i ← bisect (fun i => (d.records[i]?).map fun r => compare r.tag wanted) d.records.size
  let record ← d.records[i]?
  slice? d.data record.offset record.length

end Directory

/-- The number of faces to look for in a file. -/
def faceCount (data : ByteArray) : Nat :=
  match magic? data 0 with
  | some .single => 1
  | some .collection => (collectionSize? data).getD 0
  | none => 0

end TaggedPage.Font
