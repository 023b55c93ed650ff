import TaggedPage.Font.Bytes

/-! # Names of a face

The `name` table lists texts for a face, each for one platform, encoding and
language and with an identifier of its purpose. Texts in a Unicode encoding are
in UTF-16; those of the Roman script of one further platform are in an eight-bit
encoding of its own.
-/

namespace TaggedPage.Font

/-- One record of a `name` table with the bytes of its text. -/
structure NameRecord where
  platform : Nat
  encoding : Nat
  language : Nat
  purpose : Nat
  text : ByteArray

/-- The family name in the common scheme of four faces. -/
def familyName : Nat := 1

/-- The name by which documents refer to the face. -/
def postScriptName : Nat := 6

/-- The family name of a larger family. -/
def typographicFamilyName : Nat := 16

/-- The name records from `index` on, up to the first one that cannot be read. -/
def nameRecordsFrom (data storage : ByteArray) (start index : Nat) : (count : Nat) → List NameRecord
  | 0 => []
  | count + 1 =>
    let base := start + 12 * index
    let record : Option NameRecord := do
      let platform ← u16? data base
      let encoding ← u16? data (base + 2)
      let language ← u16? data (base + 4)
      let purpose ← u16? data (base + 6)
      let length ← u16? data (base + 8)
      let offset ← u16? data (base + 10)
      let text ← slice? storage offset length
      if 4 < platform then none else return ⟨platform, encoding, language, purpose, text⟩
    match record with
    | none => []
    | some record => record :: nameRecordsFrom data storage start (index + 1) count

/-- The records of a `name` table. In the second version of the table a list of
language tags is skipped before the records. The texts begin at the stated offset,
or behind the records if that is further. -/
def nameRecords? (data : ByteArray) : Option (List NameRecord) := do
  let version ← u16? data 0
  let count ← u16? data 2
  let storageOffset ← u16? data 4
  let start ←
    match version with
    | 0 => some 6
    | 1 => do
      let tags ← u16? data 6
      if 0x10000 ≤ 4 * tags then none else some (8 + 4 * tags)
    | _ => none
  if data.size < start + 12 * count then none
  else
    let storage ← from? data (max storageOffset (start + 12 * count))
    return nameRecordsFrom data storage start 0 count

/-- The characters that UTF-16 units spell, if surrogates stand in pairs only. -/
def utf16? : List Nat → Option (List Char)
  | [] => some []
  | unit :: rest =>
    if 0xD800 ≤ unit ∧ unit ≤ 0xDBFF then
      match rest with
      | low :: rest =>
        if 0xDC00 ≤ low ∧ low ≤ 0xDFFF then
          (utf16? rest).map
            (Char.ofNat (0x10000 + (unit - 0xD800) * 0x400 + (low - 0xDC00)) :: ·)
        else none
      | [] => none
    else if 0xDC00 ≤ unit ∧ unit ≤ 0xDFFF then none
    else (utf16? rest).map (Char.ofNat unit :: ·)

/-- The 16-bit units of a text; a last odd byte is dropped. -/
def units16 : List UInt8 → List Nat
  | high :: low :: rest => (256 * high.toNat + low.toNat) :: units16 rest
  | _ => []

/-- The characters of the codes from 128 to 255 of the Roman eight-bit encoding. -/
def romanUpper : List Char :=
  ['\u00C4', '\u00C5', '\u00C7', '\u00C9', '\u00D1', '\u00D6', '\u00DC', '\u00E1',
   '\u00E0', '\u00E2', '\u00E4', '\u00E3', '\u00E5', '\u00E7', '\u00E9', '\u00E8',
   '\u00EA', '\u00EB', '\u00ED', '\u00EC', '\u00EE', '\u00EF', '\u00F1', '\u00F3',
   '\u00F2', '\u00F4', '\u00F6', '\u00F5', '\u00FA', '\u00F9', '\u00FB', '\u00FC',
   '\u2020', '\u00B0', '\u00A2', '\u00A3', '\u00A7', '\u2022', '\u00B6', '\u00DF',
   '\u00AE', '\u00A9', '\u2122', '\u00B4', '\u00A8', '\u2260', '\u00C6', '\u00D8',
   '\u221E', '\u00B1', '\u2264', '\u2265', '\u00A5', '\u00B5', '\u2202', '\u2211',
   '\u220F', '\u03C0', '\u222B', '\u00AA', '\u00BA', '\u03A9', '\u00E6', '\u00F8',
   '\u00BF', '\u00A1', '\u00AC', '\u221A', '\u0192', '\u2248', '\u2206', '\u00AB',
   '\u00BB', '\u2026', '\u00A0', '\u00C0', '\u00C3', '\u00D5', '\u0152', '\u0153',
   '\u2013', '\u2014', '\u201C', '\u201D', '\u2018', '\u2019', '\u00F7', '\u25CA',
   '\u00FF', '\u0178', '\u2044', '\u20AC', '\u2039', '\u203A', '\uFB01', '\uFB02',
   '\u2021', '\u00B7', '\u201A', '\u201E', '\u2030', '\u00C2', '\u00CA', '\u00C1',
   '\u00CB', '\u00C8', '\u00CD', '\u00CE', '\u00CF', '\u00CC', '\u00D3', '\u00D4',
   '\uF8FF', '\u00D2', '\u00DA', '\u00DB', '\u00D9', '\u0131', '\u02C6', '\u02DC',
   '\u00AF', '\u02D8', '\u02D9', '\u02DA', '\u00B8', '\u02DD', '\u02DB', '\u02C7']

/-- A code of the Roman eight-bit encoding. Below 128 it is ASCII, but for the four
codes of the signs on modifier keys. -/
def romanChar (code : UInt8) : Char :=
  match code with
  | 0x11 => '\u2318'
  | 0x12 => '\u21E7'
  | 0x13 => '\u2325'
  | 0x14 => '\u2303'
  | _ =>
    if code.toNat < 128 then Char.ofNat code.toNat
    else romanUpper.getD (code.toNat - 128) '?'

def decodeRoman (bytes : List UInt8) : List Char := bytes.map romanChar

namespace NameRecord

def isUnicode (r : NameRecord) : Bool :=
  r.platform = 0 || (r.platform = 3 && (r.encoding = 0 || r.encoding = 1))

def isRoman (r : NameRecord) : Bool := r.platform = 1 && r.encoding = 0

/-- Whether the text is in the English of the United States. -/
def isEnglish (r : NameRecord) : Bool :=
  (r.platform = 3 && r.language = 0x409) || (r.isRoman && r.language = 0)

def unicode? (r : NameRecord) : Option (List Char) :=
  if r.isUnicode then utf16? (units16 r.text.data.toList) else none

def text? (r : NameRecord) : Option (List Char) :=
  if r.isUnicode then r.unicode?
  else if r.isRoman then some (decodeRoman r.text.data.toList)
  else none

end NameRecord

end TaggedPage.Font
