/-! # The WinAnsi encoding

All text is drawn in a one-byte encoding: ASCII and Latin-1 characters stand for
themselves, and the codes from 128 to 159 hold further letters and punctuation,
with five of them left undefined. A tab is drawn as a space, and a character
without a code as a question mark.
-/

namespace TaggedPage.WinAnsi

/-- The characters of the codes from 128 to 159. -/
def upper : List (Option Char) :=
  [some '\u20AC', none, some '\u201A', some '\u0192',
   some '\u201E', some '\u2026', some '\u2020', some '\u2021',
   some '\u02C6', some '\u2030', some '\u0160', some '\u2039',
   some '\u0152', none, some '\u017D', none,
   none, some '\u2018', some '\u2019', some '\u201C',
   some '\u201D', some '\u2022', some '\u2013', some '\u2014',
   some '\u02DC', some '\u2122', some '\u0161', some '\u203A',
   some '\u0153', none, some '\u017E', some '\u0178']

/-- The code drawn for a character without a code of its own. -/
def replacement : UInt8 := 63

/-- Whether a character stands for itself. -/
def isDirect (c : Char) : Bool :=
  (0x20 ≤ c.toNat && c.toNat ≤ 0x7E) || (0xA0 ≤ c.toNat && c.toNat ≤ 0xFF)

def code? (c : Char) : Option UInt8 :=
  if isDirect c then some (UInt8.ofNat c.toNat)
  else (upper.findIdx? (· == some c)).map fun i => UInt8.ofNat (0x80 + i)

def encodeChar (c : Char) : UInt8 :=
  if c = '\t' then 32 else (code? c).getD replacement

def encode (text : List Char) : List UInt8 := text.map encodeChar

/-- The character that a code stands for, if the encoding defines it. -/
def decode? (code : UInt8) : Option Char :=
  let n := code.toNat
  if (0x20 ≤ n && n ≤ 0x7E) || 0xA0 ≤ n then some (Char.ofNat n)
  else if 0x80 ≤ n && n ≤ 0x9F then upper.getD (n - 0x80) none
  else none

@[simp] theorem encode_nil : encode [] = [] := rfl

@[simp] theorem encode_cons (c : Char) (text : List Char) :
    encode (c :: text) = encodeChar c :: encode text := rfl

@[simp] theorem encode_append (s t : List Char) : encode (s ++ t) = encode s ++ encode t := by
  simp [encode]

@[simp] theorem length_encode (text : List Char) : (encode text).length = text.length := by
  simp [encode]

end TaggedPage.WinAnsi
