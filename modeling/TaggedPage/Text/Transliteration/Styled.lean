import TaggedPage.Text.Transliteration.Row

/-! # Alphabets in other styles

Letters and digits that differ from the plain ones only in style: bold, italic, script
and double-struck ones of mathematics, wide ones, and those in squares.
-/

namespace TaggedPage.Transliteration

/-- Consecutive characters that stand for consecutive ASCII characters. -/
structure Alphabet where
  first : Nat
  plain : Char
  count : Nat

namespace Alphabet

/-- The plain form of a character, if it belongs to the alphabet. -/
def spelling? (a : Alphabet) (n : Nat) : Option String :=
  if a.first ≤ n ∧ n < a.first + a.count then
    some (String.singleton (Char.ofNat (a.plain.toNat + (n - a.first))))
  else none

/-- The capital letters from a place on, and the small ones behind them. -/
def letters (first : Nat) : List Alphabet := [⟨first, 'A', 26⟩, ⟨first + 26, 'a', 26⟩]

end Alphabet

def mathematicalLetters : List Nat :=
  [0x1D400, 0x1D434, 0x1D468, 0x1D49C, 0x1D4D0, 0x1D504, 0x1D538, 0x1D56C, 0x1D5A0, 0x1D5D4,
   0x1D608, 0x1D63C, 0x1D670]

def mathematicalDigits : List Nat := [0x1D7CE, 0x1D7D8, 0x1D7E2, 0x1D7EC, 0x1D7F6]

/-- The places of the decimal digits of scripts whose letters stand elsewhere. -/
def scriptDigits : List Nat :=
  [0x7C0, 0x1090, 0x1946, 0x19D0, 0x1A80, 0x1A90, 0x1B50, 0x1BB0, 0x1C40, 0x1C50, 0xA620,
   0xA8D0, 0xA900, 0xA9D0, 0xA9F0, 0xAA50, 0xABF0, 0x104A0, 0x10D30, 0x11066, 0x110F0,
   0x11136, 0x111D0, 0x112F0, 0x11450, 0x114D0, 0x11650, 0x116C0, 0x11730, 0x118E0, 0x11950,
   0x11C50, 0x11D50, 0x11DA0, 0x16A60, 0x16AC0, 0x16B50, 0x1E140, 0x1E2F0, 0x1E950, 0x1FBF0]

def alphabets : List Alphabet :=
  mathematicalLetters.flatMap Alphabet.letters ++
    (mathematicalDigits ++ scriptDigits).map (⟨·, '0', 10⟩) ++
    [⟨0xFF01, '!', 94⟩, ⟨0x1F110, 'A', 26⟩, ⟨0x1F130, 'A', 26⟩, ⟨0x1F150, 'A', 26⟩,
     ⟨0x1F170, 'A', 26⟩, ⟨0x1F1E6, 'A', 26⟩]

/-- The Greek letters of a mathematical alphabet. -/
def mathematicalGreek : List String :=
  ["A B G D E Z E Th I K L M N Ks O P R Th S T U Ph Kh Ps O V a b g d e z e th i k l m n x o p",
   "r s s t u ph kh ps o d e th k ph r p"]

/-- The Greek letters of mathematics in bold, italic and sans-serif styles. -/
def mathematicalRows : List Row :=
  [0x1D6A8, 0x1D6E2, 0x1D71C, 0x1D756, 0x1D790].map (Row.ofLines · mathematicalGreek)

end TaggedPage.Transliteration
