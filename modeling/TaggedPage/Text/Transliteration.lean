import TaggedPage.Text.Transliteration.Alphabet
import TaggedPage.Text.Transliteration.Caucasian
import TaggedPage.Text.Transliteration.Cyrillic
import TaggedPage.Text.Transliteration.Greek
import TaggedPage.Text.Transliteration.Han
import TaggedPage.Text.Transliteration.Hangul
import TaggedPage.Text.Transliteration.Indic
import TaggedPage.Text.Transliteration.Insular
import TaggedPage.Text.Transliteration.Kana
import TaggedPage.Text.Transliteration.Latin
import TaggedPage.Text.Transliteration.Pictograph
import TaggedPage.Text.Transliteration.RareHan
import TaggedPage.Text.Transliteration.Semitic
import TaggedPage.Text.Transliteration.Sign
import TaggedPage.Text.Transliteration.SoutheastAsian
import TaggedPage.Text.Transliteration.Styled
import TaggedPage.Text.Transliteration.Syllabic

/-! # Transliteration

Spellings of characters beyond ASCII in ASCII letters, for names that must be plain. A
character is spelled by itself, whatever stands beside it.
-/

namespace TaggedPage.Transliteration

def rows : List Row :=
  latinRows ++ greekRows ++ cyrillicRows ++ signRows ++ semiticRows ++ indicRows ++ kanaRows ++
    hangulRows ++ southeastAsianRows ++ caucasianRows ++ syllabicRows ++ alphabetRows ++
    insularRows ++ mathematicalRows

/-- The first and last characters of the ranges that hold only controls, marks upon the
letter before them, and selectors of its form. -/
def silentRanges : List (Nat × Nat) :=
  [(0x80, 0x9F), (0x300, 0x362), (0x483, 0x489), (0x591, 0x5AF), (0x610, 0x61A), (0x1AB0, 0x1AFF),
   (0x1DC0, 0x1DFF), (0x20D0, 0x20F0), (0xFE00, 0xFE0F), (0xFE20, 0xFE2F), (0xFEFF, 0xFEFF)]

/-- The spelling of a character, if it has one. ASCII characters stand for themselves. -/
def spelling? (c : Char) : Option String :=
  let n := c.toNat
  if n < 0x80 then some (String.singleton c)
  else if silentRanges.any fun (first, last) => first ≤ n && n ≤ last then some ""
  else
    pictograph? c <|> rows.findSome? (·.spelling? n) <|>
      alphabets.findSome? (·.spelling? n) <|> Hangul.syllable? n <|> hanReading? c <|>
      rareHanReading? c

end TaggedPage.Transliteration
