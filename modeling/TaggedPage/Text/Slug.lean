import TaggedPage.Text.Transliteration

/-! # Slugs

A slug is a name of lower-case ASCII letters and digits in words joined by single
hyphens, without a hyphen at either end; it may be empty.
-/

namespace TaggedPage.Slug

/-- Whether a character may stand in a word of a slug. -/
def isWordChar (c : Char) : Bool := ('a' ≤ c && c ≤ 'z') || ('0' ≤ c && c ≤ '9')

/-- The words of an ASCII text in lower case, with a hyphen between two of them where
anything else stood. `started` holds once a character was kept, and `pending` where
something was left out since. -/
def joinWords (started pending : Bool) : List Char → List Char
  | [] => []
  | c :: rest =>
    let lower := c.toLower
    if isWordChar lower then
      if started && pending then '-' :: lower :: joinWords true false rest
      else lower :: joinWords true false rest
    else joinWords started true rest

/-- A character in ASCII; one that has no spelling separates words. -/
def spell (c : Char) : List Char := ((Transliteration.spelling? c).getD "-").toList

def ofText (text : List Char) : List Char := joinWords false false (text.flatMap spell)

end TaggedPage.Slug
