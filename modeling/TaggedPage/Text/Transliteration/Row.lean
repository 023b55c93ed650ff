/-! # Rows of spellings

A row holds the spellings of characters that follow each other, and is written as a
text in which blanks divide them. In such a text `_` is the empty spelling, `~` stands
for a blank within a spelling, and `-` is the spelling of a sign without letters.
-/

namespace TaggedPage.Transliteration

/-- The spellings of consecutive characters. -/
structure Row where
  first : Nat
  spellings : Array String

namespace Row

/-- A spelling from the text of a row. -/
def readSpelling (word : String) : String :=
  if word = "_" then "" else word.map fun c => if c = '~' then ' ' else c

def ofLines (first : Nat) (lines : List String) : Row :=
  ⟨first, (lines.flatMap fun line => (line.splitOn " ").map readSpelling).toArray⟩

/-- The spelling of a character, if it stands in the row. -/
def spelling? (r : Row) (n : Nat) : Option String :=
  if n < r.first then none else r.spellings[n - r.first]?

end Row

end TaggedPage.Transliteration
