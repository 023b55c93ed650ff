/-! # Pieces of a text

A text, of characters or of bytes, cut at every occurrence of one of them. There is one
piece more than there are occurrences.
-/

namespace TaggedPage

variable {α : Type} [DecidableEq α]

/-- The pieces of a text between the occurrences of `separator`. -/
def pieces (separator : α) : List α → List (List α)
  | [] => [[]]
  | c :: rest =>
    if c = separator then [] :: pieces separator rest
    else
      match pieces separator rest with
      | [] => [[c]]
      | piece :: others => (c :: piece) :: others

theorem pieces_ne_nil (separator : α) (text : List α) : pieces separator text ≠ [] := by
  cases text with
  | nil => simp [pieces]
  | cons c rest =>
    unfold pieces
    split
    · simp
    · split <;> simp

theorem length_pieces (separator : α) (text : List α) :
    (pieces separator text).length = text.count separator + 1 := by
  induction text with
  | nil => rfl
  | cons c rest ih =>
    have nonempty := pieces_ne_nil separator rest
    unfold pieces
    split
    · next h => simp [h, ih]
    · next h =>
      split
      · next none => exact absurd none nonempty
      · next some => simp [some] at ih; simp [h, ih]

end TaggedPage
