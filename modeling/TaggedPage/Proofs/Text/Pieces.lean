import TaggedPage.Text.Pieces

/-! # Pieces of joined and of changed texts

The pieces of a text with a separator in it are those of its two parts. So a text is read line
by line (`line_induction`): it is one line, or a line, a line feed and a text.
-/

namespace TaggedPage

section Any

variable {α : Type} [DecidableEq α]

theorem pieces_of_not_mem {separator : α} {text : List α} (h : separator ∉ text) :
    pieces separator text = [text] := by
  induction text with
  | nil => rfl
  | cons c rest ih =>
    have hc : c ≠ separator := fun heq => h (heq ▸ List.mem_cons_self)
    rw [pieces, if_neg hc, ih fun hrest => h (List.mem_cons_of_mem c hrest)]

theorem pieces_append_separator (separator : α) (before after : List α) :
    pieces separator (before ++ separator :: after) =
      pieces separator before ++ pieces separator after := by
  induction before with
  | nil => simp [pieces]
  | cons c before ih =>
    rw [List.cons_append, pieces, pieces, ih]
    split
    · rfl
    · cases hpieces : pieces separator before with
      | nil => exact absurd hpieces (pieces_ne_nil separator before)
      | cons piece others => rfl

theorem pieces_map {φ : α → α} {separator : α}
    (h : ∀ c, φ c = separator ↔ c = separator) (text : List α) :
    pieces separator (text.map φ) = (pieces separator text).map (List.map φ) := by
  induction text with
  | nil => rfl
  | cons c rest ih =>
    rw [List.map_cons, pieces, pieces, ih]
    by_cases hc : c = separator
    · rw [if_pos ((h c).mpr hc), if_pos hc]
      rfl
    · rw [if_neg (fun heq => hc ((h c).mp heq)), if_neg hc]
      cases pieces separator rest <;> rfl

end Any

/-- A text is a single line, or a line that a line feed and more text follow. -/
@[elab_as_elim]
theorem line_induction {motive : List Char → Prop}
    (last : ∀ line, '\n' ∉ line → motive line)
    (more : ∀ line rest, '\n' ∉ line → motive rest → motive (line ++ '\n' :: rest))
    (text : List Char) : motive text := by
  -- the characters of the line that is still open stand before the text
  have behind : ∀ line, '\n' ∉ line → motive (line ++ text) := by
    induction text with
    | nil =>
      intro line hline
      rw [List.append_nil]
      exact last line hline
    | cons c rest ih =>
      intro line hline
      by_cases hc : c = '\n'
      · subst hc
        exact more line rest hline (ih [] List.not_mem_nil)
      · rw [List.append_cons]
        refine ih (line ++ [c]) fun hmem => ?_
        rcases List.mem_append.mp hmem with hmem | hmem
        · exact hline hmem
        · exact hc (List.mem_singleton.mp hmem).symm
  exact behind [] List.not_mem_nil

end TaggedPage
