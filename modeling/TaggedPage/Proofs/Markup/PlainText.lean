import TaggedPage.Proofs.Markup.Stretches
import TaggedPage.Proofs.Pipeline.LineEnds

/-! # The plain text of a document

The text between the tags is found in two ways. Either the tags are dropped from the whole
text, line feeds and all, and what is left is cut into lines; or the text is cut into lines
first, and every line is searched for tags on its own.

Both give the same lines, because the two characters of a line end are part of no tag: a
bracket that is left open cannot reach over them. A carriage return at the end of a line is
dropped behind the tags or before them alike. One that stands within a line is not, as the loss
of a tag may bring it to the end.
-/

namespace TaggedPage.Markup

/-! ## Characters of no tag -/

section

variable {c : Char} (hbracket : isBracket c = false) (hword : c ∉ wordCharacters)

include hbracket hword

/-- In front of a character that is part of no tag, none is read that is not there without the
character. -/
theorem read?_append_cons_eq_none {before : List Char} (h : read? before = none)
    (after : List Char) : read? (before ++ c :: after) = none := by
  cases hread : read? (before ++ c :: after) with
  | none => rfl
  | some r =>
    have hspells := spells_source_of_read? hread
    obtain ⟨more, hsource, hafter⟩ | ⟨more, hbefore, -⟩ :=
      List.append_eq_append_iff.mp (eq_source_append_of_read? hread)
    · cases more with
      | nil =>
        obtain ⟨r', hr', -⟩ := hspells.read? []
        rw [hsource, List.append_nil, List.append_nil, h] at hr'
        cases hr'
      | cons d more =>
        -- the tag would hold the character
        obtain rfl : c = d := (List.cons.inj hafter).1
        exact absurd (by rw [hsource]; simp) (hspells.not_mem hbracket hword)
    · obtain ⟨r', hr', -⟩ := hspells.read? more
      rw [← hbefore, h] at hr'
      cases hr'

/-- Such a character parts a text: the tags before it and those behind it are dropped apart. -/
theorem stripTags_append_cons (before after : List Char) :
    stripTags (before ++ c :: after) = stripTags before ++ c :: stripTags after := by
  induction before using scan_induction with
  | done =>
    have hread : read? ([] ++ c :: after) = none :=
      read?_append_cons_eq_none hbracket hword rfl after
    rw [stripTags_nil]
    exact stripTags_cons_of_read?_eq_none hread
  | tag s t rest hs ih =>
    rw [List.append_assoc, stripTags_spells_append hs, stripTags_spells_append hs, ih]
  | literal d rest hread ih =>
    have hwhole := read?_append_cons_eq_none hbracket hword hread after
    rw [List.cons_append] at hwhole ⊢
    rw [stripTags_cons_of_read?_eq_none hwhole, stripTags_cons_of_read?_eq_none hread, ih,
      List.cons_append]

end

/-! ## Lines -/

theorem stripTags_append_feed (before after : List Char) :
    stripTags (before ++ '\n' :: after) = stripTags before ++ '\n' :: stripTags after :=
  stripTags_append_cons rfl (by decide) before after

theorem stripTags_append_return (line : List Char) :
    stripTags (line ++ ['\r']) = stripTags line ++ ['\r'] := by
  rw [stripTags_append_cons rfl (by decide), stripTags_nil]

theorem splitLines_line {line : List Char} (h : '\n' ∉ line) : splitLines line = [line] :=
  pieces_of_not_mem h

theorem splitLines_line_append {line : List Char} (h : '\n' ∉ line) (rest : List Char) :
    splitLines (line ++ '\n' :: rest) = line :: splitLines rest := by
  rw [splitLines, pieces_append_separator, pieces_of_not_mem h]
  rfl

/-- Whether the tags are dropped before a text is cut into lines or behind it, the lines are
the same. -/
theorem splitLines_stripTags (text : List Char) :
    splitLines (stripTags text) = (splitLines text).map stripTags := by
  have plain {line : List Char} (hline : '\n' ∉ line) : '\n' ∉ stripTags line :=
    fun hmem => hline ((stripTags_sublist line).subset hmem)
  induction text using line_induction with
  | last line hline =>
    rw [splitLines_line (plain hline), splitLines_line hline, List.map_singleton]
  | more line rest hline ih =>
    rw [stripTags_append_feed, splitLines_line_append (plain hline), ih,
      splitLines_line_append hline, List.map_cons]

/-! ## Carriage returns -/

/-- Every carriage return of a text is followed by a line feed, or ends the text. -/
def ReturnsEndLines (text : List Char) : Prop :=
  ∀ rest, '\r' :: rest <:+ text → rest = [] ∨ rest.head? = some '\n'

namespace ReturnsEndLines

theorem line {line rest : List Char} (h : ReturnsEndLines (line ++ '\n' :: rest)) :
    ReturnsEndLines line := by
  intro after hafter
  cases after with
  | nil => exact .inl rfl
  | cons c after =>
    obtain ⟨before, rfl⟩ := hafter
    obtain hnil | hhead := h (c :: after ++ '\n' :: rest) ⟨before, by simp⟩
    · cases hnil
    · exact .inr hhead

theorem rest {line rest : List Char} (h : ReturnsEndLines (line ++ '\n' :: rest)) :
    ReturnsEndLines rest := by
  intro after hafter
  refine h after (hafter.trans ?_)
  exact (List.suffix_cons '\n' rest).trans (List.suffix_append line ('\n' :: rest))

/-- In a line a carriage return is the last character. -/
theorem eq_nil {before after : List Char} (h : ReturnsEndLines (before ++ '\r' :: after))
    (hline : '\n' ∉ before ++ '\r' :: after) : after = [] := by
  obtain hnil | hhead := h after (List.suffix_append before _)
  · exact hnil
  · refine absurd (List.mem_append_right before ?_) hline
    exact List.mem_cons_of_mem '\r' (List.mem_of_mem_head? hhead)

/-- A line has one carriage return at its end, or none. -/
theorem not_mem_dropReturn {line : List Char} (h : ReturnsEndLines line) (hline : '\n' ∉ line) :
    '\r' ∉ dropReturn line := by
  intro hmem
  obtain ⟨before, after, hsplit⟩ := List.append_of_mem hmem
  rw [dropReturn] at hsplit
  split at hsplit
  · next hlast =>
    obtain ⟨body, rfl⟩ := List.getLast?_eq_some_iff.mp hlast
    rw [List.dropLast_concat] at hsplit
    subst hsplit
    rw [List.append_assoc] at h hline
    have hnil := h.eq_nil hline
    cases after <;> cases hnil
  · next hlast =>
    subst hsplit
    obtain rfl := h.eq_nil hline
    exact hlast List.getLast?_concat

/-- The lines of a text have their carriage returns at their ends alone. -/
theorem not_mem_dropReturn_of_mem_splitLines {text : List Char} (h : ReturnsEndLines text) :
    ∀ line ∈ splitLines text, '\r' ∉ dropReturn line := by
  induction text using line_induction with
  | last line hline =>
    rw [splitLines_line hline]
    exact List.forall_mem_singleton.mpr (h.not_mem_dropReturn hline)
  | more line rest hline ih =>
    rw [splitLines_line_append hline]
    exact List.forall_mem_cons.mpr ⟨h.line.not_mem_dropReturn hline, ih h.rest⟩

end ReturnsEndLines

/-- The carriage return at the end of a line may be dropped before the tags or behind them. -/
theorem dropReturn_stripTags {line : List Char} (h : '\r' ∉ dropReturn line) :
    dropReturn (stripTags line) = stripTags (dropReturn line) := by
  by_cases hlast : line.getLast? = some '\r'
  · obtain ⟨body, rfl⟩ := List.getLast?_eq_some_iff.mp hlast
    rw [stripTags_append_return, dropReturn_append_return, dropReturn_append_return]
  · have hkept : dropReturn line = line := by rw [dropReturn, if_neg hlast]
    rw [hkept] at h ⊢
    exact dropReturn_of_not_mem fun hmem => h ((stripTags_sublist line).subset hmem)

/-- The two ways to the plain text agree. In a text whose carriage returns all stand at line
ends, the lines of the text without its tags, each without its carriage return, are the texts
of the fragments of its lines. -/
theorem plain_text_by_lines {text : List Char} (h : ReturnsEndLines text) :
    (splitLines (stripTags text)).map dropReturn =
      (compileDocument text).map fun line => line.flatMap (·.text) := by
  have hlines := h.not_mem_dropReturn_of_mem_splitLines
  rw [splitLines_stripTags, compileDocument, List.map_map, List.map_map]
  exact List.map_congr_left fun line hline => dropReturn_stripTags (hlines line hline)

/-- A bracket that is left open at the end of one line, and a carriage return at the end of the
text. -/
theorem plain_text_by_lines_in_bracket :
    let text := ['<', 'b', '\r', '\n', '>', '<', 'i', '>', 'x', '\r']
    ReturnsEndLines text ∧
      (compileDocument text).map (fun line => line.flatMap (·.text)) =
        [['<', 'b'], ['>', 'x']] := by
  intro text
  have hreturns : ReturnsEndLines text := by
    intro rest hrest
    simp [text, List.suffix_cons_iff] at hrest
    obtain rfl | rfl := hrest
    · exact .inr rfl
    · exact .inl rfl
  refine ⟨hreturns, (plain_text_by_lines hreturns).symm.trans ?_⟩
  decide +kernel

/-- A carriage return that only the loss of a tag brings to the end of its line. -/
example :
    let text := ['x', '\r', '<', 'b', '>']
    (splitLines (stripTags text)).map dropReturn = [['x']] ∧
      (compileDocument text).map (fun line => line.flatMap (·.text)) = [['x', '\r']] := by
  decide +kernel

end TaggedPage.Markup
