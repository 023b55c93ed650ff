import TaggedPage.Pipeline
import TaggedPage.Proofs.Text.Pieces

/-! # Line ends

A line feed ends a line and the style in it. What stands before it and what stands behind it
are compiled as if they were texts of their own, whatever bracket or tag is open there.

A carriage return before the line feed belongs to the line end. It is taken off before the line
is searched for tags, one from each line, so a text without carriage returns may get one in
front of every line feed (`withReturns`) and is still the same document.
-/

namespace TaggedPage

namespace Markup

def withReturns (text : List Char) : List Char :=
  text.flatMap fun c => if c = '\n' then ['\r', '\n'] else [c]

theorem withReturns_of_not_mem {line : List Char} (h : '\n' ∉ line) : withReturns line = line := by
  induction line with
  | nil => rfl
  | cons c rest ih =>
    have hc : c ≠ '\n' := fun heq => h (heq ▸ List.mem_cons_self)
    have hrest := ih fun hmem => h (List.mem_cons_of_mem c hmem)
    rw [withReturns] at hrest ⊢
    rw [List.flatMap_cons, if_neg hc, hrest, List.singleton_append]

/-- The first line of a text with carriage returns ends in one. -/
theorem withReturns_line_append {line : List Char} (h : '\n' ∉ line) (rest : List Char) :
    withReturns (line ++ '\n' :: rest) = (line ++ ['\r']) ++ '\n' :: withReturns rest := by
  have hline := withReturns_of_not_mem h
  rw [withReturns] at hline ⊢
  rw [List.flatMap_append, hline, List.flatMap_cons, if_pos rfl, List.append_assoc]
  rfl

theorem dropReturn_append_return (line : List Char) : dropReturn (line ++ ['\r']) = line := by
  rw [dropReturn, if_pos (List.getLast?_concat), List.dropLast_concat]

theorem dropReturn_of_not_mem {line : List Char} (h : '\r' ∉ line) : dropReturn line = line := by
  rw [dropReturn, if_neg fun hlast => h (List.mem_of_getLast? hlast)]

/-- The lines before a line feed and those behind it are compiled apart. -/
theorem compileDocument_append_feed (before after : List Char) :
    compileDocument (before ++ '\n' :: after) =
      compileDocument before ++ compileDocument after := by
  rw [compileDocument, splitLines, pieces_append_separator, List.map_append]
  rfl

theorem compileDocument_line {line : List Char} (h : '\n' ∉ line) :
    compileDocument line = [compileLine (dropReturn line)] := by
  rw [compileDocument, splitLines, pieces_of_not_mem h, List.map_singleton]

theorem length_compileDocument (text : List Char) :
    (compileDocument text).length = text.count '\n' + 1 := by
  rw [compileDocument, List.length_map]
  exact length_pieces '\n' text

/-- Carriage returns at the line ends are not seen. -/
theorem compileDocument_withReturns {text : List Char} (h : '\r' ∉ text) :
    compileDocument (withReturns text) = compileDocument text := by
  induction text using line_induction with
  | last line hline => rw [withReturns_of_not_mem hline]
  | more line rest hline ih =>
    have hreturn : '\r' ∉ line := fun hmem => h (List.mem_append_left _ hmem)
    have hrest : '\r' ∉ rest :=
      fun hmem => h (List.mem_append_right line (List.mem_cons_of_mem '\n' hmem))
    have hended : '\n' ∉ line ++ ['\r'] := by simpa using hline
    rw [withReturns_line_append hline, compileDocument_append_feed, compileDocument_append_feed,
      ih hrest, compileDocument_line hended, compileDocument_line hline, dropReturn_append_return,
      dropReturn_of_not_mem hreturn]

end Markup

namespace Pipeline

open Markup (compileDocument withReturns)

/-- A pipeline sees of a text only what it is compiled to. -/
theorem render_congr (p : Pipeline) {text text' : List Char}
    (h : p.layout text = p.layout text') : p.render text = p.render text' := by
  rw [render, render, drawInto, drawInto, h]

/-- Line ends part a text. What stands before a line feed and what stands behind it give their
lines one after the other, so no style gets across, and there is one line more than there are
line feeds. In a text without carriage returns every line feed can have one put in front of it:
the fragments stay the same, and so do the placements and the document. -/
theorem line_ends_part_text :
    (∀ before after, compileDocument (before ++ '\n' :: after) =
      compileDocument before ++ compileDocument after) ∧
    (∀ text, (compileDocument text).length = text.count '\n' + 1) ∧
    ∀ text, '\r' ∉ text →
      compileDocument (withReturns text) = compileDocument text ∧
        ∀ p : Pipeline, p.layout (withReturns text) = p.layout text ∧
          p.render (withReturns text) = p.render text := by
  refine ⟨Markup.compileDocument_append_feed, Markup.length_compileDocument, ?_⟩
  intro text h
  have hlines := Markup.compileDocument_withReturns h
  refine ⟨hlines, fun p => ?_⟩
  have hlayout : p.layout (withReturns text) = p.layout text := by
    rw [layout, layout, hlines]
  exact ⟨hlayout, p.render_congr hlayout⟩

/-- A bracket that is left open at the end of a line, with and without a carriage return. -/
theorem line_ends_part_text_in_bracket :
    let text := ['<', 'b', '\n', '>', 'x']
    '\r' ∉ text ∧ withReturns text = ['<', 'b', '\r', '\n', '>', 'x'] ∧
      compileDocument ['<', 'b', '\r', '\n', '>', 'x'] = compileDocument text := by
  intro text
  have hreturn : '\r' ∉ text := by decide
  exact ⟨hreturn, rfl, (line_ends_part_text.2.2 text hreturn).1⟩

end Pipeline

end TaggedPage
