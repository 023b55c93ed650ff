import TaggedPage.Proofs.Layout.Replaced
import TaggedPage.Proofs.Pipeline.Render
import TaggedPage.Proofs.Text.WinAnsi

/-! # Characters without a code

A character that no code stands for is drawn as a question mark, and a tab as a space. The
document is the same as if these had stood in the text from the beginning: such a character is
part of no tag and ends no line, so the text has the same tags and fragments
(`keepsMarkup_normalizeChar`), and it is measured and drawn by its code alone
(`encode_normalize`).
-/

namespace TaggedPage

open Layout (Placement)
open Pdf (Canvas OpenPage)

namespace WinAnsi

/-- Replacing characters that are not drawn as themselves keeps the markup. -/
theorem keepsMarkup_normalizeChar : Markup.KeepsMarkup normalizeChar := by
  have hall : Markup.activeCharacters.all (fun d => normalizeChar d = d) = true := by
    decide +kernel
  have hsame : ∀ d ∈ Markup.activeCharacters, normalizeChar d = d := by
    intro d hd
    exact of_decide_eq_true (List.all_eq_true.mp hall d hd)
  intro d hd c
  constructor
  · intro h
    rw [normalizeChar] at h
    split at h
    · -- a space is not active, nor is a question mark
      rw [← h] at hd
      exact absurd hd (by decide)
    · split at h
      · exact h
      · rw [← h] at hd
        exact absurd hd (by decide)
  · rintro rfl
    exact hsame c hd

end WinAnsi

namespace Pdf

theorem OpenPage.draw_mapText {φ : Char → Char} {p : Placement}
    (h : WinAnsi.encode (p.text.map φ) = WinAnsi.encode p.text) (page : OpenPage)
    (name : String) : page.draw name (p.mapText φ) = page.draw name p := by
  have hempty : (p.text.map φ).isEmpty = p.text.isEmpty := by cases p.text <;> rfl
  simp only [draw, Placement.mapText, hempty, h]

theorem Canvas.step_draw_mapText {φ : Char → Char} {p : Placement}
    (h : WinAnsi.encode (p.text.map φ) = WinAnsi.encode p.text) (c : Canvas) :
    c.step (.draw (p.mapText φ)) = c.step (.draw p) := by
  cases hpage : c.page with
  | none => rw [step_draw_of_no_page hpage, step_draw_of_no_page hpage]
  | some page =>
    rw [step_draw_of_page hpage, step_draw_of_page hpage, OpenPage.draw_mapText h]
    rfl

/-- A canvas sees of a text only the codes it is drawn with. -/
theorem Canvas.run_draw_mapText {φ : Char → Char}
    (h : ∀ text, WinAnsi.encode (text.map φ) = WinAnsi.encode text) (c : Canvas)
    (ps : List Placement) :
    c.run ((ps.map (·.mapText φ)).map .draw) = c.run (ps.map .draw) := by
  induction ps generalizing c with
  | nil => rfl
  | cons p ps ih =>
    rw [List.map_cons, List.map_cons, List.map_cons, run_cons, run_cons,
      step_draw_mapText (h p.text), ih]

end Pdf

namespace Pipeline

open WinAnsi (normalize normalizeChar)

theorem keepsWidths_normalizeChar (fonts : Font.Library) :
    Layout.KeepsWidths fonts.widthOf normalizeChar := by
  intro text variant size
  have hcodes := WinAnsi.encode_normalize text
  rw [WinAnsi.normalize] at hcodes
  simp only [Font.Library.widthOf, Font.Face.widthOf, Font.Face.units, hcodes]

theorem layout_normalize (p : Pipeline) (text : List Char) :
    p.layout (normalize text) = (p.layout text).map (·.mapText normalizeChar) := by
  rw [layout, WinAnsi.normalize, WinAnsi.keepsMarkup_normalizeChar.compileDocument_map,
    (keepsWidths_normalizeChar p.fonts).placeDocument_map]
  rfl

theorem document_normalize (p : Pipeline) (text : List Char) :
    p.document (normalize text) = p.document text := by
  rw [document, document, p.layout_normalize, Canvas.run_cons, Canvas.run_cons,
    Canvas.run_draw_mapText WinAnsi.encode_normalize]

/-- Characters that are not drawn as themselves matter nowhere but in their own place. With a
space for every tab and a question mark for every other character without a code, a text has
the same tags in the same order, the same placements but for those characters, and the same
document, which exists for every text. -/
theorem normalize_changes_nothing_else (p : Pipeline) (text : List Char) :
    (Markup.tokens (normalize text)).map (·.tag) = (Markup.tokens text).map (·.tag) ∧
    p.layout (normalize text) =
      (p.layout text).map (fun c => { c with text := normalize c.text }) ∧
    ∃ bytes, p.render (normalize text) = .ok bytes ∧ p.render text = .ok bytes := by
  refine ⟨?_, p.layout_normalize text, ?_⟩
  · exact WinAnsi.keepsMarkup_normalizeChar.tokensFrom_map 0 0 text
  · refine ⟨_, ?_, p.render_eq text⟩
    rw [p.render_eq, p.document_normalize]

end Pipeline

end TaggedPage
