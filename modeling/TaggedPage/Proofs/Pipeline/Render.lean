import TaggedPage.Pipeline
import TaggedPage.Proofs.Outcome
import TaggedPage.Proofs.Pdf.Run

/-! # Rendered documents

A canvas refuses texts only before the first page. Rendering begins its page first, so it
always succeeds, and its bytes are those of the canvas behind the run that begins the page and
draws the placements of the text: those of `Pipeline.document` (`render_eq`).
-/

namespace TaggedPage

open Layout (Placement)
open Pdf (Canvas Document)

namespace Pdf.Canvas

theorem run_drawText {c : Canvas} (h : c.page.isSome = true) (p : Placement) :
    (sink.drawText p).run.run c = (.ok (), c.step (.draw p)) ∧
      (c.step (.draw p)).page.isSome = true := by
  obtain ⟨page, hpage⟩ := Option.isSome_iff_exists.mp h
  constructor
  · simp [sink, step, Step.call, drawText, hpage, ExceptT.run, StateT.run]
  · rw [step_draw_of_page hpage]
    rfl

/-- On an open page every text can be drawn. -/
theorem run_forM_drawText {c : Canvas} (h : c.page.isSome = true) (ps : List Placement) :
    (ps.forM sink.drawText).run.run c = (.ok (), c.run (ps.map .draw)) := by
  induction ps generalizing c with
  | nil => rfl
  | cons p ps ih =>
    obtain ⟨hdraw, hopen⟩ := run_drawText h p
    have hcons : (p :: ps).forM sink.drawText =
        (sink.drawText p >>= fun _ => ps.forM sink.drawText) := rfl
    rw [hcons, run_bind_of_ok hdraw, ih hopen, List.map_cons, run_cons]

/-- Drawing a page on a canvas succeeds. -/
theorem run_drawPage (c : Canvas) (size : PageSize) (ps : List Placement) :
    (sink.drawPage size ps).run.run c =
      (.ok (c.run (.page size :: ps.map .draw)).document.write,
        c.run (.page size :: ps.map .draw)) := by
  have hbegin : (sink.beginPage size).run.run c = (.ok (), c.beginPage size) := rfl
  have hopen : (c.beginPage size).page.isSome = true := rfl
  rw [Sink.drawPage, run_bind_of_ok hbegin, run_bind_of_ok (run_forM_drawText hopen ps)]
  rfl

end Pdf.Canvas

namespace Pipeline

/-- The document of a text: that of a new canvas on which its page is begun and its placements
are drawn. -/
def document (p : Pipeline) (text : List Char) : Document :=
  ((Canvas.new p.fonts).run (.page p.config.page :: (p.layout text).map .draw)).document

/-- Every text can be rendered, into the bytes of its document. -/
theorem render_eq (p : Pipeline) (text : List Char) :
    p.render text = .ok (p.document text).write := by
  have hrun := run_adapt (α := List UInt8) Failure.render
    (Canvas.sink.drawPage p.config.page (p.layout text)) (.new p.fonts)
  rw [Canvas.run_drawPage] at hrun
  exact congrArg Prod.fst hrun

end Pipeline

end TaggedPage
