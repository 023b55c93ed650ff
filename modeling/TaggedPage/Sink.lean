import TaggedPage.Files.Error
import TaggedPage.Layout

/-! # Document sinks

Placements are drawn into a sink: a page is begun, texts are drawn on it in order,
and in the end the sink gives the bytes of the document. Each of these calls may
fail, and the first failure ends the drawing. `Sink.recorded` is a sink that also
notes the calls made on it.
-/

namespace TaggedPage

open Layout (Placement)

/-- Why a sink refused a call. -/
inductive RenderError where
  | io (cause : IoError)
  | pdf (message : String)
  | noPage
  | unknownFont (variant : Variant)

def RenderError.message : RenderError → String
  | .io cause => "I/O error: " ++ cause.message
  | .pdf message => "PDF generation error: " ++ message
  | .noPage => "Text was drawn before any page was created"
  | .unknownFont variant => "No font is registered for the " ++ variant.name ++ " variant"

/-- A receiver of drawing calls with a state of type `σ`. -/
structure Sink (σ : Type) where
  /-- Begins a page; later texts go onto it. -/
  beginPage : PageSize → ExceptT RenderError (StateM σ) Unit
  /-- Draws a text. -/
  drawText : Placement → ExceptT RenderError (StateM σ) Unit
  /-- Gives the bytes of the document. -/
  finish : ExceptT RenderError (StateM σ) (List UInt8)

/-- A call on a sink. -/
inductive DrawingCall where
  | page (size : PageSize)
  | draw (placement : Placement)
  | finish

namespace Sink

variable {σ : Type}

def noting {α : Type} (call : DrawingCall) (act : ExceptT RenderError (StateM σ) α) :
    ExceptT RenderError (StateM (σ × List DrawingCall)) α :=
  fun (state, calls) =>
    let (answer, next) := act.run state
    (answer, next, calls ++ [call])

/-- The sink that notes every call before it passes it on. -/
def recorded (sink : Sink σ) : Sink (σ × List DrawingCall) where
  beginPage size := noting (.page size) (sink.beginPage size)
  drawText p := noting (.draw p) (sink.drawText p)
  finish := noting .finish sink.finish

/-- Draws placements on one page and finishes the document. -/
def drawPage (sink : Sink σ) (size : PageSize) (placements : List Placement) :
    ExceptT RenderError (StateM σ) (List UInt8) := do
  sink.beginPage size
  placements.forM sink.drawText
  sink.finish

end Sink

end TaggedPage
