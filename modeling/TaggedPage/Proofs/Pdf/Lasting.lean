import TaggedPage.Proofs.Pdf.Graph

/-! # Calls that last

A text can be drawn as soon as a page was begun, and an empty one is refused before that like
any other. A refused call leaves the canvas as it was, and so does the drawing of an empty text.
The canvas behind a run is therefore made by its other calls alone: without the calls that do
not last, the open page and its text state, the numbers of the objects and the bytes of the
document are the same (`refused_and_empty_leave_no_trace`).
-/

namespace TaggedPage.Pdf

open Font (Library)
open Layout (Placement)

def Step.answer (s : Step) (c : Canvas) : Except RenderError Unit := (s.call c).1

def Step.isRefused (s : Step) (c : Canvas) : Bool := !(s.answer c).isOk

def Step.drawsNothing : Step → Bool
  | .page _ => false
  | .draw p => p.text.isEmpty

/-- The calls of a run that are neither refused nor draw an empty text. -/
def Canvas.lasting (c : Canvas) : List Step → List Step
  | [] => []
  | s :: rest =>
    if s.isRefused c || s.drawsNothing then (c.step s).lasting rest
    else s :: (c.step s).lasting rest

namespace Canvas

theorem answer_draw (c : Canvas) (p : Placement) :
    (Step.draw p).answer c = if c.page.isSome then .ok () else .error .noPage := by
  cases hpage : c.page <;> simp [Step.answer, Step.call, sink, drawText, hpage]

/-- A call that is refused or draws an empty text leaves the canvas as it was. -/
theorem step_of_not_lasting {c : Canvas} {s : Step}
    (h : (s.isRefused c || s.drawsNothing) = true) : c.step s = c := by
  cases s with
  | page size => cases h
  | draw p =>
    cases hpage : c.page with
    | none => exact step_draw_of_no_page hpage p
    | some page =>
      have hempty : p.text.isEmpty = true := by
        simpa [Step.isRefused, answer_draw, hpage, Step.drawsNothing, Except.isOk,
          Except.toBool] using h
      rw [step_draw_of_page hpage, OpenPage.draw_of_isEmpty hempty, ← hpage]

/-- The calls that last lead to the canvas to which all calls lead. -/
theorem run_lasting (c : Canvas) (steps : List Step) : c.run (c.lasting steps) = c.run steps := by
  induction steps generalizing c with
  | nil => rfl
  | cons s steps ih =>
    rw [run_cons, lasting]
    split
    · next h =>
      rw [step_of_not_lasting h, ih]
    · rw [run_cons, ih]

end Canvas

/-! ## Pages begun -/

def begun (steps : List Step) : List PageSize := steps.filterMap Step.size?

theorem begun_cons (s : Step) (steps : List Step) :
    begun (s :: steps) = s.size?.toList ++ begun steps := by
  cases s <;> rfl

namespace Canvas

theorem pageCount_closePage (c : Canvas) : c.closePage.pageCount = c.pageCount := by
  cases hpage : c.page with
  | none => simp [closePage, hpage]
  | some page => simp [closePage, pageCount, hpage]

theorem page_closePage (c : Canvas) : c.closePage.page = none := by
  cases hpage : c.page <;> simp [closePage, hpage]

theorem pageCount_beginPage (c : Canvas) (size : PageSize) :
    (c.beginPage size).pageCount = c.pageCount + 1 := by
  rw [← pageCount_closePage c]
  simp [beginPage, pageCount, page_closePage]

/-- A call that begins a page adds it to the count and opens it; a text is drawn on a page that
is open already. -/
theorem pages_step (c : Canvas) (s : Step) :
    (c.step s).pageCount = c.pageCount + s.size?.toList.length ∧
      (c.step s).page.isSome = (s.size?.isSome || c.page.isSome) := by
  cases s with
  | page size => exact ⟨pageCount_beginPage c size, rfl⟩
  | draw p =>
    cases hpage : c.page with
    | none =>
      rw [step_draw_of_no_page hpage, hpage]
      exact ⟨rfl, rfl⟩
    | some page =>
      rw [step_draw_of_page hpage]
      exact ⟨by simp [pageCount, hpage, Step.size?], rfl⟩

/-- Behind a run all pages begun in it are counted, and one is open if there are any. -/
theorem pages_run (c : Canvas) (steps : List Step) :
    (c.run steps).pageCount = c.pageCount + (begun steps).length ∧
      (c.run steps).page.isSome = (!(begun steps).isEmpty || c.page.isSome) := by
  induction steps generalizing c with
  | nil => exact ⟨rfl, rfl⟩
  | cons s steps ih =>
    obtain ⟨hcount, hopen⟩ := pages_step c s
    obtain ⟨hcounts, hopens⟩ := ih (c.step s)
    rw [run_cons, hcounts, hopens, hcount, hopen, begun_cons, List.length_append, Nat.add_assoc]
    refine ⟨rfl, ?_⟩
    cases s.size? <;> simp

/-! ## The calls that last -/

/-- With a page open, all calls last but the drawing of empty texts. -/
theorem lasting_of_page {c : Canvas} (h : c.page.isSome = true) (steps : List Step) :
    c.lasting steps = steps.filter fun s => !s.drawsNothing := by
  induction steps generalizing c with
  | nil => rfl
  | cons s steps ih =>
    have hopen : (c.step s).page.isSome = true := by
      rw [(pages_step c s).2, h, Bool.or_true]
    have haccepted : s.isRefused c = false := by
      cases s with
      | page size => rfl
      | draw p => rw [Step.isRefused, answer_draw, if_pos h]; rfl
    rw [lasting, haccepted, Bool.false_or, ih hopen, List.filter_cons]
    cases s.drawsNothing <;> rfl

/-- On a new canvas the calls in front of the first page do not last. -/
theorem lasting_of_no_page {c : Canvas} (h : c.page = none) (steps : List Step) :
    c.lasting steps =
      (steps.dropWhile fun s => s.size?.isNone).filter fun s => !s.drawsNothing := by
  induction steps with
  | nil => rfl
  | cons s steps ih =>
    cases s with
    | page size =>
      have hrest : (c.step (.page size)).lasting steps = _ := lasting_of_page rfl steps
      exact congrArg (Step.page size :: ·) hrest
    | draw p =>
      have hrefused : (Step.draw p).isRefused c = true := by
        rw [Step.isRefused, answer_draw, h]
        rfl
      rw [lasting, hrefused, Bool.true_or, if_pos rfl, step_draw_of_no_page h, ih]
      rfl

end Canvas

/-- Before the first page every text is refused, an empty one too, and behind it none is. Every
page begun is counted. The calls that were refused and the empty texts may be left out: the
canvas is the same without them, and so are the bytes of the document. -/
theorem refused_and_empty_leave_no_trace (l : Library) (steps : List Step) :
    let c := (Canvas.new l).run steps
    let kept := (Canvas.new l).lasting steps
    (∀ p : Placement, (Step.draw p).answer c =
      if (begun steps).isEmpty then .error .noPage else .ok ()) ∧
    c.pageCount = (begun steps).length ∧
    kept = ((steps.dropWhile fun s => s.size?.isNone).filter fun s => !s.drawsNothing) ∧
    (Canvas.new l).run kept = c ∧
    (Canvas.sink.finish ((Canvas.new l).run kept)).1 = (Canvas.sink.finish c).1 := by
  intro c kept
  obtain ⟨hcount, hopen⟩ := Canvas.pages_run (Canvas.new l) steps
  have hsame : (Canvas.new l).run kept = c := Canvas.run_lasting (Canvas.new l) steps
  refine ⟨fun p => ?_, hcount.trans (Nat.zero_add _), Canvas.lasting_of_no_page rfl steps, hsame,
    by rw [hsame]⟩
  have hempty : c.page.isSome = !(begun steps).isEmpty := hopen.trans (Bool.or_false _)
  rw [Canvas.answer_draw, hempty]
  cases (begun steps).isEmpty <;> rfl

end TaggedPage.Pdf
