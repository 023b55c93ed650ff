import TaggedPage.Proofs.Pdf.Elision

/-! # Operations of a page

A text adds to a page the operations of its text object and no other ones, some of them left
out. What holds of every operation of every text object therefore holds on the whole page,
the size of the page stays as it is, and the strings shown on a page are the encoded texts,
one behind the other.
-/

namespace TaggedPage.Pdf

open Layout (Placement)

/-- The operations of a text object. -/
theorem mem_textObject {nameOf : Variant → String} {p : Placement} {o : Operation} :
    o ∈ textObject nameOf true true p ↔
      o = .beginText ∨ o = .setFont (nameOf p.variant) p.size ∨
        o = .setFill p.color.units.1 p.color.units.2.1 p.color.units.2.2 ∨
          o = .moveTo p.x p.y ∨ o = .showString (WinAnsi.encode p.text) ∨ o = .endText := by
  simp [textObject]

namespace OpenPage

/-- What a page keeps for the operations of a text object it keeps for the text. -/
theorem forall_mem_draw (nameOf : Variant → String) {P : Operation → Prop} {page : OpenPage}
    (h : ∀ o ∈ page.operations, P o) {p : Placement}
    (hp : ∀ o ∈ textObject nameOf true true p, P o) :
    ∀ o ∈ (page.draw (nameOf p.variant) p).operations, P o := by
  cases hempty : p.text.isEmpty with
  | true => rwa [draw_of_isEmpty hempty]
  | false =>
    rw [operations_draw hempty]
    intro o ho
    rcases List.mem_append.mp ho with ho | ho
    · exact h o ho
    · refine hp o (mem_textObject.mpr ?_)
      simp only [List.mem_append, List.mem_cons, List.not_mem_nil, or_false] at ho
      rcases ho with ((ho | ho) | ho) | ho
      · exact .inl ho
      · split at ho
        · cases ho
        · exact .inr (.inl (List.mem_singleton.mp ho))
      · split at ho
        · cases ho
        · exact .inr (.inr (.inl (List.mem_singleton.mp ho)))
      · exact .inr (.inr (.inr ho))

/-- What holds of the operations of all text objects holds of those of the page. -/
theorem forall_mem_drawAll (nameOf : Variant → String) {P : Operation → Prop} {page : OpenPage}
    (h : ∀ o ∈ page.operations, P o) {ps : List Placement}
    (hps : ∀ p ∈ ps, ∀ o ∈ textObject nameOf true true p, P o) :
    ∀ o ∈ (page.drawAll nameOf ps).operations, P o := by
  induction ps generalizing page with
  | nil => exact h
  | cons p rest ih =>
    exact ih (forall_mem_draw nameOf h (hps p List.mem_cons_self))
      fun q hq => hps q (List.mem_cons_of_mem p hq)

/-- What holds of the operations of all text objects holds on a page that begins empty. -/
theorem forall_mem_drawAll_new (nameOf : Variant → String) (size : PageSize)
    {P : Operation → Prop} {ps : List Placement}
    (hps : ∀ p ∈ ps, ∀ o ∈ textObject nameOf true true p, P o) :
    ∀ o ∈ (OpenPage.drawAll nameOf { size } ps).operations, P o :=
  forall_mem_drawAll nameOf (fun _ ho => nomatch ho) hps

theorem size_useFont (page : OpenPage) (name : String) (size : Float32) :
    (page.useFont name size).size = page.size := by
  unfold useFont
  split <;> rfl

theorem size_useFill (page : OpenPage) (c : Color) : (page.useFill c).size = page.size := by
  unfold useFill
  split <;> rfl

theorem size_draw (page : OpenPage) (name : String) (p : Placement) :
    (page.draw name p).size = page.size := by
  unfold draw
  split
  · rfl
  · exact (size_useFill _ _).trans (size_useFont _ _ _)

/-- Drawing does not change the size of a page. -/
theorem size_drawAll (nameOf : Variant → String) (page : OpenPage) (ps : List Placement) :
    (page.drawAll nameOf ps).size = page.size := by
  induction ps generalizing page with
  | nil => rfl
  | cons p ps ih => exact (ih _).trans (size_draw page _ p)

end OpenPage

/-! ## Shown strings -/

def Operation.shown (o : Operation) : List UInt8 :=
  if o.operator = "Tj" then
    o.operands.flatMap fun operand =>
      match operand with
      | .string bytes => bytes
      | _ => []
  else []

def shownBytes (operations : List Operation) : List UInt8 := operations.flatMap (·.shown)

@[simp] theorem shownBytes_append (before after : List Operation) :
    shownBytes (before ++ after) = shownBytes before ++ shownBytes after :=
  List.flatMap_append

/-- Drawing a text shows its encoded characters. -/
theorem shownBytes_draw (page : OpenPage) (name : String) (p : Placement) :
    shownBytes (page.draw name p).operations =
      shownBytes page.operations ++ WinAnsi.encode p.text := by
  cases hempty : p.text.isEmpty with
  | true =>
    rw [OpenPage.draw_of_isEmpty hempty, List.isEmpty_iff.mp hempty, WinAnsi.encode_nil,
      List.append_nil]
  | false =>
    rw [OpenPage.operations_draw hempty, shownBytes_append]
    congr 1
    simp only [shownBytes_append]
    have hfont : shownBytes
        (if page.hasFont name p.size then [] else [.setFont name p.size]) = [] := by
      split <;> rfl
    have hfill : shownBytes (if page.state.fill = some p.color then []
        else [.setFill p.color.units.1 p.color.units.2.1 p.color.units.2.2]) = [] := by
      split <;> rfl
    have hstring : shownBytes
        [.moveTo p.x p.y, .showString (WinAnsi.encode p.text), .endText] =
          WinAnsi.encode p.text := by
      simp [shownBytes, Operation.shown, Operation.moveTo, Operation.showString,
        Operation.endText]
    rw [hfont, hfill, hstring]
    rfl

end TaggedPage.Pdf
