import TaggedPage.Proofs.Number.Comparison
import TaggedPage.Proofs.Pdf.Run
import TaggedPage.Proofs.Pdf.Viewer

/-! # Selections that are left out

On a page the font and the fill colour are selected only where they differ from those of
the text drawn before. A viewer shows the page as if they were selected for every text.

The canvas and the viewer both keep the font in force, and each is compared with the text
drawn last. A size that is left out equals the one in force but need not be the same
value, since the two zeros are equal; so what is in force may stem from an earlier text
than the last one. `FontOf` is the invariant, and `Number.Same` makes it last.
-/

namespace TaggedPage.Pdf

open Font (Library)
open Layout (Placement)

/-! ## The canvas -/

namespace OpenPage

@[simp] theorem state_push (page : OpenPage) (o : Operation) : (page.push o).state = page.state :=
  rfl

@[simp] theorem hasFont_push (page : OpenPage) (o : Operation) (name : String)
    (size : Float32) : (page.push o).hasFont name size = page.hasFont name size := rfl

theorem operations_useFont (page : OpenPage) (name : String) (size : Float32) :
    (page.useFont name size).operations =
      page.operations ++ if page.hasFont name size then [] else [.setFont name size] := by
  unfold useFont
  split
  · simp
  · simp [operations, push]

theorem state_useFont (page : OpenPage) (name : String) (size : Float32) :
    (page.useFont name size).state =
      { page.state with
        font := if page.hasFont name size then page.state.font else some (name, size) } := by
  unfold useFont
  split <;> rfl

theorem operations_useFill (page : OpenPage) (c : Color) :
    (page.useFill c).operations =
      page.operations ++ if page.state.fill = some c then []
        else [.setFill c.units.1 c.units.2.1 c.units.2.2] := by
  unfold useFill
  split
  · simp
  · simp [operations, push]

theorem state_useFill (page : OpenPage) (c : Color) :
    (page.useFill c).state = { page.state with fill := some c } := by
  unfold useFill
  split
  · next h => rw [← h]
  · rfl

theorem draw_of_isEmpty {p : Placement} (h : p.text.isEmpty = true) (page : OpenPage)
    (name : String) : page.draw name p = page := by
  rw [draw, if_pos h]

theorem operations_draw {p : Placement} (h : p.text.isEmpty = false) (page : OpenPage)
    (name : String) :
    (page.draw name p).operations =
      page.operations ++ ([.beginText] ++
        (if page.hasFont name p.size then [] else [.setFont name p.size]) ++
          (if page.state.fill = some p.color then []
            else [.setFill p.color.units.1 p.color.units.2.1 p.color.units.2.2]) ++
            [.moveTo p.x p.y, .showString (WinAnsi.encode p.text), .endText]) := by
  rw [draw, if_neg (by simp [h])]
  simp only [operations_push, operations_useFill, operations_useFont, state_useFont, state_push,
    hasFont_push, List.append_assoc]
  rfl

theorem state_draw {p : Placement} (h : p.text.isEmpty = false) (page : OpenPage)
    (name : String) :
    (page.draw name p).state =
      { font := if page.hasFont name p.size then page.state.font else some (name, p.size)
        fill := some p.color } := by
  rw [draw, if_neg (by simp [h])]
  change ((page.push .beginText).useFont name p.size |>.useFill p.color).state = _
  rw [state_useFill, state_useFont]
  rfl

end OpenPage

section Names

variable (nameOf : Variant → String)

/-- The text object of a text, with or without the selection of its font and colour. -/
def textObject (font fill : Bool) (p : Placement) : List Operation :=
  [.beginText] ++ (if font then [.setFont (nameOf p.variant) p.size] else []) ++
    (if fill then [.setFill p.color.units.1 p.color.units.2.1 p.color.units.2.2] else []) ++
      [.moveTo p.x p.y, .showString (WinAnsi.encode p.text), .endText]

def fontDiffers : Option Placement → Placement → Bool
  | none, _ => true
  | some q, p => nameOf q.variant != nameOf p.variant || q.size != p.size

def fillDiffers : Option Placement → Placement → Bool
  | none, _ => true
  | some q, p => q.color != p.color

/-- The text objects of texts, each of which selects what differs from the text before. -/
def elided : Option Placement → List Placement → List Operation
  | _, [] => []
  | previous, p :: rest =>
    textObject nameOf (fontDiffers nameOf previous p) (fillDiffers previous p) p ++
      elided (some p) rest

/-- The text objects of texts, each of which selects its font and its colour. -/
def everything (ps : List Placement) : List Operation :=
  ps.flatMap (textObject nameOf true true)

/-- The texts that leave a trace on a page. -/
def drawn (ps : List Placement) : List Placement := ps.filter fun p => !p.text.isEmpty

/-- What is to be seen of a text. -/
def Shown.ofPlacement (p : Placement) : Shown :=
  ⟨nameOf p.variant, p.size, p.color.units, p.x, p.y, WinAnsi.encode p.text⟩

/-- A font in force is that of the text drawn last, if there is one. -/
def FontOf (font : Option (String × Float32)) : Option Placement → Prop
  | none => font = none
  | some q => ∃ size, font = some (nameOf q.variant, size) ∧ Number.Same size q.size

variable {nameOf}

/-- A font that is not selected again is that of the next text as well. -/
theorem FontOf.of_fontDiffers {font : Option (String × Float32)} {previous : Option Placement}
    {p : Placement} (h : FontOf nameOf font previous)
    (hdiffers : fontDiffers nameOf previous p = false) : FontOf nameOf font (some p) := by
  cases previous with
  | none => simp [fontDiffers] at hdiffers
  | some q =>
    obtain ⟨size, rfl, hsame⟩ := h
    obtain ⟨hname, hsize⟩ : nameOf q.variant = nameOf p.variant ∧ (q.size == p.size) = true := by
      simpa [fontDiffers, bne] using hdiffers
    refine ⟨size, by rw [hname], .inr ?_⟩
    rw [hsame.beq_eq, hsize]

theorem FontOf.next {font : Option (String × Float32)} {previous : Option Placement}
    (h : FontOf nameOf font previous) (p : Placement) :
    FontOf nameOf
      (if fontDiffers nameOf previous p then some (nameOf p.variant, p.size) else font)
      (some p) := by
  cases hdiffers : fontDiffers nameOf previous p with
  | true => exact ⟨p.size, rfl, .refl p.size⟩
  | false => exact h.of_fontDiffers hdiffers

/-- What a canvas remembers of a page is the font and the colour of the text drawn last. -/
structure Remembers (nameOf : Variant → String) (state : TextState)
    (previous : Option Placement) : Prop where
  font : FontOf nameOf state.font previous
  fill : state.fill = previous.map (·.color)

theorem Remembers.hasFont_eq {page : OpenPage} {previous : Option Placement}
    (h : Remembers nameOf page.state previous) (p : Placement) :
    page.hasFont (nameOf p.variant) p.size = !fontDiffers nameOf previous p := by
  have hfont := h.font
  cases previous with
  | none =>
    rw [OpenPage.hasFont, show page.state.font = none from hfont]
    rfl
  | some q =>
    obtain ⟨size, heq, hsame⟩ := hfont
    rw [OpenPage.hasFont, heq]
    simp [fontDiffers, bne, hsame.beq_eq]

theorem Remembers.fill_eq_iff {page : OpenPage} {previous : Option Placement}
    (h : Remembers nameOf page.state previous) (p : Placement) :
    page.state.fill = some p.color ↔ fillDiffers previous p = false := by
  rw [h.fill]
  cases previous <;> simp [fillDiffers]

/-- Drawing a text adds its text object, with the selections that the last text calls for. -/
theorem Remembers.draw {page : OpenPage} {previous : Option Placement}
    (h : Remembers nameOf page.state previous) {p : Placement} (htext : p.text.isEmpty = false) :
    (page.draw (nameOf p.variant) p).operations =
        page.operations ++
          textObject nameOf (fontDiffers nameOf previous p) (fillDiffers previous p) p ∧
      Remembers nameOf (page.draw (nameOf p.variant) p).state (some p) := by
  have hfont := h.hasFont_eq p
  have hfill := h.fill_eq_iff p
  constructor
  · rw [OpenPage.operations_draw htext, textObject, hfont]
    cases hf : fontDiffers nameOf previous p <;> cases hc : fillDiffers previous p <;>
      simp [hfill, hc]
  · rw [OpenPage.state_draw htext, hfont]
    refine ⟨?_, rfl⟩
    have hnext := h.font.next p
    cases hf : fontDiffers nameOf previous p <;> simpa [hf] using hnext

theorem Remembers.operations_drawAll {page : OpenPage} {previous : Option Placement}
    (h : Remembers nameOf page.state previous) (ps : List Placement) :
    (page.drawAll nameOf ps).operations =
      page.operations ++ elided nameOf previous (drawn ps) := by
  induction ps generalizing page previous with
  | nil => simp [OpenPage.drawAll, drawn, elided]
  | cons p ps ih =>
    rw [OpenPage.drawAll, List.foldl_cons]
    change (OpenPage.drawAll nameOf (page.draw (nameOf p.variant) p) ps).operations = _
    cases htext : p.text.isEmpty with
    | true =>
      rw [OpenPage.draw_of_isEmpty htext, ih h]
      simp [drawn, htext]
    | false =>
      obtain ⟨hoperations, hnext⟩ := h.draw htext
      rw [ih hnext, hoperations, List.append_assoc]
      simp [drawn, htext, elided]

/-! ## The viewer -/

/-- Two strings are shown alike: only their sizes may be different values, and they are
the same number. -/
structure Shown.Alike (s t : Shown) : Prop where
  font : s.font = t.font
  size : Number.Same s.size t.size
  fill : s.fill = t.fill
  x : s.x = t.x
  y : s.y = t.y
  string : s.string = t.string

/-- A text object shows its string at its position, in the font and the colour that it
selects or else finds in force. -/
theorem Viewer.run_textObject {v : Viewer} (hpen : v.pen = .outside) (font fill : Bool)
    (p : Placement) {name : String} {size : Float32} {channels : Channels}
    (hfont : (if font then some (nameOf p.variant, p.size) else v.font) = some (name, size))
    (hfill : (if fill then p.color.units else v.fill) = channels) :
    v.run (textObject nameOf font fill p) =
      some (⟨some (name, size), channels, .outside⟩,
        [⟨name, size, channels, p.x, p.y, WinAnsi.encode p.text⟩]) := by
  obtain ⟨known, shade, pen⟩ := v
  obtain rfl : pen = .outside := hpen
  subst hfill
  cases font with
  | true =>
    cases hfont
    cases fill <;> simp [textObject, run_cons, beginText, move, show?, endText]
  | false =>
    obtain rfl : known = some (name, size) := hfont
    cases fill <;> simp [textObject, run_cons, beginText, move, show?, endText]

/-- What is in force for a viewer between two text objects is the font and the colour of
the text drawn last. -/
structure Follows (nameOf : Variant → String) (v : Viewer) (previous : Option Placement) :
    Prop where
  font : FontOf nameOf v.font previous
  fill : ∀ q ∈ previous, v.fill = q.color.units
  pen : v.pen = .outside

theorem Follows.fill_next {v : Viewer} {previous : Option Placement}
    (h : Follows nameOf v previous) (p : Placement) :
    (if fillDiffers previous p then p.color.units else v.fill) = p.color.units := by
  cases hdiffers : fillDiffers previous p with
  | true => rfl
  | false =>
    cases previous with
    | none => simp [fillDiffers] at hdiffers
    | some q =>
      have hcolor : q.color = p.color := by simpa [fillDiffers] using hdiffers
      rw [← hcolor]
      exact h.fill q rfl

theorem Follows.textObject {v : Viewer} {previous : Option Placement}
    (h : Follows nameOf v previous) (p : Placement) :
    ∃ w s, v.run (textObject nameOf (fontDiffers nameOf previous p) (fillDiffers previous p) p) =
        some (w, [s]) ∧
      s.Alike (.ofPlacement nameOf p) ∧ Follows nameOf w (some p) := by
  obtain ⟨size, hfont, hsame⟩ := h.font.next p
  refine ⟨_, _, Viewer.run_textObject h.pen _ _ p hfont (h.fill_next p), ?_, ?_⟩
  · exact ⟨rfl, hsame, rfl, rfl, rfl, rfl⟩
  · exact ⟨⟨size, rfl, hsame⟩, fun q hq => by rw [Option.mem_some_iff.mp hq], rfl⟩

theorem Follows.elided {v : Viewer} {previous : Option Placement}
    (h : Follows nameOf v previous) (ps : List Placement) :
    ∃ w shown, v.run (elided nameOf previous ps) = some (w, shown) ∧
      List.Forall₂ Shown.Alike shown (ps.map (.ofPlacement nameOf)) ∧ w.pen = .outside := by
  induction ps generalizing v previous with
  | nil => exact ⟨v, [], rfl, .nil, h.pen⟩
  | cons p ps ih =>
    obtain ⟨w, s, hrun, halike, hnext⟩ := h.textObject p
    obtain ⟨u, shown, hrest, hshown, hpen⟩ := ih hnext
    exact ⟨u, s :: shown, Viewer.run_append_of_run hrun hrest, .cons halike hshown, hpen⟩

variable (nameOf) in
theorem Viewer.run_everything {v : Viewer} (hpen : v.pen = .outside) (ps : List Placement) :
    ∃ w, v.run (everything nameOf ps) = some (w, ps.map (.ofPlacement nameOf)) ∧
      w.pen = .outside := by
  induction ps generalizing v with
  | nil => exact ⟨v, rfl, hpen⟩
  | cons p ps ih =>
    let next : Viewer := ⟨some (nameOf p.variant, p.size), p.color.units, .outside⟩
    have hrun : v.run (Pdf.textObject nameOf true true p) =
        some (next, [.ofPlacement nameOf p]) :=
      Viewer.run_textObject hpen true true p rfl rfl
    obtain ⟨w, hrest, hw⟩ := ih (show next.pen = .outside from rfl)
    exact ⟨w, Viewer.run_append_of_run hrun hrest, hw⟩

theorem shown?_of_run {operations : List Operation} {w : Viewer} {shown : List Shown}
    (hrun : ({} : Viewer).run operations = some (w, shown)) (hpen : w.pen = .outside) :
    shown? operations = some shown := by
  obtain ⟨font, fill, pen⟩ := w
  obtain rfl : pen = .outside := hpen
  rw [shown?, hrun]

end Names

/-- A run of a canvas makes the pages that its calls describe, and a viewer sees on each
one string for every text drawn there that is not empty, in order, with the font name of
its variant, its size, its colour, its position and its codes. It sees the same if every
text selects its font and its colour, although a text selects only what differs from the
text before it on the page, as every size does that is not a number. -/
theorem closedPages_show_placements (l : Library) (steps : List Step) :
    ((Canvas.new l).run steps).document.contents? =
      some (((Canvas.new l).closedPages steps).map fun page => writeContent page.operations) ∧
    List.Forall₂ (fun (page : OpenPage) (sheet : PageSize × List Placement) =>
      page.operations = elided (fontName l) none (drawn sheet.2) ∧
      ∃ shown, shown? page.operations = some shown ∧
        List.Forall₂ Shown.Alike shown ((drawn sheet.2).map (.ofPlacement (fontName l))) ∧
        shown? (everything (fontName l) (drawn sheet.2)) =
          some ((drawn sheet.2).map (.ofPlacement (fontName l))))
      ((Canvas.new l).closedPages steps) (sheets steps) ∧
    ∀ q p : Placement, p.size.isNaN = true → fontDiffers (fontName l) (some q) p = true := by
  refine ⟨?_, ?_, ?_⟩
  · exact Canvas.contents?_document ((Canvas.filed_new l).run steps)
  · rw [Canvas.closedPages_new, List.forall₂_map_left_iff, List.forall₂_same]
    intro sheet _
    have hcanvas : Remembers (fontName l) ({ size := sheet.1 } : OpenPage).state none :=
      ⟨rfl, rfl⟩
    have hviewer : Follows (fontName l) {} none := ⟨rfl, fun _ h => by simp at h, rfl⟩
    rw [hcanvas.operations_drawAll sheet.2]
    obtain ⟨w, shown, hrun, hshown, hpen⟩ := hviewer.elided (drawn sheet.2)
    obtain ⟨u, heverything, hu⟩ := Viewer.run_everything (fontName l) hviewer.pen (drawn sheet.2)
    exact ⟨rfl, shown, shown?_of_run hrun hpen, hshown, shown?_of_run heverything hu⟩
  · intro q p hnan
    simp [fontDiffers, bne, Number.beq_eq_false_of_isNaN hnan]

/-- Of two texts in one style on a page, the second selects nothing. The same style on the
next page is selected again. -/
theorem closedPages_select_once_a_page :
    let text : Placement := ⟨['a'], 0.0, 0.0, .normal, 12.0, .black⟩
    let size : PageSize := ⟨100.0, 100.0⟩
    ((Canvas.new .standard).closedPages
        [.page size, .draw text, .draw text, .page size, .draw text]).map
          (·.operations.map (·.operator)) =
      [["BT", "Tf", "rg", "Td", "Tj", "ET", "BT", "Td", "Tj", "ET"],
       ["BT", "Tf", "rg", "Td", "Tj", "ET"]] := by
  intro text size
  have hpages := (closedPages_show_placements .standard
    [.page size, .draw text, .draw text, .page size, .draw text]).2.1
  have hoperations : ((Canvas.new .standard).closedPages
      [.page size, .draw text, .draw text, .page size, .draw text]).map (·.operations) =
        (sheets [.page size, .draw text, .draw text, .page size, .draw text]).map
          fun sheet => elided (fontName .standard) none (drawn sheet.2) := by
    rw [← List.forall₂_eq_eq_eq, List.forall₂_map_left_iff, List.forall₂_map_right_iff]
    exact hpages.imp fun page sheet h => h.1
  have hoperators := congrArg (List.map (List.map Operation.operator)) hoperations
  rw [List.map_map] at hoperators
  exact hoperators.trans (by decide +kernel)

end TaggedPage.Pdf
