import TaggedPage.Proofs.Font.Measure
import TaggedPage.Proofs.Pdf.Fonts
import TaggedPage.Proofs.Pdf.Operations

/-! # Measured and drawn widths

A reader of the document moves on, behind every byte of a shown string, by the width that
the font dictionary has for it. For faces of font files this agrees with the layout, which
measures a text before it is drawn: the bytes are the same, each of them has a width in the
dictionary, and the sum of these widths is the one that layout scales.
-/

namespace TaggedPage.Pdf

open Font (Library)

def Object.integer? : Object → Option Int
  | .integer value => some value
  | _ => none

def Object.widthOfCode? (font : Object) (code : Nat) : Option Int := do
  let first ← (← font.valueOf? "FirstChar").integer?
  let widths ← (← font.valueOf? "Widths").items?
  (← widths[code - first.toNat]?).integer?

theorem Object.getD_of_widthOfCode? {font : Object} {first : Nat} {widths : List Nat}
    (hfirst : font.valueOf? "FirstChar" = some (.integer first))
    (hwidths : font.valueOf? "Widths" =
      some (.array (widths.map fun width : Nat => .integer width)))
    {code width : Nat} (h : font.widthOfCode? code = some (width : Int)) :
    widths.getD (code - first) 0 = width := by
  have hread : widths[code - first]?.map Int.ofNat = some (Int.ofNat width) := by
    refine Eq.trans ?_ h
    cases hentry : widths[code - first]? <;>
      simp [widthOfCode?, hfirst, hwidths, integer?, hentry]
  obtain ⟨found, hfound, heq⟩ := Option.map_eq_some_iff.mp hread
  rw [List.getD_eq_getElem?_getD, hfound, Option.getD_some]
  exact Int.ofNat.inj heq

/-- The widths of a font dictionary are the advances of the face. -/
theorem codeWidth_eq_getD {font : Font.TrueType} {code : UInt8} (h : Font.firstCode ≤ code.toNat) :
    (font.codeWidth code).toNat =
      (font.widths.map (·.toNat)).getD (code.toNat - Font.firstCode) 0 := by
  rw [Font.TrueType.codeWidth, if_neg (by omega)]
  exact (List.getD_map font.widths 0 UInt16.toNat).symm

/-- The width that layout takes for a text is the sum of the widths that the font dictionary
of its variant has for the drawn bytes, scaled to the size. The dictionary has a width for
every code between its first and its last one, the drawn bytes lie between these, and none of
them is a code that the encoding leaves undefined. -/
theorem widthOf_eq_drawn_widths {l : Library} (hl : Font.Loaded l) (steps : List Step)
    (v : Variant) :
    ∃ (font : Object) (first last : Nat) (widths : List Nat),
      ((Canvas.new l).run steps).document.font? (fontName l v) = some font ∧
      font.valueOf? "FirstChar" = some (.integer first) ∧
      font.valueOf? "LastChar" = some (.integer last) ∧
      font.valueOf? "Widths" = some (.array (widths.map fun width : Nat => .integer width)) ∧
      first ≤ last ∧ widths.length = last - first + 1 ∧
      ∀ (calls : List Step) (page : OpenPage) (p : Layout.Placement),
        ((Canvas.new l).run calls).page = some page → p.variant = v →
        ((Canvas.new l).run calls).fontName v = fontName l v ∧
        ∃ (drawn : OpenPage) (bytes : List UInt8),
          (((Canvas.new l).run calls).step (.draw p)).page = some drawn ∧
          shownBytes drawn.operations = shownBytes page.operations ++ bytes ∧
          (∀ b ∈ bytes, first ≤ b.toNat ∧ b.toNat ≤ last ∧ WinAnsi.decode? b ≠ none) ∧
          ∀ (units : UInt32) (size : Float32),
            units.toNat = (bytes.map fun b => widths.getD (b.toNat - first) 0).sum →
              l.widthOf p.text v size = units.toFloat32 * size / 1000.0 := by
  obtain ⟨font, hface, hlength⟩ := hl.isComplete v
  obtain ⟨-, o, -, -, hfont, hdictionary⟩ := Canvas.font?_document l steps v
  rw [hface] at hdictionary
  obtain ⟨descriptor, rfl⟩ := hdictionary
  refine ⟨_, Font.firstCode, Font.lastCode, font.widths.map (·.toNat), hfont, rfl, rfl, ?_,
    by decide, ?_, ?_⟩
  · rw [List.map_map]
    rfl
  · rw [List.length_map, hlength]
    rfl
  · intro calls page p hpage hv
    have hname := (Canvas.run_continues (Canvas.new l) calls).fontName
    refine ⟨congrFun hname v, _, WinAnsi.encode p.text,
      congrArg Canvas.page (Canvas.step_draw_of_page hpage p), shownBytes_draw page _ p, ?_, ?_⟩
    · intro b hb
      have hdefined := WinAnsi.decode?_of_mem_encode hb
      exact ⟨WinAnsi.le_of_decode? hdefined, Nat.le_of_lt_succ b.toNat_lt, hdefined⟩
    · intro units size hunits
      refine (l.face v).widthOf_eq (hunits.trans ?_) size
      congr 1
      refine List.map_congr_left fun b hb => ?_
      rw [hface]
      exact (codeWidth_eq_getD (WinAnsi.le_of_decode? (WinAnsi.decode?_of_mem_encode hb))).symm

/-- A font file with the tables that a face cannot do without. All its glyphs have the same
advance, of 600 of the 1000 units that an em has. -/
def monospacedFile : ByteArray :=
  let table (tag : String) (offset length : UInt8) : List UInt8 :=
    ascii tag ++ [0, 0, 0, 0, 0, 0, 0, offset, 0, 0, 0, length]
  let head := List.replicate 18 0 ++ [3, 232] ++ List.replicate 34 0
  let hhea := List.replicate 35 0 ++ [1]
  ⟨([0, 1, 0, 0, 0, 4, 0, 0, 0, 0, 0, 0] ++
    table "head" 76 54 ++ table "hhea" 130 36 ++ table "hmtx" 166 4 ++ table "maxp" 170 6 ++
    head ++ hhea ++ [2, 88, 0, 0] ++ [0, 0, 80, 0, 0, 1]).toArray⟩

/-- What is loaded when the regular face is in the monospaced file. -/
def monospaced : Except Font.LibraryError Library :=
  let p : Provider (StateM Unit) := ⟨fun _ => pure (.ok monospacedFile)⟩
  ((Library.load p { regular := "mono.ttf" }).run.run ()).1

/-- Two letters of the monospaced face have 1200 units. -/
theorem widthOf_monospaced :
    ∃ l, monospaced = .ok l ∧
      l.widthOf ['A', 'V'] .bold 10 = UInt32.toFloat32 1200 * 10 / 1000.0 := by
  let steps : List Step := [.page PageSize.a4]
  have hread : (match monospaced with
      | .ok l =>
        (((Canvas.new l).run steps).document.font? (fontName l .bold)).map fun font =>
          (font.widthOfCode? 65, font.widthOfCode? 86)
      | .error _ => none) = some (some 600, some 600) := by
    decide +kernel
  cases hl : monospaced with
  | error cause =>
    rw [hl] at hread
    cases hread
  | ok l =>
    rw [hl] at hread
    obtain ⟨font, first, last, widths, hfont, hfirst, -, hwidths, -, -, hdraw⟩ :=
      widthOf_eq_drawn_widths (.files _ _ _ hl) steps .bold
    simp only [hfont, Option.map_some, Option.some.injEq, Prod.mk.injEq] at hread
    let p : Layout.Placement :=
      { text := ['A', 'V'], x := 0, y := 0, size := 10, variant := .bold, color := default }
    have hpage : ((Canvas.new l).run steps).page = some { size := PageSize.a4 } := rfl
    obtain ⟨-, drawn, bytes, hdrawn, hshown, -, hunits⟩ := hdraw steps _ p hpage rfl
    have hbytes : bytes = [65, 86] := by
      rw [Canvas.step_draw_of_page hpage] at hdrawn
      obtain rfl := Option.some.inj hdrawn
      rw [shownBytes_draw] at hshown
      exact (List.append_cancel_left hshown).symm
    refine ⟨l, rfl, hunits 1200 10 ?_⟩
    rw [hbytes]
    have hA := Object.getD_of_widthOfCode? hfirst hwidths hread.1
    have hV := Object.getD_of_widthOfCode? hfirst hwidths hread.2
    change 1200 = widths.getD (65 - first) 0 + (widths.getD (86 - first) 0 + 0)
    rw [hA, hV]

end TaggedPage.Pdf
