import TaggedPage.Layout
import TaggedPage.Proofs.Markup.Replaced

/-! # Placing fragments with replaced characters

Layout looks at the text of a fragment twice, to measure it and to see whether there is any.
Where a replacement of characters does not change what is measured, the placements of replaced
fragments are the placements of the fragments with their characters replaced. Positions,
faces, sizes and colours stay the same.
-/

namespace TaggedPage.Layout

open Markup (Fragment)

def Placement.mapText (φ : Char → Char) (p : Placement) : Placement :=
  { p with text := p.text.map φ }

/-- A replacement of characters that does not change the width of any text. -/
def KeepsWidths (measure : Measure) (φ : Char → Char) : Prop :=
  ∀ text variant size, measure (text.map φ) variant size = measure text variant size

variable (s : Settings) {measure : Measure} {φ : Char → Char}

theorem lineMargin_map (edge : Edge) (line : List Fragment) :
    lineMargin edge (line.map (·.mapText φ)) = lineMargin edge line := by
  rw [lineMargin, lineMargin, List.map_map]
  rfl

theorem baseline_map (y : Float32) (line : List Fragment) :
    baseline y (line.map (·.mapText φ)) = baseline y line := by
  rw [baseline, lineMargin_map, ← baseline]

theorem nextHeight_map (y : Float32) (line : List Fragment) :
    nextHeight s y (line.map (·.mapText φ)) = nextHeight s y line := by
  rw [nextHeight, baseline_map, lineMargin_map, ← nextHeight]

theorem place_mapText (x y : Float32) (f : Fragment) :
    place s x y (f.mapText φ) = (place s x y f).map (·.mapText φ) := by
  obtain ⟨text, style⟩ := f
  cases text <;> rfl

variable (h : KeepsWidths measure φ)

include h

theorem KeepsWidths.advance_mapText (f : Fragment) :
    advance s measure (f.mapText φ) = advance s measure f :=
  congrArg (· + f.style.margins.orZero .right) (h f.text f.variant (sizeOf s f))

theorem KeepsWidths.placeFrom_map (x y : Float32) (line : List Fragment) :
    placeFrom s measure x y (line.map (·.mapText φ)) =
      (placeFrom s measure x y line).map (·.mapText φ) := by
  induction line generalizing x with
  | nil => rfl
  | cons f rest ih =>
    rw [List.map_cons, placeFrom, placeFrom, h.advance_mapText, place_mapText, ih,
      List.map_append]

theorem KeepsWidths.placeLines_map (y : Float32) (lines : List (List Fragment)) :
    placeLines s measure y (lines.map (List.map (·.mapText φ))) =
      (placeLines s measure y lines).map (·.mapText φ) := by
  induction lines generalizing y with
  | nil => rfl
  | cons line rest ih =>
    rw [List.map_cons, placeLines, placeLines, placeLine, placeLine, baseline_map,
      nextHeight_map, h.placeFrom_map, ih, List.map_append]

/-- The placements of replaced fragments are those of the fragments with their characters
replaced. -/
theorem KeepsWidths.placeDocument_map (lines : List (List Fragment)) :
    placeDocument s measure (lines.map (List.map (·.mapText φ))) =
      (placeDocument s measure lines).map (·.mapText φ) :=
  h.placeLines_map s (start s).y lines

end TaggedPage.Layout
