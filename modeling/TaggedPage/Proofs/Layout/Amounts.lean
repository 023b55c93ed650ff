import TaggedPage.Proofs.Config.Checks
import TaggedPage.Proofs.Markup.Stretches

/-! # The numbers that layout adds up

Two sources feed the sums of layout. The numbers in a text are whole and fit in 32 bits
(`IsWhole`), so every size and margin of a fragment is one of them or unset. The numbers of
the settings have passed the checks of the configuration (`Accepted`). Both are amounts:
finite, and not negative.
-/

namespace TaggedPage

open Number

/-- A finite number that is not negative. -/
structure IsAmount (x : Float32) : Prop where
  isFinite : x.isFinite = true
  nonneg : 0 ≤ x

/-- A whole number of 32 bits, as a number of a tag is. -/
def IsWhole (x : Float32) : Prop := ∃ n : UInt32, x = n.toFloat32

theorem IsWhole.zero : IsWhole 0 := ⟨0, rfl⟩

theorem IsWhole.isAmount {x : Float32} (h : IsWhole x) : IsAmount x := by
  obtain ⟨n, rfl⟩ := h
  refine ⟨(exact_toFloat32 n).1, ?_⟩
  exact isRounded_zero.mono (isRounded_toFloat32 n) n.toNat.cast_nonneg

theorem IsWhole.exact_le {x : Float32} (h : IsWhole x) : exact x ≤ 2 ^ 32 := by
  obtain ⟨n, rfl⟩ := h
  exact (exact_toFloat32 n).2.2

namespace Markup

/-- A style all of whose numbers are whole. -/
structure Style.Whole (s : Style) : Prop where
  fontSize : ∀ size, s.fontSize = some size → IsWhole size
  margin : ∀ edge, IsWhole (s.margins.orZero edge)

theorem Style.Whole.plain : Style.plain.Whole := by
  constructor
  · intro size hsize
    cases hsize
  · intro edge
    have hunset : Style.plain.margins.orZero edge = 0 := by cases edge <;> rfl
    rw [hunset]
    exact .zero

/-- A tag brings in whole numbers only. -/
theorem Style.Whole.apply {s : Style} (h : s.Whole) (tag : Tag) : (s.apply tag).Whole := by
  cases tag with
  | bold opens => exact ⟨h.fontSize, h.margin⟩
  | italic opens => exact ⟨h.fontSize, h.margin⟩
  | color rgb => exact ⟨h.fontSize, h.margin⟩
  | fontSize points opens =>
    refine ⟨fun size hsize => ?_, h.margin⟩
    cases opens with
    | false => cases hsize
    | true => exact ⟨points, (Option.some.inj hsize).symm⟩
  | margin edge value =>
    refine ⟨h.fontSize, fun other => ?_⟩
    by_cases heq : other = edge
    · subst heq
      refine ⟨value, ?_⟩
      unfold Style.apply Margins.orZero
      rw [Margins.get_set_self, Option.getD_some]
    · have hother := h.margin other
      unfold Margins.orZero at hother
      unfold Style.apply Margins.orZero
      rwa [Margins.get_set_of_ne _ _ heq]
  | marginReset => exact ⟨h.fontSize, Style.Whole.plain.margin⟩

theorem Style.Whole.of_mem_ofText {s : Style} (h : s.Whole) {text : List Char} {f : Fragment}
    (hf : f ∈ Fragment.ofText s text) : f.style.Whole := by
  unfold Fragment.ofText at hf
  split at hf
  · cases hf
  · obtain rfl := List.mem_singleton.mp hf
    exact h

theorem Style.Whole.of_mem_compileFrom {s : Style} {before text : List Char} (h : s.Whole) :
    ∀ f ∈ compileFrom s before text, f.style.Whole := by
  induction text using scan_induction generalizing s before with
  | done =>
    intro f hf
    rw [compileFrom_nil] at hf
    exact h.of_mem_ofText hf
  | tag spelling t rest hs ih =>
    intro f hf
    rw [compileFrom_spells_append hs] at hf
    rcases List.mem_append.mp hf with hf | hf
    · exact h.of_mem_ofText hf
    · exact ih (h.apply t) f hf
  | literal c rest hread ih =>
    rw [compileFrom_cons_of_read?_eq_none hread]
    exact ih h

/-- All numbers in the fragments of a text are whole. -/
theorem whole_of_mem_compileDocument {text : List Char} {line : List Fragment}
    (hline : line ∈ compileDocument text) : ∀ f ∈ line, f.style.Whole := by
  obtain ⟨source, -, rfl⟩ := List.mem_map.mp hline
  exact Style.Whole.plain.of_mem_compileFrom

end Markup

namespace Layout

open Markup (Fragment)

theorem isWhole_larger {a b : Float32} (ha : IsWhole a) (hb : IsWhole b) :
    IsWhole (larger a b) := by
  unfold larger
  split
  · exact hb
  · exact ha

/-- The margin of a line is one of its fragments' margins, or zero. -/
theorem isWhole_lineMargin {line : List Fragment} (h : ∀ f ∈ line, f.style.Whole)
    (edge : Edge) : IsWhole (lineMargin edge line) := by
  unfold lineMargin
  suffices hfold : ∀ largest, IsWhole largest →
      IsWhole ((line.map (·.style.margins.orZero edge)).foldl larger largest) from
    hfold 0 .zero
  induction line with
  | nil => exact fun largest hlargest => hlargest
  | cons f rest ih =>
    intro largest hlargest
    have hfirst : IsWhole (f.style.margins.orZero edge) := (h f List.mem_cons_self).margin edge
    exact ih (fun g hg => h g (List.mem_cons_of_mem f hg)) _ (isWhole_larger hlargest hfirst)

/-- Settings that have passed the checks of the configuration. -/
structure Accepted (s : Settings) : Prop where
  baseFontSize : IsAmount s.baseFontSize
  lineHeight : IsAmount s.lineHeight
  lineHeight_pos : 0 < s.lineHeight
  leftMargin : IsAmount s.leftMargin
  topMargin : IsAmount s.topMargin
  pageHeight : IsAmount s.pageHeight

end Layout

namespace Config

theorem Positive.isAmount {x : Float32} (h : Positive x) : IsAmount x :=
  ⟨h.1, (nonneg_iff_exact h.1).mpr h.2.le⟩

theorem NonNegative.isAmount {x : Float32} (h : NonNegative x) : IsAmount x :=
  ⟨h.1, (nonneg_iff_exact h.1).mpr h.2⟩

/-- Every configuration that is not refused has accepted settings. -/
theorem accepted_of_resolve {options : Options} {file : Option File} {config : Config}
    (h : resolve options file = .ok config) : Layout.Accepted config.settings := by
  obtain ⟨-, -, -, hsound⟩ := resolve_eq_ok_iff.mp h
  exact
    { baseFontSize := hsound.fontSize.isAmount
      lineHeight := hsound.lineHeight.isAmount
      lineHeight_pos := (pos_iff_exact hsound.lineHeight.1).mpr hsound.lineHeight.2
      leftMargin := hsound.marginLeft.isAmount
      topMargin := hsound.marginTop.isAmount
      pageHeight := hsound.pageHeight.isAmount }

end Config

end TaggedPage
