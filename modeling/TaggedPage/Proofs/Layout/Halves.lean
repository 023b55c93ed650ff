import TaggedPage.Proofs.Layout.Lines
import TaggedPage.Proofs.Markup.Halves
import TaggedPage.Proofs.Number.ExactSum

/-! # Halves of a fragment

A closing tag with nothing to close leaves the style as it is, but it cuts the fragment in which
it stands. The margins at the top and the bottom do not show the cut, for the largest of them is
the same whether one fragment has it or two (`lineMargin_halves`), and so every line keeps its
height. The margins at the sides belong to each fragment. The left one only shifts the halves
themselves, both alike. The right one is part of the distance to the next fragment: it now
stands between the halves as well, and everything behind them on the line moves by it.

How far texts move is a matter of exact values (`MovedRight`), of sums that need no rounding
(`SumsExactly`) and of a width that is the sum of the widths of the halves.
-/

namespace TaggedPage.Layout

open Markup (Fragment Style Apart byteLength closeBold compileLine firstStretch lastStretch styleAt)
open Number (ExactSum exact)

variable (s : Settings) (measure : Measure)

/-! ## Heights -/

theorem larger_larger (a b : Float32) : larger (larger a b) b = larger a b := by
  by_cases h : a ≤ b
  · rw [larger, larger, if_pos h, ite_self]
  · rw [larger, larger, if_neg h, if_neg h]

/-- A margin counts once, whether one fragment has it or its two halves do. -/
theorem lineMargin_halves (edge : Edge) (head tail : List Fragment) (style : Style)
    (first second : List Char) :
    lineMargin edge
        (head ++ (Fragment.ofText style first ++ Fragment.ofText style second) ++ tail) =
      lineMargin edge (head ++ Fragment.ofText style (first ++ second) ++ tail) := by
  cases first with
  | nil => rfl
  | cons c first =>
    cases second with
    | nil => rw [List.append_nil]; rfl
    | cons d second =>
      simp only [lineMargin, Fragment.ofText, List.isEmpty_cons, List.cons_append,
        Bool.false_eq_true, if_false, List.map_append, List.map_cons, List.map_nil,
        List.foldl_append, List.foldl_cons, List.foldl_nil, List.nil_append, larger_larger]

/-! ## Positions -/

theorem placeFrom_append (x y : Float32) (line more : List Fragment) :
    placeFrom s measure x y (line ++ more) =
      placeFrom s measure x y line ++
        placeFrom s measure (advanceAll s measure x line) y more := by
  induction line generalizing x with
  | nil => rfl
  | cons f line ih =>
    rw [List.cons_append, placeFrom, ih, placeFrom, List.append_assoc]
    rfl

/-- The sums that place a fragment and lead behind it need no rounding. -/
structure AddsExactly (x : Float32) (f : Fragment) : Prop where
  position : ExactSum x (f.style.margins.orZero .left)
  distance : ExactSum (measure f.text f.variant (sizeOf s f)) (f.style.margins.orZero .right)
  next : ExactSum x (advance s measure f)

/-- No sum in a line from a position on needs rounding. -/
def SumsExactly (x : Float32) : List Fragment → Prop
  | [] => True
  | f :: rest => AddsExactly s measure x f ∧ SumsExactly (x + advance s measure f) rest

instance (x : Float32) (f : Fragment) : Decidable (AddsExactly s measure x f) :=
  decidable_of_iff
    (ExactSum x (f.style.margins.orZero .left) ∧
      ExactSum (measure f.text f.variant (sizeOf s f)) (f.style.margins.orZero .right) ∧
      ExactSum x (advance s measure f))
    ⟨fun h => ⟨h.1, h.2.1, h.2.2⟩, fun h => ⟨h.position, h.distance, h.next⟩⟩

instance decidableSumsExactly (x : Float32) :
    (line : List Fragment) → Decidable (SumsExactly s measure x line)
  | [] => isTrue trivial
  | f :: rest =>
    have := decidableSumsExactly (x + advance s measure f) rest
    inferInstanceAs (Decidable (AddsExactly s measure x f ∧ _))

variable {s measure}

theorem SumsExactly.of_append {x : Float32} {line more : List Fragment}
    (h : SumsExactly s measure x (line ++ more)) :
    SumsExactly s measure (advanceAll s measure x line) more := by
  induction line generalizing x with
  | nil => exact h
  | cons f line ih => exact ih h.2

/-- The second placement is the first one, moved to the right. -/
structure MovedRight (distance : ℚ) (p q : Placement) : Prop where
  finite : p.x.isFinite = true ∧ q.x.isFinite = true
  exact_x : exact q.x = exact p.x + distance
  elsewhere : q = { p with x := q.x }

theorem place_movedRight {x x' : Float32} {d : ℚ} (hx : exact x' = exact x + d) (y : Float32)
    {f : Fragment} (h : AddsExactly s measure x f) (h' : AddsExactly s measure x' f) :
    List.Forall₂ (MovedRight d) (place s x y f) (place s x' y f) := by
  by_cases htext : f.text.isEmpty = true
  · rw [place, place, if_pos htext, if_pos htext]
    exact .nil
  · rw [place, place, if_neg htext, if_neg htext]
    refine .cons ⟨⟨h.position.sum, h'.position.sum⟩, ?_, rfl⟩ .nil
    show exact (x' + _) = exact (x + _) + d
    rw [h.position.exact_add, h'.position.exact_add, hx]
    ring

/-- Fragments that begin further to the right are placed further to the right, all by the same
distance. -/
theorem placeFrom_movedRight {x x' : Float32} {d : ℚ} (hx : exact x' = exact x + d) (y : Float32)
    {line : List Fragment} (h : SumsExactly s measure x line) (h' : SumsExactly s measure x' line) :
    List.Forall₂ (MovedRight d) (placeFrom s measure x y line) (placeFrom s measure x' y line) := by
  induction line generalizing x x' with
  | nil => exact .nil
  | cons f rest ih =>
    have hnext : exact (x' + advance s measure f) = exact (x + advance s measure f) + d := by
      rw [h.1.next.exact_add, h'.1.next.exact_add, hx]
      ring
    exact List.rel_append (place_movedRight hx y h.1 h'.1) (ih hnext h.2 h'.2)

/-! ## The fragment that is cut -/

def shown (s : Settings) (style : Style) (x y : Float32) (text : List Char) : Placement where
  text
  x
  y
  variant := style.variant
  size := style.fontSize.getD s.baseFontSize
  color := style.color.getD s.defaultColor

def widthIn (s : Settings) (measure : Measure) (style : Style) (text : List Char) : Float32 :=
  measure text style.variant (style.fontSize.getD s.baseFontSize)

theorem ofText_of_ne_nil (style : Style) {text : List Char} (h : text ≠ []) :
    Fragment.ofText style text = [⟨text, style⟩] := by
  cases text with
  | nil => exact absurd rfl h
  | cons c text => rfl

/-- Of a text with one empty half there is one fragment at most, as without the cut. -/
theorem ofText_append_of_empty (style : Style) {first second : List Char}
    (h : first = [] ∨ second = []) :
    Fragment.ofText style first ++ Fragment.ofText style second =
      Fragment.ofText style (first ++ second) := by
  rcases h with rfl | rfl
  · rfl
  · rw [List.append_nil]
    exact List.append_nil _

theorem placeFrom_cons_of_ne_nil {style : Style} {text : List Char} (h : text ≠ []) (x y : Float32)
    (rest : List Fragment) :
    placeFrom s measure x y (⟨text, style⟩ :: rest) =
      shown s style (x + style.margins.orZero .left) y text ::
        placeFrom s measure (x + advance s measure ⟨text, style⟩) y rest := by
  cases text with
  | nil => exact absurd rfl h
  | cons c text => rfl

theorem AddsExactly.exact_advance {x : Float32} {style : Style} {text : List Char}
    (h : AddsExactly s measure x ⟨text, style⟩) :
    exact (advance s measure ⟨text, style⟩) =
      exact (widthIn s measure style text) + exact (style.margins.orZero .right) :=
  h.distance.exact_add

section

variable {x : Float32} {style : Style} {first second : List Char}
  (hwidth : exact (widthIn s measure style (first ++ second)) =
    exact (widthIn s measure style first) + exact (widthIn s measure style second))
  (h : AddsExactly s measure x ⟨first ++ second, style⟩)
  (hfirst : AddsExactly s measure x ⟨first, style⟩)
  (hsecond : AddsExactly s measure (x + advance s measure ⟨first, style⟩) ⟨second, style⟩)

include hfirst hsecond

/-- The second half begins behind the width of the first half and the margin at the right. -/
theorem second_half_movedRight (y : Float32) :
    MovedRight (exact (widthIn s measure style first) + exact (style.margins.orZero .right))
      (shown s style (x + style.margins.orZero .left) y second)
      (shown s style (x + advance s measure ⟨first, style⟩ + style.margins.orZero .left) y
        second) := by
  refine ⟨⟨hfirst.position.sum, hsecond.position.sum⟩, ?_, rfl⟩
  show exact (x + _ + _) = exact (x + _) + _
  rw [hsecond.position.exact_add, hfirst.next.exact_add, hfirst.position.exact_add,
    hfirst.exact_advance]
  ring

include hwidth h

/-- The halves lead further than the whole does, by the margin at the right. -/
theorem exact_behind_halves :
    exact (x + advance s measure ⟨first, style⟩ + advance s measure ⟨second, style⟩) =
      exact (x + advance s measure ⟨first ++ second, style⟩) +
        exact (style.margins.orZero .right) := by
  rw [hsecond.next.exact_add, hfirst.next.exact_add, h.next.exact_add, hfirst.exact_advance,
    hsecond.exact_advance, h.exact_advance, hwidth]
  ring

/-- Without a margin at the right the halves lead where the whole does. -/
theorem behind_halves_eq (hright : style.margins.orZero .right = 0) :
    x + advance s measure ⟨first, style⟩ + advance s measure ⟨second, style⟩ =
      x + advance s measure ⟨first ++ second, style⟩ := by
  -- A distance with nothing at the right is no negative zero, so exact values decide the sums.
  have hsigned {y : Float32} {text : List Char} (hadds : AddsExactly s measure y ⟨text, style⟩) :
      advance s measure ⟨text, style⟩ ≠ -0 := by
    rw [advance, hright]
    exact Number.add_zero_ne_negativeZero hadds.distance.left
  have hexact := exact_behind_halves hwidth h hfirst hsecond
  rw [hright, Number.exact_zero, add_zero, hsecond.next.exact_add, h.next.exact_add] at hexact
  exact hsecond.next.add_eq_add h.next hexact (hsigned hsecond) (hsigned h)

end

/-! ## The document -/

variable (s measure)

theorem placedBy_middle (above below : List (List Fragment)) (line : List Fragment) :
    placedBy s measure (above ++ line :: below) above.length =
      placeLine s measure (above.foldl (nextHeight s) (start s).y) line := by
  have hlength : above.length < (above ++ line :: below).length := by
    rw [List.length_append]
    exact Nat.lt_add_of_pos_right (Nat.succ_pos _)
  have hline : (above ++ line :: below).get ⟨above.length, hlength⟩ = line :=
    List.getElem_of_append rfl rfl
  rw [placedBy_eq s measure _ ⟨above.length, hlength⟩, hline, startOf, List.take_left]

/-- Lines on both sides of one line are not that line. -/
theorem getElem?_middle_of_ne {α : Type} (above below : List α) (line line' : α) {i : ℕ}
    (hi : i ≠ above.length) : (above ++ line :: below)[i]? = (above ++ line' :: below)[i]? := by
  by_cases hlt : i < above.length
  · rw [List.getElem?_append_left hlt, List.getElem?_append_left hlt]
  · obtain ⟨k, rfl⟩ : ∃ k, i = above.length + (k + 1) := ⟨i - above.length - 1, by omega⟩
    simp only [List.getElem?_append_right (Nat.le_add_right _ _), Nat.add_sub_cancel_left,
      List.getElem?_cons_succ]

/-- A line may be replaced by one with the same margins at the top and the bottom without effect
on the other lines. -/
theorem placedBy_of_ne {above below : List (List Fragment)} {line line' : List Fragment}
    (h : SameMargins Eq line line') {i : ℕ} (hi : i ≠ above.length) :
    placedBy s measure (above ++ line :: below) i =
      placedBy s measure (above ++ line' :: below) i := by
  have hrefl (lines : List (List Fragment)) : List.Forall₂ (SameMargins Eq) lines lines :=
    List.forall₂_same.mpr fun _ _ => ⟨rfl, rfl⟩
  have hlines := List.rel_append (hrefl above) (.cons h (hrefl below))
  exact placedBy_congr hlines (getElem?_middle_of_ne above below line line' hi)

/-- Closing bold where it is not set cuts the stretch of text that stands there, and moves texts
by nothing but the margin at the right that is in force there, which the first half now has as
well as the second one. All other lines stay as they are, and so does the line itself where one
of the halves is empty. Otherwise the halves keep the style and the height of the whole; the
first one keeps its position, the second one follows behind the width of the first one and that
margin, and whatever stands behind them on the line moves to the right by the margin. Without
one it stays where it is. -/
theorem close_bold_moves_by_right_margin (above below : List (List Fragment))
    {before after : List Char} (h : Apart before after)
    (hbold : (styleAt (before ++ after) (byteLength before)).bold = false) :
    let style := styleAt (before ++ after) (byteLength before)
    let first := lastStretch before
    let second := firstStretch after
    let line := compileLine (before ++ after)
    let closed := compileLine (before ++ closeBold ++ after)
    let width := widthIn s measure style
    let right := style.margins.orZero .right
    (∀ i, i ≠ above.length ∨ first = [] ∨ second = [] →
      placedBy s measure (above ++ closed :: below) i =
        placedBy s measure (above ++ line :: below) i) ∧
    (first ≠ [] → second ≠ [] →
      exact (width (first ++ second)) = exact (width first) + exact (width second) →
      SumsExactly s measure s.leftMargin line → SumsExactly s measure s.leftMargin closed →
      ∃ head x y half tail tail',
        placedBy s measure (above ++ line :: below) above.length =
          head ++ shown s style x y (first ++ second) :: tail ∧
        placedBy s measure (above ++ closed :: below) above.length =
          head ++ shown s style x y first :: half :: tail' ∧
        MovedRight (exact (width first) + exact right) (shown s style x y second) half ∧
        List.Forall₂ (MovedRight (exact right)) tail tail' ∧
        (right = 0 → tail' = tail)) := by
  intro style first second line closed width right
  obtain ⟨head, tail, hline, hclosed⟩ := Markup.exists_halves h hbold
  have hmargins : SameMargins Eq closed line := by
    constructor <;> rw [show closed = _ from hclosed, show line = _ from hline] <;>
      exact lineMargin_halves _ head tail style first second
  constructor
  · rintro i (hi | hempty)
    · exact placedBy_of_ne s measure hmargins hi
    · have hsame : closed = line := by
        rw [show closed = _ from hclosed, show line = _ from hline]
        exact congrArg (head ++ · ++ tail) (ofText_append_of_empty style hempty)
      rw [hsame]
  · intro hfirst hsecond hwidth hexact hexact'
    have hboth : first ++ second ≠ [] := List.append_ne_nil_of_left_ne_nil hfirst _
    have hline' : line = head ++ ⟨first ++ second, style⟩ :: tail := by
      rw [show line = _ from hline, List.append_assoc, ofText_of_ne_nil style hboth,
        List.singleton_append]
    have hclosed' : closed = head ++ ⟨first, style⟩ :: ⟨second, style⟩ :: tail := by
      rw [show closed = _ from hclosed, List.append_assoc, ofText_of_ne_nil style hfirst,
        ofText_of_ne_nil style hsecond]
      rfl
    rw [hline'] at hexact
    rw [hclosed'] at hexact'
    obtain ⟨hwhole, htail⟩ := hexact.of_append
    obtain ⟨hone, htwo, htail'⟩ := hexact'.of_append
    have hbaseline (y : Float32) : baseline y closed = baseline y line := by
      rw [baseline, baseline, hmargins.top]
    let y := baseline (above.foldl (nextHeight s) (start s).y) line
    refine ⟨placeFrom s measure s.leftMargin y head, _, y, _,
      placeFrom s measure _ y tail, placeFrom s measure _ y tail, ?_, ?_,
      second_half_movedRight hone htwo y,
      placeFrom_movedRight (exact_behind_halves hwidth hwhole hone htwo) y htail htail', ?_⟩
    · rw [placedBy_middle, placeLine, hline', placeFrom_append, placeFrom_cons_of_ne_nil hboth,
        ← hline']
    · rw [placedBy_middle, placeLine, hbaseline, hclosed', placeFrom_append,
        placeFrom_cons_of_ne_nil hfirst, placeFrom_cons_of_ne_nil hsecond]
    · intro hright
      rw [behind_halves_eq hwidth hwhole hone htwo hright]

/-- Where there is no margin at the right, what follows the halves stays where it was. -/
theorem close_bold_keeps_later_text :
    ∃ config, Config.resolve {} none = .ok config ∧
      let s := config.settings
      let measure := Font.Library.standard.widthOf
      let before := "<125>a".toList
      let after := "b<i>c".toList
      let style := styleAt (before ++ after) (byteLength before)
      ∃ head x y half tail,
        placedBy s measure [compileLine (before ++ after)] 0 =
          head ++ shown s style x y ['a', 'b'] :: tail ∧
        placedBy s measure [compileLine (before ++ closeBold ++ after)] 0 =
          head ++ shown s style x y ['a'] :: half :: tail ∧
        MovedRight (139 / 2) (shown s style x y ['b']) half := by
  refine ⟨Config.combine {} {} .standard, rfl, ?_⟩
  intro s measure before after style
  have hfirst : lastStretch before = ['a'] := by decide +kernel
  have hsecond : firstStretch after = ['b'] := by decide +kernel
  have hwidth : exact (widthIn s measure style ['a']) = 139 / 2 := by decide +kernel
  have hright : style.margins.orZero .right = 0 := by decide +kernel
  obtain ⟨-, hhalves⟩ := @close_bold_moves_by_right_margin s measure [] [] before after
    (by decide +kernel) (by decide +kernel)
  rw [hfirst, hsecond] at hhalves
  obtain ⟨head, x, y, half, tail, tail', hline, hclosed, hmoved, -, htail⟩ :=
    hhalves (List.cons_ne_nil _ _) (List.cons_ne_nil _ _) (by decide +kernel) (by decide +kernel)
      (by decide +kernel)
  rw [htail hright] at hclosed
  rw [hwidth, hright, Number.exact_zero, add_zero] at hmoved
  exact ⟨head, x, y, half, tail, hline, hclosed, hmoved⟩

/-- A measure by which no text has a width, and which therefore is additive. -/
def widthless : Measure := fun _ _ _ => 0

/-- A margin at the right shows the cut, whether texts have a width or not: the second half does
not follow the width of the first one, and what stands behind the halves moves. -/
theorem close_bold_moves_text :
    let before := "<125><mr5>a".toList
    let after := "b<i>c".toList
    let line := compileLine (before ++ after)
    let closed := compileLine (before ++ closeBold ++ after)
    let style := styleAt (before ++ after) (byteLength before)
    (Apart before after ∧ style.bold = false) ∧
    ∃ config, Config.resolve {} none = .ok config ∧
      let s := config.settings
      let standard := Font.Library.standard.widthOf
      let xs := fun (measure : Measure) (line : List Fragment) =>
        (placeDocument s measure [line]).map (·.x)
      ((SumsExactly s standard s.leftMargin line ∧ SumsExactly s standard s.leftMargin closed ∧
          widthIn s standard style ['a', 'b'] =
            widthIn s standard style ['a'] + widthIn s standard style ['b']) ∧
        widthIn s standard style ['a'] = 69.5 ∧
        xs standard line = [50, 194] ∧ xs standard closed = [50, 124.5, 199]) ∧
      (SumsExactly s widthless s.leftMargin line ∧ SumsExactly s widthless s.leftMargin closed ∧
          ∀ style first second, widthIn s widthless style (first ++ second) =
            widthIn s widthless style first + widthIn s widthless style second) ∧
        xs widthless line = [50, 55] ∧ xs widthless closed = [50, 55, 60] := by
  intro before after line closed style
  refine ⟨by decide +kernel, Config.combine {} {} .standard, rfl, ?_⟩
  intro s standard xs
  have hadditive : (0 : Float32) = 0 + 0 := by decide +kernel
  refine ⟨by decide +kernel, ⟨?_, ?_, fun _ _ _ => hadditive⟩, ?_⟩
  · decide +kernel
  · decide +kernel
  · decide +kernel

end TaggedPage.Layout
