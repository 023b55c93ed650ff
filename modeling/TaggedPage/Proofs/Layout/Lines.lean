import TaggedPage.Proofs.Layout.Heights

/-! # Lines of their own

What a line adds to the placements of a document (`placedBy`) is the line placed from the
height at which it begins. The rest of the document reaches it through this height alone, and
so it changes nothing but the height of its placements (`placedBy_eq_map`).

The heights themselves come from the margins of the lines at the top and the bottom. Documents
whose lines have the same margins there have the same heights, whatever else differs
(`rel_baseline`). The same may be meant bit for bit or as numbers, so this is said of any
relation that sums and differences respect.
-/

namespace TaggedPage.Layout

open Markup (Fragment)
open Number (Same)

variable (s : Settings) (measure : Measure)

/-! ## What a line adds -/

/-- What a line adds to the placements of the lines before it. -/
def placedBy (lines : List (List Fragment)) (i : ℕ) : List Placement :=
  (placeDocument s measure (lines.take (i + 1))).drop
    (placeDocument s measure (lines.take i)).length

theorem placeLines_append (y : Float32) (before after : List (List Fragment)) :
    placeLines s measure y (before ++ after) =
      placeLines s measure y before ++
        placeLines s measure (before.foldl (nextHeight s) y) after := by
  induction before generalizing y with
  | nil => rfl
  | cons fragments before ih =>
    rw [List.cons_append, placeLines, ih, placeLines, List.append_assoc]
    rfl

theorem placeDocument_take_succ (lines : List (List Fragment)) (i : Fin lines.length) :
    placeDocument s measure (lines.take (i + 1)) =
      placeDocument s measure (lines.take i) ++
        placeLine s measure (startOf s lines i) (lines.get i) := by
  rw [List.take_succ_eq_append_getElem i.isLt, placeDocument, placeLines_append]
  congr 1
  exact List.append_nil _

theorem placedBy_eq (lines : List (List Fragment)) (i : Fin lines.length) :
    placedBy s measure lines i = placeLine s measure (startOf s lines i) (lines.get i) := by
  rw [placedBy, placeDocument_take_succ, List.drop_left]

theorem placedBy_of_length_le {lines : List (List Fragment)} {i : ℕ} (h : lines.length ≤ i) :
    placedBy s measure lines i = [] := by
  rw [placedBy, List.take_of_length_le h, List.take_of_length_le (Nat.le_succ_of_le h),
    List.drop_length]

/-- The lines of a document add all its placements. -/
theorem placeDocument_eq_placedBy (lines : List (List Fragment)) :
    placeDocument s measure lines =
      (List.finRange lines.length).flatMap fun i : Fin lines.length =>
        placedBy s measure lines i := by
  rw [placeDocument_eq]
  exact List.flatMap_congr fun i _ => (placedBy_eq s measure lines i).symm

/-! ## Everything but the height -/

theorem place_at (x y y' : Float32) (f : Fragment) :
    place s x y f = (place s x y' f).map fun p => { p with y } := by
  obtain ⟨text, style⟩ := f
  cases text <;> rfl

/-- The height of a base line is in all placements on it, and nowhere else. -/
theorem placeFrom_at (x y y' : Float32) (fragments : List Fragment) :
    placeFrom s measure x y fragments =
      (placeFrom s measure x y' fragments).map fun p => { p with y } := by
  induction fragments generalizing x with
  | nil => rfl
  | cons f rest ih => rw [placeFrom, ih, place_at s x y y', ← List.map_append, ← placeFrom]

/-- A line adds what it adds to an empty document, at a height of its own. -/
theorem placedBy_eq_map (lines : List (List Fragment)) (i : Fin lines.length) :
    placedBy s measure lines i =
      (placeDocument s measure [lines.get i]).map fun p =>
        { p with y := baseline (startOf s lines i) (lines.get i) } := by
  have hsingle : placeDocument s measure [lines.get i] =
      placeLine s measure (start s).y (lines.get i) :=
    List.append_nil _
  rw [placedBy_eq, hsingle]
  exact placeFrom_at s measure s.leftMargin _ _ (lines.get i)

theorem y_of_mem_placedBy {lines : List (List Fragment)} {i : Fin lines.length} {p : Placement}
    (hp : p ∈ placedBy s measure lines i) : p.y = baseline (startOf s lines i) (lines.get i) := by
  rw [placedBy_eq_map] at hp
  obtain ⟨q, -, rfl⟩ := List.mem_map.mp hp
  rfl

/-! ## Heights -/

/-- A relation that sums and differences respect. -/
structure Respected (R : Float32 → Float32 → Prop) : Prop where
  refl : ∀ a, R a a
  add : ∀ {a a' b b'}, R a a' → R b b' → R (a + b) (a' + b')
  sub : ∀ {a a' b b'}, R a a' → R b b' → R (a - b) (a' - b')

theorem respected_eq : Respected Eq where
  refl _ := rfl
  add ha hb := congrArg₂ (· + ·) ha hb
  sub ha hb := congrArg₂ (· - ·) ha hb

theorem respected_same : Respected Same where
  refl := .refl
  add := .add
  sub := .sub

/-- Two lines whose margins at the top and at the bottom are related. -/
structure SameMargins (R : Float32 → Float32 → Prop) (line line' : List Fragment) : Prop where
  top : R (lineMargin .top line) (lineMargin .top line')
  bottom : R (lineMargin .bottom line) (lineMargin .bottom line')

variable {R : Float32 → Float32 → Prop} {s}

theorem Respected.baseline (hR : Respected R) {y y' : Float32} {line line' : List Fragment}
    (hy : R y y') (h : SameMargins R line line') :
    R (Layout.baseline y line) (Layout.baseline y' line') :=
  hR.sub hy h.top

theorem Respected.nextHeight (hR : Respected R) {y y' : Float32} {line line' : List Fragment}
    (hy : R y y') (h : SameMargins R line line') :
    R (Layout.nextHeight s y line) (Layout.nextHeight s y' line') :=
  hR.sub (hR.baseline hy h) (hR.add (hR.refl s.lineHeight) h.bottom)

theorem Respected.foldl_nextHeight (hR : Respected R) {y y' : Float32}
    {lines lines' : List (List Fragment)} (hy : R y y')
    (h : List.Forall₂ (SameMargins R) lines lines') :
    R (lines.foldl (Layout.nextHeight s) y) (lines'.foldl (Layout.nextHeight s) y') := by
  induction h generalizing y y' with
  | nil => exact hy
  | cons hfirst _ ih => exact ih (hR.nextHeight hy hfirst)

/-- Lines at the same place of two documents stand at related heights. -/
theorem rel_baseline (hR : Respected R) {lines lines' : List (List Fragment)}
    (h : List.Forall₂ (SameMargins R) lines lines') {i : ℕ} (hi : i < lines.length)
    (hi' : i < lines'.length) :
    R (baseline (startOf s lines i) lines[i]) (baseline (startOf s lines' i) lines'[i]) :=
  hR.baseline (hR.foldl_nextHeight (hR.refl _) (List.forall₂_take i h)) (h.get hi hi')

theorem rel_y (hR : Respected R) {measure measure' : Measure}
    {lines lines' : List (List Fragment)} (h : List.Forall₂ (SameMargins R) lines lines') (i : ℕ)
    {p q : Placement} (hp : p ∈ placedBy s measure lines i)
    (hq : q ∈ placedBy s measure' lines' i) : R p.y q.y := by
  have hlength : lines.length = lines'.length := h.length_eq
  by_cases hi : i < lines.length
  · have hi' : i < lines'.length := hlength ▸ hi
    rw [y_of_mem_placedBy s measure (i := ⟨i, hi⟩) hp,
      y_of_mem_placedBy s measure' (i := ⟨i, hi'⟩) hq]
    exact rel_baseline hR h hi hi'
  · rw [placedBy_of_length_le s measure (Nat.le_of_not_lt hi)] at hp
    cases hp

/-- A line that is the same in both documents, whose lines all have the same margins, adds the
same placements. -/
theorem placedBy_congr {measure : Measure} {lines lines' : List (List Fragment)}
    (h : List.Forall₂ (SameMargins Eq) lines lines') {i : ℕ} (hi : lines[i]? = lines'[i]?) :
    placedBy s measure lines i = placedBy s measure lines' i := by
  have hlength : lines.length = lines'.length := h.length_eq
  by_cases hlt : i < lines.length
  · have hlt' : i < lines'.length := hlength ▸ hlt
    have hline : lines[i] = lines'[i] := by
      rwa [List.getElem?_eq_getElem hlt, List.getElem?_eq_getElem hlt', Option.some_inj] at hi
    have hstart : startOf s lines i = startOf s lines' i :=
      respected_eq.foldl_nextHeight rfl (List.forall₂_take i h)
    rw [placedBy_eq s measure lines ⟨i, hlt⟩, placedBy_eq s measure lines' ⟨i, hlt'⟩, hstart]
    exact congrArg (placeLine s measure _) hline
  · rw [placedBy_of_length_le s measure (Nat.le_of_not_lt hlt),
      placedBy_of_length_le s measure (by omega)]

variable (s)

/-- Lines do not leak into one another. The placements of a document are those that its lines
add, one line after the other, and a line adds what it adds on its own, but for the height. The
height is decided by the margins at the top and the bottom: two documents with as many lines,
whose lines have the same margins there, have corresponding lines at the same heights, whatever
their texts, their styles, their margins at the sides and even the widths of their texts are.
This holds for margins that are the same bit for bit as well as for margins that are the same
numbers. -/
theorem lines_stand_alone (lines : List (List Fragment)) :
    (placeDocument s measure lines =
      (List.finRange lines.length).flatMap fun i : Fin lines.length =>
        placedBy s measure lines i) ∧
      (∀ i : Fin lines.length,
        (placedBy s measure lines i).map (fun p => (p.text, p.x, p.variant, p.size, p.color)) =
          (placeDocument s measure [lines.get i]).map
            (fun p => (p.text, p.x, p.variant, p.size, p.color))) ∧
      ∀ (measure' : Measure) (lines' : List (List Fragment)),
        (List.Forall₂ (SameMargins Eq) lines lines' →
          ∀ i, ∀ p ∈ placedBy s measure lines i, ∀ q ∈ placedBy s measure' lines' i,
            p.y = q.y) ∧
        (List.Forall₂ (SameMargins Same) lines lines' →
          ∀ i, ∀ p ∈ placedBy s measure lines i, ∀ q ∈ placedBy s measure' lines' i,
            Same p.y q.y) := by
  refine ⟨placeDocument_eq_placedBy s measure lines, ?_, ?_⟩
  · intro i
    rw [placedBy_eq_map, List.map_map]
    rfl
  · intro measure' lines'
    constructor
    · intro h i p hp q hq
      exact rel_y respected_eq h i hp hq
    · intro h i p hp q hq
      exact rel_y respected_same h i hp hq

def spaced (text : String) (top bottom : Option Float32) : Fragment where
  text := text.toList
  style := { margins := { top, bottom } }

/-- The second lines of two documents stand at one height. Their first lines have a margin of 3
at the top, taken from different fragments. It is no matter either that a margin of the second
document is a negative zero. -/
theorem lines_stand_alone_below_margin :
    let s : Settings := ⟨14, 24, 50, 50, 842, .black⟩
    let measure : Measure := fun text _ size => text.length.toFloat32 * size
    let lines := [[spaced "a" (some 3) none, spaced "b" none none], [spaced "c" none none]]
    let other := [[spaced "" none none, spaced "long" (some 3) none], [spaced "d" none none]]
    let signed := [[spaced "a" (some 3) (some (-0.0))], [spaced "e" none none]]
    (List.Forall₂ (SameMargins Eq) lines other ∧
      ∀ p ∈ placedBy s measure lines 1, ∀ q ∈ placedBy s measure other 1, p.y = q.y) ∧
    (List.Forall₂ (SameMargins Same) lines signed ∧
      ∀ p ∈ placedBy s measure lines 1, ∀ q ∈ placedBy s measure signed 1, Same p.y q.y) := by
  intro s measure lines other signed
  have hother : List.Forall₂ (SameMargins Eq) lines other :=
    .cons ⟨by decide +kernel, by decide +kernel⟩
      (.cons ⟨by decide +kernel, by decide +kernel⟩ .nil)
  have hsigned : List.Forall₂ (SameMargins Same) lines signed :=
    .cons ⟨.inl (by decide +kernel), .inr (by decide +kernel)⟩
      (.cons ⟨.inl (by decide +kernel), .inl (by decide +kernel)⟩ .nil)
  obtain ⟨-, -, hheights⟩ := lines_stand_alone s measure lines
  exact ⟨⟨hother, (hheights measure other).1 hother 1⟩,
    ⟨hsigned, (hheights measure signed).2 hsigned 1⟩⟩

end TaggedPage.Layout
