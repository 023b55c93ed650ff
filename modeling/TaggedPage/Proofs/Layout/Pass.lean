import TaggedPage.Proofs.Layout.Heights

/-! # Layout as a single pass

A document is laid out in two nested loops that move one cursor (`Pass.document`): over its
lines, and in each line over its fragments. What comes out can be told without a cursor. The
position of a fragment is the left margin and the advances of the fragments before it on its
line (`positionOf`), the height of a line comes from the lines before it (`startOf`), and every
fragment with text is placed by these two numbers alone (`placeDocument_by_position`).

The margin of a line at an edge is the largest of those that its fragments set there, or zero
(`IsLineMargin`).
-/

namespace TaggedPage.Layout

open Markup (Fragment)
open Number

variable (s : Settings) (measure : Measure)

/-! ## The margin of a line -/

/-- The largest of zero and the margins that fragments set at an edge. A margin that is not a
number does not count. -/
structure IsLineMargin (edge : Edge) (line : List Fragment) (m : Float32) : Prop where
  taken : m = 0 ∨ ∃ f ∈ line, f.style.margins.get edge = some m
  nonneg : 0 ≤ m
  le : ∀ f ∈ line, ∀ v, f.style.margins.get edge = some v → v.isNaN = false → v ≤ m

theorem zero_le_zero : (0 : Float32) ≤ 0 := isRounded_zero.mono isRounded_zero le_rfl

theorem le_larger_left {a b : Float32} (ha : 0 ≤ a) : a ≤ larger a b := by
  obtain ⟨-, hnan, -⟩ := le_iff.mp ha
  by_cases h : a ≤ b
  · rwa [larger, if_pos h]
  · rw [larger, if_neg h]
    exact le_iff.mpr ⟨hnan, hnan, le_rfl⟩

theorem le_larger_right {a b : Float32} (ha : 0 ≤ a) (hb : b.isNaN = false) : b ≤ larger a b := by
  obtain ⟨-, hnan, -⟩ := le_iff.mp ha
  by_cases h : a ≤ b
  · rw [larger, if_pos h]
    exact le_iff.mpr ⟨hb, hb, le_rfl⟩
  · rw [larger, if_neg h]
    refine le_iff.mpr ⟨hb, hnan, ?_⟩
    by_contra hkey
    exact h (le_iff.mpr ⟨hnan, hb, (not_le.mp hkey).le⟩)

theorem lineMargin_append_singleton (edge : Edge) (line : List Fragment) (f : Fragment) :
    lineMargin edge (line ++ [f]) =
      larger (lineMargin edge line) (f.style.margins.orZero edge) := by
  simp only [lineMargin, List.map_append, List.foldl_append, List.map_cons, List.map_nil,
    List.foldl_cons, List.foldl_nil]

/-- One more fragment on the line. -/
theorem IsLineMargin.append_singleton {edge : Edge} {line : List Fragment} {m : Float32}
    (h : IsLineMargin edge line m) (f : Fragment) :
    IsLineMargin edge (line ++ [f]) (larger m (f.style.margins.orZero edge)) := by
  refine ⟨?_, le_le_trans h.nonneg (le_larger_left h.nonneg), ?_⟩
  · by_cases hle : m ≤ f.style.margins.orZero edge
    · rw [larger, if_pos hle]
      cases hset : f.style.margins.get edge with
      | none => exact .inl (by rw [Margins.orZero, hset, Option.getD_none])
      | some v =>
        refine .inr ⟨f, List.mem_append_right line (List.mem_singleton_self f), ?_⟩
        rw [Margins.orZero, hset, Option.getD_some]
    · rw [larger, if_neg hle]
      rcases h.taken with hzero | ⟨g, hg, hset⟩
      · exact .inl hzero
      · exact .inr ⟨g, List.mem_append_left [f] hg, hset⟩
  · intro g hg v hset hv
    rcases List.mem_append.mp hg with hg | hg
    · exact le_le_trans (h.le g hg v hset hv) (le_larger_left h.nonneg)
    · obtain rfl := List.mem_singleton.mp hg
      have hzero : g.style.margins.orZero edge = v := by
        rw [Margins.orZero, hset, Option.getD_some]
      rw [hzero]
      exact le_larger_right h.nonneg hv

theorem isLineMargin_lineMargin (edge : Edge) (line : List Fragment) :
    IsLineMargin edge line (lineMargin edge line) := by
  induction line using List.reverseRecOn with
  | nil => exact ⟨.inl rfl, zero_le_zero, fun f hf => absurd hf List.not_mem_nil⟩
  | append_singleton line f ih =>
    rw [lineMargin_append_singleton]
    exact ih.append_singleton f

/-! ## Positions on a line -/

/-- The position at which the fragment with the given number begins. -/
def positionOf (fragments : List Fragment) (k : ℕ) : Float32 :=
  advanceAll s measure s.leftMargin (fragments.take k)

theorem positionOf_succ (fragments : List Fragment) (k : Fin fragments.length) :
    positionOf s measure fragments (k + 1) =
      positionOf s measure fragments k + advance s measure fragments[k] := by
  rw [positionOf, positionOf, List.take_succ_eq_append_getElem k.isLt, advanceAll,
    List.foldl_append]
  rfl

theorem placeFrom_eq (x y : Float32) (fragments : List Fragment) :
    placeFrom s measure x y fragments =
      (List.finRange fragments.length).flatMap fun k : Fin fragments.length =>
        place s (advanceAll s measure x (fragments.take k)) y fragments[k] := by
  induction fragments generalizing x with
  | nil => rfl
  | cons f rest ih =>
    have hrange : List.finRange (f :: rest).length =
        0 :: (List.finRange rest.length).map Fin.succ := List.finRange_succ
    rw [placeFrom, ih, hrange, List.flatMap_cons, List.flatMap_map]
    rfl

/-- What a fragment with text is placed as, when it begins at a position of a base line. -/
def placementOf (x y : Float32) (f : Fragment) : Placement where
  text := f.text
  x := x + f.style.margins.orZero .left
  y
  variant := Variant.ofFlags f.style.bold f.style.italic
  size := f.style.fontSize.getD s.baseFontSize
  color := f.style.color.getD s.defaultColor

theorem flatMap_place {ι : Type} (is : List ι) (x : ι → Float32) (y : Float32)
    (f : ι → Fragment) :
    (is.flatMap fun i => place s (x i) y (f i)) =
      (is.filter fun i => !(f i).text.isEmpty).map fun i => placementOf s (x i) y (f i) := by
  induction is with
  | nil => rfl
  | cons i is ih =>
    rw [List.flatMap_cons, ih, List.filter_cons]
    cases htext : (f i).text.isEmpty with
    | true => rw [place, if_pos htext]; rfl
    | false =>
      rw [place, if_neg (by rw [htext]; exact Bool.false_ne_true)]
      rfl

/-! ## The two loops -/

/-- A layout in progress: the position at which it goes on, and what was placed so far. -/
structure Pass where
  cursor : Cursor
  placed : List Placement := []

namespace Pass

/-- Places a fragment at the cursor, if it has text, and moves the cursor behind it. -/
def fragment (pass : Pass) (f : Fragment) : Pass where
  cursor :=
    { pass.cursor with
      x := pass.cursor.x +
        (measure f.text f.variant (sizeOf s f) + f.style.margins.orZero .right) }
  placed := pass.placed ++ place s pass.cursor.x pass.cursor.y f

/-- Moves the cursor to the beginning of the base line of a line. -/
def enter (pass : Pass) (line : List Fragment) : Pass :=
  { pass with cursor := ⟨s.leftMargin, pass.cursor.y - lineMargin .top line⟩ }

/-- Moves the cursor below a line. -/
def leave (pass : Pass) (line : List Fragment) : Pass :=
  { pass with
    cursor :=
      { pass.cursor with y := pass.cursor.y - (s.lineHeight + lineMargin .bottom line) } }

def line (pass : Pass) (line : List Fragment) : Pass :=
  (line.foldl (fragment s measure) (pass.enter s line)).leave s line

def document (lines : List (List Fragment)) : Pass :=
  lines.foldl (line s measure) { cursor := start s }

theorem foldl_fragment (pass : Pass) (fragments : List Fragment) :
    fragments.foldl (fragment s measure) pass =
      { cursor := ⟨advanceAll s measure pass.cursor.x fragments, pass.cursor.y⟩
        placed := pass.placed ++ placeFrom s measure pass.cursor.x pass.cursor.y fragments } := by
  induction fragments generalizing pass with
  | nil => rw [List.foldl_nil, placeFrom, List.append_nil]; rfl
  | cons f rest ih =>
    rw [List.foldl_cons, ih, placeFrom, ← List.append_assoc]
    rfl

theorem line_eq (pass : Pass) (fragments : List Fragment) :
    pass.line s measure fragments =
      { cursor := afterLine s measure pass.cursor fragments
        placed := pass.placed ++ placeLine s measure pass.cursor.y fragments } := by
  rw [line, foldl_fragment]
  rfl

theorem foldl_line (pass : Pass) (lines : List (List Fragment)) :
    lines.foldl (line s measure) pass =
      { cursor := lines.foldl (afterLine s measure) pass.cursor
        placed := pass.placed ++ placeLines s measure pass.cursor.y lines } := by
  induction lines generalizing pass with
  | nil => rw [List.foldl_nil, placeLines, List.append_nil]; rfl
  | cons fragments rest ih =>
    rw [List.foldl_cons, ih, line_eq, placeLines, ← List.append_assoc]
    rfl

/-- The loops place what is placed line by line. -/
theorem document_eq (lines : List (List Fragment)) :
    document s measure lines =
      { cursor := lines.foldl (afterLine s measure) (start s)
        placed := placeDocument s measure lines } :=
  foldl_line s measure _ lines

end Pass

/-- What a line leaves at the cursor's height does not depend on where the cursor stands on
the line. -/
theorem y_foldl_afterLine (c : Cursor) (lines : List (List Fragment)) :
    (lines.foldl (afterLine s measure) c).y = lines.foldl (nextHeight s) c.y := by
  induction lines generalizing c with
  | nil => rfl
  | cons fragments rest ih => exact ih _

/-! ## The document -/

/-- A document is placed line by line and fragment by fragment. Every fragment with text is
placed once, in order, in the face of its flags, with its own size and colour or those of the
document, behind its left margin and on the base line of its line. The first fragment of a line
begins at the left margin of the page, and each one ends the width of its text, measured in the
face and size in which it is placed, and its right margin behind its beginning, whether it has
text or not. The first line begins below the top margin of the page, and each one ends the line
height and its bottom margin below its base line. The two nested loops over one cursor come to
the same. -/
theorem placeDocument_by_position (lines : List (List Fragment)) :
    let row (i : Fin lines.length) : List Fragment := lines.get i
    let fragment (i : Fin lines.length) (k : Fin (row i).length) : Fragment := (row i).get k
    let top (i : Fin lines.length) := lineMargin .top (row i)
    let bottom (i : Fin lines.length) := lineMargin .bottom (row i)
    let y (i : ℕ) := startOf s lines i
    let x (i : Fin lines.length) (k : ℕ) := positionOf s measure (row i) k
    let command (i : Fin lines.length) (k : Fin (row i).length) : Placement :=
      { text := (fragment i k).text
        x := x i k + (fragment i k).style.margins.orZero .left
        y := y i - top i
        variant := Variant.ofFlags (fragment i k).style.bold (fragment i k).style.italic
        size := (fragment i k).style.fontSize.getD s.baseFontSize
        color := (fragment i k).style.color.getD s.defaultColor }
    placeDocument s measure lines =
        ((List.finRange lines.length).flatMap fun i : Fin lines.length =>
          ((List.finRange (row i).length).filter fun k => !(fragment i k).text.isEmpty).map
            (command i)) ∧
      (∀ i, x i 0 = s.leftMargin) ∧
      (∀ i (k : Fin (row i).length), x i (k + 1) =
        x i k + (measure (command i k).text (command i k).variant (command i k).size +
          (fragment i k).style.margins.orZero .right)) ∧
      y 0 = s.pageHeight - s.topMargin ∧
      (∀ i : Fin lines.length, y (i + 1) = (y i - top i) - (s.lineHeight + bottom i)) ∧
      (∀ i, IsLineMargin .top (row i) (top i) ∧ IsLineMargin .bottom (row i) (bottom i)) ∧
      (Pass.document s measure lines).placed = placeDocument s measure lines ∧
      ∀ i, (Pass.document s measure (lines.take i)).cursor.y = y i := by
  intro row fragment top bottom y x command
  refine ⟨?_, ?_, ?_, rfl, ?_, ?_, ?_, ?_⟩
  · rw [placeDocument_eq]
    refine List.flatMap_congr fun i _ => ?_
    rw [placeLine, placeFrom_eq, flatMap_place]
    rfl
  · intro i
    rfl
  · intro i k
    exact positionOf_succ s measure (row i) k
  · intro i
    exact startOf_succ s lines i
  · intro i
    exact ⟨isLineMargin_lineMargin .top (row i), isLineMargin_lineMargin .bottom (row i)⟩
  · rw [Pass.document_eq]
  · intro i
    rw [Pass.document_eq]
    exact y_foldl_afterLine s measure (start s) (lines.take i)

end TaggedPage.Layout
