import TaggedPage.Pipeline
import TaggedPage.Proofs.Layout.Heights
import TaggedPage.Proofs.Number.Written
import TaggedPage.Proofs.Pdf.Operations

/-! # Finite placements

The size of a placement is always finite, and its coordinates are always numbers, but a sum
of widths or of line heights can leave the range of single precision. Two bounds on the
settings exclude this whatever the text and the faces are: under them every summand is
absorbed by the largest number (`Absorbed`), so a sum of any length stays finite. What is
written on the page then consists of digits, points and signs alone.
-/

namespace TaggedPage.Layout

open Markup (Fragment)
open Number

variable {s : Settings} (hs : Accepted s) {fonts : Font.Library}

/-! ## Fragments -/

theorem isWhole_or_base_sizeOf {f : Fragment} (h : f.style.Whole) :
    IsWhole (sizeOf s f) ∨ sizeOf s f = s.baseFontSize := by
  unfold sizeOf
  cases hsize : f.style.fontSize with
  | none => exact .inr rfl
  | some size => exact .inl (h.fontSize size hsize)

include hs in
theorem isAmount_sizeOf {f : Fragment} (h : f.style.Whole) : IsAmount (sizeOf s f) := by
  rcases isWhole_or_base_sizeOf (s := s) h with hwhole | hbase
  · exact hwhole.isAmount
  · rw [hbase]
    exact hs.baseFontSize

theorem nonneg_widthOf {size : Float32} (hsize : IsAmount size) (text : List Char)
    (v : Variant) : 0 ≤ fonts.widthOf text v size := by
  obtain ⟨hfinite, hnonneg, -⟩ := exact_toFloat32 ((fonts.face v).units text)
  have hunits : 0 ≤ ((fonts.face v).units text).toFloat32 :=
    isRounded_zero.mono (isRounded_exact hfinite) hnonneg
  exact nonneg_div_thousand (nonneg_mul hfinite hsize.isFinite hunits hsize.nonneg)

include hs in
theorem nonneg_advance {f : Fragment} (h : f.style.Whole) : 0 ≤ advance s fonts.widthOf f :=
  nonneg_add (nonneg_widthOf (isAmount_sizeOf hs h) f.text f.variant)
    (h.margin .right).isAmount.nonneg

/-- What holds of a position and of every later one of the line holds where a placement's
fragment begins. -/
theorem exists_position {measure : Measure} {P : Float32 → Prop} {x y : Float32}
    {line : List Fragment} (hx : P x)
    (hstep : ∀ f ∈ line, ∀ x, P x → P (x + advance s measure f)) {p : Placement}
    (hp : p ∈ placeFrom s measure x y line) :
    ∃ f ∈ line, ∃ x, P x ∧ p.x = x + f.style.margins.orZero .left ∧ p.y = y ∧
      p.size = sizeOf s f := by
  induction line generalizing x with
  | nil => cases hp
  | cons f rest ih =>
    rcases List.mem_append.mp hp with hp | hp
    · unfold place at hp
      split at hp
      · cases hp
      · obtain rfl := List.mem_singleton.mp hp
        exact ⟨f, List.mem_cons_self, x, hx, rfl, rfl, rfl⟩
    · obtain ⟨g, hg, hposition⟩ := ih (hstep f List.mem_cons_self x hx)
        (fun g hg => hstep g (List.mem_cons_of_mem f hg)) hp
      exact ⟨g, List.mem_cons_of_mem f hg, hposition⟩

/-! ## Bounds -/

theorem exact_largestSize : exact 2e24 = 13877788 * 2 ^ 57 := by decide +kernel

theorem exact_largestHeight : exact 1e31 = 16543612 * 2 ^ 79 := by decide +kernel

/-- Settings of which no text makes infinite sums. -/
structure Bounded (s : Settings) : Prop where
  baseFontSize : s.baseFontSize ≤ 2e24
  lineHeight : s.lineHeight ≤ 1e31

theorem absorbed_of_isWhole {x : Float32} (h : IsWhole x) : Absorbed x := by
  refine ⟨h.isAmount.isFinite, exact_nonneg h.isAmount.isFinite h.isAmount.nonneg, ?_⟩
  exact h.exact_le.trans_lt (by norm_num)

variable (hb : Bounded s)

include hs hb

theorem absorbed_lineHeight_add {line : List Fragment} (h : ∀ f ∈ line, f.style.Whole) :
    Absorbed (s.lineHeight + lineMargin .bottom line) := by
  have hmargin := isWhole_lineMargin h .bottom
  have hheight : exact s.lineHeight ≤ 16543612 * 2 ^ 79 :=
    (exact_le_exact hs.lineHeight.isFinite (by decide +kernel) hb.lineHeight).trans_eq
      exact_largestHeight
  have hheight0 := exact_nonneg hs.lineHeight.isFinite hs.lineHeight.nonneg
  have hmargin0 := exact_nonneg hmargin.isAmount.isFinite hmargin.isAmount.nonneg
  have hmarginLe := hmargin.exact_le
  obtain ⟨hfinite, hnonneg, hle⟩ :=
    (isRounded_add hs.lineHeight.isFinite hmargin.isAmount.isFinite).le_bound
      (n := 16543613) (e := 79) (by linarith) ⟨by norm_num, by norm_num, by norm_num⟩
      (by norm_num) (by norm_num) (by norm_num; linarith)
  exact ⟨hfinite, hnonneg, hle.trans_lt (by norm_num)⟩

theorem exact_sizeOf_le {f : Fragment} (h : f.style.Whole) :
    exact (sizeOf s f) ≤ 13877788 * 2 ^ 57 := by
  rcases isWhole_or_base_sizeOf (s := s) h with hwhole | hbase
  · exact hwhole.exact_le.trans (by norm_num)
  · rw [hbase]
    exact (exact_le_exact hs.baseFontSize.isFinite (by decide +kernel) hb.baseFontSize).trans_eq
      exact_largestSize

/-- The width of a text is bounded since its units fit in 32 bits. -/
theorem exact_widthOf_le {f : Fragment} (h : f.style.Whole) :
    (fonts.widthOf f.text f.variant (sizeOf s f)).isFinite = true ∧
      0 ≤ exact (fonts.widthOf f.text f.variant (sizeOf s f)) ∧
      exact (fonts.widthOf f.text f.variant (sizeOf s f)) ≤ 14210855 * 2 ^ 79 := by
  obtain ⟨hunits, hunits0, hunitsLe⟩ := exact_toFloat32 ((fonts.face f.variant).units f.text)
  have hsize := isAmount_sizeOf hs h
  have hsize0 := exact_nonneg hsize.isFinite hsize.nonneg
  have hproduct : exact ((fonts.face f.variant).units f.text).toFloat32 * exact (sizeOf s f) ≤
      2 ^ 32 * (13877788 * 2 ^ 57) :=
    mul_le_mul hunitsLe (exact_sizeOf_le hs hb h) hsize0 (by norm_num)
  obtain ⟨hfinite, hnonneg, hle⟩ := (isRounded_mul hunits hsize.isFinite).le_bound
    (n := 13877788) (e := 89) (mul_nonneg hunits0 hsize0) ⟨by norm_num, by norm_num, by norm_num⟩
    (by norm_num) (by norm_num) (hproduct.trans_eq (by norm_num))
  exact (isRounded_div_thousand hfinite).le_bound (n := 14210855) (e := 79)
    (div_nonneg hnonneg (by norm_num)) ⟨by norm_num, by norm_num, by norm_num⟩ (by norm_num)
    (by norm_num) (by norm_num at hle ⊢; linarith)

theorem absorbed_advance {f : Fragment} (h : f.style.Whole) :
    Absorbed (advance s fonts.widthOf f) := by
  obtain ⟨hfinite, hnonneg, hle⟩ := @exact_widthOf_le s hs fonts hb f h
  have hmargin := h.margin .right
  have hmargin0 := exact_nonneg hmargin.isAmount.isFinite hmargin.isAmount.nonneg
  have hmarginLe := hmargin.exact_le
  obtain ⟨hfinite, hnonneg, hle⟩ := (isRounded_add hfinite hmargin.isAmount.isFinite).le_bound
    (n := 14210856) (e := 79) (by linarith) ⟨by norm_num, by norm_num, by norm_num⟩
    (by norm_num) (by norm_num) (by norm_num at hle ⊢; linarith)
  exact ⟨hfinite, hnonneg, hle.trans_lt (by norm_num)⟩

omit hb in
/-- The first line begins at a finite height. -/
theorem isFinite_start : (start s).y.isFinite = true := by
  refine (isRounded_sub hs.pageHeight.isFinite hs.topMargin.isFinite).isFinite ?_
  have hheight0 := exact_nonneg hs.pageHeight.isFinite hs.pageHeight.nonneg
  have htop0 := exact_nonneg hs.topMargin.isFinite hs.topMargin.nonneg
  have hheightLe := (abs_le.mp (abs_exact_le hs.pageHeight.isFinite)).2
  have htopLe := (abs_le.mp (abs_exact_le hs.topMargin.isFinite)).2
  rw [abs_lt]
  constructor <;> linarith

omit hs hb in
theorem isFinite_baseline {y : Float32} {line : List Fragment} (hy : y.isFinite = true)
    (h : ∀ f ∈ line, f.style.Whole) : (baseline y line).isFinite = true :=
  (absorbed_of_isWhole (isWhole_lineMargin h .top)).isFinite_sub hy

/-- Every line begins at a finite height. -/
theorem isFinite_startOf {lines : List (List Fragment)}
    (h : ∀ line ∈ lines, ∀ f ∈ line, f.style.Whole) (i : ℕ) (hi : i ≤ lines.length) :
    (startOf s lines i).isFinite = true := by
  induction i with
  | zero => exact isFinite_start hs
  | succ i ih =>
    have hline := h _ (List.getElem_mem hi)
    rw [startOf_succ s lines ⟨i, hi⟩]
    exact (absorbed_lineHeight_add hs hb hline).isFinite_sub
      (isFinite_baseline (ih (Nat.le_of_lt hi)) hline)

/-! ## Placements -/

omit hs hb in
/-- A placement belongs to a line and was made behind a position on it. -/
theorem exists_line {measure : Measure} {lines : List (List Fragment)} {P : Float32 → Prop}
    (hleft : P s.leftMargin)
    (hstep : ∀ line ∈ lines, ∀ f ∈ line, ∀ x, P x → P (x + advance s measure f)) {p : Placement}
    (hp : p ∈ placeDocument s measure lines) :
    ∃ (i : ℕ) (hi : i < lines.length), ∃ f ∈ lines[i], ∃ x, P x ∧
      p.x = x + f.style.margins.orZero .left ∧ p.y = baseline (startOf s lines i) lines[i] ∧
      p.size = sizeOf s f := by
  rw [placeDocument_eq] at hp
  obtain ⟨i, -, hp⟩ := List.mem_flatMap.mp hp
  exact ⟨i, i.isLt, exists_position hleft (hstep _ (List.getElem_mem i.isLt)) hp⟩

omit hb in
theorem placement_between {lines : List (List Fragment)}
    (h : ∀ line ∈ lines, ∀ f ∈ line, f.style.Whole) {p : Placement}
    (hp : p ∈ placeDocument s fonts.widthOf lines) :
    p.size.isFinite = true ∧ 0 ≤ p.x ∧ p.y ≤ s.pageHeight := by
  obtain ⟨i, hi, f, hf, x, hx, hpx, hpy, hsize⟩ := exists_line (P := (0 ≤ ·)) hs.leftMargin.nonneg
    (fun line hline f hf x hx => nonneg_add hx (nonneg_advance hs (h line hline f hf))) hp
  have hline := h _ (List.getElem_mem hi)
  rw [hpx, hpy, hsize]
  refine ⟨(isAmount_sizeOf hs (hline f hf)).isFinite, ?_, ?_⟩
  · exact nonneg_add hx ((hline f hf).margin .left).isAmount.nonneg
  · have hy := startOf_le_pageHeight hs h i hi.le
    exact le_le_trans (baseline_le hs hy hline) hy

theorem placement_finite {lines : List (List Fragment)}
    (h : ∀ line ∈ lines, ∀ f ∈ line, f.style.Whole) {p : Placement}
    (hp : p ∈ placeDocument s fonts.widthOf lines) :
    p.x.isFinite = true ∧ p.y.isFinite = true := by
  obtain ⟨i, hi, f, hf, x, hx, hpx, hpy, -⟩ := exists_line (P := fun x => x.isFinite = true)
    hs.leftMargin.isFinite
    (fun line hline f hf x hx => (absorbed_advance hs hb (h line hline f hf)).isFinite_add hx) hp
  have hline := h _ (List.getElem_mem hi)
  rw [hpx, hpy]
  constructor
  · exact (absorbed_of_isWhole ((hline f hf).margin .left)).isFinite_add hx
  · exact isFinite_baseline (isFinite_startOf hs hb h i hi.le) hline

end TaggedPage.Layout

namespace TaggedPage.Pdf

open Number

/-! ## What is written -/

def Operation.HasFiniteNumbers (o : Operation) : Prop :=
  ∀ x, Object.real x ∈ o.operands → x.isFinite = true

theorem isFinite_unit (channel : UInt8) : (Color.unit channel).isFinite = true := by
  have hall : ∀ n : Fin 256, (Color.unit (UInt8.ofFin n)).isFinite = true := by decide +kernel
  exact hall channel.toFin

/-- The operations of a placement of finite numbers have finite numbers. -/
theorem hasFiniteNumbers_of_mem_textObject {nameOf : Variant → String} {p : Layout.Placement}
    (hsize : p.size.isFinite = true) (hx : p.x.isFinite = true) (hy : p.y.isFinite = true)
    {o : Operation} (ho : o ∈ textObject nameOf true true p) : o.HasFiniteNumbers := by
  intro z hz
  rcases mem_textObject.mp ho with rfl | rfl | rfl | rfl | rfl | rfl
  · cases hz
  · obtain rfl : z = p.size := by simpa [Operation.setFont] using hz
    exact hsize
  · simp only [Operation.setFill, List.mem_cons, Object.real.injEq, List.not_mem_nil,
      or_false] at hz
    rcases hz with rfl | rfl | rfl <;> exact isFinite_unit _
  · simp only [Operation.moveTo, List.mem_cons, Object.real.injEq, List.not_mem_nil,
      or_false] at hz
    rcases hz with rfl | rfl
    · exact hx
    · exact hy
  · simp [Operation.showString] at hz
  · cases hz

end TaggedPage.Pdf

namespace TaggedPage.Layout

open Number

/-- The placements of a text on the page of its configuration. Their sizes are finite and
their coordinates are numbers within the left and the upper end of the page. With a font size
of at most `2e24` and a line height of at most `1e31` the coordinates are finite as well,
whatever the text and the faces are, and every number in the content of the page is written as
a decimal. -/
theorem layout_finite {options : Config.Options} {file : Option Config.File} {config : Config}
    (h : Config.resolve options file = .ok config) (fonts : Font.Library) (text : List Char) :
    let placements := (Pipeline.mk config fonts).layout text
    (∀ p ∈ placements, p.size.isFinite = true ∧ 0 ≤ p.x ∧ p.y ≤ config.page.height) ∧
    (config.fontSize ≤ 2e24 → config.lineHeight ≤ 1e31 →
      (∀ p ∈ placements, p.x.isFinite = true ∧ p.y.isFinite = true) ∧
      ∀ o ∈ (Pdf.OpenPage.drawAll (Pdf.fontName fonts) { size := config.page }
          placements).operations,
        ∀ x, Pdf.Object.real x ∈ o.operands →
          x.isFinite = true ∧ ∀ c ∈ (plain x).toList, IsNumeral c) := by
  intro placements
  have hs : Accepted config.settings := Config.accepted_of_resolve h
  have hwhole : ∀ line ∈ Markup.compileDocument text, ∀ f ∈ line, f.style.Whole :=
    fun line hline => Markup.whole_of_mem_compileDocument hline
  have hbetween : ∀ p ∈ placements,
      p.size.isFinite = true ∧ 0 ≤ p.x ∧ p.y ≤ config.page.height :=
    fun p hp => placement_between hs hwhole hp
  refine ⟨hbetween, fun hsize hheight => ?_⟩
  have hfinite : ∀ p ∈ placements, p.x.isFinite = true ∧ p.y.isFinite = true :=
    fun p hp => placement_finite hs ⟨hsize, hheight⟩ hwhole hp
  refine ⟨hfinite, fun o ho x hx => ?_⟩
  have hoperations := Pdf.OpenPage.forall_mem_drawAll_new (Pdf.fontName fonts) config.page
    (P := Pdf.Operation.HasFiniteNumbers) fun p hp o ho =>
      Pdf.hasFiniteNumbers_of_mem_textObject (hbetween p hp).1 (hfinite p hp).1 (hfinite p hp).2 ho
  have hnumber := hoperations o ho x hx
  exact ⟨hnumber, isNumeral_plain hnumber⟩

/-- With no options at all every placement is finite. -/
theorem layout_finite_default : ∃ config, Config.resolve {} none = .ok config ∧
    let placements := (Pipeline.mk config .standard).layout steepText
    placements.length = 3 ∧ ∀ p ∈ placements, p.x.isFinite = true ∧ p.y.isFinite = true := by
  refine ⟨Config.combine {} {} .standard, rfl, by decide +kernel, ?_⟩
  have hfinite := @layout_finite {} none _ rfl .standard steepText
  exact (hfinite.2 (by decide +kernel) (by decide +kernel)).1

/-- The number `3e38`, a font size that passes the checks. -/
def hugeSize : Float32 := .ofBits 0x7F61B1E6

/-- At that size the second fragment of a line already stands at infinity. -/
theorem layout_not_finite : ∃ config,
    Config.resolve { fontSize := some hugeSize, lineHeight := some 24 } none = .ok config ∧
      ((Pipeline.mk config .standard).layout "ab<b>c".toList).map
          (fun p => (p.x.toBits, p.y.toBits)) =
        [(0x42480000, 0x44460000), (0x7F800000, 0x44460000)] := by
  refine ⟨Config.combine { fontSize := some hugeSize, lineHeight := some 24 } {} .standard, rfl, ?_⟩
  decide +kernel

end TaggedPage.Layout
