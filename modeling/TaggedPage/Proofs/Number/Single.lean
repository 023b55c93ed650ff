import TaggedPage.Proofs.Number.Arithmetic

/-! # Single-precision numbers as the program computes with them

The order of numbers is that of their positions (`key`), and an operation on finite numbers
gives its exact result, rounded (`IsRounded`). From these two come the laws a running sum
relies on: what is not negative does not lower a sum nor raise a difference, a larger
subtrahend leaves no more, and a finite number stays finite when less than half a unit of
the last place of the largest one is added or taken away (`Absorbed`). Infinities are part
of the first laws, and what is not a number never comes out of them.
-/

namespace TaggedPage.Number

open Float.Model Float.Model.UnpackedFloat

def parts (x : Float32) : UnpackedFloat := x.toModel.unpack

/-- The position of a number among all numbers. -/
def key (x : Float32) : ℤ := rank (parts x)

def exact (x : Float32) : ℚ := value (parts x)

theorem canonical_parts (x : Float32) : Canonical (parts x) := canonical_unpack _

theorem isNaN_eq (x : Float32) : x.isNaN = (parts x).isNaN := rfl

/-! ## Order -/

theorem eq_notANumber_of_isNaN {u : UnpackedFloat} (h : u.isNaN = true) : u = .notANumber := by
  cases u with
  | notANumber => rfl
  | infinity s => cases h
  | zero s => cases h
  | finite s m e hpos => cases h

theorem compare_parts_of_isNaN {a b : Float32} (h : a.isNaN = true ∨ b.isNaN = true) :
    (parts a).compare (parts b) = none := by
  rcases h with h | h
  · rw [eq_notANumber_of_isNaN (u := parts a) h]
    rfl
  · rw [eq_notANumber_of_isNaN (u := parts b) h]
    cases parts a <;> rfl

theorem compare_parts {a b : Float32} (ha : a.isNaN = false) (hb : b.isNaN = false) :
    (parts a).compare (parts b) = some (compare (key a) (key b)) :=
  compare_eq (canonical_parts a) (canonical_parts b) ha hb

/-- What holds of the comparison of two numbers holds of their positions, and of nothing
that is not a number. -/
theorem compare_parts_cases (a b : Float32) :
    ((a.isNaN = true ∨ b.isNaN = true) ∧ (parts a).compare (parts b) = none) ∨
      a.isNaN = false ∧ b.isNaN = false ∧
        (parts a).compare (parts b) = some (compare (key a) (key b)) := by
  by_cases hnan : a.isNaN = true ∨ b.isNaN = true
  · exact .inl ⟨hnan, compare_parts_of_isNaN hnan⟩
  · rw [not_or, Bool.not_eq_true, Bool.not_eq_true] at hnan
    exact .inr ⟨hnan.1, hnan.2, compare_parts hnan.1 hnan.2⟩

/-- One number is at most another one if it does not stand behind it. -/
theorem le_iff {a b : Float32} :
    a ≤ b ↔ a.isNaN = false ∧ b.isNaN = false ∧ key a ≤ key b := by
  have hmodel : a ≤ b ↔ ((parts a).compare (parts b)).any (·.isLE) = true := decide_eq_true_iff
  rw [hmodel]
  rcases compare_parts_cases a b with ⟨hnan, hnone⟩ | ⟨ha, hb, hsome⟩
  · rw [hnone]
    rcases hnan with h | h <;> simp only [h] <;> simp
  · rw [hsome, ha, hb]
    simp [Std.isLE_compare]

/-- One number is below another one if it stands before it. -/
theorem lt_iff {a b : Float32} :
    a < b ↔ a.isNaN = false ∧ b.isNaN = false ∧ key a < key b := by
  have hmodel : a < b ↔ ((parts a).compare (parts b) == some .lt) = true := decide_eq_true_iff
  rw [hmodel]
  rcases compare_parts_cases a b with ⟨hnan, hnone⟩ | ⟨ha, hb, hsome⟩
  · rw [hnone]
    rcases hnan with h | h <;> simp only [h] <;> simp
  · rw [hsome, ha, hb]
    simp [Std.compare_eq_lt]

theorem le_lt_trans {a b c : Float32} (h : a ≤ b) (h' : b < c) : a < c := by
  rw [le_iff] at h
  rw [lt_iff] at h' ⊢
  exact ⟨h.1, h'.2.1, h.2.2.trans_lt h'.2.2⟩

theorem le_le_trans {a b c : Float32} (h : a ≤ b) (h' : b ≤ c) : a ≤ c := by
  rw [le_iff] at h h' ⊢
  exact ⟨h.1, h'.2.1, h.2.2.trans h'.2.2⟩

theorem isFinite_iff_key (x : Float32) :
    x.isFinite = true ↔ x.isNaN = false ∧ -topPosition < key x ∧ key x < topPosition :=
  isFinite_iff (canonical_parts x)

theorem isNaN_of_isFinite {x : Float32} (h : x.isFinite = true) : x.isNaN = false :=
  ((isFinite_iff_key x).mp h).1

/-- A number that is rounded from an exact result. -/
structure IsRounded (r : ℚ) (x : Float32) : Prop where
  isNaN_eq_false : x.isNaN = false
  roundsTo : RoundsTo r (key x)

/-- A finite number is its own exact value, rounded. -/
theorem isRounded_exact {x : Float32} (h : x.isFinite = true) : IsRounded (exact x) x := by
  have hpacked : packed (parts x) = parts x := (canonical_parts x).unpack_pack
  have hround := ((canonical_parts x).rounds h).roundsTo
  rw [hpacked] at hround
  exact ⟨isNaN_of_isFinite h, hround⟩

theorem IsRounded.mono {r r' : ℚ} {x x' : Float32} (h : IsRounded r x) (h' : IsRounded r' x')
    (hle : r ≤ r') : x ≤ x' :=
  le_iff.mpr ⟨h.isNaN_eq_false, h'.isNaN_eq_false, h.roundsTo.mono h'.roundsTo hle⟩

/-- Finite numbers are ordered like their exact values. -/
theorem exact_le_exact {a b : Float32} (ha : a.isFinite = true) (hb : b.isFinite = true)
    (h : a ≤ b) : exact a ≤ exact b := by
  by_contra hlt
  have hkeys := (le_iff.mp h).2.2
  have hkeys' := (isRounded_exact hb).roundsTo.mono (isRounded_exact ha).roundsTo
    (not_le.mp hlt).le
  have heq : exact a = exact b :=
    value_eq_of_rank_eq (canonical_parts a) (canonical_parts b) (isNaN_of_isFinite ha)
      (isNaN_of_isFinite hb) (le_antisymm hkeys hkeys')
  exact hlt heq.le

theorem key_zero : key 0 = 0 := by decide

theorem exact_zero : exact 0 = 0 := rfl

theorem isFinite_zero : (0 : Float32).isFinite = true := by decide

theorem exact_nonneg {x : Float32} (hx : x.isFinite = true) (h : 0 ≤ x) : 0 ≤ exact x :=
  exact_zero.symm.trans_le (exact_le_exact isFinite_zero hx h)

theorem exact_pos {x : Float32} (hx : x.isFinite = true) (h : 0 < x) : 0 < exact x := by
  obtain ⟨hzero, hnan, hkey⟩ := lt_iff.mp h
  have hnonneg := exact_nonneg hx (le_iff.mpr ⟨hzero, hnan, hkey.le⟩)
  refine hnonneg.lt_of_ne fun heq => hkey.ne ?_
  rw [key_zero]
  exact RoundsTo.zero.unique (heq ▸ (isRounded_exact hx).roundsTo)

theorem pos_iff_exact {x : Float32} (hx : x.isFinite = true) : 0 < x ↔ 0 < exact x := by
  refine ⟨exact_pos hx, fun hpos => ?_⟩
  have hle : 0 ≤ x := (isRounded_exact isFinite_zero).mono (isRounded_exact hx) hpos.le
  obtain ⟨hzero, hnan, hkeys⟩ := le_iff.mp hle
  refine lt_iff.mpr ⟨hzero, hnan, hkeys.lt_of_ne fun hkey => hpos.not_ge ?_⟩
  exact exact_le_exact hx isFinite_zero (le_iff.mpr ⟨hnan, hzero, hkey.ge⟩)

theorem nonneg_iff_exact {x : Float32} (hx : x.isFinite = true) : 0 ≤ x ↔ 0 ≤ exact x :=
  ⟨exact_nonneg hx, fun h => (isRounded_exact isFinite_zero).mono (isRounded_exact hx) h⟩

theorem isFinite_of_le {a b c : Float32} (ha : a.isFinite = true) (hc : c.isFinite = true)
    (hab : a ≤ b) (hbc : b ≤ c) : b.isFinite = true := by
  rw [isFinite_iff_key] at ha hc ⊢
  rw [le_iff] at hab hbc
  exact ⟨hbc.1, ha.2.1.trans_le hab.2.2, hbc.2.2.trans_lt hc.2.2⟩

/-- A number that is not negative is finite or positive infinity. -/
theorem finite_or_top {x : Float32} (h : 0 ≤ x) :
    x.isFinite = true ∨ parts x = .infinity .positive := by
  obtain ⟨-, hnan, hkey⟩ := le_iff.mp h
  rw [key_zero] at hkey
  cases hparts : parts x with
  | notANumber =>
    rw [isNaN_eq, hparts] at hnan
    cases hnan
  | infinity s =>
    cases s with
    | negative =>
      rw [key, hparts] at hkey
      exact absurd hkey (by decide)
    | positive => exact .inr rfl
  | zero s => exact .inl (congrArg UnpackedFloat.isFinite hparts)
  | finite s m e hpos => exact .inl (congrArg UnpackedFloat.isFinite hparts)

/-- A number that is not above a finite one is finite or negative infinity. -/
theorem finite_or_bottom {x h : Float32} (hh : h.isFinite = true) (hx : x ≤ h) :
    x.isFinite = true ∨ parts x = .infinity .negative := by
  obtain ⟨hnan, -, hkey⟩ := le_iff.mp hx
  obtain ⟨-, -, htop⟩ := (isFinite_iff_key h).mp hh
  cases hparts : parts x with
  | notANumber =>
    rw [isNaN_eq, hparts] at hnan
    cases hnan
  | infinity s =>
    cases s with
    | negative => exact .inr rfl
    | positive =>
      rw [key, hparts] at hkey
      exact absurd (hkey.trans_lt htop) (lt_irrefl _)
  | zero s => exact .inl (congrArg UnpackedFloat.isFinite hparts)
  | finite s m e hpos => exact .inl (congrArg UnpackedFloat.isFinite hparts)

/-- Negative infinity is at most every number. -/
theorem bottom_le {x y : Float32} (hx : parts x = .infinity .negative) (hy : y.isNaN = false) :
    x ≤ y := by
  have hnan : x.isNaN = false := congrArg UnpackedFloat.isNaN hx
  have hkey : key x = -topPosition := congrArg rank hx
  exact le_iff.mpr ⟨hnan, hy, hkey.trans_le (rank_between (canonical_parts y)).1⟩

/-- Every number is at most infinity. -/
theorem le_top {x y : Float32} (hx : x.isNaN = false) (hy : parts y = .infinity .positive) :
    x ≤ y := by
  have hnan : y.isNaN = false := congrArg UnpackedFloat.isNaN hy
  have hkey : key y = topPosition := congrArg rank hy
  exact le_iff.mpr ⟨hx, hnan, (rank_between (canonical_parts x)).2.trans_eq hkey.symm⟩

/-! ## Operations -/

theorem isRounded_add {a b : Float32} (ha : a.isFinite = true) (hb : b.isFinite = true) :
    IsRounded (exact a + exact b) (a + b) := by
  have h := rounds_add (canonical_parts a) (canonical_parts b) ha hb
  exact ⟨h.isNaN_eq_false, h.roundsTo⟩

theorem isRounded_sub {a b : Float32} (ha : a.isFinite = true) (hb : b.isFinite = true) :
    IsRounded (exact a - exact b) (a - b) := by
  have h := rounds_sub (canonical_parts a) (canonical_parts b) ha hb
  exact ⟨h.isNaN_eq_false, h.roundsTo⟩

theorem isRounded_mul {a b : Float32} (ha : a.isFinite = true) (hb : b.isFinite = true) :
    IsRounded (exact a * exact b) (a * b) := by
  have h := rounds_mul (canonical_parts a) (canonical_parts b) ha hb
  exact ⟨h.isNaN_eq_false, h.roundsTo⟩

theorem isRounded_div {a b : Float32} (ha : a.isFinite = true) (hb : b.isFinite = true)
    (hne : exact b ≠ 0) : IsRounded (exact a / exact b) (a / b) := by
  have h := rounds_div (canonical_parts a) (canonical_parts b) ha hb hne
  exact ⟨h.isNaN_eq_false, h.roundsTo⟩

theorem isRounded_toFloat32 (n : UInt32) : IsRounded (n.toNat : ℚ) n.toFloat32 := by
  have h := rounds_normalize n.toNat 0
  rw [zpow_zero, mul_one, Int.cast_natCast] at h
  exact ⟨h.isNaN_eq_false, h.roundsTo⟩

/-! ### Infinite operands -/

theorem packed_infinity (s : Sign) : packed (.infinity s) = .infinity s :=
  (Canonical.infinity s).unpack_pack

theorem parts_bottom_sub {x m : Float32} (hx : parts x = .infinity .negative) (hm : 0 ≤ m) :
    parts (x - m) = .infinity .negative := by
  have hparts : parts (x - m) = packed (UnpackedFloat.sub .binary32 (parts x) (parts m)) := rfl
  rw [hparts, hx]
  rcases finite_or_top hm with hfinite | htop
  · rcases (canonical_parts m).zero_or_finite hfinite with ⟨s, h⟩ | ⟨s, n, e, hpos, -, -, h⟩
    · rw [h]
      exact packed_infinity .negative
    · rw [h]
      exact packed_infinity .negative
  · rw [htop]
    exact packed_infinity .negative

theorem parts_sub_top {x m : Float32} (hx : x.isFinite = true)
    (hm : parts m = .infinity .positive) : parts (x - m) = .infinity .negative := by
  have hparts : parts (x - m) = packed (UnpackedFloat.sub .binary32 (parts x) (parts m)) := rfl
  rw [hparts, hm]
  rcases (canonical_parts x).zero_or_finite hx with ⟨s, h⟩ | ⟨s, n, e, hpos, -, -, h⟩
  · rw [h]
    exact packed_infinity .negative
  · rw [h]
    exact packed_infinity .negative

theorem parts_top_add {a b : Float32} (ha : parts a = .infinity .positive) (hb : 0 ≤ b) :
    parts (a + b) = .infinity .positive := by
  have hparts : parts (a + b) = packed (UnpackedFloat.add .binary32 (parts a) (parts b)) := rfl
  rw [hparts, ha]
  rcases finite_or_top hb with hfinite | htop
  · rcases (canonical_parts b).zero_or_finite hfinite with ⟨s, h⟩ | ⟨s, n, e, hpos, -, -, h⟩
    · rw [h]
      exact packed_infinity .positive
    · rw [h]
      exact packed_infinity .positive
  · rw [htop]
    exact packed_infinity .positive

theorem parts_add_top {a b : Float32} (ha : a.isFinite = true)
    (hb : parts b = .infinity .positive) : parts (a + b) = .infinity .positive := by
  have hparts : parts (a + b) = packed (UnpackedFloat.add .binary32 (parts a) (parts b)) := rfl
  rw [hparts, hb]
  rcases (canonical_parts a).zero_or_finite ha with ⟨s, h⟩ | ⟨s, n, e, hpos, -, -, h⟩
  · rw [h]
    exact packed_infinity .positive
  · rw [h]
    exact packed_infinity .positive

/-! ## Running sums -/

variable {h y b c m : Float32}

/-- A larger subtrahend leaves no more. -/
theorem sub_antitone (hh : h.isFinite = true) (hy : y ≤ h) (hb : 0 ≤ b) (hbc : b ≤ c) :
    y - c ≤ y - b := by
  rcases finite_or_bottom hh hy with hfinite | hbottom
  · rcases finite_or_top (le_le_trans hb hbc) with hc | hc
    · have hfb : b.isFinite = true := isFinite_of_le isFinite_zero hc hb hbc
      refine (isRounded_sub hfinite hc).mono (isRounded_sub hfinite hfb) ?_
      linarith [exact_le_exact hfb hc hbc]
    · refine bottom_le (parts_sub_top hfinite hc) ?_
      rcases finite_or_top hb with hfb | hfb
      · exact (isRounded_sub hfinite hfb).isNaN_eq_false
      · exact congrArg UnpackedFloat.isNaN (parts_sub_top hfinite hfb)
  · refine bottom_le (parts_bottom_sub hbottom (le_le_trans hb hbc)) ?_
    exact congrArg UnpackedFloat.isNaN (parts_bottom_sub hbottom hb)

/-- From a larger number more is left. -/
theorem sub_mono {x : Float32} (hh : h.isFinite = true) (hy : y ≤ h) (hxy : x ≤ y)
    (hm : m.isFinite = true) (hm0 : 0 ≤ m) : x - m ≤ y - m := by
  rcases finite_or_bottom hh hy with hfy | hbottom
  · rcases finite_or_bottom hh (le_le_trans hxy hy) with hfx | hbottom
    · refine (isRounded_sub hfx hm).mono (isRounded_sub hfy hm) ?_
      linarith [exact_le_exact hfx hfy hxy]
    · exact bottom_le (parts_bottom_sub hbottom hm0) (isRounded_sub hfy hm).isNaN_eq_false
  · have hx : parts x = .infinity .negative := by
      rcases finite_or_bottom hh (le_le_trans hxy hy) with hfx | hx
      · have hkey : key y = -topPosition := congrArg rank hbottom
        have hlow := ((isFinite_iff_key x).mp hfx).2.1
        exact absurd (le_iff.mp hxy).2.2 (not_le.mpr (hkey.trans_lt hlow))
      · exact hx
    refine bottom_le (parts_bottom_sub hx hm0) ?_
    exact congrArg UnpackedFloat.isNaN (parts_bottom_sub hbottom hm0)

/-- Taking away what is not negative does not raise a number. -/
theorem sub_le (hh : h.isFinite = true) (hy : y ≤ h) (hm : 0 ≤ m) : y - m ≤ y := by
  have hnan : y.isNaN = false := (le_iff.mp hy).1
  rcases finite_or_bottom hh hy with hfinite | hbottom
  · rcases finite_or_top hm with hfm | hfm
    · refine (isRounded_sub hfinite hfm).mono (isRounded_exact hfinite) ?_
      linarith [exact_nonneg hfm hm]
    · exact bottom_le (parts_sub_top hfinite hfm) hnan
  · exact bottom_le (parts_bottom_sub hbottom hm) hnan

theorem roundsUpTo_of_apply {s : Sign} {r : ℚ} {k : ℤ} (h : RoundsTo r (s.apply k))
    (hk : 0 < k) : RoundsUpTo (signed s r) k := by
  rcases h with ⟨hr, hup⟩ | ⟨hr, hup⟩
  · have hzero := RoundsUpTo.zero.mono hup hr
    cases s with
    | negative => exact absurd hzero (not_le.mpr (neg_lt_zero.mpr hk))
    | positive => exact hup
  · have hzero := RoundsUpTo.zero.mono hup (by linarith)
    cases s with
    | negative => rwa [Sign.apply, neg_neg] at hup
    | positive => exact absurd hzero (not_le.mpr (neg_lt_zero.mpr hk))

theorem two_zpow_le_exact {x : Float32} (hx : x.isFinite = true) (hpos : 0 < exact x) :
    2 ^ (-149 : ℤ) ≤ exact x := by
  rcases (canonical_parts x).zero_or_finite hx with ⟨s, h⟩ | ⟨s, n, e, hn, hnormal, -, h⟩
  · rw [exact, h] at hpos
    exact absurd hpos (lt_irrefl _)
  · have hone : (1 : ℚ) ≤ n := by exact_mod_cast hn
    have hpow : (2 : ℚ) ^ (-149 : ℤ) ≤ 2 ^ e := zpow_le_zpow_right₀ (by norm_num) hnormal.least
    have hvalue : (2 : ℚ) ^ (-149 : ℤ) ≤ n * 2 ^ e :=
      hpow.trans (le_mul_of_one_le_left (zpow_nonneg (by norm_num) e) hone)
    rw [exact, h, value_finite] at hpos ⊢
    cases s with
    | negative =>
      have : (0 : ℚ) < 2 ^ (-149 : ℤ) := by positivity
      unfold signed at hpos
      linarith
    | positive => exact hvalue

/-- A difference that is near the number from which `w` was taken away bounds `w`. -/
theorem le_of_near (s : Sign) {v w d : ℚ} (hv : 0 ≤ v) (hw : 0 ≤ w)
    (h : |signed s (signed s v - w) - v| ≤ d) :
    w ≤ d ∧ signed s (signed s v - w) ≤ |signed s v| + w := by
  obtain ⟨hlow, hhigh⟩ := abs_le.mp h
  cases s with
  | negative =>
    simp only [signed, abs_neg, abs_of_nonneg hv] at hlow hhigh ⊢
    constructor <;> linarith
  | positive =>
    simp only [signed, abs_of_nonneg hv] at hlow hhigh ⊢
    constructor <;> linarith

/-- Rounding does not swallow what is taken away from a number of at most `2 ^ 23` times its
size. -/
theorem sub_lt {x w : Float32} (hx : x.isFinite = true) (hw : w.isFinite = true)
    (hpos : 0 < exact w) (hbound : |exact x| ≤ 2 ^ 23 * exact w) : x - w < x := by
  have hsub := isRounded_sub hx hw
  have hle : x - w ≤ x := hsub.mono (isRounded_exact hx) (by linarith)
  obtain ⟨hnan, hnan', hkeys⟩ := le_iff.mp hle
  refine lt_iff.mpr ⟨hnan, hnan', hkeys.lt_of_ne fun hkey => ?_⟩
  have hround := hsub.roundsTo
  have hleast := two_zpow_le_exact hw hpos
  rw [hkey] at hround
  rcases (canonical_parts x).zero_or_finite hx with ⟨s, h⟩ | ⟨s, n, e, hn, hnormal, he, h⟩
  · have hzero : exact x = 0 := by rw [exact, h, value_zero]
    have hkeyZero : key x = 0 := by rw [key, h, rank_zero]
    rw [hzero, zero_sub, hkeyZero] at hround
    have hopposite := hround.neg
    rw [neg_neg, neg_zero] at hopposite
    have hkeyw : rank (parts w) = rank (.zero s) :=
      (isRounded_exact hw).roundsTo.unique hopposite
    have hexactw : exact w = 0 := value_eq_of_rank_eq (canonical_parts w) (.zero s)
      (isNaN_of_isFinite hw) rfl hkeyw
    exact hpos.ne' hexactw
  · have hvalue : exact x = signed s (n * 2 ^ e) := by rw [exact, h, value_finite]
    have hkeyx : key x = s.apply (position e n) := by rw [key, h, rank]
    rw [hkeyx] at hround
    have hup := roundsUpTo_of_apply hround (position_pos hnormal hn)
    obtain ⟨t, hplace, hnear⟩ := RoundsUpTo.abs_sub_le hup (position_lt_top hnormal he)
      hnormal.least hnormal.lt hnormal.normal.symm
    have hnonneg : (0 : ℚ) ≤ n * 2 ^ e := by positivity
    rw [hvalue] at hnear
    obtain ⟨hdistance, hsize⟩ := le_of_near s hnonneg hpos.le hnear
    rw [← hvalue] at hsize
    rcases hplace.normal with rfl | hfull
    · have hhalf : (2 : ℚ) ^ (-149 : ℤ) / 2 < 2 ^ (-149 : ℤ) := half_lt_self (by positivity)
      exact absurd (hleast.trans hdistance) (not_le.mpr hhalf)
    · rw [zpow_add₀ (by norm_num)] at hfull
      have hpow : (0 : ℚ) < 2 ^ t := zpow_pos (by norm_num) t
      norm_num at hfull
      linarith

/-- Adding what is not negative does not lower a number. -/
theorem le_add (hb : 0 ≤ b) (hm : 0 ≤ m) : b ≤ b + m := by
  have hnan : b.isNaN = false := (le_iff.mp hb).2.1
  rcases finite_or_top hb with hfinite | htop
  · rcases finite_or_top hm with hfm | hfm
    · refine (isRounded_exact hfinite).mono (isRounded_add hfinite hfm) ?_
      linarith [exact_nonneg hfm hm]
    · exact le_top hnan (parts_add_top hfinite hfm)
  · exact le_top hnan (parts_top_add htop hm)

theorem nonneg_add (hb : 0 ≤ b) (hm : 0 ≤ m) : 0 ≤ b + m :=
  le_le_trans hb (le_add hb hm)

theorem isRounded_zero : IsRounded 0 0 :=
  exact_zero ▸ isRounded_exact isFinite_zero

theorem nonneg_mul {a : Float32} (ha : a.isFinite = true) (hb : b.isFinite = true)
    (h0a : 0 ≤ a) (h0b : 0 ≤ b) : 0 ≤ a * b :=
  isRounded_zero.mono (isRounded_mul ha hb)
    (mul_nonneg (exact_nonneg ha h0a) (exact_nonneg hb h0b))

theorem parts_thousand : parts 1000.0 = .finite .positive 16384000 (-14) (by decide) := rfl

theorem exact_thousand : exact 1000.0 = 1000 := by
  rw [exact, parts_thousand, value_finite, signed]
  norm_num

theorem isRounded_div_thousand {a : Float32} (ha : a.isFinite = true) :
    IsRounded (exact a / 1000) (a / 1000.0) := by
  have hne : exact 1000.0 ≠ 0 := by
    rw [exact_thousand]
    norm_num
  exact exact_thousand ▸ isRounded_div ha (by decide) hne

theorem nonneg_div_thousand {a : Float32} (h : 0 ≤ a) : 0 ≤ a / 1000.0 := by
  rcases finite_or_top h with hfinite | htop
  · exact isRounded_zero.mono (isRounded_div_thousand hfinite)
      (div_nonneg (exact_nonneg hfinite h) (by norm_num))
  · have hparts : parts (a / 1000.0) =
        packed (UnpackedFloat.div .binary32 (parts a) (parts 1000.0)) := rfl
    rw [htop, parts_thousand] at hparts
    exact le_top (by decide) (hparts.trans (packed_infinity .positive))

/-! ## Finite sums -/

def ofParts (u : UnpackedFloat) : Float32 := .ofModel (.pack u)

theorem parts_ofParts {u : UnpackedFloat} (hu : Canonical u) : parts (ofParts u) = u :=
  hu.unpack_pack

theorem le_largest {n : ℕ} {e : ℤ} (hn : n < 2 ^ 24) (he : e ≤ 104) :
    (n * 2 ^ e : ℚ) ≤ (2 ^ 24 - 1) * 2 ^ 104 := by
  have hsignificand : (n : ℚ) ≤ 2 ^ 24 - 1 := by
    have hcast : (n : ℚ) + 1 ≤ 2 ^ 24 := by exact_mod_cast hn
    linarith
  have hpower : (2 : ℚ) ^ e ≤ 2 ^ 104 := by
    rw [← zpow_natCast]
    exact zpow_le_zpow_right₀ (by norm_num) he
  gcongr

theorem abs_exact_le {x : Float32} (h : x.isFinite = true) :
    |exact x| ≤ (2 ^ 24 - 1) * 2 ^ 104 := by
  rcases (canonical_parts x).zero_or_finite h with ⟨s, hparts⟩ | ⟨s, n, e, hpos, hn, he, hparts⟩
  · rw [exact, hparts, value_zero]
    norm_num
  · have habs : |signed s (n * 2 ^ e : ℚ)| = n * 2 ^ e := by
      have hnonneg : (0 : ℚ) ≤ n * 2 ^ e := by positivity
      cases s with
      | negative => exact (abs_neg _).trans (abs_of_nonneg hnonneg)
      | positive => exact abs_of_nonneg hnonneg
    rw [exact, hparts, value_finite, habs]
    exact le_largest hn.lt he

/-- What is less than half a unit of the last place above the largest number is rounded to
a finite one. -/
theorem IsRounded.isFinite {r : ℚ} {x : Float32} (h : IsRounded r x)
    (hr : |r| < (2 ^ 25 - 1) * 2 ^ 103) : x.isFinite = true :=
  (isFinite_iff_key x).mpr ⟨h.isNaN_eq_false, h.roundsTo.abs_lt_top hr⟩

/-- A bound that is itself a number survives rounding. -/
theorem IsRounded.le_bound {r : ℚ} {x : Float32} (h : IsRounded r x) (h0 : 0 ≤ r) {n : ℕ} {e : ℤ}
    (hn : Normalized n e) (hpos : 0 < n) (he : e ≤ 104) (hle : r ≤ n * 2 ^ e) :
    x.isFinite = true ∧ 0 ≤ exact x ∧ exact x ≤ n * 2 ^ e := by
  have hfinite : x.isFinite = true := by
    refine h.isFinite ?_
    rw [abs_of_nonneg h0]
    exact (hle.trans (le_largest hn.lt he)).trans_lt (by norm_num)
  have hparts := parts_ofParts (.finite .positive hpos hn he)
  have hexact : exact (ofParts (.finite .positive n e hpos)) = n * 2 ^ e := by
    rw [exact, hparts, value_finite]
    rfl
  have hbound : (ofParts (.finite .positive n e hpos)).isFinite = true :=
    congrArg UnpackedFloat.isFinite hparts
  have hround := isRounded_exact hbound
  rw [hexact] at hround
  exact ⟨hfinite, exact_nonneg hfinite (isRounded_zero.mono h h0),
    (exact_le_exact hfinite hbound (h.mono hround hle)).trans_eq hexact⟩

/-- A number of less than half a unit of the last place of the largest number. Adding it to
a finite number or taking it away leaves the number finite, however often this is done. -/
structure Absorbed (w : Float32) : Prop where
  isFinite : w.isFinite = true
  nonneg : 0 ≤ exact w
  lt : exact w < 2 ^ 103

theorem Absorbed.isFinite_add {x w : Float32} (hw : Absorbed w) (hx : x.isFinite = true) :
    (x + w).isFinite = true := by
  refine (isRounded_add hx hw.isFinite).isFinite ?_
  have hbound := abs_le.mp (abs_exact_le hx)
  have hnonneg := hw.nonneg
  have hlt := hw.lt
  rw [abs_lt]
  constructor <;> linarith

theorem Absorbed.isFinite_sub {x w : Float32} (hw : Absorbed w) (hx : x.isFinite = true) :
    (x - w).isFinite = true := by
  refine (isRounded_sub hx hw.isFinite).isFinite ?_
  have hbound := abs_le.mp (abs_exact_le hx)
  have hnonneg := hw.nonneg
  have hlt := hw.lt
  rw [abs_lt]
  constructor <;> linarith

/-! ## Sums of the same numbers

The two zeros are the same number. A sum or difference may differ in the sign of a zero when
its operands do, but in nothing else. -/

/-- Two unpacked numbers differ at most in the sign of a zero. -/
def SameParts (u v : UnpackedFloat) : Prop := u = v ∨ ∃ s t, u = .zero s ∧ v = .zero t

theorem SameParts.trans {u v w : UnpackedFloat} (h : SameParts u v) (h' : SameParts v w) :
    SameParts u w := by
  rcases h with rfl | ⟨s, t, rfl, rfl⟩
  · exact h'
  · rcases h' with rfl | ⟨s', t', -, rfl⟩
    · exact .inr ⟨s, t, rfl, rfl⟩
    · exact .inr ⟨s, t', rfl, rfl⟩

/-- An operation that looks at the sign of a zero only to choose that of another one. -/
theorem SameParts.congr {op : UnpackedFloat → UnpackedFloat → UnpackedFloat}
    (left : ∀ s t v, SameParts (op (.zero s) v) (op (.zero t) v))
    (right : ∀ u s t, SameParts (op u (.zero s)) (op u (.zero t))) {u u' v v' : UnpackedFloat}
    (hu : SameParts u u') (hv : SameParts v v') : SameParts (op u v) (op u' v') := by
  have hfirst : SameParts (op u v) (op u' v) := by
    rcases hu with rfl | ⟨s, t, rfl, rfl⟩
    · exact .inl rfl
    · exact left s t v
  refine hfirst.trans ?_
  rcases hv with rfl | ⟨s, t, rfl, rfl⟩
  · exact .inl rfl
  · exact right u' s t

theorem Same.parts {a b : Float32} (h : Same a b) : SameParts (parts a) (parts b) := by
  rcases h with rfl | h
  · exact .inl rfl
  · exact unpacked_eq_of_compare (eq_of_beq h)

theorem same_ofParts {u v : UnpackedFloat} (h : SameParts u v) :
    Same (ofParts u) (ofParts v) := by
  rcases h with rfl | ⟨s, t, rfl, rfl⟩
  · exact .inl rfl
  · refine .inr ?_
    cases s <;> cases t <;> decide

theorem Same.add {a a' b b' : Float32} (ha : Same a a') (hb : Same b b') :
    Same (a + b) (a' + b') := by
  refine same_ofParts (.congr (fun s t v => ?_) (fun u s t => ?_) ha.parts hb.parts)
  · cases v with
    | zero r => cases s <;> cases t <;> cases r <;> exact .inr ⟨_, _, rfl, rfl⟩
    | _ => exact .inl rfl
  · cases u with
    | zero r => cases s <;> cases t <;> cases r <;> exact .inr ⟨_, _, rfl, rfl⟩
    | _ => exact .inl rfl

theorem Same.sub {a a' b b' : Float32} (ha : Same a a') (hb : Same b b') :
    Same (a - b) (a' - b') := by
  refine same_ofParts (.congr (fun s t v => ?_) (fun u s t => ?_) ha.parts hb.parts)
  · cases v with
    | zero r => cases s <;> cases t <;> cases r <;> exact .inr ⟨_, _, rfl, rfl⟩
    | _ => exact .inl rfl
  · cases u with
    | zero r => cases s <;> cases t <;> cases r <;> exact .inr ⟨_, _, rfl, rfl⟩
    | _ => exact .inl rfl

/-! ## Whole numbers -/

theorem exact_toFloat32 (n : UInt32) :
    n.toFloat32.isFinite = true ∧ 0 ≤ exact n.toFloat32 ∧ exact n.toFloat32 ≤ 2 ^ 32 := by
  have hn : (n.toNat : ℚ) ≤ 2 ^ 32 := by exact_mod_cast n.toNat_lt.le
  obtain ⟨hfinite, hnonneg, hle⟩ := (isRounded_toFloat32 n).le_bound n.toNat.cast_nonneg
    (n := 2 ^ 23) (e := 9) ⟨by norm_num, by norm_num, .inl le_rfl⟩ (by norm_num) (by norm_num)
    (hn.trans_eq (by norm_num))
  exact ⟨hfinite, hnonneg, hle.trans_eq (by norm_num)⟩

end TaggedPage.Number
