import TaggedPage.Proofs.Number.Comparison
import TaggedPage.Proofs.Number.Rounding

/-! # Values and positions of single-precision numbers

A number of single precision is taken apart into its sign, significand and exponent. Here
its exact value and its position among all numbers are read off these parts. What comes out
of a bit pattern is canonical, and a canonical number survives being packed into bits again;
one whose exponent is too large becomes infinite.

Among numbers the comparisons are those of the positions (`compare_eq`), and the finite
ones are those before infinity (`isFinite_iff`).
-/

namespace TaggedPage.Number

open Float.Model Float.Model.UnpackedFloat

/-- The exact value of a finite number. -/
def value : UnpackedFloat → ℚ
  | .finite s m e _ => s.apply m * 2 ^ e
  | _ => 0

@[simp] theorem value_zero (s : Sign) : value (.zero s) = 0 := rfl

/-- The position of a number, zero for what is not a number. -/
def rank : UnpackedFloat → ℤ
  | .finite s m e _ => s.apply (position e m)
  | .infinity s => s.apply topPosition
  | _ => 0

@[simp] theorem rank_zero (s : Sign) : rank (.zero s) = 0 := rfl

/-- A significand of 24 bits, or of fewer under the least exponent. -/
structure Normalized (m : ℕ) (e : ℤ) : Prop where
  lt : m < 2 ^ 24
  least : -149 ≤ e
  normal : 2 ^ 23 ≤ m ∨ e = -149

/-- The numbers that are the reading of a bit pattern. -/
inductive Canonical : UnpackedFloat → Prop where
  | notANumber : Canonical .notANumber
  | infinity (s : Sign) : Canonical (.infinity s)
  | zero (s : Sign) : Canonical (.zero s)
  | finite (s : Sign) {m : ℕ} {e : ℤ} (h : 0 < m) (hm : Normalized m e) (he : e ≤ 104) :
    Canonical (.finite s m e h)

/-- A finite number is a zero or has a significand. -/
theorem Canonical.zero_or_finite {u : UnpackedFloat} (h : Canonical u)
    (hfinite : u.isFinite = true) :
    (∃ s, u = .zero s) ∨
      ∃ s m e, ∃ hpos : 0 < m, Normalized m e ∧ e ≤ 104 ∧ u = .finite s m e hpos := by
  cases h with
  | notANumber => cases hfinite
  | infinity s => cases hfinite
  | zero s => exact .inl ⟨s, rfl⟩
  | finite s hpos hm he => exact .inr ⟨s, _, _, hpos, hm, he, rfl⟩

/-! ## Bit patterns -/

theorem toNat_one_append (v : BitVec 23) : (1#1 ++ v).toNat = 2 ^ 23 + v.toNat := by
  rw [BitVec.toNat_append, ← Nat.shiftLeft_add_eq_or_of_lt v.isLt, Nat.shiftLeft_eq]
  simp

theorem canonical_unpack (b : BitVec Format.binary32.numBits) :
    Canonical (unpack .binary32 b) := by
  have hm : (unpackMantissa b).toNat < 2 ^ 23 := (unpackMantissa b).isLt
  have he : (unpackExponent b).toNat < 2 ^ 8 := (unpackExponent b).isLt
  have hbias : ((Format.binary32.exponentBias : ℕ) : ℤ) = 127 := rfl
  have hbits : ((Format.binary32.mantissaBitsWithoutImplicit : ℕ) : ℤ) = 23 := rfl
  rw [UnpackedFloat.unpack]
  split
  · split
    · exact .infinity _
    · exact .notANumber
  · next hnotTop =>
    have htop : (unpackExponent b).toNat ≠ 255 := fun h => hnotTop (BitVec.eq_of_toNat_eq h)
    split
    · next hzero =>
      have hexponent : (unpackExponent b).toNat = 0 := congrArg BitVec.toNat hzero
      split
      · exact .zero _
      · refine .finite _ _ ⟨by omega, ?_, .inr ?_⟩ ?_ <;> rw [hexponent, hbias, hbits] <;> omega
    · next hnotZero =>
      have hzero : (unpackExponent b).toNat ≠ 0 := fun h => hnotZero (BitVec.eq_of_toNat_eq h)
      have happend := toNat_one_append (unpackMantissa b)
      refine .finite _ _ ⟨by omega, ?_, .inl (by omega)⟩ ?_ <;> rw [hbias, hbits] <;> omega

theorem Normalized.log2_eq {m : ℕ} {e : ℤ} (h : Normalized m e) (hfull : 2 ^ 23 ≤ m) :
    m.log2 = 23 :=
  (Nat.log2_eq_iff (by omega)).mpr ⟨hfull, h.lt⟩

/-- A full significand survives packing. -/
theorem unpack_pack_full (s : Sign) {m : ℕ} {e : ℤ} (hpos : 0 < m) (h : Normalized m e)
    (hfull : 2 ^ 23 ≤ m) (he : e ≤ 104) :
    unpack .binary32 (pack .binary32 (.finite s m e hpos)) = .finite s m e hpos := by
  have hlt := h.lt
  have hleast := h.least
  have hbiased : (e + Format.binary32.exponentBias +
      Format.binary32.mantissaBitsWithoutImplicit).toNat = (e + 150).toNat := by
    change (e + (127 : ℕ) + (23 : ℕ)).toNat = _
    omega
  have hexponent : (BitVec.ofNat 8 (e + 150).toNat).toNat = (e + 150).toNat := by
    rw [BitVec.toNat_ofNat]
    omega
  have hnotTop : BitVec.ofNat 8 (e + 150).toNat ≠ -1#8 := by
    intro heq
    have : (e + 150).toNat = 255 := hexponent.symm.trans (congrArg BitVec.toNat heq)
    omega
  have hnotZero : BitVec.ofNat 8 (e + 150).toNat ≠ 0#8 := by
    intro heq
    have : (e + 150).toNat = 0 := hexponent.symm.trans (congrArg BitVec.toNat heq)
    omega
  have hsignificand : (1#1 ++ BitVec.ofNat 23 m).toNat = m := by
    rw [toNat_one_append, BitVec.toNat_ofNat]
    omega
  rw [UnpackedFloat.pack]
  simp only [hbiased, h.log2_eq hfull]
  rw [if_neg (by omega), if_pos (by decide), UnpackedFloat.unpack]
  simp only [unpackMantissa_packComponents, unpackExponent_packComponents,
    unpackSign_packComponents, Sign.ofBitVec_toBitVec]
  rw [if_neg hnotTop, if_neg hnotZero]
  simp only [hsignificand, hexponent]
  have hback : ((e + 150).toNat : ℤ) - (Format.binary32.exponentBias +
      Format.binary32.mantissaBitsWithoutImplicit) = e := by
    change ((e + 150).toNat : ℤ) - ((127 : ℕ) + (23 : ℕ)) = e
    omega
  simp only [hback]

/-- A shorter significand survives packing. -/
theorem unpack_pack_short (s : Sign) {m : ℕ} (hpos : 0 < m) (hshort : m < 2 ^ 23) :
    unpack .binary32 (pack .binary32 (.finite s m (-149) hpos)) = .finite s m (-149) hpos := by
  have hlog : m.log2 < 23 := (Nat.log2_lt (by omega)).mpr hshort
  have hsignificand : (BitVec.ofNat 23 m).toNat = m := by
    rw [BitVec.toNat_ofNat]
    omega
  have hnotZero : BitVec.ofNat 23 m ≠ 0#23 := by
    intro heq
    have : m = 0 := hsignificand.symm.trans (congrArg BitVec.toNat heq)
    omega
  have hbits : Format.binary32.mantissaBits = 24 := rfl
  rw [UnpackedFloat.pack]
  dsimp only
  rw [if_neg (by decide), if_neg (by omega), UnpackedFloat.unpack]
  simp only [unpackMantissa_packComponents, unpackExponent_packComponents,
    unpackSign_packComponents, Sign.ofBitVec_toBitVec]
  rw [if_neg (by decide), if_pos trivial, dif_neg hnotZero]
  simp only [hsignificand]
  rfl

/-- A number with too large an exponent is packed as infinity. -/
theorem unpack_pack_large (s : Sign) {m : ℕ} {e : ℤ} (hpos : 0 < m) (he : 105 ≤ e) :
    unpack .binary32 (pack .binary32 (.finite s m e hpos)) = .infinity s := by
  have hbiased : 2 ^ Format.binary32.exponentBits ≤ (e + Format.binary32.exponentBias +
      Format.binary32.mantissaBitsWithoutImplicit).toNat + 1 := by
    change 256 ≤ (e + (127 : ℕ) + (23 : ℕ)).toNat + 1
    omega
  rw [UnpackedFloat.pack]
  dsimp only
  rw [if_pos hbiased]
  cases s <;> rfl

/-- A canonical number is what its bit pattern is read as. -/
theorem Canonical.unpack_pack {u : UnpackedFloat} (h : Canonical u) :
    unpack .binary32 (pack .binary32 u) = u := by
  cases h with
  | notANumber => rfl
  | infinity s => cases s <;> rfl
  | zero s => cases s <;> rfl
  | @finite s m e hpos hm he =>
    rcases Nat.lt_or_ge m (2 ^ 23) with hshort | hfull
    · obtain rfl := hm.normal.resolve_left (by omega)
      exact unpack_pack_short s hpos hshort
    · exact unpack_pack_full s hpos hm hfull he

/-! ## Positions -/

theorem position_lt_top {m : ℕ} {e : ℤ} (h : Normalized m e) (he : e ≤ 104) :
    position e m < topPosition := by
  have := h.lt
  unfold position topPosition
  omega

theorem position_pos {m : ℕ} {e : ℤ} (h : Normalized m e) (hpos : 0 < m) : 0 < position e m := by
  have := h.least
  unfold position
  omega

theorem top_le_position {m : ℕ} {e : ℤ} (h : Normalized m e) (he : 105 ≤ e) :
    topPosition ≤ position e m := by
  have hnormal := h.normal
  unfold position topPosition
  omega

/-- Packing cuts positions off at infinity. -/
theorem rank_unpack_pack (s : Sign) {m : ℕ} {e : ℤ} (hpos : 0 < m) (h : Normalized m e) :
    rank (unpack .binary32 (pack .binary32 (.finite s m e hpos))) =
      s.apply (min topPosition (position e m)) := by
  rcases lt_or_ge 104 e with he | he
  · rw [unpack_pack_large s hpos he, min_eq_left (top_le_position h he)]
    rfl
  · rw [(Canonical.finite s hpos h he).unpack_pack, min_eq_right (position_lt_top h he).le]
    rfl

theorem compare_position {m₁ m₂ : ℕ} {e₁ e₂ : ℤ} (h₁ : Normalized m₁ e₁)
    (h₂ : Normalized m₂ e₂) :
    (compare e₁ e₂).then (compare m₁ m₂) = compare (position e₁ m₁) (position e₂ m₂) := by
  have hlt₁ := h₁.lt
  have hlt₂ := h₂.lt
  have hleast₁ := h₁.least
  have hleast₂ := h₂.least
  have hnormal₁ := h₁.normal
  have hnormal₂ := h₂.normal
  rcases lt_trichotomy e₁ e₂ with he | rfl | he
  · have hlt : position e₁ m₁ < position e₂ m₂ := by
      unfold position
      omega
    rw [Int.compare_eq_lt.mpr he, Int.compare_eq_lt.mpr hlt]
    rfl
  · rw [Int.compare_eq_eq.mpr rfl]
    unfold position
    rcases lt_trichotomy m₁ m₂ with hm | rfl | hm
    · rw [Int.compare_eq_lt.mpr (by omega)]
      exact Nat.compare_eq_lt.mpr hm
    · rw [Int.compare_eq_eq.mpr rfl]
      exact Nat.compare_eq_eq.mpr rfl
    · rw [Int.compare_eq_gt.mpr (by omega)]
      exact Nat.compare_eq_gt.mpr hm
  · have hgt : position e₂ m₂ < position e₁ m₁ := by
      unfold position
      omega
    rw [Int.compare_eq_gt.mpr he, Int.compare_eq_gt.mpr hgt]
    rfl

theorem swap_compare_eq_compare_neg (a b : ℤ) : (compare a b).swap = compare (-a) (-b) := by
  rcases lt_trichotomy a b with h | rfl | h
  · rw [Int.compare_eq_lt.mpr h, Int.compare_eq_gt.mpr (by omega)]
    rfl
  · rw [Int.compare_eq_eq.mpr rfl, Int.compare_eq_eq.mpr rfl]
    rfl
  · rw [Int.compare_eq_gt.mpr h, Int.compare_eq_lt.mpr (by omega)]
    rfl

/-- Numbers are compared by their positions. -/
theorem compare_eq {a b : UnpackedFloat} (ha : Canonical a) (hb : Canonical b)
    (hna : a.isNaN = false) (hnb : b.isNaN = false) :
    a.compare b = some (compare (rank a) (rank b)) := by
  have htop : 0 < topPosition := by decide
  cases ha with
  | notANumber => cases hna
  | infinity s₁ =>
    cases hb with
    | notANumber => cases hnb
    | infinity s₂ => cases s₁ <;> cases s₂ <;> rfl
    | zero s₂ => cases s₁ <;> rfl
    | finite s₂ hpos₂ hm₂ he₂ =>
      have hlt := position_lt_top hm₂ he₂
      have hpos := position_pos hm₂ hpos₂
      cases s₁ <;> cases s₂ <;> simp only [UnpackedFloat.compare, rank, Sign.apply]
      all_goals first
        | rw [Int.compare_eq_lt.mpr (by omega)]
        | rw [Int.compare_eq_gt.mpr (by omega)]
  | zero s₁ =>
    cases hb with
    | notANumber => cases hnb
    | infinity s₂ => cases s₂ <;> rfl
    | zero s₂ => rfl
    | finite s₂ hpos₂ hm₂ he₂ =>
      have hpos := position_pos hm₂ hpos₂
      cases s₂ <;> simp only [UnpackedFloat.compare, rank, Sign.apply]
      · rw [Int.compare_eq_gt.mpr (by omega)]
      · rw [Int.compare_eq_lt.mpr (by omega)]
  | finite s₁ hpos₁ hm₁ he₁ =>
    have hlt₁ := position_lt_top hm₁ he₁
    have hp₁ := position_pos hm₁ hpos₁
    cases hb with
    | notANumber => cases hnb
    | infinity s₂ =>
      cases s₁ <;> cases s₂ <;> simp only [UnpackedFloat.compare, rank, Sign.apply]
      all_goals first
        | rw [Int.compare_eq_lt.mpr (by omega)]
        | rw [Int.compare_eq_gt.mpr (by omega)]
    | zero s₂ =>
      cases s₁ <;> simp only [UnpackedFloat.compare, rank, Sign.apply]
      · rw [Int.compare_eq_lt.mpr (by omega)]
      · rw [Int.compare_eq_gt.mpr (by omega)]
    | finite s₂ hpos₂ hm₂ he₂ =>
      have hp₂ := position_pos hm₂ hpos₂
      have hcompare := compare_position hm₁ hm₂
      cases s₁ <;> cases s₂ <;> simp only [UnpackedFloat.compare, rank, Sign.apply]
      · rw [hcompare, swap_compare_eq_compare_neg]
      · rw [Int.compare_eq_lt.mpr (by omega)]
      · rw [Int.compare_eq_gt.mpr (by omega)]
      · rw [hcompare]

/-- Numbers in the same position have the same value. -/
theorem value_eq_of_rank_eq {a b : UnpackedFloat} (ha : Canonical a) (hb : Canonical b)
    (hna : a.isNaN = false) (hnb : b.isNaN = false) (h : rank a = rank b) : value a = value b := by
  have hcompare := compare_eq ha hb hna hnb
  rw [h, Int.compare_eq_eq.mpr rfl] at hcompare
  rcases unpacked_eq_of_compare hcompare with rfl | ⟨s₁, s₂, rfl, rfl⟩
  · rfl
  · rfl

/-- The finite numbers are those before infinity on both sides. -/
theorem isFinite_iff {u : UnpackedFloat} (h : Canonical u) :
    u.isFinite = true ↔ u.isNaN = false ∧ -topPosition < rank u ∧ rank u < topPosition := by
  have htop : 0 < topPosition := by decide
  cases h with
  | notANumber => simp [UnpackedFloat.isFinite, UnpackedFloat.isNaN]
  | infinity s =>
    cases s <;> simp [UnpackedFloat.isFinite, UnpackedFloat.isNaN, rank, Sign.apply]
  | zero s => simpa [UnpackedFloat.isFinite, UnpackedFloat.isNaN, rank] using htop
  | finite s hpos hm he =>
    have hlt := position_lt_top hm he
    have hp := position_pos hm hpos
    simp only [UnpackedFloat.isFinite, UnpackedFloat.isNaN, true_and, true_iff]
    cases s <;> simp only [rank, Sign.apply] <;> omega

/-- No number stands behind infinity on either side. -/
theorem rank_between {u : UnpackedFloat} (h : Canonical u) :
    -topPosition ≤ rank u ∧ rank u ≤ topPosition := by
  have htop : 0 < topPosition := by decide
  cases h with
  | notANumber => exact ⟨by decide, by decide⟩
  | infinity s => cases s <;> exact ⟨by decide, by decide⟩
  | zero s => exact ⟨neg_nonpos.mpr htop.le, htop.le⟩
  | finite s hpos hm he =>
    have hlt := position_lt_top hm he
    have hp := position_pos hm hpos
    cases s <;> simp only [rank, Sign.apply] <;> omega

end TaggedPage.Number
