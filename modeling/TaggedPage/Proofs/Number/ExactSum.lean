import TaggedPage.Proofs.Number.Single

/-! # Sums that need no rounding

Where the exact sum of two numbers is itself a number, adding them loses nothing (`ExactSum`),
and such sums may be regrouped. Two numbers of one exact value are the same but for the sign of
a zero (`eq_of_exact_eq`), and a sum is a negative zero only if its second operand is one
(`ExactSum.ne_negativeZero`), so that sums of one exact value are mostly the same bit for bit.
-/

namespace TaggedPage.Number

open Float.Model Float.Model.UnpackedFloat

/-- The sum of two numbers that needs no rounding. -/
structure ExactSum (a b : Float32) : Prop where
  left : a.isFinite = true
  right : b.isFinite = true
  sum : (a + b).isFinite = true
  exact_add : exact (a + b) = exact a + exact b

instance (a b : Float32) : Decidable (ExactSum a b) :=
  decidable_of_iff
    (a.isFinite = true ∧ b.isFinite = true ∧ (a + b).isFinite = true ∧
      exact (a + b) = exact a + exact b)
    ⟨fun h => ⟨h.1, h.2.1, h.2.2.1, h.2.2.2⟩, fun h => ⟨h.left, h.right, h.sum, h.exact_add⟩⟩

variable {a b : Float32}

/-- Finite numbers with one exact value are the same number. -/
theorem beq_of_exact_eq (ha : a.isFinite = true) (hb : b.isFinite = true)
    (h : exact a = exact b) : (a == b) = true := by
  have hround := (isRounded_exact ha).roundsTo
  rw [h] at hround
  have hkey : key a = key b := hround.unique (isRounded_exact hb).roundsTo
  have hcompare := compare_parts (isNaN_of_isFinite ha) (isNaN_of_isFinite hb)
  rw [hkey, Int.compare_eq_eq.mpr rfl] at hcompare
  exact congrArg (· == some Ordering.eq) hcompare

/-- Finite numbers with one exact value that are not negative zeros are the same bit for
bit. -/
theorem eq_of_exact_eq (ha : a.isFinite = true) (hb : b.isFinite = true)
    (h : exact a = exact b) (hna : a ≠ -0) (hnb : b ≠ -0) : a = b := by
  rcases (Float32.beq_iff_ne_nan_and_eq.mp (beq_of_exact_eq ha hb h)).2.2 with
    heq | ⟨-, hb0⟩ | ⟨ha0, -⟩
  · exact heq
  · exact absurd hb0 hnb
  · exact absurd ha0 hna

/-- A number is determined by its parts. -/
theorem eq_of_parts_eq (h : parts a = parts b) : a = b := by
  have hbits := (unpack_inj_of_valid a.toModel.valid b.toModel.valid (by decide)).mp h
  exact Float32.toBits_inj.mp (UInt32.toBitVec_inj.mp hbits)

theorem parts_negativeZero : parts (-0) = .zero .negative := rfl

theorem parts_add (a b : Float32) :
    parts (a + b) = packed (UnpackedFloat.add .binary32 (parts a) (parts b)) := rfl

/-- A zero added to a number makes no negative zero. -/
theorem add_zero_ne_negativeZero (ha : a.isFinite = true) : a + 0 ≠ -0 := by
  intro heq
  have hparts := congrArg parts heq
  have hzero : parts 0 = .zero .positive := rfl
  rw [parts_negativeZero, parts_add, hzero] at hparts
  rcases (canonical_parts a).zero_or_finite ha with ⟨s, h⟩ | ⟨s, m, e, hpos, hm, he, h⟩
  · rw [h] at hparts
    cases s <;> cases hparts
  · rw [h] at hparts
    have hself : packed (.finite s m e hpos) = .finite s m e hpos :=
      (Canonical.finite s hpos hm he).unpack_pack
    cases hself.symm.trans hparts

theorem value_ne_zero (s : Sign) {m : ℕ} {e : ℤ} (hpos : 0 < m) :
    value (.finite s m e hpos) ≠ 0 := by
  have hvalue : (0 : ℚ) < m * 2 ^ e := by positivity
  rw [value_finite]
  cases s with
  | negative => exact (neg_neg_iff_pos.mpr hvalue).ne
  | positive => exact hvalue.ne'

/-- Significands of opposite values cancel to a positive zero. -/
theorem add_finite_eq_zero {s₁ s₂ : Sign} {m₁ m₂ : ℕ} {e₁ e₂ : ℤ} {hpos₁ : 0 < m₁}
    {hpos₂ : 0 < m₂} (h : value (.finite s₁ m₁ e₁ hpos₁) + value (.finite s₂ m₂ e₂ hpos₂) = 0) :
    UnpackedFloat.add .binary32 (.finite s₁ m₁ e₁ hpos₁) (.finite s₂ m₂ e₂ hpos₂) =
      .zero .positive := by
  rw [value_finite, value_finite, ← decreaseExponent_eq s₁ m₁ (min_le_left e₁ e₂),
    ← decreaseExponent_eq s₂ m₂ (min_le_right e₁ e₂), ← add_mul, ← Int.cast_add] at h
  have hpower : (2 : ℚ) ^ min e₁ e₂ ≠ 0 := zpow_ne_zero _ (by norm_num)
  have hmantissa := Int.cast_eq_zero.mp ((mul_eq_zero.mp h).resolve_right hpower)
  calc UnpackedFloat.add .binary32 (.finite s₁ m₁ e₁ hpos₁) (.finite s₂ m₂ e₂ hpos₂)
      = UnpackedFloat.normalize .binary32
          (s₁.apply (decreaseExponent m₁ e₁ (min e₁ e₂)).1 +
            s₂.apply (decreaseExponent m₂ e₂ (min e₁ e₂)).1) (min e₁ e₂) .positive := rfl
    _ = .zero .positive := by
      rw [hmantissa]
      rfl

/-- A sum is a negative zero only if its second operand is one. -/
theorem ExactSum.ne_negativeZero (h : ExactSum a b) (hb : b ≠ -0) : a + b ≠ -0 := by
  intro heq
  have hparts := congrArg parts heq
  have hsum : value (parts a) + value (parts b) = 0 := by
    have hexact := h.exact_add
    rw [heq] at hexact
    exact hexact.symm
  rw [parts_negativeZero, parts_add] at hparts
  rcases (canonical_parts a).zero_or_finite h.left with ⟨s, ha⟩ | ⟨s, m, e, hpos, -, -, ha⟩ <;>
    rcases (canonical_parts b).zero_or_finite h.right with
      ⟨t, hb'⟩ | ⟨t, n, k, hpos', -, -, hb'⟩ <;>
    rw [ha, hb'] at hparts hsum
  · cases t with
    | positive => cases s <;> cases hparts
    | negative => exact hb (eq_of_parts_eq hb')
  · rw [value_zero, zero_add] at hsum
    exact value_ne_zero t hpos' hsum
  · rw [value_zero, add_zero] at hsum
    exact value_ne_zero s hpos hsum
  · rw [add_finite_eq_zero hsum] at hparts
    cases hparts

/-- Sums of one exact value are the same bit for bit, unless a second operand is a negative
zero. -/
theorem ExactSum.add_eq_add {a' b' : Float32} (h : ExactSum a b) (h' : ExactSum a' b')
    (hexact : exact a + exact b = exact a' + exact b') (hb : b ≠ -0) (hb' : b' ≠ -0) :
    a + b = a' + b' := by
  refine eq_of_exact_eq h.sum h'.sum ?_ (h.ne_negativeZero hb) (h'.ne_negativeZero hb')
  rw [h.exact_add, h'.exact_add, hexact]

end TaggedPage.Number
