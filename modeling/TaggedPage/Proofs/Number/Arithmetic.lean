import TaggedPage.Proofs.Number.Unpacked

/-! # Arithmetic of single precision

A sum, difference, product or quotient of finite numbers is the exact result, rounded
(`Rounds`). An operation works with more digits than fit, cuts the surplus ones off and
keeps two bits about them; `Between` says what these bits mean, and that this meaning
survives every shift is the whole argument. The last shift only undoes the carry of a
significand that was rounded up to the next power of two.
-/

namespace TaggedPage.Number

open Float.Model Float.Model.UnpackedFloat

/-! ## Cutting off digits -/

/-- Where a number lies between a significand and the next one: the round bit is set from
the middle on, and the sticky bit strictly inside either half. -/
def Between (em : ExtendedMantissa) (r : ℚ) : Prop :=
  match em.roundBit, em.stickyBit with
  | false, false => r = em.mantissa
  | false, true => em.mantissa < r ∧ r < em.mantissa + 1 / 2
  | true, false => r = em.mantissa + 1 / 2
  | true, true => em.mantissa + 1 / 2 < r ∧ r < em.mantissa + 1

theorem Between.le {em : ExtendedMantissa} {r : ℚ} (h : Between em r) : (em.mantissa : ℚ) ≤ r := by
  obtain ⟨m, round, sticky⟩ := em
  cases round <;> cases sticky <;> simp only [Between] at h ⊢ <;> linarith

theorem Between.lt {em : ExtendedMantissa} {r : ℚ} (h : Between em r) :
    r < em.mantissa + 1 := by
  obtain ⟨m, round, sticky⟩ := em
  cases round <;> cases sticky <;> simp only [Between] at h ⊢ <;> linarith

theorem Between.shiftRightOne {em : ExtendedMantissa} {r : ℚ} (h : Between em r) :
    Between em.shiftRightOne (r / 2) := by
  obtain ⟨m, round, sticky⟩ := em
  rcases Nat.even_or_odd' m with ⟨k, rfl | rfl⟩
  · have hhalf : 2 * k / 2 = k := by omega
    have hbit : (2 * k % 2 != 0) = false := by simp
    cases round <;> cases sticky <;>
      simp only [Between, ExtendedMantissa.shiftRightOne, hhalf, hbit, Bool.or_false,
        Bool.or_true] at h ⊢ <;> push_cast at h <;> first | linarith | constructor <;> linarith
  · have hhalf : (2 * k + 1) / 2 = k := by omega
    have hbit : ((2 * k + 1) % 2 != 0) = true := by
      rw [bne_iff_ne]
      omega
    cases round <;> cases sticky <;>
      simp only [Between, ExtendedMantissa.shiftRightOne, hhalf, hbit, Bool.or_false,
        Bool.or_true] at h ⊢ <;> push_cast at h <;> first | linarith | constructor <;> linarith

theorem Between.shiftRight {em : ExtendedMantissa} {r : ℚ} (h : Between em r) (n : ℕ) :
    Between (em >>> n) (r / 2 ^ n) := by
  induction n with
  | zero =>
    rw [pow_zero, div_one]
    exact h
  | succ n ih =>
    have hstep : r / 2 ^ (n + 1) = r / 2 ^ n / 2 := by
      rw [pow_succ, div_div]
    rw [hstep]
    exact ih.shiftRightOne

/-- The two bits suffice to round to the nearest significand. -/
theorem Between.nearest {em : ExtendedMantissa} {r : ℚ} (h : Between em r) :
    Nearest r em.roundedMantissa := by
  obtain ⟨m, round, sticky⟩ := em
  cases round <;> cases sticky <;> simp only [Between] at h
  · rw [h]
    exact .natCast m
  · change Nearest r m
    refine ⟨by linarith, by linarith, fun _ => ?_, fun _ => ?_⟩ <;> linarith
  · change Nearest r (m + m % 2)
    rcases Nat.mod_two_eq_zero_or_one m with hm | hm
    · rw [hm, add_zero]
      exact ⟨by linarith, by linarith, fun _ => Nat.even_iff.mpr hm, fun _ => Nat.even_iff.mpr hm⟩
    · have heven : Even (m + 1) := Nat.even_iff.mpr (by omega)
      rw [hm]
      refine ⟨?_, ?_, fun _ => heven, fun _ => heven⟩ <;> push_cast <;> linarith
  · change Nearest r (m + 1)
    refine ⟨?_, ?_, fun _ => ?_, fun _ => ?_⟩ <;> push_cast at * <;> linarith

/-! ## The last place -/

/-- The exponent to which a number with `m` units of two to the power `e` is brought. -/
def lastPlace (m : ℕ) (e : ℤ) : ℤ := max (m.log2 + e - 23) (-149)

theorem targetExponent_eq (m : ℕ) (e : ℤ) :
    Format.binary32.targetExponent (totalExponent m e) = lastPlace m e := by
  have hbits : ((Format.binary32.mantissaBits : ℕ) : ℤ) = 24 := rfl
  have hleast : Format.binary32.minExponent = -149 := rfl
  unfold Format.targetExponent totalExponent lastPlace
  rw [hbits, hleast]
  omega

theorem lastPlace_shiftLeft {m : ℕ} (hm : m ≠ 0) (n : ℕ) (e : ℤ) :
    lastPlace (m <<< n) (e - n) = lastPlace m e := by
  have hlog : (m <<< n).log2 = m.log2 + n := by
    obtain ⟨hle, hlt⟩ := (Nat.log2_eq_iff hm).mp rfl
    have hne : m <<< n ≠ 0 := by
      rw [Nat.shiftLeft_eq]
      exact Nat.mul_ne_zero hm (by positivity)
    refine (Nat.log2_eq_iff hne).mpr ⟨?_, ?_⟩
    · rw [Nat.shiftLeft_eq, pow_add]
      exact Nat.mul_le_mul_right _ hle
    · rw [Nat.shiftLeft_eq, show m.log2 + n + 1 = m.log2 + 1 + n by omega, pow_add]
      exact Nat.mul_lt_mul_of_pos_right hlt (by positivity)
  unfold lastPlace
  rw [hlog]
  push_cast
  omega

/-- The exponent to which a number is brought is that of its last place. -/
theorem lastPlace_spec {m : ℕ} {e : ℤ} {r : ℚ} (hle : (m : ℚ) ≤ r) (hlt : r < m + 1)
    (he : e ≤ lastPlace m e) : LastPlace (r * 2 ^ e) (lastPlace m e) := by
  have htwo : (1 : ℚ) < 2 := by norm_num
  have hpos : (0 : ℚ) < 2 ^ e := zpow_pos (by norm_num) e
  refine ⟨le_max_right _ _, ?_, ?_⟩
  · have hbound : r < 2 ^ (m.log2 + 1) := by
      have hlog : m + 1 ≤ 2 ^ (m.log2 + 1) := Nat.lt_log2_self
      have : ((m : ℚ) + 1) ≤ 2 ^ (m.log2 + 1) := by exact_mod_cast hlog
      linarith
    calc r * 2 ^ e < 2 ^ (m.log2 + 1) * 2 ^ e := by gcongr
      _ = 2 ^ ((m.log2 + 1 : ℕ) + e) := by
        rw [zpow_add₀ (by norm_num), zpow_natCast]
      _ ≤ 2 ^ (lastPlace m e + 24) := by
        refine zpow_le_zpow_right₀ htwo.le ?_
        unfold lastPlace
        push_cast
        omega
  · rcases le_or_gt (m.log2 + e - 23) (-149) with hleast | hnormal
    · exact .inl (max_eq_right hleast)
    · refine .inr ?_
      have hne : m ≠ 0 := by
        rintro rfl
        simp only [lastPlace, Nat.log2_zero] at he hnormal
        omega
      have hlog : ((2 ^ m.log2 : ℕ) : ℚ) ≤ m := by exact_mod_cast Nat.log2_self_le hne
      calc (2 : ℚ) ^ (lastPlace m e + 23) = 2 ^ ((m.log2 : ℤ) + e) := by
            congr 1
            unfold lastPlace
            omega
        _ = (2 ^ m.log2 : ℕ) * 2 ^ e := by
          rw [zpow_add₀ (by norm_num), zpow_natCast]
          push_cast
          rfl
        _ ≤ r * 2 ^ e := by
          gcongr
          exact hlog.trans hle

/-! ## Rounding -/

/-- What a number becomes when it is packed into bits. -/
def packed (u : UnpackedFloat) : UnpackedFloat :=
  UnpackedFloat.unpack .binary32 (UnpackedFloat.pack .binary32 u)

/-- Packed into bits, a number is the given one, rounded. -/
structure Rounds (r : ℚ) (u : UnpackedFloat) : Prop where
  isNaN_eq_false : (packed u).isNaN = false
  roundsTo : RoundsTo r (rank (packed u))

theorem isNaN_packed_finite (s : Sign) {m : ℕ} {e : ℤ} (hpos : 0 < m) (h : Normalized m e) :
    (packed (.finite s m e hpos)).isNaN = false := by
  unfold packed
  rcases lt_or_ge 104 e with he | he
  · rw [unpack_pack_large s hpos he]
    rfl
  · rw [(Canonical.finite s hpos h he).unpack_pack]
    rfl

theorem Rounds.zero (s : Sign) {r : ℚ} (h : RoundsTo r 0) : Rounds r (.zero s) := by
  have hpacked : packed (.zero s) = .zero s := (Canonical.zero s).unpack_pack
  refine ⟨?_, ?_⟩
  · rw [hpacked]
    rfl
  · rw [hpacked]
    exact h

def signed (s : Sign) (r : ℚ) : ℚ :=
  match s with
  | .negative => -r
  | .positive => r

theorem RoundsUpTo.signed {r : ℚ} {k : ℤ} (h : RoundsUpTo r k) (hr : 0 ≤ r) (s : Sign) :
    RoundsTo (signed s r) (s.apply k) := by
  have hpositive : RoundsTo r k := .inl ⟨hr, h⟩
  cases s with
  | negative => exact hpositive.neg
  | positive => exact hpositive

theorem Rounds.finite (s : Sign) {r : ℚ} {m : ℕ} {e : ℤ} (hpos : 0 < m) (hm : Normalized m e)
    (hr : 0 ≤ r) (h : RoundsUpTo r (min topPosition (position e m))) :
    Rounds (signed s r) (.finite s m e hpos) := by
  refine ⟨isNaN_packed_finite s hpos hm, ?_⟩
  have hrank : rank (packed (.finite s m e hpos)) = s.apply (min topPosition (position e m)) :=
    rank_unpack_pack s hpos hm
  rw [hrank]
  exact h.signed hr s

/-- A significand of at most 24 bits is shifted no further. -/
theorem shift_exact_of_lt {q : ℕ} {t : ℤ} (hq : q < 2 ^ 24) (ht : -149 ≤ t) :
    shiftToTargetExponent .binary32 q t .exact = (⟨q, false, false⟩, t) := by
  have hlog : q.log2 ≤ 23 := by
    rcases Nat.eq_zero_or_pos q with rfl | hpos
    · simp
    · exact Nat.le_of_lt_succ ((Nat.log2_lt (by omega)).mpr hq)
  have hstay : (lastPlace q t - t).toNat = 0 := by
    unfold lastPlace
    omega
  unfold shiftToTargetExponent shiftToExponent
  simp only [targetExponent_eq, hstay]
  rw [Nat.cast_zero, add_zero]
  rfl

/-- The carry of a significand rounded up to 25 bits is undone. -/
theorem shift_exact_carry {t : ℤ} (ht : -149 ≤ t) :
    shiftToTargetExponent .binary32 (2 ^ 24) t .exact = (⟨2 ^ 23, false, false⟩, t + 1) := by
  have hstep : (lastPlace (2 ^ 24) t - t).toNat = 1 := by
    unfold lastPlace
    rw [Nat.log2_two_pow]
    omega
  unfold shiftToTargetExponent shiftToExponent
  simp only [targetExponent_eq, hstep]
  rfl

/-- The number whose significand was rounded to the last place. -/
theorem rounds_of_nearest (s : Sign) {r : ℚ} {t t' : ℤ} {q : ℕ} {em : ExtendedMantissa}
    (hr : 0 ≤ r) (hplace : LastPlace r t) (hnearest : Nearest (r / 2 ^ t) q)
    (hshift : shiftToTargetExponent .binary32 q t .exact = (em, t')) :
    Rounds (signed s r) (if hzero : em.mantissa = 0 then .zero s
      else .finite s em.mantissa t' (Nat.pos_of_ne_zero hzero)) := by
  have hup : RoundsUpTo r (min topPosition (position t q)) := ⟨t, q, hplace, hnearest, rfl⟩
  have hleast := hplace.least
  have hcarry : q ≤ 2 ^ 24 := hnearest.le_of_le (div_zpow_lt hplace).le
  rcases hcarry.lt_or_eq with hlt | rfl
  · obtain ⟨rfl, rfl⟩ := Prod.mk.inj ((shift_exact_of_lt hlt hleast).symm.trans hshift)
    have hnormal : 2 ^ 23 ≤ q ∨ t = -149 :=
      hplace.normal.symm.imp_left fun hfull => hnearest.le_of_ge (le_div_zpow hfull)
    split
    · next hzero =>
      obtain rfl : q = 0 := hzero
      obtain rfl : t = -149 := hnormal.resolve_left (by norm_num)
      have hzero : s.apply (min topPosition (position (-149) 0)) = 0 := by
        cases s <;> rfl
      exact .zero s (hzero ▸ hup.signed hr s)
    · next hzero => exact .finite s _ ⟨hlt, hleast, hnormal⟩ hr hup
  · obtain ⟨rfl, rfl⟩ := Prod.mk.inj ((shift_exact_carry hleast).symm.trans hshift)
    have hsame : position (t + 1) (2 ^ 23) = position t (2 ^ 24) := by
      unfold position
      push_cast
      ring
    rw [dif_neg (by norm_num)]
    refine .finite s _ ⟨by norm_num, by omega, .inl le_rfl⟩ hr ?_
    rw [hsame]
    exact hup

theorem mantissa_ofMantissaAndAccuracy (m : ℕ) (acc : Accuracy) :
    (ExtendedMantissa.ofMantissaAndAccuracy m acc).mantissa = m := by
  cases acc with
  | exact => rfl
  | inexact o => cases o <;> rfl

theorem div_zpow_eq {r : ℚ} {e t : ℤ} (h : e ≤ t) :
    r * 2 ^ e / 2 ^ t = r / 2 ^ (t - e).toNat := by
  have hdiff : ((t - e).toNat : ℤ) = t - e := by omega
  rw [← zpow_natCast, hdiff, zpow_sub₀ (by norm_num)]
  field_simp

/-- A significand with its two bits is rounded to the last place. -/
theorem rounds_roundWithAccuracy (s : Sign) {m : ℕ} {e : ℤ} {acc : Accuracy} {r : ℚ}
    (h : Between (.ofMantissaAndAccuracy m acc) r) (he : e ≤ lastPlace m e) :
    Rounds (signed s (r * 2 ^ e)) (roundWithAccuracy .binary32 s m e acc) := by
  have hle := h.le
  have hlt := h.lt
  rw [mantissa_ofMantissaAndAccuracy] at hle hlt
  have hr : 0 ≤ r * 2 ^ e := by
    have : (0 : ℚ) ≤ m := m.cast_nonneg
    exact mul_nonneg (this.trans hle) (zpow_nonneg (by norm_num) e)
  have hnearest := (h.shiftRight (lastPlace m e - e).toNat).nearest
  rw [← div_zpow_eq he] at hnearest
  have hshift : shiftToTargetExponent .binary32 m e acc =
      (ExtendedMantissa.ofMantissaAndAccuracy m acc >>> (lastPlace m e - e).toNat,
        lastPlace m e) := by
    unfold shiftToTargetExponent shiftToExponent
    simp only [targetExponent_eq]
    rw [show e + ((lastPlace m e - e).toNat : ℤ) = lastPlace m e by omega]
  unfold roundWithAccuracy
  simp only [hshift]
  exact rounds_of_nearest s hr (lastPlace_spec hle hlt he) hnearest rfl

/-- Decreasing the exponent does not change the value. -/
theorem shiftLeft_mul_zpow (m : ℕ) {e e' : ℤ} (h : e' ≤ e) :
    ((m <<< (e - e').toNat : ℕ) : ℚ) * 2 ^ e' = m * 2 ^ e := by
  have hdiff : ((e - e').toNat : ℤ) = e - e' := by omega
  rw [Nat.shiftLeft_eq]
  push_cast
  rw [← zpow_natCast, hdiff, mul_assoc, ← zpow_add₀ (by norm_num), sub_add_cancel]

/-- A number is rounded whatever its exponent is. -/
theorem rounds_round (s : Sign) {m : ℕ} (hm : m ≠ 0) (e : ℤ) :
    Rounds (signed s (m * 2 ^ e)) (UnpackedFloat.round .binary32 s m e) := by
  unfold UnpackedFloat.round decreaseExponent
  simp only [targetExponent_eq]
  obtain ⟨n, hn⟩ : ∃ n, n = (e - lastPlace m e).toNat := ⟨_, rfl⟩
  rw [← hn]
  have hplace := lastPlace_shiftLeft hm n e
  have hexact : Between (.ofMantissaAndAccuracy (m <<< n) .exact) (m <<< n : ℕ) := rfl
  have hround := rounds_roundWithAccuracy s (e := e - n) hexact (by omega)
  have hvalue := shiftLeft_mul_zpow m (show e - n ≤ e by omega)
  rw [show (e - (e - n : ℤ)).toNat = n by omega] at hvalue
  rwa [hvalue] at hround

theorem rounds_normalize (z : ℤ) (e : ℤ) :
    Rounds (z * 2 ^ e) (UnpackedFloat.normalize .binary32 z e .positive) := by
  unfold UnpackedFloat.normalize
  rcases lt_trichotomy z 0 with hz | rfl | hz
  · rw [Int.compare_eq_lt.mpr hz]
    have hround := rounds_round .negative (m := (-z).toNat) (by omega) e
    have hcast : (((-z).toNat : ℕ) : ℚ) = -z := by
      have : ((-z).toNat : ℤ) = -z := by omega
      exact_mod_cast this
    rw [hcast] at hround
    simpa only [signed, neg_mul, neg_neg] using hround
  · rw [Int.compare_eq_eq.mpr rfl, Int.cast_zero, zero_mul]
    exact .zero .positive .zero
  · rw [Int.compare_eq_gt.mpr hz]
    have hround := rounds_round .positive (m := z.toNat) (by omega) e
    have hcast : ((z.toNat : ℕ) : ℚ) = z := by
      have : (z.toNat : ℤ) = z := by omega
      exact_mod_cast this
    rw [hcast] at hround
    exact hround

/-! ## Operations -/

theorem value_finite (s : Sign) {m : ℕ} {e : ℤ} (hpos : 0 < m) :
    value (.finite s m e hpos) = signed s (m * 2 ^ e) := by
  cases s <;> simp [value, signed, Sign.apply]

theorem Normalized.lastPlace_eq {m : ℕ} {e : ℤ} (h : Normalized m e) (hpos : 0 < m) :
    lastPlace m e = e := by
  have hleast := h.least
  have hlog : m.log2 < 24 := (Nat.log2_lt (by omega)).mpr h.lt
  unfold lastPlace
  rcases h.normal with hfull | rfl
  · have := h.log2_eq hfull
    omega
  · omega

/-- A finite number is its own value, rounded. -/
theorem Canonical.rounds {u : UnpackedFloat} (h : Canonical u) (hfinite : u.isFinite = true) :
    Rounds (value u) u := by
  rcases h.zero_or_finite hfinite with ⟨s, rfl⟩ | ⟨s, m, e, hpos, hm, he, rfl⟩
  · exact .zero s .zero
  · have hplace : LastPlace (m * 2 ^ e : ℚ) (lastPlace m e) :=
      lastPlace_spec le_rfl (lt_add_one _) (hm.lastPlace_eq hpos).ge
    rw [hm.lastPlace_eq hpos] at hplace
    have hnearest : Nearest ((m * 2 ^ e : ℚ) / 2 ^ e) m := by
      rw [mul_div_cancel_right₀ _ (zpow_ne_zero e (by norm_num))]
      exact .natCast m
    rw [value_finite]
    exact .finite s hpos hm (by positivity) ⟨e, m, hplace, hnearest, rfl⟩

/-- Decreasing the exponent does not change the signed value. -/
theorem decreaseExponent_eq (s : Sign) (m : ℕ) {e e' : ℤ} (h : e' ≤ e) :
    (s.apply (decreaseExponent m e e').1 : ℤ) * (2 : ℚ) ^ e' = signed s (m * 2 ^ e) := by
  rw [← shiftLeft_mul_zpow m h]
  cases s with
  | negative =>
    change ((-((m <<< (e - e').toNat : ℕ) : ℤ) : ℤ) : ℚ) * 2 ^ e' = -(_ * _)
    rw [Int.cast_neg, Int.cast_natCast, neg_mul]
  | positive =>
    change ((((m <<< (e - e').toNat : ℕ) : ℤ) : ℤ) : ℚ) * 2 ^ e' = _ * _
    rw [Int.cast_natCast]

theorem rounds_add {a b : UnpackedFloat} (ha : Canonical a) (hb : Canonical b)
    (hfa : a.isFinite = true) (hfb : b.isFinite = true) :
    Rounds (value a + value b) (UnpackedFloat.add .binary32 a b) := by
  rcases ha.zero_or_finite hfa with ⟨s₁, rfl⟩ | ⟨s₁, m₁, e₁, hpos₁, -, -, rfl⟩
  · rw [value_zero, zero_add]
    rcases hb.zero_or_finite hfb with ⟨s₂, rfl⟩ | ⟨s₂, m₂, e₂, hpos₂, -, -, rfl⟩
    · cases s₁ <;> cases s₂ <;> exact .zero _ .zero
    · exact hb.rounds hfb
  · rcases hb.zero_or_finite hfb with ⟨s₂, rfl⟩ | ⟨s₂, m₂, e₂, hpos₂, -, -, rfl⟩
    · rw [value_zero, add_zero]
      exact ha.rounds hfa
    · rw [value_finite, value_finite, ← decreaseExponent_eq s₁ m₁ (min_le_left e₁ e₂),
        ← decreaseExponent_eq s₂ m₂ (min_le_right e₁ e₂), ← add_mul, ← Int.cast_add]
      exact rounds_normalize _ _

theorem value_neg (s : Sign) {m : ℕ} {e : ℤ} (hpos : 0 < m) :
    value (.finite (-s) m e hpos) = -value (.finite s m e hpos) := by
  rw [value_finite, value_finite]
  cases s with
  | negative => exact (neg_neg _).symm
  | positive => rfl

theorem rounds_sub {a b : UnpackedFloat} (ha : Canonical a) (hb : Canonical b)
    (hfa : a.isFinite = true) (hfb : b.isFinite = true) :
    Rounds (value a - value b) (UnpackedFloat.sub .binary32 a b) := by
  rcases ha.zero_or_finite hfa with ⟨s₁, rfl⟩ | ⟨s₁, m₁, e₁, hpos₁, -, -, rfl⟩
  · rw [value_zero, zero_sub]
    rcases hb.zero_or_finite hfb with ⟨s₂, rfl⟩ | ⟨s₂, m₂, e₂, hpos₂, hm₂, he₂, rfl⟩
    · cases s₁ <;> cases s₂ <;> exact .zero _ .zero
    · rw [← value_neg]
      exact (Canonical.finite (-s₂) hpos₂ hm₂ he₂).rounds rfl
  · rcases hb.zero_or_finite hfb with ⟨s₂, rfl⟩ | ⟨s₂, m₂, e₂, hpos₂, -, -, rfl⟩
    · rw [value_zero, sub_zero]
      exact ha.rounds hfa
    · rw [value_finite, value_finite, ← decreaseExponent_eq s₁ m₁ (min_le_left e₁ e₂),
        ← decreaseExponent_eq s₂ m₂ (min_le_right e₁ e₂), ← sub_mul, ← Int.cast_sub]
      exact rounds_normalize _ _

theorem signed_mul (s₁ s₂ : Sign) (x y : ℚ) :
    signed (s₁ * s₂) (x * y) = signed s₁ x * signed s₂ y := by
  cases s₁ <;> cases s₂
  · exact (neg_mul_neg x y).symm
  · exact (neg_mul x y).symm
  · exact (mul_neg x y).symm
  · rfl

theorem signed_div (s₁ s₂ : Sign) (x y : ℚ) :
    signed (s₁ / s₂) (x / y) = signed s₁ x / signed s₂ y := by
  cases s₁ <;> cases s₂
  · exact (neg_div_neg_eq x y).symm
  · exact (neg_div y x).symm
  · exact (div_neg x).symm
  · rfl

/-- A product of significands has enough digits. -/
theorem Normalized.add_le_lastPlace {m₁ m₂ : ℕ} {e₁ e₂ : ℤ} (h₁ : Normalized m₁ e₁)
    (h₂ : Normalized m₂ e₂) (hpos₁ : 0 < m₁) (hpos₂ : 0 < m₂) :
    e₁ + e₂ ≤ lastPlace (m₁ * m₂) (e₁ + e₂) := by
  have hne : m₁ * m₂ ≠ 0 := (Nat.mul_pos hpos₁ hpos₂).ne'
  have henough : 2 ^ 23 ≤ m₁ * m₂ → 23 ≤ (m₁ * m₂).log2 := (Nat.le_log2 hne).mpr
  unfold lastPlace
  rcases h₁.normal with hfull | rfl
  · have := henough (hfull.trans (Nat.le_mul_of_pos_right m₁ hpos₂))
    omega
  · rcases h₂.normal with hfull | rfl
    · have := henough (hfull.trans (Nat.le_mul_of_pos_left m₂ hpos₁))
      omega
    · omega

theorem rounds_mul {a b : UnpackedFloat} (ha : Canonical a) (hb : Canonical b)
    (hfa : a.isFinite = true) (hfb : b.isFinite = true) :
    Rounds (value a * value b) (UnpackedFloat.mul .binary32 a b) := by
  rcases ha.zero_or_finite hfa with ⟨s₁, rfl⟩ | ⟨s₁, m₁, e₁, hpos₁, hm₁, -, rfl⟩
  · rw [value_zero, zero_mul]
    rcases hb.zero_or_finite hfb with ⟨s₂, rfl⟩ | ⟨s₂, m₂, e₂, hpos₂, -, -, rfl⟩
    · exact .zero _ .zero
    · exact .zero _ .zero
  · rcases hb.zero_or_finite hfb with ⟨s₂, rfl⟩ | ⟨s₂, m₂, e₂, hpos₂, hm₂, -, rfl⟩
    · rw [value_zero, mul_zero]
      exact .zero _ .zero
    · have hexact : Between (.ofMantissaAndAccuracy (m₁ * m₂) .exact) (m₁ * m₂ : ℕ) := rfl
      have hround := rounds_roundWithAccuracy (s₁ * s₂) hexact
        (hm₁.add_le_lastPlace hm₂ hpos₁ hpos₂)
      have hvalue : ((m₁ * m₂ : ℕ) : ℚ) * 2 ^ (e₁ + e₂) = m₁ * 2 ^ e₁ * (m₂ * 2 ^ e₂) := by
        rw [zpow_add₀ (by norm_num)]
        push_cast
        ring
      rw [hvalue, signed_mul, ← value_finite s₁ hpos₁, ← value_finite s₂ hpos₂] at hround
      exact hround

/-- What is left of a division says where the quotient lies. -/
theorem between_div (n : ℕ) {d : ℕ} (hd : 0 < d) :
    Between (.ofMantissaAndAccuracy (n / d) (accuracyOfFraction (n % d) d)) (n / d : ℚ) := by
  have hdq : (0 : ℚ) < d := by exact_mod_cast hd
  have hsplit : (n : ℚ) = d * (n / d : ℕ) + (n % d : ℕ) := by
    exact_mod_cast (Nat.div_add_mod n d).symm
  have hquot : (n : ℚ) / d = (n / d : ℕ) + (n % d : ℕ) / d := by
    rw [hsplit]
    field_simp
  rw [hquot]
  unfold accuracyOfFraction
  split
  · next hzero =>
    rw [hzero, Nat.cast_zero, zero_div, add_zero]
    rfl
  · next hne =>
    have hpos : (0 : ℚ) < (n % d : ℕ) / d :=
      div_pos (by exact_mod_cast Nat.pos_of_ne_zero hne) hdq
    have hlt : ((n % d : ℕ) : ℚ) / d < 1 := by
      rw [div_lt_one hdq]
      exact_mod_cast Nat.mod_lt n hd
    rcases lt_trichotomy (2 * (n % d)) d with h | h | h
    · have hcast : 2 * ((n % d : ℕ) : ℚ) < d := by exact_mod_cast h
      have hhalf : ((n % d : ℕ) : ℚ) / d < 1 / 2 := by
        rw [div_lt_div_iff₀ hdq two_pos]
        linarith
      rw [Nat.compare_eq_lt.mpr h]
      exact ⟨lt_add_of_pos_right _ hpos, add_lt_add_right hhalf _⟩
    · have hcast : 2 * ((n % d : ℕ) : ℚ) = d := by exact_mod_cast h
      have hhalf : ((n % d : ℕ) : ℚ) / d = 1 / 2 := by
        rw [div_eq_div_iff hdq.ne' two_ne_zero]
        linarith
      rw [Nat.compare_eq_eq.mpr h, hhalf]
      rfl
    · have hcast : (d : ℚ) < 2 * (n % d : ℕ) := by exact_mod_cast h
      have hhalf : 1 / 2 < ((n % d : ℕ) : ℚ) / d := by
        rw [div_lt_div_iff₀ two_pos hdq]
        linarith
      rw [Nat.compare_eq_gt.mpr h]
      exact ⟨add_lt_add_right hhalf _, add_lt_add_right hlt _⟩

/-- The exponent over which a quotient is taken. -/
def quotientPlace (m₁ : ℕ) (e₁ : ℤ) (m₂ : ℕ) (e₂ : ℤ) : ℤ :=
  min (e₁ - e₂) (max (m₁.log2 + e₁ - (m₂.log2 + e₂) - 24) (-149))

theorem divCore_eq {m₁ m₂ : ℕ} {e₁ e₂ e : ℤ} (he : e = quotientPlace m₁ e₁ m₂ e₂) :
    divCore .binary32 m₁ e₁ m₂ e₂ =
      (m₁ <<< (e₁ - e₂ - e).toNat / m₂, e,
        accuracyOfFraction (m₁ <<< (e₁ - e₂ - e).toNat % m₂) m₂) := by
  have hbits : ((Format.binary32.mantissaBits : ℕ) : ℤ) = 24 := rfl
  have hleast : Format.binary32.minExponent = -149 := rfl
  have hplace : min (e₁ - e₂)
      (Format.binary32.targetExponent (totalExponent m₁ e₁ - totalExponent m₂ e₂)) = e := by
    rw [he, quotientPlace, Format.targetExponent, totalExponent, totalExponent, hbits, hleast]
    omega
  unfold divCore
  simp only [hplace]

/-- A quotient over its exponent has enough digits. -/
theorem quotientPlace_le_lastPlace {m₁ m₂ : ℕ} {e₁ e₂ e : ℤ} (hpos₁ : 0 < m₁) (hpos₂ : 0 < m₂)
    (he : e = quotientPlace m₁ e₁ m₂ e₂) :
    e ≤ lastPlace (m₁ <<< (e₁ - e₂ - e).toNat / m₂) e := by
  unfold quotientPlace at he
  rcases le_or_gt e (-149) with hsmall | hlarge
  · exact hsmall.trans (le_max_right _ _)
  · obtain ⟨n, hn⟩ : ∃ n, n = (e₁ - e₂ - e).toNat := ⟨_, rfl⟩
    have hlog₁ : 2 ^ m₁.log2 ≤ m₁ := Nat.log2_self_le hpos₁.ne'
    have hlog₂ : m₂ < 2 ^ (m₂.log2 + 1) := Nat.lt_log2_self
    have hshift : m₂.log2 + 1 + 23 ≤ m₁.log2 + n := by omega
    have hfull : 2 ^ 23 ≤ m₁ <<< n / m₂ := by
      rw [Nat.le_div_iff_mul_le hpos₂, Nat.shiftLeft_eq]
      calc 2 ^ 23 * m₂ ≤ 2 ^ 23 * 2 ^ (m₂.log2 + 1) := Nat.mul_le_mul_left _ hlog₂.le
        _ = 2 ^ (m₂.log2 + 1 + 23) := by rw [← pow_add, add_comm]
        _ ≤ 2 ^ (m₁.log2 + n) := Nat.pow_le_pow_right two_pos hshift
        _ = 2 ^ m₁.log2 * 2 ^ n := pow_add _ _ _
        _ ≤ m₁ * 2 ^ n := Nat.mul_le_mul_right _ hlog₁
    have hlog : 23 ≤ (m₁ <<< n / m₂).log2 := (Nat.le_log2 (by omega)).mpr hfull
    rw [← hn]
    unfold lastPlace
    omega

theorem rounds_div {a b : UnpackedFloat} (ha : Canonical a) (hb : Canonical b)
    (hfa : a.isFinite = true) (hfb : b.isFinite = true) (hne : value b ≠ 0) :
    Rounds (value a / value b) (UnpackedFloat.div .binary32 a b) := by
  rcases hb.zero_or_finite hfb with ⟨s₂, rfl⟩ | ⟨s₂, m₂, e₂, hpos₂, -, -, rfl⟩
  · exact absurd rfl hne
  · rcases ha.zero_or_finite hfa with ⟨s₁, rfl⟩ | ⟨s₁, m₁, e₁, hpos₁, -, -, rfl⟩
    · rw [value_zero, zero_div]
      exact .zero _ .zero
    · obtain ⟨e, he⟩ : ∃ e, e = quotientPlace m₁ e₁ m₂ e₂ := ⟨_, rfl⟩
      have hle : e ≤ e₁ - e₂ := he ▸ min_le_left _ _
      have hround := rounds_roundWithAccuracy (s₁ / s₂) (between_div _ hpos₂)
        (quotientPlace_le_lastPlace hpos₁ hpos₂ he)
      have hvalue : ((m₁ <<< (e₁ - e₂ - e).toNat : ℕ) : ℚ) / m₂ * 2 ^ e =
          m₁ * 2 ^ e₁ / (m₂ * 2 ^ e₂) := by
        rw [div_mul_eq_mul_div, shiftLeft_mul_zpow m₁ hle, zpow_sub₀ (by norm_num)]
        field_simp
      rw [hvalue, signed_div, ← value_finite s₁ hpos₁, ← value_finite s₂ hpos₂] at hround
      unfold UnpackedFloat.div
      simp only [divCore_eq he]
      exact hround

end TaggedPage.Number
