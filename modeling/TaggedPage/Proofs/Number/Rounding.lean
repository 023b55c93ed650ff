import TaggedPage.Number.Binary
import Mathlib

/-! # Rounding to single precision

The numbers of single precision, ordered by size, stand at consecutive whole positions:
zero at the origin, infinity at `topPosition`, and the negative ones at the mirrored
positions. `RoundsTo r k` says that a rational number `r` is rounded to the number at
position `k`: its distance from the origin is divided into units of the last place, taken
to the nearest whole number of them, the even one of two, and cut off at infinity.

The relation is stated without an algorithm, so that every operation can be compared with
it. Its main law is monotonicity (`RoundsTo.mono`), of which every bound on a rounded
result is an instance.
-/

namespace TaggedPage.Number

/-- The whole number nearest to `r`, and the even one of two that are equally near. -/
structure Nearest (r : ℚ) (q : ℕ) : Prop where
  le_add : (q : ℚ) ≤ r + 1 / 2
  sub_le : r ≤ q + 1 / 2
  even_above : (q : ℚ) = r + 1 / 2 → Even q
  even_below : r = q + 1 / 2 → Even q

theorem Nearest.natCast (q : ℕ) : Nearest (q : ℚ) q := by
  refine ⟨by linarith, by linarith, fun h => ?_, fun h => ?_⟩
  · linarith
  · linarith

/-- Of two numbers the larger one has no smaller nearest whole number. -/
theorem Nearest.mono {r r' : ℚ} {q q' : ℕ} (h : Nearest r q) (h' : Nearest r' q')
    (hle : r ≤ r') : q ≤ q' := by
  by_contra hlt
  have hsucc : q' + 1 ≤ q := Nat.lt_of_not_le hlt
  have hcast : (q' : ℚ) + 1 ≤ q := by exact_mod_cast hsucc
  have hbelow := h.le_add
  have habove := h'.sub_le
  -- Both numbers lie half way between the two whole numbers, which are not both even.
  have hq : (q : ℚ) = r + 1 / 2 := by linarith
  have hq' : r' = q' + 1 / 2 := by linarith
  have heq : q = q' + 1 := by
    have : (q : ℚ) = q' + 1 := by linarith
    exact_mod_cast this
  have heven := h.even_above hq
  have heven' := h'.even_below hq'
  rw [heq, Nat.even_add_one] at heven
  exact heven heven'

theorem Nearest.le_of_le {r : ℚ} {q n : ℕ} (h : Nearest r q) (hle : r ≤ n) : q ≤ n :=
  h.mono (.natCast n) hle

theorem Nearest.le_of_ge {r : ℚ} {q n : ℕ} (h : Nearest r q) (hge : (n : ℚ) ≤ r) : n ≤ q :=
  (Nearest.natCast n).mono h hge

/-- The position of `m` units of the last place two to the power `t`. A full significand
of 24 bits carries into the next power by this same sum. -/
def position (t : ℤ) (m : ℕ) : ℤ := (t + 149) * 8388608 + m

def topPosition : ℤ := 0x7F800000

/-- The last place of a number is two to the power `t`: its significand has 24 bits, or
fewer where the last place is the least one. -/
structure LastPlace (r : ℚ) (t : ℤ) : Prop where
  least : -149 ≤ t
  lt : r < 2 ^ (t + 24)
  normal : t = -149 ∨ (2 : ℚ) ^ (t + 23) ≤ r

theorem LastPlace.mono {r r' : ℚ} {t t' : ℤ} (h : LastPlace r t) (h' : LastPlace r' t')
    (hle : r ≤ r') : t ≤ t' := by
  rcases h.normal with rfl | hnormal
  · exact h'.least
  · have hpow : (2 : ℚ) ^ (t + 23) < 2 ^ (t' + 24) := lt_of_le_of_lt (hnormal.trans hle) h'.lt
    have := (zpow_lt_zpow_iff_right₀ (by norm_num : (1 : ℚ) < 2)).mp hpow
    omega

/-- The position to which a number that is not negative is rounded. -/
def RoundsUpTo (r : ℚ) (p : ℤ) : Prop :=
  ∃ t q, LastPlace r t ∧ Nearest (r / 2 ^ t) q ∧ p = min topPosition (position t q)

theorem div_zpow_lt {r : ℚ} {t : ℤ} (h : LastPlace r t) : r / 2 ^ t < (2 ^ 24 : ℕ) := by
  have hpos : (0 : ℚ) < 2 ^ t := zpow_pos (by norm_num) t
  rw [div_lt_iff₀ hpos]
  calc r < 2 ^ (t + 24) := h.lt
    _ = (2 ^ 24 : ℕ) * 2 ^ t := by
      rw [zpow_add₀ (by norm_num : (2 : ℚ) ≠ 0), mul_comm]
      norm_num

theorem le_div_zpow {r : ℚ} {t : ℤ} (h : (2 : ℚ) ^ (t + 23) ≤ r) : (2 ^ 23 : ℕ) ≤ r / 2 ^ t := by
  have hpos : (0 : ℚ) < 2 ^ t := zpow_pos (by norm_num) t
  rw [le_div_iff₀ hpos]
  calc ((2 ^ 23 : ℕ) : ℚ) * 2 ^ t = 2 ^ (t + 23) := by
        rw [zpow_add₀ (by norm_num : (2 : ℚ) ≠ 0), mul_comm]
        norm_num
    _ ≤ r := h

theorem RoundsUpTo.mono {r r' : ℚ} {p p' : ℤ} (h : RoundsUpTo r p) (h' : RoundsUpTo r' p')
    (hle : r ≤ r') : p ≤ p' := by
  obtain ⟨t, q, hplace, hnearest, rfl⟩ := h
  obtain ⟨t', q', hplace', hnearest', rfl⟩ := h'
  refine min_le_min_left _ ?_
  rcases (hplace.mono hplace' hle).eq_or_lt with rfl | hlt
  · have hq : q ≤ q' := by
      refine hnearest.mono hnearest' ?_
      exact div_le_div_of_nonneg_right hle (zpow_nonneg (by norm_num) t)
    unfold position
    omega
  · -- The smaller number rounds at most to a full significand, with which the next last
    -- place begins.
    have hq : q ≤ 2 ^ 24 := hnearest.le_of_le (div_zpow_lt hplace).le
    have hnormal : (2 : ℚ) ^ (t' + 23) ≤ r' := by
      refine hplace'.normal.resolve_left fun heq => ?_
      have := hplace.least
      omega
    have hq' : 2 ^ 23 ≤ q' := hnearest'.le_of_ge (le_div_zpow hnormal)
    unfold position
    omega

theorem RoundsUpTo.zero : RoundsUpTo 0 0 := by
  refine ⟨-149, 0, ⟨le_rfl, zpow_pos (by norm_num) _, .inl rfl⟩, ?_, by decide⟩
  rw [zero_div]
  exact_mod_cast Nearest.natCast 0

/-- Significands in one position have one value, also if one of them is a full one. -/
theorem mul_zpow_eq_of_position_eq {t t' : ℤ} {q q' : ℕ} (hle : t ≤ t') (ht : -149 ≤ t)
    (hq : q ≤ 2 ^ 24) (hq' : t' = -149 ∨ 2 ^ 23 ≤ q') (h : position t q = position t' q') :
    (q : ℚ) * 2 ^ t = q' * 2 ^ t' := by
  unfold position at h
  rcases hle.eq_or_lt with rfl | hlt
  · obtain rfl : q = q' := by omega
    rfl
  · obtain rfl : t' = t + 1 := by omega
    obtain rfl : q = 2 ^ 24 := by omega
    obtain rfl : q' = 2 ^ 23 := by omega
    rw [zpow_add₀ (by norm_num)]
    norm_num
    ring

/-- A number is rounded by at most half a unit of its last place. -/
theorem RoundsUpTo.abs_sub_le {r : ℚ} {e : ℤ} {m : ℕ} (h : RoundsUpTo r (position e m))
    (htop : position e m < topPosition) (he : -149 ≤ e) (hlt : m < 2 ^ 24)
    (hm : e = -149 ∨ 2 ^ 23 ≤ m) : ∃ t, LastPlace r t ∧ |r - m * 2 ^ e| ≤ 2 ^ t / 2 := by
  obtain ⟨t, q, hplace, hnearest, heq⟩ := h
  have hsame : position t q = position e m := by omega
  have hq : q ≤ 2 ^ 24 := hnearest.le_of_le (div_zpow_lt hplace).le
  have hnormal : t = -149 ∨ 2 ^ 23 ≤ q :=
    hplace.normal.imp_right fun hfull => hnearest.le_of_ge (le_div_zpow hfull)
  have hvalue : (m : ℚ) * 2 ^ e = q * 2 ^ t := by
    rcases le_total t e with hte | hte
    · exact (mul_zpow_eq_of_position_eq hte hplace.least hq hm hsame).symm
    · exact mul_zpow_eq_of_position_eq hte he hlt.le hnormal hsame.symm
  have hpos : (0 : ℚ) < 2 ^ t := zpow_pos (by norm_num) t
  have hbelow : (q : ℚ) * 2 ^ t ≤ r + 2 ^ t / 2 := by
    calc (q : ℚ) * 2 ^ t ≤ (r / 2 ^ t + 1 / 2) * 2 ^ t :=
          mul_le_mul_of_nonneg_right hnearest.le_add hpos.le
      _ = r + 2 ^ t / 2 := by field_simp
  have habove : r ≤ q * 2 ^ t + 2 ^ t / 2 := by
    calc r = r / 2 ^ t * 2 ^ t := (div_mul_cancel₀ r hpos.ne').symm
      _ ≤ (q + 1 / 2) * 2 ^ t := mul_le_mul_of_nonneg_right hnearest.sub_le hpos.le
      _ = q * 2 ^ t + 2 ^ t / 2 := by ring
  refine ⟨t, hplace, ?_⟩
  rw [hvalue, abs_le]
  constructor <;> linarith

/-- What is less than half a unit of the last place above the largest number is rounded to
a finite one. -/
theorem RoundsUpTo.lt_top {r : ℚ} {k : ℤ} (h : RoundsUpTo r k)
    (hr : r < (2 ^ 25 - 1) * 2 ^ 103) : k < topPosition := by
  obtain ⟨t, q, hplace, hnearest, rfl⟩ := h
  refine (min_le_right _ _).trans_lt ?_
  rcases lt_or_ge t 104 with ht | ht
  · have hq : q ≤ 2 ^ 24 := hnearest.le_of_le (div_zpow_lt hplace).le
    unfold position topPosition
    omega
  · have hnormal : (2 : ℚ) ^ (t + 23) ≤ r := by
      refine hplace.normal.resolve_left ?_
      rintro rfl
      omega
    have hpow : (2 : ℚ) ^ (t + 23) < 2 ^ (128 : ℤ) := by
      refine hnormal.trans_lt (hr.trans ?_)
      norm_num
    have hlt := (zpow_lt_zpow_iff_right₀ (by norm_num : (1 : ℚ) < 2)).mp hpow
    obtain rfl : t = 104 := by omega
    have hq : (q : ℚ) < (2 ^ 24 : ℕ) := by
      refine hnearest.le_add.trans_lt ?_
      have hquot : r / 2 ^ (104 : ℤ) < 2 ^ 24 - 1 / 2 := by
        rw [div_lt_iff₀ (by positivity)]
        refine hr.trans_eq ?_
        norm_num
      push_cast
      linarith
    have hq' : q < 2 ^ 24 := by exact_mod_cast hq
    unfold position topPosition
    omega

/-- Rounding to the number at a position: a negative number is rounded like its
opposite. -/
def RoundsTo (r : ℚ) (k : ℤ) : Prop :=
  (0 ≤ r ∧ RoundsUpTo r k) ∨ (r < 0 ∧ RoundsUpTo (-r) (-k))

/-- Of two numbers the larger one is not rounded to a smaller one. -/
theorem RoundsTo.mono {r r' : ℚ} {k k' : ℤ} (h : RoundsTo r k) (h' : RoundsTo r' k')
    (hle : r ≤ r') : k ≤ k' := by
  rcases h with ⟨hr, hk⟩ | ⟨hr, hk⟩
  · rcases h' with ⟨_, hk'⟩ | ⟨hr', _⟩
    · exact hk.mono hk' hle
    · exact absurd (hr.trans hle) (not_le.mpr hr')
  · have hneg : 0 ≤ -k := RoundsUpTo.zero.mono hk (by linarith)
    rcases h' with ⟨hr', hk'⟩ | ⟨_, hk'⟩
    · have hnonneg : 0 ≤ k' := RoundsUpTo.zero.mono hk' hr'
      omega
    · have := hk'.mono hk (by linarith)
      omega

theorem RoundsTo.abs_lt_top {r : ℚ} {k : ℤ} (h : RoundsTo r k)
    (hr : |r| < (2 ^ 25 - 1) * 2 ^ 103) : -topPosition < k ∧ k < topPosition := by
  have htop : 0 < topPosition := by decide
  obtain ⟨hlow, hhigh⟩ := abs_lt.mp hr
  rcases h with ⟨hnonneg, hk⟩ | ⟨hneg, hk⟩
  · have hlt := hk.lt_top hhigh
    have hzero := RoundsUpTo.zero.mono hk hnonneg
    omega
  · have hlt := hk.lt_top (by linarith)
    have hzero := RoundsUpTo.zero.mono hk (by linarith)
    omega

theorem RoundsTo.zero : RoundsTo 0 0 := .inl ⟨le_rfl, .zero⟩

theorem RoundsTo.neg {r : ℚ} {k : ℤ} (h : RoundsTo r k) : RoundsTo (-r) (-k) := by
  rcases h with ⟨hr, hk⟩ | ⟨hr, hk⟩
  · rcases hr.eq_or_lt with rfl | hpos
    · have hzero : k = 0 := le_antisymm (hk.mono .zero le_rfl) (RoundsUpTo.zero.mono hk le_rfl)
      rw [hzero, neg_zero, neg_zero]
      exact .zero
    · exact .inr ⟨by linarith, by rwa [neg_neg, neg_neg]⟩
  · exact .inl ⟨by linarith, hk⟩

/-- A number is rounded to one position only. -/
theorem RoundsTo.unique {r : ℚ} {k k' : ℤ} (h : RoundsTo r k) (h' : RoundsTo r k') : k = k' :=
  le_antisymm (h.mono h' le_rfl) (h'.mono h le_rfl)

end TaggedPage.Number
