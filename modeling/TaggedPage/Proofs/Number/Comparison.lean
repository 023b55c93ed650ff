import TaggedPage.Number.Binary

/-! # Comparing numbers

Equality of numbers in single precision is not the equality of their bits: the two
zeros are equal, and what is not a number is equal to nothing. Numbers that are equal
still have the same comparisons with every third one (`beq_congr`), so in a comparison
one may stand for the other.
-/

namespace TaggedPage.Number

open Float.Model

theorem eq_of_compare_then {e₁ e₂ : Int} {m₁ m₂ : Nat}
    (h : (compare e₁ e₂).then (compare m₁ m₂) = .eq) : e₁ = e₂ ∧ m₁ = m₂ := by
  obtain ⟨he, hm⟩ := Ordering.then_eq_eq.mp h
  exact ⟨Int.compare_eq_eq.mp he, Nat.compare_eq_eq.mp hm⟩

/-- Equal unpacked numbers are both zeros, or the same. -/
theorem unpacked_eq_of_compare {a b : UnpackedFloat} (h : a.compare b = some .eq) :
    a = b ∨ ∃ s₁ s₂, a = .zero s₁ ∧ b = .zero s₂ := by
  cases a with
  | notANumber => cases h
  | infinity s₁ =>
    cases b with
    | infinity s₂ =>
      cases s₁ <;> cases s₂
      · exact .inl rfl
      · cases h
      · cases h
      · exact .inl rfl
    | _ => cases s₁ <;> cases h
  | zero s₁ =>
    cases b with
    | zero s₂ => exact .inr ⟨s₁, s₂, rfl, rfl⟩
    | notANumber => cases h
    | infinity s₂ => cases s₂ <;> cases h
    | finite s₂ m₂ e₂ h₂ => cases s₂ <;> cases h
  | finite s₁ m₁ e₁ h₁ =>
    cases b with
    | finite s₂ m₂ e₂ h₂ =>
      cases s₁ with
      | negative =>
        cases s₂ with
        | negative =>
          obtain ⟨rfl, rfl⟩ := eq_of_compare_then (Ordering.swap_eq_eq.mp (Option.some.inj h))
          exact .inl rfl
        | positive => cases h
      | positive =>
        cases s₂ with
        | negative => cases h
        | positive =>
          obtain ⟨rfl, rfl⟩ := eq_of_compare_then (Option.some.inj h)
          exact .inl rfl
    | notANumber => cases s₁ <;> cases h
    | infinity s₂ => cases s₁ <;> cases s₂ <;> cases h
    | zero s₂ => cases s₁ <;> cases h

theorem compare_zero (s₁ s₂ : UnpackedFloat.Sign) (c : UnpackedFloat) :
    (UnpackedFloat.zero s₁).compare c = (UnpackedFloat.zero s₂).compare c := by
  cases c with
  | notANumber => rfl
  | infinity s => cases s <;> rfl
  | zero s => rfl
  | finite s m e h => cases s <;> rfl

/-- Equal numbers have the same comparisons. -/
theorem beq_congr {a b : Float32} (h : (a == b) = true) (c : Float32) :
    (a == c) = (b == c) := by
  have hcompare : a.toModel.unpack.compare b.toModel.unpack = some .eq := eq_of_beq h
  have hsame : a.toModel.unpack.compare c.toModel.unpack =
      b.toModel.unpack.compare c.toModel.unpack := by
    rcases unpacked_eq_of_compare hcompare with heq | ⟨s₁, s₂, ha, hb⟩
    · rw [heq]
    · rw [ha, hb]
      exact compare_zero s₁ s₂ _
  exact congrArg (· == some Ordering.eq) hsame

theorem beq_eq_false_of_isNaN {b : Float32} (h : b.isNaN = true) (a : Float32) :
    (a == b) = false := by
  have hb : b.toModel.unpack.isNaN = true := h
  have hcompare : a.toModel.unpack.compare b.toModel.unpack = none := by
    cases hunpack : b.toModel.unpack with
    | notANumber => cases a.toModel.unpack <;> rfl
    | infinity s =>
      rw [hunpack] at hb
      cases hb
    | zero s =>
      rw [hunpack] at hb
      cases hb
    | finite s m e hm =>
      rw [hunpack] at hb
      cases hb
  exact congrArg (· == some Ordering.eq) hcompare

/-- Two numbers are the same: they are equal, or one and the same value, which need not be
equal to itself. -/
def Same (a b : Float32) : Prop := a = b ∨ (a == b) = true

theorem Same.refl (a : Float32) : Same a a := .inl rfl

theorem Same.beq_eq {a b : Float32} (h : Same a b) (c : Float32) : (a == c) = (b == c) := by
  rcases h with rfl | h
  · rfl
  · exact beq_congr h c

end TaggedPage.Number
