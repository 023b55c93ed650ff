import TaggedPage.Number.Written
import TaggedPage.Proofs.Number.Single

/-! # Written numbers

A finite number is written as a decimal. Only the two patterns that are kept for infinity
and for what is not a number have a text of letters, and a finite number has neither. No text
is empty.
-/

namespace TaggedPage.Number

open Float.Model Float.Model.UnpackedFloat

theorem toNat_unpackExponent (b : BitVec Format.binary32.numBits) :
    (unpackExponent b).toNat = b.toNat / 2 ^ 23 % 2 ^ 8 := by
  unfold unpackExponent
  rw [BitVec.toNat_cast, BitVec.extractLsb_toNat, Nat.shiftRight_eq_div_pow]
  rfl

/-- The bit pattern of a finite number lies below that of infinity. -/
theorem magnitude32_lt_of_isFinite {x : Float32} (h : x.isFinite = true) :
    magnitude32 x < binary32.infinity := by
  have hbits : magnitude32 x = x.toModel.toBits.toBitVec.toNat % 2 ^ 31 := rfl
  have htop : binary32.infinity = 255 * 2 ^ 23 := rfl
  rw [hbits, htop]
  by_contra hle
  have hexponent : @unpackExponent .binary32 x.toModel.toBits.toBitVec = -1#8 := by
    refine BitVec.eq_of_toNat_eq ?_
    rw [toNat_unpackExponent]
    change _ = 255
    omega
  have hfinite : (UnpackedFloat.unpack .binary32 x.toModel.toBits.toBitVec).isFinite = true := h
  unfold UnpackedFloat.unpack at hfinite
  simp only [hexponent] at hfinite
  rw [if_pos trivial] at hfinite
  split at hfinite
  · cases hfinite
  · cases hfinite

/-- The characters of a written decimal. -/
def IsNumeral (c : Char) : Prop := c.isDigit = true ∨ c = '.' ∨ c = '-'

theorem isNumeral_digitChars (n : ℕ) : ∀ c ∈ digitChars n, IsNumeral c :=
  fun _ hc => .inl (Nat.isDigit_of_mem_toDigits (by decide) (by decide) hc)

theorem isNumeral_replicate (n : ℕ) : ∀ c ∈ List.replicate n '0', IsNumeral c := by
  intro c hc
  rw [List.eq_of_mem_replicate hc]
  exact .inl rfl

theorem isNumeral_positionalChars {digits : List Char} (h : ∀ c ∈ digits, IsNumeral c)
    (exponent : ℤ) : ∀ c ∈ positionalChars plainNumber digits exponent, IsNumeral c := by
  intro c hc
  unfold positionalChars at hc
  split at hc
  · simp only [List.mem_append] at hc
    rcases hc with (hc | hc) | hc
    · exact h c hc
    · exact isNumeral_replicate _ c hc
    · cases hc
  · dsimp only at hc
    split at hc
    · rcases List.mem_append.mp hc with hc | hc
      · exact h c (List.mem_of_mem_take hc)
      · rcases List.mem_cons.mp hc with rfl | hc
        · exact .inr (.inl rfl)
        · exact h c (List.mem_of_mem_drop hc)
    · rcases List.mem_cons.mp hc with rfl | hc
      · exact .inl rfl
      · rcases List.mem_cons.mp hc with rfl | hc
        · exact .inr (.inl rfl)
        · rcases List.mem_append.mp hc with hc | hc
          · exact isNumeral_replicate _ c hc
          · exact h c hc

theorem positionalChars_ne_nil (style : NumberStyle) {digits : List Char} (h : digits ≠ [])
    (exponent : ℤ) : positionalChars style digits exponent ≠ [] := by
  rw [positionalChars]
  split
  · simp [h]
  · dsimp only
    split <;> simp

/-- A number is written as what is not a number, or behind a sign as infinity or as a decimal. -/
theorem plain_cases (x : Float32) :
    (binary32.infinity < magnitude32 x ∧ (plain x).toList = ['N', 'a', 'N']) ∨
      ∃ sign chars, (plain x).toList = sign ++ chars ∧ (∀ c ∈ sign, IsNumeral c) ∧
        ((magnitude32 x = binary32.infinity ∧ chars = ['i', 'n', 'f']) ∨
          chars ≠ [] ∧ ∀ c ∈ chars, IsNumeral c) := by
  rw [plain, String.toList_ofList, NumberStyle.single, NumberStyle.write]
  split
  · next hlarge => exact .inl ⟨hlarge, rfl⟩
  · refine .inr ⟨_, _, rfl, ?_, ?_⟩
    · intro c hc
      split at hc
      · exact .inr (.inr (List.mem_singleton.mp hc))
      · cases hc
    · split
      · next hinfinity => exact .inl ⟨hinfinity, rfl⟩
      · refine .inr ?_
        split
        · exact ⟨List.cons_ne_nil _ _, isNumeral_replicate 1⟩
        · exact ⟨positionalChars_ne_nil plainNumber Nat.toDigits_ne_nil _,
            isNumeral_positionalChars (isNumeral_digitChars _) _⟩

/-- A finite number is written with digits, a point and a sign alone: never as infinity or as
what is not a number. -/
theorem isNumeral_plain {x : Float32} (h : x.isFinite = true) :
    ∀ c ∈ (plain x).toList, IsNumeral c := by
  have hlt := magnitude32_lt_of_isFinite h
  intro c hc
  obtain ⟨hlarge, -⟩ | ⟨sign, chars, htext, hsign, ⟨hinfinity, -⟩ | ⟨-, hchars⟩⟩ := plain_cases x
  · exact absurd hlarge hlt.not_gt
  · exact absurd hinfinity hlt.ne
  · rw [htext] at hc
    exact (List.mem_append.mp hc).elim (hsign c) (hchars c)

/-- The letters of the two texts that are no decimals. -/
def wordLetters : List Char := ['N', 'a', 'i', 'n', 'f']

/-- Every number is written with the characters of decimals or with the letters of infinity and
of what is not a number. -/
theorem isNumeral_or_mem_wordLetters (x : Float32) :
    ∀ c ∈ (plain x).toList, IsNumeral c ∨ c ∈ wordLetters := by
  intro c hc
  obtain ⟨-, htext⟩ | ⟨sign, chars, htext, hsign, hchars⟩ := plain_cases x
  · rw [htext] at hc
    exact .inr ((by decide : ['N', 'a', 'N'] ⊆ wordLetters) hc)
  · rw [htext] at hc
    refine (List.mem_append.mp hc).elim (fun h => .inl (hsign c h)) fun h => ?_
    obtain ⟨-, rfl⟩ | ⟨-, hnumerals⟩ := hchars
    · exact .inr ((by decide : ['i', 'n', 'f'] ⊆ wordLetters) h)
    · exact .inl (hnumerals c h)

/-- Every number has a text. -/
theorem plain_ne_nil (x : Float32) : (plain x).toList ≠ [] := by
  obtain ⟨-, htext⟩ | ⟨sign, chars, htext, -, hchars⟩ := plain_cases x
  · rw [htext]
    exact List.cons_ne_nil _ _
  · rw [htext]
    refine List.append_ne_nil_of_right_ne_nil _ ?_
    obtain ⟨-, rfl⟩ | ⟨hne, -⟩ := hchars
    · exact List.cons_ne_nil _ _
    · exact hne

end TaggedPage.Number
