import Mathlib.Data.List.Basic
import TaggedPage.Text.Raw

/-! # Texts among raw texts

The raw text of a text is a text again (`text?_ofText`) and is shown as it is (`shown_ofText`).
Characters up to `\x7f` are single bytes, which occur in no other character; so such a character
is in a text exactly if its byte is in the raw text (`mem_bytes_ofText`).
-/

namespace TaggedPage.RawText

theorem text?_ofText (text : String) : (ofText text).text? = some text := by
  have hvalid : (⟨text.toByteArray.data⟩ : ByteArray).IsValidUTF8 := text.isValidUTF8
  rw [text?, ofText, Array.toArray_toList, String.fromUTF8?, dif_pos hvalid]
  rfl

theorem bytes_ofText (text : String) :
    (ofText text).bytes = text.toList.flatMap String.utf8EncodeChar := by
  rw [ofText, ← String.utf8Encode_toList, List.utf8Encode]
  simp

/-! ## Single bytes -/

theorem toNat_toUInt8 {c : Char} (h : c.toNat < 128) : c.toUInt8.toNat = c.toNat := by
  rw [← Char.toUInt8_val, UInt32.toNat_toUInt8]
  exact Nat.mod_eq_of_lt (Nat.lt_trans h (by decide))

theorem le_toNat_ofNat {n : Nat} (h : 128 ≤ n ∧ n < 256) : 128 ≤ (UInt8.ofNat n).toNat := by
  rw [UInt8.toNat_ofNat', Nat.mod_eq_of_lt h.2]
  exact h.1

/-- A character is one byte up to 127, or else several large bytes. -/
theorem utf8EncodeChar_cases (c : Char) :
    c.toNat < 128 ∧ String.utf8EncodeChar c = [c.toUInt8] ∨
      128 ≤ c.toNat ∧ ∀ b ∈ String.utf8EncodeChar c, 128 ≤ b.toNat := by
  by_cases hone : c.utf8Size = 1
  · rw [String.utf8EncodeChar_eq_singleton hone, Char.toUInt8_val]
    exact .inl ⟨Nat.lt_succ_of_le (UInt32.le_iff_toNat_le.mp (Char.utf8Size_eq_one_iff.mp hone)),
      rfl⟩
  · have hlarge : ¬c.val.toNat ≤ 127 := fun h =>
      hone (Char.utf8Size_eq_one_iff.mpr (UInt32.le_iff_toNat_le.mpr h))
    refine .inr ⟨Nat.lt_of_not_le hlarge, ?_⟩
    rw [String.utf8EncodeChar]
    generalize c.val.toNat = n at hlarge
    rw [if_neg hlarge]
    split
    · simp only [List.forall_mem_cons]
      exact ⟨le_toNat_ofNat (by omega), le_toNat_ofNat (by omega), nofun⟩
    · split
      · simp only [List.forall_mem_cons]
        exact ⟨le_toNat_ofNat (by omega), le_toNat_ofNat (by omega), le_toNat_ofNat (by omega),
          nofun⟩
      · simp only [List.forall_mem_cons]
        exact ⟨le_toNat_ofNat (by omega), le_toNat_ofNat (by omega), le_toNat_ofNat (by omega),
          le_toNat_ofNat (by omega), nofun⟩

/-- The byte of a small character occurs where the character does. -/
theorem mem_bytes_ofText {c : Char} (hc : c.toNat < 128) {text : String} :
    c.toUInt8 ∈ (ofText text).bytes ↔ c ∈ text.toList := by
  rw [bytes_ofText, List.mem_flatMap]
  constructor
  · rintro ⟨d, hd, hmem⟩
    rcases utf8EncodeChar_cases d with ⟨hsmall, hone⟩ | ⟨-, hlarge⟩
    · have heq := congrArg UInt8.toNat (List.mem_singleton.mp (hone ▸ hmem))
      rw [toNat_toUInt8 hc, toNat_toUInt8 hsmall] at heq
      rwa [Char.toNat_inj.mp heq]
    · have hbyte := hlarge _ hmem
      rw [toNat_toUInt8 hc] at hbyte
      omega
  · intro hmem
    refine ⟨c, hmem, ?_⟩
    rcases utf8EncodeChar_cases c with ⟨-, hone⟩ | ⟨hlarge, -⟩
    · rw [hone]
      exact List.mem_singleton_self _
    · omega

/-! ## What is shown -/

theorem firstChar?_utf8EncodeChar (c : Char) (rest : List UInt8) :
    firstChar? (String.utf8EncodeChar c ++ rest) = some c := by
  have hsize : (String.utf8EncodeChar c).length ≤ 4 := by
    rw [String.length_utf8EncodeChar]
    exact Char.utf8Size_le_four c
  rw [firstChar?, List.take_append, List.take_of_length_le hsize]
  generalize rest.take _ = more
  rw [← ByteArray.utf8DecodeChar?_utf8EncodeChar_append (b := ⟨more.toArray⟩) (c := c)]
  congr 1
  apply ByteArray.ext
  simp

theorem shownFrom_eq_drop (skipped : Nat) (bytes : List UInt8) :
    shownFrom skipped bytes = shownFrom 0 (bytes.drop skipped) := by
  induction skipped generalizing bytes with
  | zero => rfl
  | succ skipped ih =>
    cases bytes with
    | nil => simp [shownFrom]
    | cons first rest => exact ih rest

theorem shownFrom_flatMap (text : List Char) :
    shownFrom 0 (text.flatMap String.utf8EncodeChar) = text := by
  induction text with
  | nil => rfl
  | cons c text ih =>
    rw [List.flatMap_cons]
    have hfirst := firstChar?_utf8EncodeChar c (text.flatMap String.utf8EncodeChar)
    have hlength := String.length_utf8EncodeChar c
    cases hbytes : String.utf8EncodeChar c with
    | nil => exact absurd hbytes String.utf8EncodeChar_ne_nil
    | cons first more =>
      rw [hbytes, List.cons_append] at hfirst
      rw [hbytes, List.length_cons] at hlength
      have hmore : c.utf8Size - 1 = more.length := by omega
      rw [List.cons_append, shownFrom, hfirst]
      dsimp only
      rw [shownFrom_eq_drop, hmore, List.drop_left, ih]

/-- A text is shown as it is. -/
theorem shown_ofText (text : String) : (ofText text).shown = text := by
  rw [shown, bytes_ofText, shownFrom_flatMap, String.ofList_toList]

/-- Two characters with a byte between them that belongs to none, and a character cut short. -/
example : shown ⟨[0x61, 0xFF, 0x62, 0xE2, 0x82]⟩ = "a\uFFFDb\uFFFD" := by decide +kernel

end TaggedPage.RawText
