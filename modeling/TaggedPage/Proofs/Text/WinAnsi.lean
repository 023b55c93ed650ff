import Mathlib.Data.List.GetD
import Mathlib.Tactic.ByContra
import TaggedPage.Text.WinAnsi

/-! # Characters and their codes

The table of the encoding is read in two directions: `code?` gives the code of a character,
`decode?` the character of a code. Each undoes the other (`code?_eq_some_iff`), so a character
that no code stands for is drawn as a question mark.

`normalize` puts the question mark, or the space of a tab, into the text itself, which is
then drawn with the same codes as before.
-/

namespace TaggedPage.WinAnsi

theorem toNat_ofNat_of_lt {n : Nat} (h : n < 256) : (UInt8.ofNat n).toNat = n :=
  UInt8.toNat_ofNat_of_lt h

/-- The code of a character that stands for itself stands for it. -/
theorem decode?_of_isDirect {c : Char} (h : isDirect c = true) :
    decode? (UInt8.ofNat c.toNat) = some c := by
  simp only [isDirect, Bool.or_eq_true, Bool.and_eq_true, decide_eq_true_eq] at h
  have hdirect : ((decide (0x20 ≤ c.toNat) && decide (c.toNat ≤ 0x7E)) ||
      decide (0xA0 ≤ c.toNat)) = true := by
    simp only [Bool.or_eq_true, Bool.and_eq_true, decide_eq_true_eq]
    omega
  rw [decode?, toNat_ofNat_of_lt (by omega), if_pos hdirect, Char.ofNat_toNat]

/-- The code of a character of the table stands for it. -/
theorem decode?_of_upper {c : Char} {i : Nat} (h : upper.findIdx? (· == some c) = some i) :
    decode? (UInt8.ofNat (0x80 + i)) = some c := by
  obtain ⟨hlt, hfound, -⟩ := List.findIdx?_eq_some_iff_getElem.mp h
  have hlength : upper.length = 32 := by decide
  have hentry : upper.getD i none = some c := by
    rw [List.getD_eq_getElem _ _ hlt]
    exact eq_of_beq hfound
  rw [decode?, toNat_ofNat_of_lt (by omega), if_neg (by simp; omega), if_pos (by simp; omega),
    Nat.add_sub_cancel_left, hentry]

/-- A character has a code exactly if the code stands for it. -/
theorem code?_eq_some_iff {c : Char} {code : UInt8} :
    code? c = some code ↔ decode? code = some c := by
  constructor
  · intro h
    rw [code?] at h
    split at h
    · next hdirect =>
      obtain rfl := Option.some.inj h
      exact decode?_of_isDirect hdirect
    · obtain ⟨i, hi, rfl⟩ := Option.map_eq_some_iff.mp h
      exact decode?_of_upper hi
  · intro h
    have hall : ∀ n : Fin 256,
        (decode? (UInt8.ofFin n)).all (fun c => code? c = some (UInt8.ofFin n)) = true := by
      decide +kernel
    have hcode := hall code.toFin
    rw [UInt8.ofFin_toFin, h] at hcode
    exact of_decide_eq_true hcode

/-- A character is never drawn with a code that the encoding leaves undefined. -/
theorem decode?_encodeChar (c : Char) : decode? (encodeChar c) ≠ none := by
  rw [encodeChar]
  split
  · decide
  · cases hcode : code? c with
    | none => decide
    | some code =>
      rw [Option.getD_some, code?_eq_some_iff.mp hcode]
      exact Option.some_ne_none c

theorem decode?_of_mem_encode {text : List Char} {code : UInt8} (h : code ∈ encode text) :
    decode? code ≠ none := by
  obtain ⟨c, -, rfl⟩ := List.mem_map.mp h
  exact decode?_encodeChar c

/-- Defined codes begin behind the control characters. -/
theorem le_of_decode? {code : UInt8} (h : decode? code ≠ none) : 32 ≤ code.toNat := by
  by_contra hlt
  refine h ?_
  rw [decode?, if_neg (by simp; omega), if_neg (by simp; omega)]

/-! ## Normal texts -/

/-- Whether some code stands for a character. -/
def hasCode (c : Char) : Bool :=
  (List.range 256).any fun n => decode? (UInt8.ofNat n) == some c

/-- A space for a tab, and a question mark for a character that no code stands for. The two
characters that end a line stay what they are. -/
def normalizeChar (c : Char) : Char :=
  if c = '\t' then ' ' else if hasCode c || c = '\n' || c = '\r' then c else '?'

/-- A text with every character replaced that is not drawn as itself. -/
def normalize (text : List Char) : List Char := text.map normalizeChar

theorem hasCode_of_code? {c : Char} {code : UInt8} (h : code? c = some code) :
    hasCode c = true := by
  apply List.any_eq_true.mpr
  refine ⟨code.toNat, List.mem_range.mpr code.toNat_lt, ?_⟩
  rw [UInt8.ofNat_toNat, code?_eq_some_iff.mp h]
  exact beq_self_eq_true _

theorem code?_eq_none {c : Char} (h : ¬ hasCode c = true) : code? c = none := by
  cases hcode : code? c with
  | none => rfl
  | some code => exact absurd (hasCode_of_code? hcode) h

/-- A character and the one put in its place are drawn with the same code. -/
theorem encodeChar_normalizeChar (c : Char) : encodeChar (normalizeChar c) = encodeChar c := by
  rw [normalizeChar]
  split
  · next htab =>
    rw [htab]
    decide
  · next htab =>
    split
    · rfl
    · next hkept =>
      have hcode : ¬ hasCode c = true := fun h => hkept (by rw [h]; rfl)
      rw [encodeChar, encodeChar, if_neg htab, code?_eq_none hcode]
      decide

theorem encode_normalize (text : List Char) : encode (normalize text) = encode text := by
  rw [normalize, encode, List.map_map]
  exact List.map_congr_left fun c _ => encodeChar_normalizeChar c

end TaggedPage.WinAnsi
