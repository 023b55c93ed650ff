import TaggedPage.Proofs.Markup.Scan
import TaggedPage.Proofs.Text.Trim

/-! # Written colours

A colour literal is `#` with three or six hexadecimal digits behind it. A text with a literal
in it and nothing but white space around it is read as the colour that the literal spells.

Nothing else would be, but for the way in which the two characters of a channel are read as a
number: a plus sign may stand for the first of them (`ReadPair`). The literals and the texts
that are read are therefore given by one grammar, whose parameter says which two characters
spell a channel. In a text without a plus sign the two are the same.

Channels are cut out of a text by byte positions. By then the text is known to be ASCII, so
that every byte position lies between two characters.
-/

namespace TaggedPage

open Markup (HexDigit HexByte byteLength)

/-! ## Byte positions -/

theorem utf8Size_of_isAscii {c : Char} (h : isAscii c = true) : c.utf8Size = 1 := by
  refine Char.utf8Size_eq_one_iff.mpr (UInt32.le_iff_toNat_le.mpr ?_)
  exact Nat.le_of_lt_succ (of_decide_eq_true h)

theorem byteLength_of_isAscii {text : List Char} (h : ∀ c ∈ text, isAscii c = true) :
    byteLength text = text.length := by
  induction text with
  | nil => rfl
  | cons c rest ih =>
    obtain ⟨hc, hrest⟩ := List.forall_mem_cons.mp h
    rw [Markup.byteLength_cons, utf8Size_of_isAscii hc, ih hrest, List.length_cons, Nat.add_comm]

/-- In a text of ASCII characters every byte position lies between two characters. -/
theorem isValid_of_isAscii {text : List Char} (h : ∀ c ∈ text, isAscii c = true) {i : Nat}
    (hi : i ≤ text.length) : String.Pos.Raw.IsValid (String.ofList text) ⟨i⟩ := by
  have hfirst : byteLength (text.take i) = i := by
    rw [byteLength_of_isAscii fun c hc => h c (List.mem_of_mem_take hc),
      List.length_take_of_le hi]
  have hvalid := Markup.isValid_ofList_append (text.take i) (text.drop i)
  rwa [List.take_append_drop, hfirst] at hvalid

namespace Color

/-! ## The grammar of colours -/

/-- Six characters, two for each channel. What two characters spell a channel is left open. -/
inductive SixDigits (Pair : Char → Char → UInt8 → Prop) : List Char → Color → Prop where
  | pairs {r₁ r₂ g₁ g₂ b₁ b₂ : Char} {r g b : UInt8} :
      Pair r₁ r₂ r → Pair g₁ g₂ g → Pair b₁ b₂ b → SixDigits Pair [r₁, r₂, g₁, g₂, b₁, b₂] ⟨r, g, b⟩

/-- A colour literal: `#` with three characters, each of which stands for two of it, or with
six. -/
inductive Literal (Pair : Char → Char → UInt8 → Prop) : List Char → Color → Prop where
  | short {r₁ g₁ b₁ : Char} {r g b : UInt8} :
      Pair r₁ r₁ r → Pair g₁ g₁ g → Pair b₁ b₁ b → Literal Pair ['#', r₁, g₁, b₁] ⟨r, g, b⟩
  | long {digits : List Char} {color : Color} :
      SixDigits Pair digits color → Literal Pair ('#' :: digits) color

/-- Two characters that are read as a channel: two hexadecimal digits, or a plus sign in front
of one. -/
def ReadPair (c d : Char) (byte : UInt8) : Prop :=
  HexByte c d byte ∨ c = '+' ∧ HexDigit d byte.toNat

section

variable {P Q : Char → Char → UInt8 → Prop}

theorem SixDigits.imp {digits : List Char} {color : Color}
    (h : ∀ c ∈ digits, ∀ d byte, P c d byte → Q c d byte) (hsix : SixDigits P digits color) :
    SixDigits Q digits color := by
  obtain ⟨hr, hg, hb⟩ := hsix
  exact .pairs (h _ (by simp) _ _ hr) (h _ (by simp) _ _ hg) (h _ (by simp) _ _ hb)

theorem Literal.imp {literal : List Char} {color : Color}
    (h : ∀ c ∈ literal, ∀ d byte, P c d byte → Q c d byte) (hlit : Literal P literal color) :
    Literal Q literal color := by
  cases hlit with
  | short hr hg hb =>
    exact .short (h _ (by simp) _ _ hr) (h _ (by simp) _ _ hg) (h _ (by simp) _ _ hb)
  | long hsix => exact .long (hsix.imp fun c hc => h c (List.mem_cons_of_mem '#' hc))

end

/-! ## Channels -/

theorem isHexDigit_of_hexDigit {c : Char} {v : Nat} (h : HexDigit c v) : isHexDigit c = true := by
  rw [isHexDigit, Markup.hexDigit_iff.mp h]
  rfl

theorem ReadPair.isHexDigit {c d : Char} {byte : UInt8} (h : ReadPair c d byte) :
    isHexDigit d = true := by
  obtain ⟨-, y, -, hd, -⟩ | ⟨-, hd⟩ := h
  · exact isHexDigit_of_hexDigit hd
  · exact isHexDigit_of_hexDigit hd

theorem ReadPair.isAscii {c d : Char} {byte : UInt8} (h : ReadPair c d byte) :
    isAscii c = true ∧ isAscii d = true := by
  refine ⟨?_, Markup.isAscii_of_isHexDigit h.isHexDigit⟩
  obtain ⟨x, -, hc, -⟩ | ⟨rfl, -⟩ := h
  · exact Markup.isAscii_of_isHexDigit (isHexDigit_of_hexDigit hc)
  · rfl

theorem ReadPair.hexByte {c d : Char} {byte : UInt8} (h : ReadPair c d byte) (hc : c ≠ '+') :
    HexByte c d byte := by
  obtain h | ⟨rfl, -⟩ := h
  · exact h
  · exact absurd rfl hc

theorem SixDigits.all_isAscii {digits : List Char} {color : Color}
    (h : SixDigits ReadPair digits color) : digits.all isAscii = true := by
  obtain ⟨hr, hg, hb⟩ := h
  simp [hr.isAscii, hg.isAscii, hb.isAscii]

theorem readPair_iff {c d : Char} {byte : UInt8} :
    ReadPair c d byte ↔ channelValue? c d = some byte := by
  by_cases hplus : c = '+'
  · subst hplus
    have hnone : ¬ HexByte '+' d byte := fun h => by cases (Markup.hexByte_iff.mp h).1
    rw [ReadPair, or_iff_right hnone, and_iff_right rfl, Markup.hexDigit_iff, channelValue?,
      if_pos rfl, Option.map_eq_some_iff]
    constructor
    · intro h
      exact ⟨byte.toNat, h, UInt8.ofNat_toNat⟩
    · rintro ⟨v, hv, rfl⟩
      have hlt := Markup.hexValue?_lt hv
      rwa [UInt8.toNat_ofNat_of_lt' (by change _ < 256; omega)]
  · rw [ReadPair, or_iff_left fun h => hplus h.1, Markup.hexByte_iff]
    refine ⟨fun h => h.2.2, fun h => ?_⟩
    have hdigits := h
    rw [channelValue?, if_neg hplus] at hdigits
    split at hdigits
    · next x y hc hd =>
      have hx := isHexDigit_of_hexDigit (Markup.hexDigit_iff.mpr hc)
      exact ⟨hx, isHexDigit_of_hexDigit (Markup.hexDigit_iff.mpr hd), h⟩
    · cases hdigits

/-! ## Texts without a plus sign -/

theorem sixDigits_readPair_iff {digits : List Char} {color : Color} (h : '+' ∉ digits) :
    SixDigits ReadPair digits color ↔ SixDigits HexByte digits color := by
  refine ⟨fun hsix => hsix.imp ?_, fun hsix => hsix.imp fun _ _ _ _ => .inl⟩
  intro c hc d byte hpair
  exact hpair.hexByte fun hplus => h (hplus ▸ hc)

theorem literal_readPair_iff {literal : List Char} {color : Color} (h : '+' ∉ literal) :
    Literal ReadPair literal color ↔ Literal HexByte literal color := by
  refine ⟨fun hlit => hlit.imp ?_, fun hlit => hlit.imp fun _ _ _ _ => .inl⟩
  intro c hc d byte hpair
  exact hpair.hexByte fun hplus => h (hplus ▸ hc)

/-! ## Reading -/

theorem ofPairs_eq_ok_iff {r₁ r₂ g₁ g₂ b₁ b₂ : Char} {color : Color} :
    ofPairs r₁ r₂ g₁ g₂ b₁ b₂ = .ok color ↔
      ReadPair r₁ r₂ color.red ∧ ReadPair g₁ g₂ color.green ∧ ReadPair b₁ b₂ color.blue := by
  rw [readPair_iff, readPair_iff, readPair_iff]
  exact Markup.ofPairs_eq_ok_iff

theorem readSixDigits_eq_ok_iff {text : List Char} {color : Color} :
    readSixDigits text = .ok color ↔ SixDigits ReadPair text color := by
  constructor
  · intro h
    rw [readSixDigits.eq_def] at h
    split at h
    · split at h
      · obtain ⟨hr, hg, hb⟩ := ofPairs_eq_ok_iff.mp h
        exact .pairs hr hg hb
      · cases h
    · cases h
  · intro h
    have hascii := h.all_isAscii
    obtain ⟨hr, hg, hb⟩ := h
    rw [readSixDigits, if_pos hascii]
    exact ofPairs_eq_ok_iff.mpr ⟨hr, hg, hb⟩

theorem read_eq_ok_iff {text : List Char} {color : Color} :
    read text = .ok color ↔ Literal ReadPair (trim text) color := by
  rw [read]
  generalize trim text = trimmed
  constructor
  · intro h
    split at h
    · split at h
      · cases h
      · split at h
        · obtain ⟨hr, hg, hb⟩ := ofPairs_eq_ok_iff.mp h
          exact .short hr hg hb
        · exact .long (readSixDigits_eq_ok_iff.mp h)
        · cases h
    · cases h
  · intro h
    cases h with
    | short hr hg hb =>
      simp only [List.all_cons, hr.isAscii, hg.isAscii, hb.isAscii]
      exact ofPairs_eq_ok_iff.mpr ⟨hr, hg, hb⟩
    | long hsix =>
      have hread := readSixDigits_eq_ok_iff.mpr hsix
      have hascii := hsix.all_isAscii
      obtain ⟨-, -, -⟩ := hsix
      simp only [hascii]
      exact hread

theorem all_isAscii_eq_false {text : List Char} (h : ∃ c ∈ text, isAscii c = false) :
    text.all isAscii = false := by
  obtain ⟨c, hc, hascii⟩ := h
  exact List.all_eq_false.mpr ⟨c, hc, by rw [hascii]; decide⟩

/-- A text with a character outside ASCII is refused as a whole. -/
theorem readSixDigits_of_not_ascii {text : List Char} (h : ∃ c ∈ text, isAscii c = false) :
    readSixDigits text = .error (.notSixDigits text) := by
  rw [readSixDigits.eq_def]
  split
  · rw [if_neg (by rw [all_isAscii_eq_false h]; decide)]
  · rfl

theorem read_of_not_ascii {text digits : List Char} (htrim : trim text = '#' :: digits)
    (h : ∃ c ∈ digits, isAscii c = false) :
    read text = .error (.notAscii ('#' :: digits)) := by
  rw [read, htrim]
  simp only [all_isAscii_eq_false h, Bool.not_false, if_true]

theorem isBlank_of_isHexDigit {c : Char} (h : isHexDigit c = true) : isBlank c = false := by
  have hall : ∀ d ∈ Markup.wordCharacters, isBlank d = false :=
    Markup.forall_mem_of_all (by decide)
  exact hall c (Markup.mem_wordCharacters_of_isHexDigit h)

/-- Trimming stops at the ends of a literal. -/
theorem Literal.trim_eq {text literal : List Char} {color : Color}
    (h : Literal ReadPair literal color) (hpadded : Padded text literal) :
    trim text = literal := by
  refine hpadded.trim_eq ?_ ?_
  · cases h <;> exact ⟨'#', rfl, by decide⟩
  · cases h with
    | short _ _ hb => exact ⟨_, rfl, isBlank_of_isHexDigit hb.isHexDigit⟩
    | long hsix =>
      obtain ⟨-, -, hb⟩ := hsix
      exact ⟨_, rfl, isBlank_of_isHexDigit hb.isHexDigit⟩

theorem read_eq_ok_iff_padded {text : List Char} {color : Color} :
    read text = .ok color ↔
      ∃ literal, Padded text literal ∧ Literal ReadPair literal color := by
  rw [read_eq_ok_iff]
  constructor
  · intro h
    exact ⟨trim text, padded_trim text, h⟩
  · rintro ⟨literal, hpadded, h⟩
    rwa [h.trim_eq hpadded]

/-- Reading accepts the literals. A text is read as a colour exactly if it is, but for white
space around it, `#` with three or six characters that spell the channels, and six characters
alone are read exactly if they do. In a text without a plus sign these are hexadecimal digits.
What has a character outside ASCII is refused before it is cut into channels, and all else can
be cut at every byte. -/
theorem read_accepts_literals (text : List Char) :
    (∀ color,
      (read text = .ok color ↔
        ∃ literal, Padded text literal ∧ Literal ReadPair literal color) ∧
      (readSixDigits text = .ok color ↔ SixDigits ReadPair text color)) ∧
    ('+' ∉ text → ∀ color,
      (read text = .ok color ↔
        ∃ literal, Padded text literal ∧ Literal HexByte literal color) ∧
      (readSixDigits text = .ok color ↔ SixDigits HexByte text color)) ∧
    (∀ digits, trim text = '#' :: digits → (∃ c ∈ digits, isAscii c = false) →
      read text = .error (.notAscii ('#' :: digits))) ∧
    ((∃ c ∈ text, isAscii c = false) → readSixDigits text = .error (.notSixDigits text)) ∧
    ∀ digits, (∀ c ∈ digits, isAscii c = true) →
      byteLength digits = digits.length ∧
      ∀ i ≤ digits.length, String.Pos.Raw.IsValid (String.ofList digits) ⟨i⟩ := by
  refine ⟨fun _ => ⟨read_eq_ok_iff_padded, readSixDigits_eq_ok_iff⟩, ?_,
    fun _ => read_of_not_ascii, readSixDigits_of_not_ascii, ?_⟩
  · intro hplus color
    rw [read_eq_ok_iff_padded, readSixDigits_eq_ok_iff, sixDigits_readPair_iff hplus]
    refine ⟨exists_congr fun literal => and_congr_right fun hpadded => ?_, Iff.rfl⟩
    refine literal_readPair_iff fun hmem => ?_
    obtain ⟨before, after, rfl, -⟩ := hpadded
    exact hplus (List.mem_append_left _ (List.mem_append_right _ hmem))
  · intro digits hascii
    exact ⟨byteLength_of_isAscii hascii, fun i hi => isValid_of_isAscii hascii hi⟩

/-- A short literal between white space outside ASCII. -/
theorem read_accepts_literals_in_wide_space :
    let text := ['\u3000', '#', '0', 'f', '0', '\n']
    '+' ∉ text ∧ read text = .ok ⟨0, 255, 0⟩ := by
  intro text
  have hplus : '+' ∉ text := by decide
  have hzero : HexByte '0' '0' 0 := ⟨0, 0, .inl rfl, .inl rfl, rfl⟩
  have hfull : HexByte 'f' 'f' 255 := ⟨15, 15, .inl rfl, .inl rfl, rfl⟩
  refine ⟨hplus, ((read_accepts_literals text).2.1 hplus _).1.mpr ?_⟩
  have hpadded : Padded text ['#', '0', 'f', '0'] :=
    ⟨['\u3000'], ['\n'], rfl, List.all_eq_true.mp (by decide)⟩
  exact ⟨_, hpadded, .short hzero hfull hzero⟩

theorem not_sixDigits_plus (rest : List Char) (color : Color) :
    ¬ SixDigits HexByte ('+' :: rest) color := by
  rintro ⟨hred, -, -⟩
  cases (Markup.hexByte_iff.mp hred).1

theorem not_literal_plus (rest : List Char) (color : Color) :
    ¬ Literal HexByte ('#' :: '+' :: rest) color := by
  intro h
  cases h with
  | short hred _ _ => cases (Markup.hexByte_iff.mp hred).1
  | long hsix => exact not_sixDigits_plus rest color hsix

/-- Plus signs are read as digits, although a text with them is no literal. -/
theorem read_accepts_plus_signs :
    let digits := ['+', '1', '+', '2', '+', '3']
    (read ('#' :: digits) = .ok ⟨1, 2, 3⟩ ∧
      ¬ ∃ literal color, Padded ('#' :: digits) literal ∧ Literal HexByte literal color) ∧
    readSixDigits digits = .ok ⟨1, 2, 3⟩ ∧ ¬ ∃ color, SixDigits HexByte digits color := by
  intro digits
  refine ⟨⟨by decide, ?_⟩, by decide, ?_⟩
  · rintro ⟨literal, color, hpadded, hliteral⟩
    have hread : Literal ReadPair literal color := hliteral.imp fun _ _ _ _ => .inl
    have htrim : trim ('#' :: digits) = '#' :: digits := by decide
    rw [← hread.trim_eq hpadded, htrim] at hliteral
    exact not_literal_plus _ _ hliteral
  · rintro ⟨color, h⟩
    exact not_sixDigits_plus _ _ h

end Color

end TaggedPage
