import TaggedPage.Proofs.Text.WinAnsi

/-! # Decoded texts

Every code with which a text is drawn stands for a character. The codes can therefore be read
back, one character for each, and what they show is the text with a space for each tab and a
question mark for each character that no code stands for. Nothing more is lost: the text that
is read back is drawn with the same codes, and a text within the repertoire of the encoding is
read back as itself.
-/

namespace TaggedPage.WinAnsi

/-- The text that codes stand for, if the encoding defines all of them. -/
def decode (codes : List UInt8) : Option (List Char) := codes.mapM decode?

/-- A character of the repertoire: some code stands for it. -/
def InRepertoire (c : Char) : Prop := ∃ code, decode? code = some c

theorem hasCode_iff {c : Char} : hasCode c = true ↔ InRepertoire c := by
  constructor
  · intro h
    obtain ⟨n, -, hn⟩ := List.any_eq_true.mp h
    exact ⟨UInt8.ofNat n, eq_of_beq hn⟩
  · rintro ⟨code, hcode⟩
    exact hasCode_of_code? (code?_eq_some_iff.mpr hcode)

instance (c : Char) : Decidable (InRepertoire c) := decidable_of_iff _ hasCode_iff

/-- The character that is seen where a character is drawn. -/
def shownChar (c : Char) : Char :=
  if c = '\t' then ' ' else if InRepertoire c then c else '?'

def shown (text : List Char) : List Char := text.map shownChar

/-! ## Characters -/

theorem not_inRepertoire_tab : ¬ InRepertoire '\t' := by decide +kernel

theorem InRepertoire.ne_tab {c : Char} (h : InRepertoire c) : c ≠ '\t' := by
  rintro rfl
  exact not_inRepertoire_tab h

/-- The code of a character is the one that stands for it. -/
theorem encodeChar_of_decode? {c : Char} {code : UInt8} (h : decode? code = some c) :
    encodeChar c = code := by
  have hrepertoire : InRepertoire c := ⟨code, h⟩
  rw [encodeChar, if_neg hrepertoire.ne_tab, code?_eq_some_iff.mpr h, Option.getD_some]

/-- A character outside the repertoire is drawn as a question mark, unless it is a tab. -/
theorem encodeChar_of_not_inRepertoire {c : Char} (h : ¬ InRepertoire c) (htab : c ≠ '\t') :
    encodeChar c = replacement := by
  rw [encodeChar, if_neg htab, code?_eq_none (mt hasCode_iff.mp h), Option.getD_none]

theorem decode?_encodeChar_eq (c : Char) : decode? (encodeChar c) = some (shownChar c) := by
  rw [shownChar]
  split
  · next htab =>
    subst htab
    decide
  · next htab =>
    split
    · next hcode =>
      obtain ⟨code, hcode⟩ := hcode
      rw [encodeChar_of_decode? hcode, hcode]
    · next hnone =>
      rw [encodeChar_of_not_inRepertoire hnone htab]
      decide

theorem shownChar_of_inRepertoire {c : Char} (h : InRepertoire c) : shownChar c = c := by
  rw [shownChar, if_neg h.ne_tab, if_pos h]

/-! ## Texts -/

theorem decode_encode (text : List Char) : decode (encode text) = some (shown text) := by
  induction text with
  | nil => rfl
  | cons c rest ih =>
    rw [decode] at ih ⊢
    rw [encode_cons, List.mapM_cons, decode?_encodeChar_eq, ih]
    rfl

theorem encode_shown (text : List Char) : encode (shown text) = encode text := by
  rw [shown, encode, List.map_map]
  exact List.map_congr_left fun c _ => encodeChar_of_decode? (decode?_encodeChar_eq c)

theorem shown_of_inRepertoire {text : List Char} (h : ∀ c ∈ text, InRepertoire c) :
    shown text = text := by
  have hsame := List.map_congr_left fun c hc => shownChar_of_inRepertoire (h c hc)
  rw [shown, hsame, List.map_id']

/-- Two texts are drawn with the same codes exactly if they look the same. -/
theorem encode_eq_iff {s t : List Char} : encode s = encode t ↔ shown s = shown t := by
  constructor
  · intro h
    have hdecode := decode_encode s
    rw [h, decode_encode] at hdecode
    exact (Option.some.inj hdecode).symm
  · intro h
    rw [← encode_shown s, h, encode_shown]

/-- Drawing and reading back agree. A text has one code for each character, and every code
stands for a character. Read back, the codes give the text with a space for a tab, a question
mark for a character outside the repertoire, and every other character as it is. That text has
the same codes again, two texts within the repertoire have the same codes only if they are the
same, and a character that a code stands for is drawn with that code. -/
theorem encode_and_decode_agree :
    (∀ text, (encode text).length = text.length) ∧
    (∀ text, ∀ code ∈ encode text, ∃ c, decode? code = some c) ∧
    (∀ text, decode (encode text) = some (shown text)) ∧
    (∀ text, encode (shown text) = encode text) ∧
    (∀ s t, (∀ c ∈ s, InRepertoire c) → (∀ c ∈ t, InRepertoire c) →
      encode s = encode t → s = t) ∧
    ∀ code c, decode? code = some c → encodeChar c = code := by
  refine ⟨length_encode, ?_, decode_encode, encode_shown, ?_, fun _ _ => encodeChar_of_decode?⟩
  · intro text code hcode
    exact Option.ne_none_iff_exists'.mp (decode?_of_mem_encode hcode)
  · intro s t hs ht h
    rw [← shown_of_inRepertoire hs, encode_eq_iff.mp h, shown_of_inRepertoire ht]

/-- A tab, a character whose code the encoding leaves undefined, and two characters of the
repertoire. -/
theorem encode_and_decode_agree_on_euro :
    decode (encode ['\t', '\u0081', '€']) = some [' ', '?', '€'] ∧
      (∃ c, decode? 0x80 = some c) ∧ decode? 0x80 = some '€' ∧ encodeChar '€' = 0x80 ∧
      (∀ c ∈ ['€'], InRepertoire c) ∧ (∀ c ∈ ['Ÿ'], InRepertoire c) ∧
      encode ['€'] ≠ encode ['Ÿ'] := by
  obtain ⟨-, hdefined, hdecode, -, hinjective, hcode⟩ := encode_and_decode_agree
  have heuro : decode? 0x80 = some '€' := by decide
  have hdrawn : encodeChar '€' = 0x80 := hcode 0x80 '€' heuro
  have hfirst : ∀ c ∈ ['€'], InRepertoire c := List.forall_mem_singleton.mpr ⟨0x80, heuro⟩
  have hsecond : ∀ c ∈ ['Ÿ'], InRepertoire c := List.forall_mem_singleton.mpr ⟨0x9F, by decide⟩
  refine ⟨(hdecode _).trans (by decide +kernel), hdefined ['€'] 0x80 ?_, heuro, hdrawn, hfirst,
    hsecond, fun h => ?_⟩
  · rw [← hdrawn]
    exact List.mem_singleton_self _
  · exact absurd (hinjective _ _ hfirst hsecond h) (by decide)

end TaggedPage.WinAnsi
