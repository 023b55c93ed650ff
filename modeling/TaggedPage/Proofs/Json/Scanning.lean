import TaggedPage.Json.Node
import TaggedPage.Proofs.Json.Grammar
import TaggedPage.Proofs.Outcome

/-! # Scanned numbers and strings

What the readers of scalars make of a text that the grammar spells: if they succeed, they stop
exactly behind the scalar (`readNumeral_endsAt`, `readString_spelled`), and a string has the
characters of its pieces. They may still refuse the scalar, as a number that is too large or
half a character.
-/

namespace TaggedPage.Json

open Grammar

/-- A text does not begin with white space. -/
def Solid (text : List Char) : Prop := ∀ b : Blank, text.head? ≠ some b.char

def EndsNumber (text : List Char) : Prop :=
  ∀ x ∈ text.head?, x.isDigit = false ∧ x ≠ '.' ∧ x ≠ 'e' ∧ x ≠ 'E'

def EndsDigits (text : List Char) : Prop := ∀ x ∈ text.head?, x.isDigit = false

theorem EndsNumber.endsDigits {text : List Char} (h : EndsNumber text) : EndsDigits text :=
  fun x hx => (h x hx).1

namespace Cursor

theorem rest_next {c : Cursor} {x : Char} {text : List Char} (h : c.rest = x :: text) :
    c.next.rest = text := by
  simp only [next, h]

/-- White space is skipped as far as it goes. -/
theorem rest_skipBlank {c : Cursor} {blanks : List Blank} {text : List Char}
    (h : c.rest = spellBlanks blanks text) (hsolid : Solid text) : c.skipBlank.rest = text := by
  have hblanks : ∀ x ∈ blanks.map Blank.char,
      (decide (x = ' ') || decide (x = '\n') || decide (x = '\t') || decide (x = '\r')) := by
    intro x hx
    obtain ⟨b, -, rfl⟩ := List.mem_map.mp hx
    cases b <;> rfl
  simp only [skipBlank, h, spellBlanks]
  rw [List.dropWhile_append_of_pos hblanks]
  cases text with
  | nil => rfl
  | cons x more =>
    have hsp := hsolid .space
    have htab := hsolid .tab
    have hlf := hsolid .lineFeed
    have hcr := hsolid .carriageReturn
    simp_all [Blank.char]

/-- The letters of a word are read off the text. -/
theorem word_spelled {c : Cursor} {letters rest : List Char} (h : c.rest = letters ++ rest) :
    ∃ behind, c.word letters = .ok behind ∧ behind.rest = rest := by
  induction letters generalizing c with
  | nil => exact ⟨c, rfl, h⟩
  | cons letter letters ih =>
    obtain ⟨behind, hword, hrest⟩ := ih (rest_next h)
    refine ⟨behind, ?_, hrest⟩
    simp only [word, h, List.cons_append, if_true, hword]

end Cursor

/-- A reading that succeeds ends in front of a text. -/
def EndsAt {α : Type} (rest : List Char) (result : Except Fault (α × Cursor)) : Prop :=
  ∀ a c, result = .ok (a, c) → c.rest = rest

section EndsAt

variable {α : Type} {rest : List Char}

theorem EndsAt.ok {a : α} {c : Cursor} (h : c.rest = rest) : EndsAt rest (.ok (a, c)) := by
  intro b d heq
  cases heq
  exact h

theorem EndsAt.error {fault : Fault} : EndsAt rest (.error fault : Except Fault (α × Cursor)) :=
  fun _ _ heq => nomatch heq

end EndsAt

section Numbers

variable {c : Cursor} {rest : List Char}

theorem Grammar.Digits.exists_cons (ds : Digits) :
    ∃ d more, ds.chars = d :: more ∧ d.isDigit = true := by
  obtain ⟨d, more, heq⟩ := List.exists_cons_of_ne_nil ds.nonempty
  exact ⟨d, more, heq, ds.isDigit d (by simp [heq])⟩

theorem endsDigits_spellExponent (e : Option Exponent) (h : EndsNumber rest) :
    EndsDigits (spellExponent e rest) := by
  intro x hx
  cases e with
  | none => exact (h x hx).1
  | some e =>
    obtain rfl : e.letter = x := Option.some.inj hx
    rw [Exponent.letter]
    split <;> rfl

theorem endsDigits_spellFraction (f : Option Digits) (h : EndsDigits rest) :
    EndsDigits (spellFraction f rest) := by
  cases f with
  | none => exact h
  | some places =>
    intro x hx
    obtain rfl : '.' = x := Option.some.inj hx
    rfl

theorem digits_spelled {ds : Digits} (h : c.rest = ds.chars ++ rest) (hrest : EndsDigits rest) :
    (digits c).1 = ds.chars ∧ (digits c).2.rest = rest := by
  have hhead : rest.takeWhile Char.isDigit = [] ∧ rest.dropWhile Char.isDigit = rest := by
    cases rest with
    | nil => exact ⟨rfl, rfl⟩
    | cons x more => simp [hrest x rfl]
  simp only [digits, h]
  rw [List.takeWhile_append_of_pos ds.isDigit, List.dropWhile_append_of_pos ds.isDigit,
    hhead.1, hhead.2, List.append_nil]
  exact ⟨rfl, rfl⟩

theorem scaled_endsAt (h : c.rest = rest) (negative : Bool) (significand : Nat) (exponent : Int) :
    EndsAt rest (scaled negative significand exponent c) := by
  rw [scaled]
  split
  · exact .ok h
  · exact .error

/-- The sign of an exponent is passed, and its digits remain. -/
theorem rest_exponentSign {e : Exponent} (h : c.rest = e.spellAmount rest) :
    (exponentSign c).2.rest = e.digits.chars ++ rest := by
  rw [Exponent.spellAmount] at h
  split at h
  · obtain ⟨d, more, hdigits, hd⟩ := e.digits.exists_cons
    -- a digit is not taken for a sign
    have hplus : d ≠ '+' := by rintro rfl; cases hd
    have hminus : d ≠ '-' := by rintro rfl; cases hd
    rw [hdigits] at h ⊢
    simp [exponentSign, h, hplus, hminus]
  · simp [exponentSign, h, Cursor.next]
  · simp [exponentSign, h, Cursor.next]

theorem readExponent_endsAt {e : Exponent} (h : c.rest = e.spellAmount rest)
    (hrest : EndsNumber rest) (negative : Bool) (significand : Nat) (base : Int) :
    EndsAt rest (readExponent negative significand base c) := by
  have hbehind := (digits_spelled (rest_exponentSign h) hrest.endsDigits).2
  simp only [readExponent]
  split
  · exact .error
  · split
    · exact .error
    · split
      · split
        · exact .error
        · exact .ok hbehind
      · exact scaled_endsAt hbehind _ _ _

theorem readScaled_endsAt {e : Option Exponent} (h : c.rest = spellExponent e rest)
    (hrest : EndsNumber rest) (negative : Bool) (significand : Nat) (exponent : Int) :
    EndsAt rest (readScaled negative significand exponent c) := by
  rw [readScaled]
  cases e with
  | none =>
    have hends : ∀ x more, c.rest = x :: more → x ≠ 'e' ∧ x ≠ 'E' := by
      intro x more hcons
      exact (hrest x (by rw [← show c.rest = rest from h, hcons]; rfl)).2.2
    split
    · next hcons => exact absurd rfl (hends _ _ hcons).1
    · next hcons => exact absurd rfl (hends _ _ hcons).2
    · exact scaled_endsAt h _ _ _
  | some e =>
    have hnext : c.next.rest = e.spellAmount rest := Cursor.rest_next h
    split
    · exact readExponent_endsAt hnext hrest _ _ _
    · exact readExponent_endsAt hnext hrest _ _ _
    · next hsmall hcapital =>
      -- the letter of an exponent is an e
      rw [spellExponent, Exponent.letter] at h
      split at h
      · exact absurd h (hcapital _)
      · exact absurd h (hsmall _)

theorem readPlaces_endsAt {places : Digits} {e : Option Exponent}
    (h : c.rest = places.chars ++ spellExponent e rest) (hrest : EndsNumber rest)
    (negative : Bool) (significand : Nat) (exponent : Int) :
    EndsAt rest (readPlaces negative significand exponent c) := by
  have hbehind := (digits_spelled h (endsDigits_spellExponent e hrest)).2
  simp only [readPlaces]
  split
  · exact .error
  · exact readScaled_endsAt hbehind hrest _ _ _

theorem readFraction_endsAt {f : Option Digits} {e : Option Exponent}
    (h : c.rest = spellFraction f (spellExponent e rest)) (hrest : EndsNumber rest)
    (negative : Bool) (significand dropped : Nat) :
    EndsAt rest (readFraction negative significand dropped c) := by
  rw [readFraction]
  cases f with
  | none =>
    split
    · next hcons =>
      -- what follows a number without a fraction is no point
      rw [spellFraction] at h
      cases e with
      | none => exact absurd rfl (hrest '.' (by rw [← show c.rest = rest from h, hcons]; rfl)).2.1
      | some e =>
        rw [spellExponent, Exponent.letter, hcons] at h
        split at h <;> cases h
    · exact readScaled_endsAt h hrest _ _ _
    · exact readScaled_endsAt h hrest _ _ _
    · next hsmall hcapital =>
      cases e with
      | none =>
        split
        · exact .ok h
        · exact scaled_endsAt h _ _ _
      | some e =>
        rw [spellFraction, spellExponent, Exponent.letter] at h
        split at h
        · exact absurd h (hcapital _)
        · exact absurd h (hsmall _)
  | some places =>
    have hpoint : c.rest = '.' :: (places.chars ++ spellExponent e rest) := h
    simp only [hpoint]
    exact readPlaces_endsAt (Cursor.rest_next hpoint) hrest _ _ _

/-- A number that can be read is read as far as it goes. -/
theorem readNumeral_endsAt {n : Grammar.Number} (h : c.rest = n.spellUnsigned rest)
    (hrest : EndsNumber rest) (negative : Bool) : EndsAt rest (readNumeral negative c) := by
  have hdigits := digits_spelled h
    (endsDigits_spellFraction _ (endsDigits_spellExponent _ hrest))
  have hzero : ∀ more, c.rest = '0' :: more →
      c.next.rest = spellFraction n.fraction (spellExponent n.exponent rest) := by
    intro more hcons
    obtain ⟨d, others, hwhole, -⟩ := n.whole.exists_cons
    rw [Number.spellUnsigned, hwhole, hcons, List.cons_append] at h
    obtain ⟨rfl, htail⟩ := List.cons.inj h
    rw [n.no_leading_zero others hwhole, List.nil_append] at htail
    rw [Cursor.rest_next hcons, htail]
  rw [readNumeral]
  split
  · exact .error
  · next hcons =>
    split
    · split
      · exact .error
      · exact readFraction_endsAt (hzero _ hcons) hrest _ _ _
    · exact readFraction_endsAt (hzero _ hcons) hrest _ _ _
  · split
    · exact readFraction_endsAt hdigits.2 hrest _ _ _
    · exact .error

end Numbers

section Strings

variable {c : Cursor} {rest : List Char}

theorem fourDigits_spelled {u : CodeUnit} {text : List Char} (h : c.rest = u.spellDigits text) :
    ∃ behind, fourDigits c = .ok (u.value, behind) ∧ behind.rest = text := by
  refine ⟨⟨text, c.place + 4⟩, ?_, rfl⟩
  simp only [fourDigits, h, CodeUnit.spellDigits, Markup.hexDigit_iff.mp u.first.spelled,
    Markup.hexDigit_iff.mp u.second.spelled, Markup.hexDigit_iff.mp u.third.spelled,
    Markup.hexDigit_iff.mp u.fourth.spelled]
  rfl

theorem plainEscape?_of_mem {letter char : Char} (h : (letter, char) ∈ shortEscapes) :
    letter ≠ 'u' ∧ plainEscape? letter = some char := by
  have hall : ∀ e ∈ shortEscapes, e.1 ≠ 'u' ∧ plainEscape? e.1 = some e.2 := by decide
  exact hall _ h

theorem stringChars_unit {u : CodeUnit} (h : ¬ u.IsUpper) (pieces : List Piece) :
    stringChars (.unit u :: pieces) = u.alone :: stringChars pieces := by
  rcases pieces with _ | ⟨p, pieces⟩
  · rfl
  · cases p with
    | unit lower => simp [stringChars, h]
    | plain _ _ => rfl
    | short _ _ _ => rfl

theorem lowerHalf_eq_ok {value : Nat} {behind : Cursor} (h : lowerHalf c = .ok (value, behind)) :
    ∃ text, c.rest = '\\' :: 'u' :: text ∧ fourDigits c.next.next = .ok (value, behind) ∧
      0xDC00 ≤ value ∧ value ≤ 0xDFFF := by
  rw [lowerHalf] at h
  split at h
  · cases h
  · next hrest =>
    split at h
    · cases h
    · obtain ⟨⟨unit, after⟩, hdigits, h⟩ := bind_eq_ok h
      dsimp only at h
      split at h
      · cases h
      · next hrange =>
        cases h
        exact ⟨_, hrest, hdigits, by omega⟩
    · cases h
  · cases h

/-- A lower half is only found where the next piece is one. -/
theorem lowerHalf_spelled {pieces : List Piece} (h : c.rest = spellString pieces rest)
    {value : Nat} {behind : Cursor} (hok : lowerHalf c = .ok (value, behind)) :
    ∃ lower pieces', pieces = .unit lower :: pieces' ∧ lower.IsLower ∧ value = lower.value ∧
      behind.rest = spellString pieces' rest := by
  obtain ⟨text, hrest, hdigits, hrange⟩ := lowerHalf_eq_ok hok
  rw [hrest] at h
  match pieces with
  | [] => cases h
  | .plain char allowed :: pieces =>
    obtain ⟨rfl, -⟩ := List.cons.inj h
    exact absurd allowed (by decide)
  | .short letter char escape :: pieces =>
    obtain ⟨-, htail⟩ := List.cons.inj h
    obtain ⟨rfl, -⟩ := List.cons.inj htail
    exact absurd rfl (plainEscape?_of_mem escape).1
  | .unit lower :: pieces =>
    have hnext : c.next.next.rest = lower.spellDigits (spellString pieces rest) := by
      rw [Cursor.rest_next (Cursor.rest_next hrest)]
      exact (List.cons.inj (List.cons.inj h).2).2
    obtain ⟨after, hafter, htext⟩ := fourDigits_spelled hnext
    rw [hdigits] at hafter
    cases hafter
    exact ⟨lower, pieces, rfl, hrange, rfl, htext⟩

/-- A numeric escape is read with its second half, if it has one. -/
theorem numericEscape_spelled {u : CodeUnit} {pieces : List Piece}
    (h : c.rest = u.spellDigits (spellString pieces rest)) {char : Char} {behind : Cursor}
    (hok : numericEscape c = .ok (char, behind)) :
    ∃ pieces', stringChars (.unit u :: pieces) = char :: stringChars pieces' ∧
      behind.rest = spellString pieces' rest := by
  obtain ⟨middle, hdigits, hmiddle⟩ := fourDigits_spelled h
  rw [numericEscape, hdigits] at hok
  change (if 0xDC00 ≤ u.value ∧ u.value ≤ 0xDFFF then _ else _) = _ at hok
  split at hok
  · cases hok
  · next hlower =>
    split at hok
    · next hupper =>
      cases hok
      have hnot : ¬ u.IsUpper := by rw [CodeUnit.IsUpper]; omega
      refine ⟨pieces, ?_, hmiddle⟩
      have halone : ¬ (u.IsUpper ∨ u.IsLower) := not_or.mpr ⟨hnot, hlower⟩
      rw [stringChars_unit hnot, CodeUnit.alone, if_neg halone]
    · next hupper =>
      obtain ⟨⟨value, after⟩, hhalf, hok⟩ := bind_eq_ok hok
      obtain ⟨lower, pieces', rfl, hlow, rfl, hafter⟩ := lowerHalf_spelled hmiddle hhalf
      have hup : u.IsUpper := by rw [CodeUnit.IsUpper]; omega
      obtain ⟨rfl, rfl⟩ := Prod.mk.inj (Except.ok.inj hok)
      refine ⟨pieces', ?_, hafter⟩
      rw [stringChars, if_pos ⟨hup, hlow⟩, CodeUnit.paired]

theorem readEscape_spelled {pieces : List Piece} {text : List Char}
    (h : c.rest = spellString pieces rest) (hslash : c.rest = '\\' :: text) {char : Char}
    {behind : Cursor} (hok : readEscape c.next = .ok (char, behind)) :
    ∃ pieces', stringChars pieces = char :: stringChars pieces' ∧
      behind.rest = spellString pieces' rest := by
  rw [hslash] at h
  match pieces with
  | [] => cases h
  | .plain char allowed :: pieces =>
    obtain ⟨rfl, -⟩ := List.cons.inj h
    exact absurd allowed (by decide)
  | .short letter meaning escape :: pieces =>
    obtain ⟨-, rfl⟩ := List.cons.inj h
    obtain ⟨hletter, hmeaning⟩ := plainEscape?_of_mem escape
    have hnext := Cursor.rest_next hslash
    rw [readEscape] at hok
    split at hok
    · cases hok
    · next hu => exact absurd (List.cons.inj (hnext.symm.trans hu)).1 hletter
    · next hcons =>
      obtain ⟨rfl, -⟩ := List.cons.inj (hnext.symm.trans hcons)
      rw [hmeaning] at hok
      cases hok
      exact ⟨pieces, rfl, Cursor.rest_next hnext⟩
  | .unit u :: pieces =>
    obtain ⟨-, rfl⟩ := List.cons.inj h
    have hnext := Cursor.rest_next hslash
    have hu : c.next.rest = 'u' :: u.spellDigits (spellString pieces rest) := hnext
    simp only [readEscape, hu] at hok
    exact numericEscape_spelled (Cursor.rest_next hu) hok

theorem readStringFrom_plain {char : Char} {text : List Char} (h : c.rest = char :: text)
    (allowed : isPlain char = true) (before : List Char) (fuel : Nat) :
    readStringFrom before (fuel + 1) c = readStringFrom (char :: before) fuel c.next := by
  simp only [isPlain, Bool.and_eq_true, decide_eq_true_eq, bne_iff_ne] at allowed
  obtain ⟨⟨hleast, hquote⟩, hslash⟩ := allowed
  have hcontrol : isControl char = false := decide_eq_false (Nat.not_lt.mpr hleast)
  rw [readStringFrom]
  split
  · next hnil => cases h.symm.trans hnil
  · next hcons => exact absurd (List.cons.inj (h.symm.trans hcons)).1 hquote
  · next hcons => exact absurd (List.cons.inj (h.symm.trans hcons)).1 hslash
  · next hcons =>
    obtain ⟨rfl, -⟩ := List.cons.inj (h.symm.trans hcons)
    exact if_neg (by simp [hcontrol])

theorem readStringFrom_escape {text : List Char} (h : c.rest = '\\' :: text)
    (before : List Char) (fuel : Nat) :
    readStringFrom before (fuel + 1) c =
      readEscape c.next >>= fun r => readStringFrom (r.1 :: before) fuel r.2 := by
  simp only [readStringFrom, h]

/-- A string that can be read has the characters of its pieces. -/
theorem readStringFrom_spelled {fuel : Nat} {before : List Char} {pieces : List Piece}
    (h : c.rest = spellString pieces rest) {chars : List Char} {behind : Cursor}
    (hok : readStringFrom before fuel c = .ok (chars, behind)) :
    chars = before.reverse ++ stringChars pieces ∧ behind.rest = rest := by
  induction fuel generalizing before pieces c with
  | zero => cases hok
  | succ fuel ih =>
    have hescape : ∀ text, c.rest = '\\' :: text →
        chars = before.reverse ++ stringChars pieces ∧ behind.rest = rest := by
      intro text hslash
      rw [readStringFrom_escape hslash] at hok
      obtain ⟨⟨char, after⟩, hread, hok⟩ := bind_eq_ok hok
      obtain ⟨pieces', hchars, hafter⟩ := readEscape_spelled h hslash hread
      obtain ⟨rfl, hrest⟩ := ih hafter hok
      exact ⟨by simp [hchars], hrest⟩
    match pieces with
    | [] =>
      have hquote : c.rest = '"' :: rest := h
      simp only [readStringFrom, hquote] at hok
      cases hok
      exact ⟨(List.append_nil _).symm, Cursor.rest_next hquote⟩
    | .plain char allowed :: pieces =>
      have hchar : c.rest = char :: spellString pieces rest := h
      rw [readStringFrom_plain hchar allowed] at hok
      obtain ⟨rfl, hrest⟩ := ih (Cursor.rest_next hchar) hok
      exact ⟨by simp [stringChars], hrest⟩
    | .short letter char escape :: pieces => exact hescape _ h
    | .unit u :: pieces => exact hescape _ h

theorem readString_spelled {pieces : List Piece} (h : c.rest = spellString pieces rest)
    {chars : List Char} {behind : Cursor} (hok : readString c = .ok (chars, behind)) :
    chars = stringChars pieces ∧ behind.rest = rest :=
  readStringFrom_spelled h hok

end Strings

end TaggedPage.Json
