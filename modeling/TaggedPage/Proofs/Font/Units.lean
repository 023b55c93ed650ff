import TaggedPage.Proofs.Font.Measure

/-! # Sums of advances

The advances of a text are summed up in 32 bits. The sum is right as long as it fits into
them, which is sure for a text of 65537 characters in any face, since an advance has 16 bits.

A longer text may have a larger sum. Then an addition has wrapped around, and the text is
measured as narrower than it is by a multiple of 2 ^ 32 units.
-/

namespace TaggedPage.Font

namespace Face

/-- The sum of the advances of a text, however large it is. -/
def exactUnits (f : Face) (text : List Char) : Nat :=
  ((WinAnsi.encode text).map fun code => (f.codeWidth code).toNat).sum

def NeverWraps (f : Face) (text : List Char) : Prop :=
  ∀ before code after, WinAnsi.encode text = before ++ code :: after →
    (f.unitsOfCodes before).toNat + (f.codeWidth code).toNat < 2 ^ 32

variable (f : Face)

theorem exactUnits_append (s t : List Char) :
    f.exactUnits (s ++ t) = f.exactUnits s + f.exactUnits t := by
  rw [exactUnits, WinAnsi.encode_append, List.map_append, List.sum_append]
  rfl

theorem exactUnits_replicate (n : Nat) (c : Char) :
    f.exactUnits (List.replicate n c) = n * (f.codeWidth (WinAnsi.encodeChar c)).toNat := by
  rw [exactUnits, WinAnsi.encode, List.map_replicate, List.map_replicate, List.sum_replicate,
    smul_eq_mul]

theorem toNat_units (text : List Char) :
    (f.units text).toNat = f.exactUnits text % 2 ^ 32 :=
  f.toNat_unitsOfCodes (WinAnsi.encode text)

theorem toNat_units_of_lt {text : List Char} (h : f.exactUnits text < 2 ^ 32) :
    (f.units text).toNat = f.exactUnits text := by
  rw [toNat_units, Nat.mod_eq_of_lt h]

/-! ## Texts whose sum is small enough -/

theorem exactUnits_le {widest : Nat} (h : ∀ code, (f.codeWidth code).toNat ≤ widest)
    (text : List Char) : f.exactUnits text ≤ text.length * widest := by
  have hsum := List.sum_le_card_nsmul
    ((WinAnsi.encode text).map fun code => (f.codeWidth code).toNat) widest
  rw [List.length_map, WinAnsi.length_encode, smul_eq_mul] at hsum
  refine hsum fun width hwidth => ?_
  obtain ⟨code, -, rfl⟩ := List.mem_map.mp hwidth
  exact h code

theorem toNat_codeWidth_le (code : UInt8) : (f.codeWidth code).toNat ≤ 65535 :=
  Nat.le_of_lt_succ (f.codeWidth code).toNat_lt

/-- An addition wraps around exactly if the sum of all codes is too large. -/
theorem steps_lt_iff (codes : List UInt8) :
    (∀ before code after, codes = before ++ code :: after →
      (f.unitsOfCodes before).toNat + (f.codeWidth code).toNat < 2 ^ 32) ↔
    (codes.map fun code => (f.codeWidth code).toNat).sum < 2 ^ 32 := by
  constructor
  · intro hsteps
    -- the sum of all but the last code is right, and the last step adds to it
    induction codes using List.reverseRecOn with
    | nil => exact Nat.two_pow_pos 32
    | append_singleton codes code ih =>
      have hsum := ih fun before c after h => hsteps before c (after ++ [code]) (by rw [h]; simp)
      have hlast := hsteps codes code [] rfl
      rw [toNat_unitsOfCodes, Nat.mod_eq_of_lt hsum] at hlast
      rw [List.map_append, List.sum_append]
      simpa using hlast
  · rintro hsum before code after rfl
    rw [List.map_append, List.sum_append, List.map_cons, List.sum_cons] at hsum
    rw [toNat_unitsOfCodes, Nat.mod_eq_of_lt (by omega)]
    omega

theorem neverWraps_iff (text : List Char) : f.NeverWraps text ↔ f.exactUnits text < 2 ^ 32 :=
  f.steps_lt_iff (WinAnsi.encode text)

/-- The units of two texts add up in 32 bits. -/
theorem units_append (s t : List Char) : f.units (s ++ t) = f.units s + f.units t := by
  refine UInt32.toNat_inj.mp ?_
  rw [UInt32.toNat_add, toNat_units, toNat_units, toNat_units, exactUnits_append, Nat.add_mod]

/-- Sums of advances are right up to the limit of 32 bits. A text whose advances have a sum
below it is measured by that sum, no addition on the way wraps around, and the units of its
parts add up to those of the text. A text of 65537 characters is below the limit in every face,
and so is any text that could not reach it with the widest advance of the face. At the limit an
addition wraps around: the units are a remainder, and only as such do those of two texts add
up. -/
theorem units_below_limit :
    (∀ text, f.exactUnits text < 2 ^ 32 →
      f.NeverWraps text ∧ (f.units text).toNat = f.exactUnits text) ∧
    (∀ s t, f.exactUnits (s ++ t) < 2 ^ 32 →
      (f.units (s ++ t)).toNat = (f.units s).toNat + (f.units t).toNat) ∧
    (∀ text, text.length ≤ 65537 → f.exactUnits text < 2 ^ 32) ∧
    (∀ text widest, (∀ code, (f.codeWidth code).toNat ≤ widest) →
      text.length * widest < 2 ^ 32 → f.exactUnits text < 2 ^ 32) ∧
    (∀ text, 2 ^ 32 ≤ f.exactUnits text →
      ¬ f.NeverWraps text ∧ (f.units text).toNat = f.exactUnits text % 2 ^ 32) ∧
    ∀ s t, f.units (s ++ t) = f.units s + f.units t := by
  refine ⟨?_, ?_, ?_, ?_, ?_, f.units_append⟩
  · intro text h
    exact ⟨(f.neverWraps_iff text).mpr h, f.toNat_units_of_lt h⟩
  · intro s t h
    have hparts := f.exactUnits_append s t
    rw [f.toNat_units_of_lt h, f.toNat_units_of_lt (by omega), f.toNat_units_of_lt (by omega),
      hparts]
  · intro text hlength
    have hle := f.exactUnits_le f.toNat_codeWidth_le text
    omega
  · intro text widest hwidest hlength
    exact Nat.lt_of_le_of_lt (f.exactUnits_le hwidest text) hlength
  · intro text h
    exact ⟨fun hnever => Nat.not_lt.mpr h ((f.neverWraps_iff text).mp hnever), f.toNat_units text⟩

end Face

/-! ## The widest face -/

/-- A font file of one glyph, whose advance is the largest that fits into 16 bits, with 1000
units to the em. -/
def wideFile : ByteArray :=
  let entry (tag : String) (offset length : UInt8) : List UInt8 :=
    tag.toUTF8.toList ++ [0, 0, 0, 0] ++ [0, 0, 0, offset] ++ [0, 0, 0, length]
  let directory := [0, 1, 0, 0, 0, 4, 0, 64, 0, 2, 0, 0] ++
    entry "head" 76 54 ++ entry "hhea" 132 36 ++ entry "hmtx" 168 4 ++ entry "maxp" 172 6
  let head := List.replicate 18 0 ++ [3, 232] ++ List.replicate 34 0
  let padding := [0, 0]
  let hhea := List.replicate 35 0 ++ [1]
  let hmtx := [255, 255, 0, 0]
  let maxp := [0, 0, 80, 0, 0, 1]
  ⟨(directory ++ head ++ padding ++ hhea ++ hmtx ++ maxp).toArray⟩

/-- What is loaded when the regular face is in the wide file. -/
def wide : Except LibraryError Library :=
  let p : Provider (StateM Unit) := ⟨fun _ => pure (.ok wideFile)⟩
  ((Library.load p { regular := "wide.ttf" }).run.run ()).1

theorem exists_wide :
    ∃ l, wide = .ok l ∧
      ∀ n, (l.face .normal).exactUnits (List.replicate n 'W') = n * 65535 := by
  have hwidth : (match wide with
      | .ok l => some ((l.face .normal).codeWidth (WinAnsi.encodeChar 'W'))
      | .error _ => none) = some 65535 := by
    decide +kernel
  cases hl : wide with
  | error cause =>
    rw [hl] at hwidth
    cases hwidth
  | ok l =>
    rw [hl] at hwidth
    refine ⟨l, rfl, fun n => ?_⟩
    rw [Face.exactUnits_replicate, Option.some.inj hwidth]
    rfl

/-- The longest text that is below the limit in the wide face. -/
theorem units_below_limit_in_wide_face :
    ∃ l, wide = .ok l ∧
      let f := l.face .normal
      let text := List.replicate 65537 'W'
      text.length ≤ 65537 ∧ f.exactUnits text < 2 ^ 32 ∧ f.NeverWraps text ∧
        (f.units text).toNat = 4294967295 := by
  obtain ⟨l, hl, hsum⟩ := exists_wide
  refine ⟨l, hl, ?_⟩
  intro f text
  obtain ⟨hexact, -, hshort, -⟩ := f.units_below_limit
  have hlength : text.length ≤ 65537 := List.length_replicate.le
  have hlt := hshort text hlength
  obtain ⟨hnever, hunits⟩ := hexact text hlt
  exact ⟨hlength, hlt, hnever, hunits.trans (hsum 65537)⟩

/-- With one character more the sum wraps around, and the whole text is measured as narrower
than one of its characters. -/
theorem units_wrap_in_wide_face :
    ∃ l, wide = .ok l ∧
      let f := l.face .normal
      let text := List.replicate 65538 'W'
      f.exactUnits text = 4295032830 ∧ ¬ f.NeverWraps text ∧ f.units text = 65534 ∧
        f.units ['W'] = 65535 := by
  obtain ⟨l, hl, hsum⟩ := exists_wide
  refine ⟨l, hl, ?_⟩
  intro f text
  have htext : f.exactUnits text = 4295032830 := hsum 65538
  refine ⟨htext, ?_, ?_, ?_⟩
  · rw [f.neverWraps_iff, htext]
    decide
  · refine UInt32.toNat_inj.mp ?_
    rw [f.toNat_units, htext]
    rfl
  · refine UInt32.toNat_inj.mp ?_
    rw [f.toNat_units, show f.exactUnits ['W'] = 65535 from hsum 1]
    rfl

end TaggedPage.Font
