import Mathlib
import TaggedPage.Font.Installed
import TaggedPage.Proofs.Font.Requests
import TaggedPage.Proofs.Text.WinAnsi

/-! # Measured texts

A text is measured by the codes with which it is drawn. Every one of them stands for a
character, so it has an advance of its own in a face of a font file, whose advances run
without a gap from the first such code to the last. The width of a text is the sum of the
advances of its codes, scaled, as long as the sum fits in 32 bits.
-/

namespace TaggedPage.Font

/-! ## Sums of advances -/

theorem Face.toNat_unitsOfCodes (f : Face) (codes : List UInt8) :
    (f.unitsOfCodes codes).toNat =
      (codes.map fun code => (f.codeWidth code).toNat).sum % 2 ^ 32 := by
  unfold unitsOfCodes
  suffices hfold : ∀ start : UInt32,
      (codes.foldl (fun sum code => sum + (f.codeWidth code).toUInt32) start).toNat =
        (start.toNat + (codes.map fun code => (f.codeWidth code).toNat).sum) % 2 ^ 32 by
    simpa using hfold 0
  induction codes with
  | nil =>
    intro start
    simp only [List.foldl_nil, List.map_nil, List.sum_nil, Nat.add_zero]
    exact (Nat.mod_eq_of_lt start.toNat_lt).symm
  | cons code codes ih =>
    intro start
    rw [List.foldl_cons, ih, List.map_cons, List.sum_cons, UInt32.toNat_add,
      UInt16.toNat_toUInt32]
    omega

/-- The width of a text whose advances have a sum of 32 bits. -/
theorem Face.widthOf_eq (f : Face) {text : List Char} {units : UInt32}
    (h : units.toNat = ((WinAnsi.encode text).map fun code => (f.codeWidth code).toNat).sum)
    (size : Float32) : f.widthOf text size = units.toFloat32 * size / 1000.0 := by
  have hunits : f.units text = units := by
    refine UInt32.toNat_inj.mp ?_
    rw [Face.units, toNat_unitsOfCodes, ← h]
    exact Nat.mod_eq_of_lt units.toNat_lt
  rw [Face.widthOf, hunits]

/-! ## Faces of font files -/

/-- A face of a font file that has an advance for every code. -/
def Face.IsComplete (f : Face) : Prop :=
  ∃ font, f = .trueType font ∧ font.widths.length = lastCode + 1 - firstCode

theorem TrueType.length_widths_of_read {variant : Variant} {data : ByteArray} {font : TrueType}
    (h : read variant data = .ok font) : font.widths.length = lastCode + 1 - firstCode := by
  unfold read at h
  obtain ⟨directory, -, h⟩ := bind_eq_ok h
  obtain ⟨tables, -, h⟩ := bind_eq_ok h
  obtain rfl := Except.ok.inj h
  exact length_widths_ofTables variant data tables

/-- Libraries that were loaded, either through a provider of font files or from the
installed fonts. The provider may work on a state. -/
inductive Loaded (l : Library) : Prop where
  | files {σ : Type} (p : Provider (StateM σ)) (sources : Sources) (s : σ)
      (h : ((Library.load p sources).run.run s).1 = .ok l)
  | family (installed : List Installed) (name : List Char)
      (h : Library.ofFamily installed name = .ok l)

theorem familyFace_isComplete {installed : List Installed} {family : List Char} {v : Variant}
    {face : Face} (h : familyFace installed family v = .ok face) : face.IsComplete := by
  unfold familyFace at h
  split at h
  · cases h
  · split at h
    · cases h
    · next font hread =>
      obtain rfl := Except.ok.inj h
      exact ⟨font, rfl, TrueType.length_widths_of_read hread⟩

/-- Every face of a loaded library comes from a font file and has all its advances. -/
theorem Loaded.isComplete {l : Library} (h : Loaded l) (v : Variant) : (l.face v).IsComplete := by
  cases h with
  | files p sources s h =>
    obtain ⟨result, asked, t, hrun, -, hresult⟩ := Library.load_asks p sources s
    rw [hrun] at h
    obtain ⟨l', loaded, rfl, hloads, -, hmade⟩ | ⟨_, _, _, _, _, _, _, rfl, -⟩ := hresult
    · obtain rfl := Except.ok.inj h
      obtain ⟨font, hfont, hface⟩ := hmade.face v
      obtain ⟨data, hread⟩ := hloads.read_of_mem hfont
      exact ⟨font, hface, TrueType.length_widths_of_read hread⟩
    · cases h
  | family installed name h =>
    unfold Library.ofFamily at h
    obtain ⟨normal, hnormal, h⟩ := bind_eq_ok h
    obtain ⟨bold, hbold, h⟩ := bind_eq_ok h
    obtain ⟨italic, hitalic, h⟩ := bind_eq_ok h
    obtain ⟨boldItalic, hboldItalic, h⟩ := bind_eq_ok h
    obtain rfl := Except.ok.inj h
    rw [Library.face_ofFaces]
    cases v with
    | normal => exact familyFace_isComplete hnormal
    | bold => exact familyFace_isComplete hbold
    | italic => exact familyFace_isComplete hitalic
    | boldItalic => exact familyFace_isComplete hboldItalic

end TaggedPage.Font
