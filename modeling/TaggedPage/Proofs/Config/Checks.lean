import TaggedPage.Config.Resolve
import TaggedPage.Proofs.Number.Single
import TaggedPage.Proofs.Outcome
import TaggedPage.Proofs.Text.Trim

/-! # Checked configurations

What the checks of a configuration let through, each of them by itself (`check_eq_ok_iff`): sizes
are positive, margins not negative, and names have something to be seen in them. A configuration
that resolves has passed them all (`resolve_eq_ok_iff`).
-/

namespace TaggedPage

namespace Config

/-! ## Values -/

/-- A finite number above zero. -/
def Positive (x : Float32) : Prop := x.isFinite = true ∧ 0 < Number.exact x

def NonNegative (x : Float32) : Prop := x.isFinite = true ∧ 0 ≤ Number.exact x

/-- A text in which something can be seen. -/
def Visible (text : String) : Prop := ∃ c ∈ text.toList, isBlank c = false

theorem isPositive_iff {x : Float32} : isPositive x = true ↔ Positive x := by
  rw [isPositive, Bool.and_eq_true, decide_eq_true_iff]
  exact and_congr_right Number.pos_iff_exact

theorem isNonNegative_iff {x : Float32} : isNonNegative x = true ↔ NonNegative x := by
  rw [isNonNegative, Bool.and_eq_true, decide_eq_true_iff]
  exact and_congr_right Number.nonneg_iff_exact

theorem isBlankText_iff {text : String} : isBlankText text = true ↔ ¬ Visible text := by
  rw [isBlankText, List.isEmpty_iff, trim_eq_nil_iff, Visible]
  simp

/-! ## Checks -/

section Checks

variable {α : Type} {what : Quantity} {x : Float32} {fonts : FontChoice}

/-- A step without a result only decides whether the rest is done. -/
theorem bind_unit_eq_ok_iff {check : Except Invalid Unit} {rest : Unit → Except Invalid α} {a : α} :
    check >>= rest = .ok a ↔ check = .ok () ∧ rest () = .ok a := by
  cases check with
  | error cause => exact ⟨nofun, nofun⟩
  | ok u => exact ⟨fun h => ⟨rfl, h⟩, fun h => h.2⟩

theorem checkPositive_eq_ok_iff : checkPositive what x = .ok () ↔ Positive x := by
  rw [checkPositive, ← isPositive_iff]
  split <;> simp_all

theorem checkNonNegative_eq_ok_iff : checkNonNegative what x = .ok () ↔ NonNegative x := by
  rw [checkNonNegative, ← isNonNegative_iff]
  split <;> simp_all

def FontChoice.Named : FontChoice → Prop
  | .standard => True
  | .files sources _ => Visible sources.regular
  | .family name => Visible name

theorem FontChoice.check_eq_ok_iff : fonts.check = .ok () ↔ fonts.Named := by
  cases fonts with
  | standard => exact ⟨fun _ => trivial, fun _ => rfl⟩
  | files sources baseDir =>
    rw [check, Named]
    split <;> simp_all [isBlankText_iff]
  | family name =>
    rw [check, Named]
    split <;> simp_all [isBlankText_iff]

/-- Settings with which a document can be made. -/
structure Sound (c : Config) : Prop where
  pageWidth : Positive c.page.width
  pageHeight : Positive c.page.height
  fontSize : Positive c.fontSize
  lineHeight : Positive c.lineHeight
  marginTop : NonNegative c.marginTop
  marginLeft : NonNegative c.marginLeft
  documentName : Visible c.documentName
  fonts : c.fonts.Named

theorem check_eq_ok_iff {c : Config} : c.check = .ok () ↔ c.Sound := by
  simp only [check, bind_unit_eq_ok_iff, checkPositive_eq_ok_iff, checkNonNegative_eq_ok_iff]
  constructor
  · rintro ⟨hwidth, hheight, hsize, hline, htop, hleft, hrest⟩
    split at hrest
    · cases hrest
    · next hname =>
      exact ⟨hwidth, hheight, hsize, hline, htop, hleft,
        not_not.mp (mt isBlankText_iff.mpr hname), FontChoice.check_eq_ok_iff.mp hrest⟩
  · intro h
    refine ⟨h.pageWidth, h.pageHeight, h.fontSize, h.lineHeight, h.marginTop, h.marginLeft, ?_⟩
    rw [if_neg (mt isBlankText_iff.mp (not_not.mpr h.documentName))]
    exact FontChoice.check_eq_ok_iff.mpr h.fonts

/-- The settings that come out of the tiers are resolved if they pass the checks. -/
theorem resolve_eq_ok_iff {options : Options} {file : Option File} {config : Config} :
    resolve options file = .ok config ↔ ∃ fonts, chooseFonts options (file.getD {}) = .ok fonts ∧
      combine options (file.getD {}) fonts = config ∧ config.Sound := by
  constructor
  · intro h
    obtain ⟨fonts, hfonts, h⟩ := bind_eq_ok h
    obtain ⟨hcheck, hconfig⟩ := bind_unit_eq_ok_iff.mp h
    obtain rfl := Except.ok.inj hconfig
    exact ⟨fonts, hfonts, rfl, check_eq_ok_iff.mp hcheck⟩
  · rintro ⟨fonts, hfonts, rfl, hsound⟩
    rw [resolve, hfonts]
    exact bind_unit_eq_ok_iff.mpr ⟨check_eq_ok_iff.mpr hsound, rfl⟩

end Checks

end Config

end TaggedPage
