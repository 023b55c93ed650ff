import TaggedPage.Proofs.Config.Checks
import TaggedPage.Proofs.Pipeline.Build

/-! # Accepted configurations

Which settings a document can be made with. The values that count are those that come out of
the tiers: what is covered by a higher tier may be anything. Of the fonts only the highest tier
that names a source matters (`fontTier?`), and what is wrong with it shows before everything
else if it names two sources, and behind everything else if the one it names has no name.

A refusal is always one of the configuration, so whoever holds a pipeline holds settings that
passed all checks (`Sound`).
-/

namespace TaggedPage

namespace Config

/-! ## Tiers -/

/-- The value of the first tier that gives one. -/
def tiered {α : Type} : Option α → Option α → α → α
  | some x, _, _ => x
  | none, some x, _ => x
  | none, none, x => x

theorem or_getD_eq_tiered {α : Type} (a b : Option α) (d : α) : (a.or b).getD d = tiered a b d := by
  cases a <;> cases b <;> rfl

/-- What one tier says of the fonts. -/
structure Tier where
  sources : Option Font.Sources
  family : Option String

namespace Tier

/-- The tier names a source of fonts, or two. -/
def names (t : Tier) : Bool := t.sources.isSome || t.family.isSome

theorem eq_none_of_not_names {t : Tier} (h : t.names = false) :
    t.sources = none ∧ t.family = none := by
  simpa [names] using h

/-- The tier names one source only, and that one has a name. -/
structure Usable (t : Tier) : Prop where
  single : t.sources = none ∨ t.family = none
  regular : ∀ sources ∈ t.sources, Visible sources.regular
  family : ∀ name ∈ t.family, Visible name

end Tier

def Options.tier (options : Options) : Tier := ⟨options.fonts, options.fontFamily⟩

def File.tier (f : File) : Tier := ⟨f.fonts, f.fontFamily⟩

/-- The highest tier that names a source of fonts. -/
def fontTier? (options : Options) (f : File) : Option Tier :=
  [options.tier, f.tier].find? Tier.names

/-- The values that come out of the tiers can be those of a document. -/
structure ValuesAcceptable (options : Options) (f : File) : Prop where
  pageWidth : Positive (tiered (options.pageSize.map (·.width)) f.page.width 595)
  pageHeight : Positive (tiered (options.pageSize.map (·.height)) f.page.height 842)
  fontSize : Positive (tiered options.fontSize f.fontSize 14)
  lineHeight : Positive
    (tiered options.lineHeight f.lineHeight (tiered options.fontSize f.fontSize 14 + 10))
  marginTop : NonNegative (tiered options.marginTop f.margin.top 50)
  marginLeft : NonNegative (tiered options.marginLeft f.margin.left 50)
  documentName : Visible (tiered options.documentName f.output.name "document")

/-- Options and a file with which a document can be made. -/
structure Acceptable (options : Options) (f : File) : Prop extends ValuesAcceptable options f where
  fonts : ∀ t ∈ fontTier? options f, t.Usable

section Choice

variable {options : Options} {f : File}

theorem sound_combine_iff {fonts : FontChoice} :
    (combine options f fonts).Sound ↔ ValuesAcceptable options f ∧ fonts.Named := by
  simp only [combine, or_getD_eq_tiered]
  constructor
  · intro h
    exact ⟨⟨h.pageWidth, h.pageHeight, h.fontSize, h.lineHeight, h.marginTop, h.marginLeft,
      h.documentName⟩, h.fonts⟩
  · rintro ⟨h, hfonts⟩
    exact ⟨h.pageWidth, h.pageHeight, h.fontSize, h.lineHeight, h.marginTop, h.marginLeft,
      h.documentName, hfonts⟩

/-! The options are asked first, and the file only if they name nothing. -/

theorem chooseFonts_of_names (h : options.tier.names = true) :
    chooseFonts options f =
      (fontsOfTier options.fonts options.fontFamily none).map (·.getD .standard) := by
  rw [Options.tier, Tier.names] at h
  rw [chooseFonts]
  cases hsources : options.fonts with
  | some sources => cases options.fontFamily <;> rfl
  | none =>
    cases hfamily : options.fontFamily with
    | some name => rfl
    | none =>
      rw [hsources, hfamily] at h
      cases h

theorem chooseFonts_of_not_names (h : options.tier.names = false) :
    chooseFonts options f =
      (fontsOfTier f.fonts f.fontFamily f.baseDir).map (·.getD .standard) := by
  obtain ⟨hsources, hfamily⟩ : options.fonts = none ∧ options.fontFamily = none :=
    Tier.eq_none_of_not_names h
  rw [chooseFonts, hsources, hfamily]
  cases fontsOfTier f.fonts f.fontFamily f.baseDir <;> rfl

/-- The source of the fonts is the one that the highest tier names, or the built-in family. -/
theorem chooseFonts_eq (options : Options) (f : File) : ∃ baseDir, chooseFonts options f =
    ((fontTier? options f).elim (.ok none) fun t =>
      fontsOfTier t.sources t.family baseDir).map (·.getD .standard) := by
  cases hoptions : options.tier.names with
  | true =>
    refine ⟨none, (chooseFonts_of_names hoptions).trans ?_⟩
    rw [fontTier?, List.find?_cons_of_pos hoptions]
    rfl
  | false =>
    refine ⟨f.baseDir, (chooseFonts_of_not_names hoptions).trans ?_⟩
    rw [fontTier?, List.find?_cons_of_neg (by rw [hoptions]; decide), List.find?_singleton]
    cases hfile : f.tier.names with
    | true => rfl
    | false =>
      obtain ⟨hsources, hfamily⟩ : f.fonts = none ∧ f.fontFamily = none :=
        Tier.eq_none_of_not_names hfile
      rw [hsources, hfamily]
      rfl

/-- A source of fonts that has a name is chosen exactly if the highest tier that names one is
usable. -/
theorem exists_named_iff : (∃ fonts, chooseFonts options f = .ok fonts ∧ fonts.Named) ↔
    ∀ t ∈ fontTier? options f, t.Usable := by
  obtain ⟨baseDir, hchoose⟩ := chooseFonts_eq options f
  rw [hchoose]
  cases fontTier? options f with
  | none =>
    exact ⟨fun _ t ht => (Option.not_mem_none t ht).elim, fun _ => ⟨.standard, rfl, trivial⟩⟩
  | some t =>
    simp only [Option.elim_some, Option.mem_some_iff, forall_eq']
    obtain ⟨sources, family⟩ := t
    constructor
    · rintro ⟨fonts, hfonts, hnamed⟩
      cases sources <;> cases family <;> cases hfonts
      · exact ⟨.inl rfl, nofun, nofun⟩
      · exact ⟨.inl rfl, nofun, fun name hname => Option.some.inj hname ▸ hnamed⟩
      · exact ⟨.inr rfl, fun s hs => Option.some.inj hs ▸ hnamed, nofun⟩
    · intro h
      cases sources <;> cases family
      · exact ⟨.standard, rfl, trivial⟩
      · exact ⟨_, rfl, h.family _ rfl⟩
      · exact ⟨_, rfl, h.regular _ rfl⟩
      · rcases h.single with hnone | hnone <;> cases hnone

/-- The sources of fonts are looked at before anything is checked. -/
theorem resolve_of_two_sources {file : Option File} {t : Tier}
    (ht : fontTier? options (file.getD {}) = some t) {sources : Font.Sources} {family : String}
    (hsources : t.sources = some sources) (hfamily : t.family = some family) :
    resolve options file = .error (.twoFontSources family) := by
  obtain ⟨baseDir, hchoose⟩ := chooseFonts_eq options (file.getD {})
  rw [ht, Option.elim_some, hsources, hfamily] at hchoose
  rw [resolve, hchoose]
  rfl

end Choice

/-! ## The result -/

variable {options : Options} {file : Option File}

theorem exists_resolve_iff :
    (∃ config, resolve options file = .ok config) ↔ Acceptable options (file.getD {}) := by
  constructor
  · rintro ⟨config, h⟩
    obtain ⟨fonts, hfonts, rfl, hsound⟩ := resolve_eq_ok_iff.mp h
    obtain ⟨hvalues, hnamed⟩ := sound_combine_iff.mp hsound
    exact ⟨hvalues, exists_named_iff.mp ⟨fonts, hfonts, hnamed⟩⟩
  · intro h
    obtain ⟨fonts, hfonts, hnamed⟩ := exists_named_iff.mpr h.fonts
    exact ⟨_, resolve_eq_ok_iff.mpr
      ⟨fonts, hfonts, rfl, sound_combine_iff.mpr ⟨h.toValuesAcceptable, hnamed⟩⟩⟩

/-- The settings resolve exactly if the highest tier that names a source of fonts names a single
one, which has a name, and the values that come out of the tiers can be those of a document. Two
sources in that tier are what is reported, whatever else is wrong. A refusal is a failure of
the configuration, before anything is asked of the system, and the settings of a pipeline
that was built passed all checks. -/
theorem resolve_accepts (options : Options) (file : Option File) :
    ((∃ config, resolve options file = .ok config) ↔ Acceptable options (file.getD {})) ∧
    (∀ t ∈ fontTier? options (file.getD {}), ∀ sources ∈ t.sources, ∀ family ∈ t.family,
      resolve options file = .error (.twoFontSources family)) ∧
    (¬ Acceptable options (file.getD {}) → ∃ cause, resolve options file = .error cause ∧
      ∀ (m : Type → Type) [Monad m] (host : Host m) (provider : Option (Provider m)),
        (Pipeline.build host options file provider).run = pure (.error (.config cause))) ∧
    ∀ (σ : Type) (host : Host (StateM σ)) (provider : Option (Provider (StateM σ))) (s t : σ)
      (p : Pipeline), (Pipeline.build host options file provider).run.run s = (.ok p, t) →
        p.config.Sound := by
  refine ⟨exists_resolve_iff, ?_, ?_, ?_⟩
  · intro t ht sources hsources family hfamily
    exact resolve_of_two_sources ht hsources hfamily
  · intro hrefused
    cases hresolve : resolve options file with
    | ok config => exact absurd (exists_resolve_iff.mp ⟨config, hresolve⟩) hrefused
    | error cause =>
      exact ⟨cause, rfl, fun m _ host provider =>
        Pipeline.build_of_error host provider hresolve⟩
  · intro σ host provider s t p hbuild
    obtain ⟨hresolve, -⟩ := Pipeline.of_run_build hbuild
    obtain ⟨-, -, -, hsound⟩ := resolve_eq_ok_iff.mp hresolve
    exact hsound

/-- A tier that names both an installed family and font files. -/
def twoSources : File where
  fonts := some { regular := "regular.ttf" }
  fontFamily := some "Sans"

/-- The two sources of a file do not matter below a family of the options. In the options
themselves they are reported before a font size that is no number. A margin below zero ends the
building, and without it the settings are sound. -/
theorem resolve_accepts_covered_conflict :
    Acceptable { fontFamily := some "Serif" } twoSources ∧
      resolve
          { fonts := twoSources.fonts
            fontFamily := twoSources.fontFamily
            fontSize := some (0 / 0) }
          none = .error (.twoFontSources "Sans") ∧
      (Pipeline.build (Pipeline.bareHost : Host (StateM Unit)) { marginTop := some (-1) } none
          none).run = pure (.error (.config (.negative .topMargin (-1)))) ∧
      ∃ p t, (Pipeline.build (Pipeline.bareHost : Host (StateM Unit)) {} none none).run.run () =
          (.ok p, t) ∧ p.config.Sound := by
  refine ⟨?_, ?_, ?_, ?_⟩
  · obtain ⟨haccepted, -⟩ := resolve_accepts { fontFamily := some "Serif" } (some twoSources)
    exact haccepted.mp ⟨_, rfl⟩
  · obtain ⟨-, htwo, -⟩ := resolve_accepts
      { fonts := twoSources.fonts, fontFamily := twoSources.fontFamily, fontSize := some (0 / 0) }
      none
    exact htwo ⟨twoSources.fonts, twoSources.fontFamily⟩ rfl _ rfl "Sans" rfl
  · obtain ⟨haccepted, -, hrefused, -⟩ := resolve_accepts { marginTop := some (-1) } none
    have hnegative : resolve { marginTop := some (-1) } none =
        .error (.negative .topMargin (-1)) := rfl
    obtain ⟨cause, hcause, hbuild⟩ := hrefused fun h => by
      obtain ⟨config, hresolve⟩ := haccepted.mpr h
      cases hnegative.symm.trans hresolve
    obtain rfl := Except.error.inj (hcause.symm.trans hnegative)
    exact hbuild _ Pipeline.bareHost none
  · obtain ⟨-, -, -, hsound⟩ := resolve_accepts {} none
    exact ⟨_, _, rfl, hsound Unit Pipeline.bareHost none () () _ rfl⟩

end Config
end TaggedPage
