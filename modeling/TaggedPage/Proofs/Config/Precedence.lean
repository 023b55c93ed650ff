import TaggedPage.Config.Resolve
import TaggedPage.Proofs.Outcome

/-! # Precedence of settings

A setting is taken from the options, else from the file, else it has a default. What the
file says of a setting that the options give is never looked at, neither for the settings
nor for what is refused (`Agree`). Three settings are not taken one by one. The page of the
options covers both of its dimensions in the file, a source of fonts in the options covers
everything the file says of fonts, and a line height that nobody gives follows the font size.

A default may as well be written into the file (`Defaulted.spellOut`).
-/

namespace TaggedPage.Config

/-- Two files say the same of every setting that the options leave open. -/
structure Agree (options : Options) (f g : File) : Prop where
  pageWidth : options.pageSize = none → f.page.width = g.page.width
  pageHeight : options.pageSize = none → f.page.height = g.page.height
  fontSize : options.fontSize = none → f.fontSize = g.fontSize
  lineHeight : options.lineHeight = none → f.lineHeight = g.lineHeight
  color : options.color = none → f.color = g.color
  marginTop : options.marginTop = none → f.margin.top = g.margin.top
  marginLeft : options.marginLeft = none → f.margin.left = g.margin.left
  fonts : options.fonts = none → options.fontFamily = none →
    f.fonts = g.fonts ∧ f.fontFamily = g.fontFamily ∧ f.baseDir = g.baseDir
  outputDir : options.outputDir = none → f.output.dir = g.output.dir
  documentName : options.documentName = none → f.output.name = g.output.name

/-- A second choice matters only where the first one is missing. -/
theorem or_congr_of_none {α : Type} {a b c : Option α} (h : a = none → b = c) :
    a.or b = a.or c := by
  cases a with
  | none => exact h rfl
  | some x => rfl

theorem map_or_congr_of_none {α β : Type} {a : Option α} {p : α → β} {b c : Option β}
    (h : a = none → b = c) : (a.map p).or b = (a.map p).or c := by
  apply or_congr_of_none
  intro hmap
  exact h (Option.map_eq_none_iff.mp hmap)

/-- The choice of the fonts does not depend on what is covered. -/
theorem chooseFonts_congr {options : Options} {f g : File} (h : Agree options f g) :
    chooseFonts options f = chooseFonts options g := by
  cases hsources : options.fonts with
  | some sources =>
    cases hfamily : options.fontFamily with
    | some family => simp [chooseFonts, hsources, hfamily, fontsOfTier, bind, Except.bind]
    | none => simp [chooseFonts, hsources, hfamily, fontsOfTier, bind, Except.bind]
  | none =>
    cases hfamily : options.fontFamily with
    | some family => simp [chooseFonts, hsources, hfamily, fontsOfTier, bind, Except.bind]
    | none =>
      obtain ⟨hfonts, hname, hdir⟩ := h.fonts hsources hfamily
      simp [chooseFonts, hsources, hfamily, hfonts, hname, hdir]

theorem combine_congr {options : Options} {f g : File} (h : Agree options f g)
    (fonts : FontChoice) : combine options f fonts = combine options g fonts := by
  simp only [combine, map_or_congr_of_none h.pageWidth, map_or_congr_of_none h.pageHeight,
    or_congr_of_none h.fontSize, or_congr_of_none h.lineHeight, or_congr_of_none h.color,
    or_congr_of_none h.marginTop, or_congr_of_none h.marginLeft, or_congr_of_none h.outputDir,
    or_congr_of_none h.documentName]

/-- Only the chosen fonts and the combined settings matter to the result. -/
theorem resolve_congr {options : Options} {f g : Option File}
    (hfonts : chooseFonts options (f.getD {}) = chooseFonts options (g.getD {}))
    (hcombine : ∀ fonts, combine options (f.getD {}) fonts = combine options (g.getD {}) fonts) :
    resolve options f = resolve options g := by
  simp only [resolve, hfonts, hcombine]

/-! ## Defaults -/

/-- The settings with a default that depends on no other setting. -/
inductive Defaulted where
  | pageWidth
  | pageHeight
  | fontSize
  | color
  | marginTop
  | marginLeft
  | outputDir
  | documentName
  deriving DecidableEq

namespace Defaulted

/-- Neither the options nor the file give the setting. -/
def IsOpen (options : Options) (f : File) : Defaulted → Prop
  | .pageWidth => options.pageSize = none ∧ f.page.width = none
  | .pageHeight => options.pageSize = none ∧ f.page.height = none
  | .fontSize => options.fontSize = none ∧ f.fontSize = none
  | .color => options.color = none ∧ f.color = none
  | .marginTop => options.marginTop = none ∧ f.margin.top = none
  | .marginLeft => options.marginLeft = none ∧ f.margin.left = none
  | .outputDir => options.outputDir = none ∧ f.output.dir = none
  | .documentName => options.documentName = none ∧ f.output.name = none

/-- The file with the default of the setting written into it. -/
def spellOut (f : File) : Defaulted → File
  | .pageWidth => { f with page := { f.page with width := some 595 } }
  | .pageHeight => { f with page := { f.page with height := some 842 } }
  | .fontSize => { f with fontSize := some 14 }
  | .color => { f with color := some ⟨0, 0, 0⟩ }
  | .marginTop => { f with margin := { f.margin with top := some 50 } }
  | .marginLeft => { f with margin := { f.margin with left := some 50 } }
  | .outputDir => { f with output := { f.output with dir := some "output" } }
  | .documentName => { f with output := { f.output with name := some "document" } }

variable {options : Options} {f : File}

theorem chooseFonts_spellOut (d : Defaulted) :
    chooseFonts options (d.spellOut f) = chooseFonts options f := by
  cases d <;> rfl

theorem combine_spellOut {d : Defaulted} (h : d.IsOpen options f) (fonts : FontChoice) :
    combine options (d.spellOut f) fonts = combine options f fonts := by
  cases d <;>
  · obtain ⟨hoptions, hfile⟩ := h
    simp only [combine, spellOut, hoptions, hfile]
    rfl

/-- A setting stays open while another one is written down. -/
theorem IsOpen.spellOut {d e : Defaulted} (h : e.IsOpen options f) (hne : e ≠ d) :
    e.IsOpen options (d.spellOut f) := by
  cases d <;> cases e <;> first | exact h | exact absurd rfl hne

/-- The file with the defaults of several settings written into it. -/
def spellOutAll (f : File) (ds : List Defaulted) : File := ds.foldl spellOut f

theorem resolve_spellOutAll {ds : List Defaulted} (hnodup : ds.Nodup)
    (h : ∀ d ∈ ds, d.IsOpen options f) :
    resolve options (some (spellOutAll f ds)) = resolve options (some f) := by
  induction ds generalizing f with
  | nil => rfl
  | cons d ds ih =>
    obtain ⟨hd, hds⟩ := List.nodup_cons.mp hnodup
    have hopen : ∀ e ∈ ds, e.IsOpen options (d.spellOut f) := by
      intro e he
      apply (h e (List.mem_cons_of_mem d he)).spellOut
      rintro rfl
      exact hd he
    have hstep : resolve options (some (d.spellOut f)) = resolve options (some f) :=
      resolve_congr (chooseFonts_spellOut d) (combine_spellOut (h d List.mem_cons_self))
    exact (ih hds hopen).trans hstep

end Defaulted

/-! ## The result -/

/-- A line height that nobody gives is ten points more than the font size. -/
theorem lineHeight_of_resolve {options : Options} {file : Option File} {config : Config}
    (h : resolve options file = .ok config) (hoptions : options.lineHeight = none)
    (hfile : (file.getD {}).lineHeight = none) : config.lineHeight = config.fontSize + 10 := by
  obtain ⟨fonts, -, h⟩ := bind_eq_ok h
  obtain ⟨⟨⟩, -, h⟩ := bind_eq_ok h
  obtain rfl := Except.ok.inj h
  simp only [combine, hoptions, hfile]
  rfl

/-- The settings and what is refused depend on a file only where the options leave something
open. There it makes no difference whether a default is written into the file, and a line
height that neither gives follows the font size, wherever that comes from. -/
theorem resolve_by_precedence (options : Options) (f g : Option File) :
    (Agree options (f.getD {}) (g.getD {}) → resolve options f = resolve options g) ∧
    (∀ ds : List Defaulted, ds.Nodup → (∀ d ∈ ds, d.IsOpen options (f.getD {})) →
      resolve options (some (Defaulted.spellOutAll (f.getD {}) ds)) = resolve options f) ∧
    (∀ config, resolve options f = .ok config → options.lineHeight = none →
      (f.getD {}).lineHeight = none → config.lineHeight = config.fontSize + 10) := by
  refine ⟨?_, ?_, ?_⟩
  · intro hagree
    exact resolve_congr (chooseFonts_congr hagree) (combine_congr hagree)
  · intro ds hnodup hopen
    exact Defaulted.resolve_spellOutAll hnodup hopen
  · intro config hresolve hoptions hfile
    exact lineHeight_of_resolve hresolve hoptions hfile

/-- Options that give the page, the font size and a family of fonts. -/
def letterOptions : Options :=
  { pageSize := some ⟨612, 792⟩, fontSize := some 18, fontFamily := some "Serif" }

/-- A file that these options cover but for the left margin. It would be refused without
them. -/
def coveredFile : File where
  page := { width := some 0 }
  fontSize := some (-1)
  margin := { left := some 30 }
  fonts := some { regular := "regular.ttf" }
  fontFamily := some "Sans"
  baseDir := some "fonts"

/-- With these options the file says no more than its left margin, and the line height
follows the font size of the options. -/
theorem resolve_by_precedence_letter :
    resolve letterOptions (some coveredFile) =
        resolve letterOptions (some { margin := { left := some 30 } }) ∧
      resolve letterOptions
          (some (Defaulted.spellOutAll coveredFile [.marginTop, .documentName])) =
        resolve letterOptions (some coveredFile) ∧
      ∃ config, resolve letterOptions (some coveredFile) = .ok config ∧
        config.fontSize = 18 ∧ config.lineHeight = config.fontSize + 10 := by
  obtain ⟨hsame, hdefaults, hheight⟩ := resolve_by_precedence letterOptions (some coveredFile)
    (some { margin := { left := some 30 } })
  have hagree : Agree letterOptions coveredFile { margin := { left := some 30 } } :=
    { pageWidth := nofun
      pageHeight := nofun
      fontSize := nofun
      lineHeight := fun _ => rfl
      color := fun _ => rfl
      marginTop := fun _ => rfl
      marginLeft := fun _ => rfl
      fonts := fun _ => nofun
      outputDir := fun _ => rfl
      documentName := fun _ => rfl }
  have hopen : ∀ d ∈ [Defaulted.marginTop, .documentName], d.IsOpen letterOptions coveredFile := by
    intro d hd
    rcases List.mem_cons.mp hd with rfl | hd
    · exact ⟨rfl, rfl⟩
    · obtain rfl := List.mem_singleton.mp hd
      exact ⟨rfl, rfl⟩
  exact ⟨hsame hagree, hdefaults _ (by decide) hopen,
    combine letterOptions coveredFile (.family "Serif"), rfl, rfl, hheight _ rfl rfl rfl⟩

end TaggedPage.Config
