import TaggedPage.Proofs.Font.Measure
import TaggedPage.Proofs.Pdf.Fonts
import TaggedPage.Proofs.Pdf.Graph
import TaggedPage.Proofs.Pipeline.Render

/-! # Built pipelines

All that can be wrong with a configuration or its fonts shows when a pipeline is built. A
configuration that does not resolve ends the building before anything is asked of the system
around it. Otherwise the fonts are loaded, and only that can fail. A pipeline that was built
has a face for every variant (`loadFonts_yields`), so it renders every text, into a document of
one page in which the font of every variant is found (`build_fails_or_renders`).
-/

namespace TaggedPage

open Font (Face Library)
open Layout (Placement)
open Pdf (Canvas Document OpenPage)

/-! ## The faces of a pipeline -/

/-- What a choice of fonts promises of the face of a variant: to be the built-in one, or to
come from a font file with all its advances. -/
def Config.FontChoice.Gives : Config.FontChoice → Variant → Face → Prop
  | .standard, v, face => face = .standard (.helvetica v)
  | .files _ _, _, face => face.IsComplete
  | .family _, _, face => face.IsComplete

namespace Pipeline

variable {σ : Type}

/-- Whatever the fonts are loaded from, every variant has the face that was chosen for it. -/
theorem loadFonts_yields (host : Host (StateM σ)) (provider : Option (Provider (StateM σ)))
    (choice : Config.FontChoice) :
    Yields (loadFonts host provider choice) fun fonts => ∀ v, choice.Gives v (fonts.face v) := by
  cases choice with
  | standard => exact .pure fun v => Library.face_ofFaces _ v
  | files sources baseDir =>
    intro s fonts s' hload v
    exact Font.Loaded.isComplete (.files _ sources s (congrArg Prod.fst hload)) v
  | family name =>
    refine (Yields.lift (P := fun _ => True) fun _ => trivial).bind fun files _ => ?_
    intro s fonts s' hload v
    exact Font.Loaded.isComplete (.family _ name.toList (congrArg Prod.fst hload)) v

end Pipeline

/-! ## The page of a document -/

namespace Pdf

theorem sheets_draw (ps : List Placement) : sheets (ps.map .draw) = [] := by
  induction ps with
  | nil => rfl
  | cons p ps ih => exact ih

/-- A canvas on which one page was begun has one page in its document. -/
theorem Canvas.pages?_run_page (fonts : Library) (size : PageSize) (ps : List Placement) :
    ∃ content, ((Canvas.new fonts).run (.page size :: ps.map .draw)).document.pages? =
      some [pageObject size content] := by
  have hpaged := (paged_new fonts).run (.page size :: ps.map .draw)
  rw [List.nil_append, closedPages_new, sheets, sheets_draw] at hpaged
  -- from here on only what is known of the canvas behind the calls matters
  generalize (Canvas.new fonts).run (.page size :: ps.map .draw) = c at hpaged ⊢
  have hcatalog : c.document.objects.object? c.document.catalog = _ :=
    catalog_document hpaged.dense
  have htree := hpaged.tree_document
  obtain ⟨-, hpage⟩ := hpaged.page_document (paged_new fonts).dense.reserved (i := 0) rfl
  rw [OpenPage.size_drawAll, Nat.mul_zero, Nat.add_zero] at hpage
  refine ⟨(Canvas.new fonts).table.next, ?_⟩
  rw [Document.pages?, hcatalog]
  simp [htree, hpage, List.range_succ]

end Pdf

namespace Pipeline

/-- The document of a text has one page, and every variant finds the font of its face in it. -/
theorem document_one_page (p : Pipeline) (text : List Char) :
    (∃ content, (p.document text).pages? = some [Pdf.pageObject p.config.page content]) ∧
      ∀ v, ∃ o, (p.document text).font? (Pdf.fontName p.fonts v) = some o ∧
        Pdf.IsDictionaryOf o (p.fonts.face v) := by
  refine ⟨Canvas.pages?_run_page p.fonts _ _, fun v => ?_⟩
  obtain ⟨_, o, -, -, hfont, hdictionary⟩ := Canvas.font?_document p.fonts _ v
  exact ⟨o, hfont, hdictionary⟩

/-! ## The order of the building -/

/-- A configuration that does not resolve ends the building before anything else is done. -/
theorem build_of_error {m : Type → Type} [Monad m] (host : Host m) {options : Config.Options}
    {file : Option Config.File} (provider : Option (Provider m)) {cause : Config.Invalid}
    (h : Config.resolve options file = .error cause) :
    (build host options file provider).run = pure (.error (.config cause)) := by
  rw [build, h]
  rfl

/-- Where the configuration resolves, the fonts are loaded, and the building ends as that
does. -/
theorem run_build_of_ok (host : Host (StateM σ)) {options : Config.Options}
    {file : Option Config.File} (provider : Option (Provider (StateM σ))) {config : Config}
    (h : Config.resolve options file = .ok config) {s t : σ}
    {loaded : Except Font.LibraryError Library}
    (hload : (loadFonts host provider config.fonts).run.run s = (loaded, t)) :
    (build host options file provider).run.run s =
      ((loaded.map (Pipeline.mk config)).mapError .font, t) := by
  have hlift := run_lift (ε := Failure) (loadFonts host provider config.fonts).run s
  rw [hload] at hlift
  rw [build, h]
  refine (run_bind_of_ok hlift _).trans ?_
  cases loaded <;> rfl

/-- A pipeline that was built has the resolved configuration and its fonts. -/
theorem of_run_build {host : Host (StateM σ)} {options : Config.Options}
    {file : Option Config.File} {provider : Option (Provider (StateM σ))} {s t : σ} {p : Pipeline}
    (h : (build host options file provider).run.run s = (.ok p, t)) :
    Config.resolve options file = .ok p.config ∧
      (loadFonts host provider p.config.fonts).run.run s = (.ok p.fonts, t) := by
  cases hresolve : Config.resolve options file with
  | error cause =>
    rw [build_of_error host provider hresolve] at h
    cases (Prod.mk.inj h).1
  | ok config =>
    cases hload : (loadFonts host provider config.fonts).run.run s with
    | mk loaded u =>
      rw [run_build_of_ok host provider hresolve hload] at h
      obtain ⟨hresult, rfl⟩ := Prod.mk.inj h
      cases loaded with
      | error cause => cases hresult
      | ok fonts =>
        obtain rfl := Except.ok.inj hresult
        exact ⟨rfl, hload⟩

/-- A pipeline is built in two stages. Where the configuration does not resolve, that is the
failure, and nothing was asked of the system or the provider. Otherwise the fonts are loaded,
and their failure is the only one left. With the fonts every variant has the face that was
chosen for it, and every text is rendered, into the bytes of its document, which has one page
and knows the fonts of all variants. -/
theorem build_fails_or_renders (options : Config.Options) (file : Option Config.File) :
    (∀ cause, Config.resolve options file = .error cause →
      ∀ (m : Type → Type) [Monad m] (host : Host m) (provider : Option (Provider m)),
        (build host options file provider).run = pure (.error (.config cause))) ∧
    ∀ config, Config.resolve options file = .ok config →
      ∀ (σ : Type) (host : Host (StateM σ)) (provider : Option (Provider (StateM σ))) (s : σ),
        ∃ loaded t, (loadFonts host provider config.fonts).run.run s = (loaded, t) ∧
          ((∃ cause, loaded = .error cause ∧
              (build host options file provider).run.run s = (.error (.font cause), t)) ∨
            ∃ fonts, loaded = .ok fonts ∧
              (build host options file provider).run.run s = (.ok ⟨config, fonts⟩, t) ∧
              (∀ v, config.fonts.Gives v (fonts.face v)) ∧
              ∀ text, (⟨config, fonts⟩ : Pipeline).render text =
                  .ok (document ⟨config, fonts⟩ text).write ∧
                (∃ content, (document ⟨config, fonts⟩ text).pages? =
                  some [Pdf.pageObject config.page content]) ∧
                ∀ v, ∃ o, (document ⟨config, fonts⟩ text).font? (Pdf.fontName fonts v) = some o ∧
                  Pdf.IsDictionaryOf o (fonts.face v)) := by
  constructor
  · intro cause hresolve m _ host provider
    exact build_of_error host provider hresolve
  · intro config hresolve σ host provider s
    cases hload : (loadFonts host provider config.fonts).run.run s with
    | mk loaded t =>
      have hbuild := run_build_of_ok host provider hresolve hload
      refine ⟨loaded, t, rfl, ?_⟩
      cases loaded with
      | error cause => exact .inl ⟨cause, rfl, hbuild⟩
      | ok fonts =>
        refine .inr ⟨fonts, rfl, hbuild, ?_, fun text => ⟨render_eq _ text, ?_⟩⟩
        · exact loadFonts_yields host provider config.fonts s fonts t hload
        · exact document_one_page ⟨config, fonts⟩ text

def bareHost {m : Type → Type} [Monad m] : Host m where
  disk :=
    { read := fun _ => throw (.system .notFound)
      write := fun _ _ => throw (.system .notFound)
      makeDirectory := fun _ => throw (.system .notFound)
      isDirectory := fun _ => pure false
      isFile := fun _ => pure false }
  now := pure 0
  installedFonts := pure []
  input := pure .empty
  print := fun _ => pure ()

/-- The options of a document in the face of a file. -/
def fileOptions : Config.Options := { fonts := some { regular := "a.ttf" } }

/-- A provider without files notes that it is asked for one, unless the font size is refused
before. Without options a text is rendered in the built-in faces. -/
theorem build_fails_or_renders_bare :
    let provider : Option (Provider (StateM (List String))) := some (Shelf.mk []).provider.logged
    (build bareHost { fileOptions with fontSize := some (-1) } none provider).run.run [] =
        (.error (.config (.notPositive .fontSize (-1))), []) ∧
      (∃ cause, (build bareHost fileOptions none provider).run.run [] =
        (.error (.font cause), ["a.ttf"])) ∧
      ∃ config fonts, (build bareHost {} none provider).run.run [] =
          (.ok ⟨config, fonts⟩, []) ∧
        fonts.face .bold = .standard (.helvetica .bold) ∧
        (⟨config, fonts⟩ : Pipeline).render ['a'] = .ok (document ⟨config, fonts⟩ ['a']).write ∧
        (document ⟨config, fonts⟩ ['a']).pages?.map List.length = some 1 := by
  intro provider
  refine ⟨?_, ?_, ?_⟩
  · obtain ⟨hrefused, -⟩ := build_fails_or_renders { fileOptions with fontSize := some (-1) } none
    exact congrArg (·.run []) (hrefused (.notPositive .fontSize (-1)) rfl _ bareHost provider)
  · obtain ⟨-, hresolved⟩ := build_fails_or_renders fileOptions none
    obtain ⟨loaded, log, hload, hbuild⟩ :=
      hresolved (.combine fileOptions {} (.files { regular := "a.ttf" } none)) rfl _ bareHost
        provider []
    rcases hbuild with ⟨cause, rfl, hfailed⟩ | ⟨fonts, rfl, -⟩
    · refine ⟨cause, hfailed.trans ?_⟩
      cases hload
      rfl
    · cases hload
  · obtain ⟨-, hresolved⟩ := build_fails_or_renders {} none
    obtain ⟨loaded, log, hload, hbuild⟩ :=
      hresolved (.combine {} {} .standard) rfl _ bareHost provider []
    cases hload
    rcases hbuild with ⟨cause, hfailed, -⟩ | ⟨fonts, -, hbuilt, hgives, hrender⟩
    · cases hfailed
    · obtain ⟨hbytes, ⟨content, hpages⟩, -⟩ := hrender ['a']
      refine ⟨_, fonts, hbuilt, hgives .bold, hbytes, ?_⟩
      rw [hpages]
      rfl

end Pipeline

end TaggedPage
