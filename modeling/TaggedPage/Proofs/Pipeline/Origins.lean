import TaggedPage.Builder
import TaggedPage.Proofs.Command.Written
import TaggedPage.Proofs.Config.Accepted
import TaggedPage.Proofs.Files.Directory
import TaggedPage.Proofs.Json.Stored

/-! # Where font files come from

A builder is told what to build from step by step, and of each thing the last step counts that
says anything of it (`latest`, `Reflects`). What the steps say decides where the file of a font is
read (`origin`): with a provider it is the one that has the name, and otherwise the
file on the disk, in the directory of a configuration file if that was read from the disk and
names the font. A built pipeline has its fonts from there (`loadFonts_eq`).

On a tree of files the directory of a configuration file is the one in which it stands, so a font
is found beside it from every working directory if the path of the configuration is absolute.
-/

namespace TaggedPage

open Font (Library Loads Refuses Sources)

namespace Builder

variable {m : Type → Type}

/-! ## What the steps say -/

def Step.options? : Step m → Option Config.Options
  | .options given => some given
  | _ => none

def Step.provider? : Step m → Option (Provider m)
  | .provider given => some given
  | _ => none

/-- The configuration that a step sets: a file with its path, or a text, which has none. -/
def Step.config? : Step m → Option (Option RawText)
  | .configFile path => some (some path)
  | .configSource _ => some none
  | _ => none

/-- What the last step says of something, among those that say anything of it. -/
def latest {α : Type} (f : Step m → Option α) (steps : List (Step m)) : Option α :=
  steps.reverse.findSome? f

theorem latest_append_singleton {α : Type} (f : Step m → Option α) (steps : List (Step m))
    (step : Step m) : latest f (steps ++ [step]) = (f step).or (latest f steps) := by
  rw [latest, latest, List.reverse_append, List.reverse_singleton, List.singleton_append,
    List.findSome?_cons]
  cases f step <;> rfl

/-! ## Origins -/

/-- Where the bytes of a font file are. -/
inductive Origin (m : Type → Type) where
  | provider (provider : Provider m) (name : String)
  | disk (path : RawText)

def Origin.read [Monad m] (host : Host m) : Origin m → m (Except ResourceError ByteArray)
  | .provider given name => given.load name
  | .disk path => do
    let answer ← (host.disk.read path).run
    return answer.mapError fun failure =>
      if failure = .system .notFound then .notFound path.shown
      else .loadFailed path.shown failure.message

/-- Where the steps say that the font file with a path is. -/
def origin (steps : List (Step m)) (path : String) : Origin m :=
  match latest Step.provider? steps with
  | some given => .provider given path
  | none =>
    if Path.isAbsolute path then .disk path
    else
      match ((latest Step.options? steps).getD {}).fonts, latest Step.config? steps with
      | none, some (some configPath) => .disk (Path.join (Path.directory configPath) path)
      | _, _ => .disk (Path.join "." path)

/-- The fonts are named by a configuration file that was read from the disk. -/
def FromConfiguration (steps : List (Step m)) (configPath : RawText) : Prop :=
  ((latest Step.options? steps).getD {}).fonts = none ∧
    latest Step.config? steps = some (some configPath)

theorem FromConfiguration.path_eq {steps : List (Step m)} {path other : RawText}
    (h : FromConfiguration steps path) (hother : FromConfiguration steps other) : path = other :=
  Option.some.inj (Option.some.inj (h.2.symm.trans hother.2))

theorem origin_of_fromConfiguration {steps : List (Step m)} {configPath : RawText}
    {name : String} (hprovider : latest Step.provider? steps = none)
    (h : FromConfiguration steps configPath) :
    origin steps name = .disk (Path.join (Path.directory configPath) name) := by
  rw [origin, hprovider, h.1, h.2]
  dsimp only
  split
  · next habsolute => rw [Path.join_of_isAbsolute habsolute]
  · rfl

theorem origin_of_not_fromConfiguration {steps : List (Step m)} {name : String}
    (hprovider : latest Step.provider? steps = none)
    (h : ∀ configPath, ¬ FromConfiguration steps configPath) :
    origin steps name = .disk (Path.join "." name) := by
  rw [origin, hprovider]
  dsimp only
  split
  · next habsolute => rw [Path.join_of_isAbsolute habsolute]
  · split
    · next configPath hfonts hconfig => exact absurd ⟨hfonts, hconfig⟩ (h configPath)
    · rfl

/-- The font files as the steps say where they are. -/
def origins [Monad m] (host : Host m) (steps : List (Step m)) : Provider m :=
  ⟨fun path => (origin steps path).read host⟩

end Builder

/-! ## Configurations -/

namespace Config

/-- The text of a configuration does not say in which directory it is. -/
theorem File.baseDir_of_ofJson {text : String} {file : File} (h : ofJson text = .ok file) :
    file.baseDir = none := by
  obtain ⟨node, hread⟩ := Json.exists_read_of_decode h
  refine Json.Record.keeps_read (P := fun file => file.baseDir = none) rfl ?_ hread
  intro f hf
  simp only [record, List.mem_cons, List.not_mem_nil, or_false] at hf
  rcases hf with rfl | rfl | rfl | rfl | rfl | rfl | rfl | rfl <;>
  · apply Json.Field.keeps_of
    intro file x hnone
    exact hnone

/-- A configuration that was read from the disk is in the directory of its path. -/
theorem File.baseDir_of_load {σ : Type} {disk : Disk (StateM σ)} {path : RawText} {file : File}
    {s t : σ} (h : (File.load disk path).run.run s = (.ok file, t)) :
    file.baseDir = some (Path.directory path) := by
  obtain ⟨answer, u, -, h⟩ := run_bind_eq_ok h
  cases answer with
  | error cause => cases (Prod.mk.inj h).1
  | ok text =>
    dsimp only at h
    split at h
    · cases (Prod.mk.inj h).1
    · obtain rfl := Except.ok.inj (Prod.mk.inj h).1
      rfl

theorem of_fontsOfTier_files {sources? : Option Font.Sources} {family : Option String}
    {dir baseDir : Option RawText} {sources : Font.Sources}
    (h : (fontsOfTier sources? family dir).map (·.getD .standard) = .ok (.files sources baseDir)) :
    sources? = some sources ∧ baseDir = dir := by
  cases sources? <;> cases family <;> cases h
  exact ⟨rfl, rfl⟩

/-- Font files are named by the options, and have no directory then, or by the file. -/
theorem of_resolve_files {options : Options} {file : Option File} {config : Config}
    {sources : Font.Sources} {baseDir : Option RawText} (h : resolve options file = .ok config)
    (hfonts : config.fonts = .files sources baseDir) :
    options.fonts = some sources ∧ baseDir = none ∨
      options.fonts = none ∧ (file.getD {}).fonts = some sources ∧
        baseDir = (file.getD {}).baseDir := by
  obtain ⟨fonts, hchoose, rfl, -⟩ := resolve_eq_ok_iff.mp h
  obtain rfl : fonts = .files sources baseDir := hfonts
  cases hnames : options.tier.names with
  | true =>
    rw [chooseFonts_of_names hnames] at hchoose
    exact .inl (of_fontsOfTier_files hchoose)
  | false =>
    rw [chooseFonts_of_not_names hnames] at hchoose
    exact .inr ⟨(Tier.eq_none_of_not_names hnames).1, of_fontsOfTier_files hchoose⟩

/-- Font files that the options name have no directory. -/
theorem fonts_of_resolve {options : Options} {file : Option File} {config : Config}
    {sources : Font.Sources} (h : resolve options file = .ok config)
    (hsources : options.fonts = some sources) : config.fonts = .files sources none := by
  obtain ⟨fonts, hchoose, rfl, -⟩ := resolve_eq_ok_iff.mp h
  have hnames : options.tier.names = true := by
    rw [Tier.names, Options.tier, hsources]
    rfl
  rw [chooseFonts_of_names hnames, hsources] at hchoose
  cases hfamily : options.fontFamily with
  | none =>
    rw [hfamily] at hchoose
    exact (Except.ok.inj hchoose).symm
  | some family =>
    rw [hfamily] at hchoose
    cases hchoose

end Config

namespace Builder

/-! ## Builders after steps -/

/-- The builder has what the steps say. -/
structure Reflects {m : Type → Type} (steps : List (Step m)) (b : Builder m) : Prop where
  options : b.options = (latest Step.options? steps).getD {}
  provider : b.provider = latest Step.provider? steps
  /-- A configuration is in the directory of its path, or in none. -/
  baseDir : b.file.map (·.baseDir) = (latest Step.config? steps).map (Option.map Path.directory)

variable {σ : Type} {host : Host (StateM σ)} {steps : List (Step (StateM σ))}
  {b c : Builder (StateM σ)} {s t : σ}

theorem Reflects.step (h : Reflects steps b) {x : Step (StateM σ)}
    (hstep : (b.step host x).run.run s = (.ok c, t)) : Reflects (steps ++ [x]) c := by
  have hoptions := latest_append_singleton Step.options? steps x
  have hprovider := latest_append_singleton Step.provider? steps x
  have hconfig := latest_append_singleton Step.config? steps x
  cases x with
  | configFile path =>
    obtain ⟨file, u, hload, hstep⟩ := run_bind_eq_ok hstep
    obtain rfl := Except.ok.inj (Prod.mk.inj hstep).1
    refine ⟨hoptions ▸ h.options, hprovider ▸ h.provider, ?_⟩
    rw [hconfig, Option.map_some, Config.File.baseDir_of_load hload]
    rfl
  | configSource text =>
    rw [Builder.step] at hstep
    split at hstep
    · cases (Prod.mk.inj hstep).1
    · next file hjson =>
      obtain rfl := Except.ok.inj (Prod.mk.inj hstep).1
      refine ⟨hoptions ▸ h.options, hprovider ▸ h.provider, ?_⟩
      rw [hconfig, Option.map_some, Config.File.baseDir_of_ofJson hjson]
      rfl
  | options given =>
    obtain rfl := Except.ok.inj (Prod.mk.inj hstep).1
    exact ⟨hoptions ▸ rfl, hprovider ▸ h.provider, hconfig ▸ h.baseDir⟩
  | provider given =>
    obtain rfl := Except.ok.inj (Prod.mk.inj hstep).1
    exact ⟨hoptions ▸ h.options, hprovider ▸ rfl, hconfig ▸ h.baseDir⟩

/-- A builder has what the steps say that led to it. -/
theorem reflects_of_run (h : (run host steps).run.run s = (.ok b, t)) : Reflects steps b := by
  induction steps using List.reverseRecOn generalizing b t with
  | nil =>
    obtain rfl := Except.ok.inj (Prod.mk.inj h).1
    exact ⟨rfl, rfl, rfl⟩
  | append_singleton steps x ih =>
    rw [run, List.foldlM_append] at h
    obtain ⟨before, u, hbefore, h⟩ := run_bind_eq_ok h
    rw [List.foldlM_cons] at h
    obtain ⟨after, v, hstep, h⟩ := run_bind_eq_ok h
    obtain rfl := Except.ok.inj (Prod.mk.inj h).1
    exact (ih hbefore).step hstep

/-! ## The fonts of a pipeline -/

section Fonts

variable {steps : List (Step m)} {b : Builder m} {config : Config} {sources : Sources}
  {baseDir : Option RawText}

/-- The directory of the configuration that a builder has. -/
theorem Reflects.baseDir_file (h : Reflects steps b) :
    (b.file.getD {}).baseDir = (latest Step.config? steps).join.map Path.directory := by
  have hbaseDir := h.baseDir
  cases hfile : b.file with
  | none =>
    rw [hfile] at hbaseDir
    rw [Option.map_eq_none_iff.mp hbaseDir.symm]
    rfl
  | some file =>
    rw [hfile] at hbaseDir
    obtain ⟨path, hpath, hdir⟩ := Option.map_eq_some_iff.mp hbaseDir.symm
    rw [hpath]
    exact hdir.symm

/-- Without a provider font files are read from the disk, seen from the directory that belongs
to the source of the fonts. -/
theorem Reflects.origin_eq (h : Reflects steps b)
    (hresolve : Config.resolve b.options b.file = .ok config)
    (hfonts : config.fonts = .files sources baseDir)
    (hprovider : latest Step.provider? steps = none) (path : String) :
    origin steps path = .disk (Path.join (baseDir.getD Disk.currentDirectory) path) := by
  rcases Config.of_resolve_files hresolve hfonts with ⟨hsome, rfl⟩ | ⟨hnone, -, rfl⟩
  · apply origin_of_not_fromConfiguration hprovider
    rintro configPath ⟨hnone, -⟩
    rw [← h.options, hsome] at hnone
    cases hnone
  · rw [h.options] at hnone
    rw [h.baseDir_file]
    cases hconfig : (latest Step.config? steps).join with
    | some configPath =>
      exact origin_of_fromConfiguration hprovider ⟨hnone, Option.join_eq_some_iff.mp hconfig⟩
    | none =>
      apply origin_of_not_fromConfiguration hprovider
      rintro configPath ⟨-, hsome⟩
      rw [hsome] at hconfig
      cases hconfig

variable [Monad m]

/-- The fonts of a builder are loaded from where its steps say that they are. -/
theorem Reflects.loadFonts_eq (h : Reflects steps b) (host : Host m)
    (hresolve : Config.resolve b.options b.file = .ok config)
    (hfonts : config.fonts = .files sources baseDir) :
    Pipeline.loadFonts host b.provider config.fonts =
      Library.load (origins host steps) sources := by
  have hsame : b.provider.getD (host.disk.provider (baseDir.getD Disk.currentDirectory)) =
      origins host steps := by
    rw [h.provider]
    cases hprovider : latest Step.provider? steps with
    | some given =>
      simp only [origins, origin, hprovider]
      rfl
    | none =>
      refine congrArg Provider.mk (funext fun path => ?_)
      rw [h.origin_eq hresolve hfonts hprovider]
      rfl
  rw [hfonts, ← hsame]
  rfl

end Fonts

/-! ## Builders on a tree of files -/

section OnTree

variable {world : Surroundings}
  {steps : List (Step (StateM Tree))} {b c : Builder (StateM Tree)} {t u : Tree}

theorem step_reads (b : Builder (StateM Tree)) (x : Step (StateM Tree)) :
    TaggedPage.Reads (b.step (Tree.host world) x) := by
  cases x with
  | configFile path => exact (Tree.load_reads path).bind fun file => .pure _
  | configSource text =>
    rw [Builder.step]
    split
    · exact .throw _
    · exact .pure _
  | options given => exact .pure _
  | provider given => exact .pure _

/-- A configuration file that a step loads is there. -/
theorem exists_file_of_step {x : Step (StateM Tree)} {path : RawText}
    (h : (b.step (Tree.host world) x).run.run t = (.ok c, u))
    (hx : x.config? = some (some path)) :
    ∃ place data, t.locate path = .ok place ∧ t.file? place = some data := by
  cases x with
  | configFile configPath =>
    obtain rfl : configPath = path := Option.some.inj (Option.some.inj hx)
    obtain ⟨file, v, hload, -⟩ := run_bind_eq_ok h
    obtain ⟨source, read, ⟨bytes, hread, -⟩, -⟩ := Tree.of_load hload
    obtain ⟨place, hlocate, hfile⟩ := Tree.file?_of_read hread
    exact ⟨place, bytes, hlocate, hfile⟩
  | configSource text => cases hx
  | options given => cases hx
  | provider given => cases hx

/-- Steps change nothing on the disk, and the configuration file that counts is there. -/
theorem exists_file_of_run (h : (run (Tree.host world) steps).run.run t = (.ok b, u)) :
    u = t ∧ ∀ path, latest Step.config? steps = some (some path) →
      ∃ place data, t.locate path = .ok place ∧ t.file? place = some data := by
  induction steps using List.reverseRecOn generalizing b u with
  | nil => exact ⟨(Prod.mk.inj h).2.symm, nofun⟩
  | append_singleton steps x ih =>
    rw [run, List.foldlM_append] at h
    obtain ⟨before, v, hbefore, hrest⟩ := run_bind_eq_ok h
    rw [List.foldlM_cons] at hrest
    obtain ⟨after, w, hstep, hlast⟩ := run_bind_eq_ok hrest
    obtain ⟨rfl, hconfig⟩ := ih hbefore
    have hreads : v = ((before.step (Tree.host world) x).run.run v).2 :=
      step_reads before x v
    rw [hstep] at hreads
    refine ⟨(Prod.mk.inj hlast).2.symm.trans hreads.symm, fun path hpath => ?_⟩
    rw [latest_append_singleton] at hpath
    rcases Option.or_eq_some_iff.mp hpath with hx | ⟨-, hbefore⟩
    · exact exists_file_of_step hstep hx
    · exact hconfig path hbefore

/-- A path leads from a place, where it names something at all. -/
def LeadsFrom (t : Tree) (place : Location) (name path : RawText) : Prop :=
  Tree.checkPath path = .ok () →
    t.locate path = (t.follow place (Path.names name)).mapError .system

/-- A font file that is looked up under a path is found beside the configuration file that names
it, from every working directory if that file has an absolute path, and is otherwise found from
the working directory. -/
structure FoundUnder (t : Tree) (steps : List (Step (StateM Tree))) (name path : RawText) :
    Prop where
  besideConfiguration : ∀ configPath, FromConfiguration steps configPath →
    ∃ place data, t.locate configPath = .ok place ∧ t.file? place = some data ∧
      (Path.isAbsolute name = false → LeadsFrom t place.dropLast name path)
  fromEverywhere : ∀ configPath, FromConfiguration steps configPath →
    Path.isAbsolute configPath = true →
      ∀ (v : Tree) (current : Location), { v with current }.locate path = v.locate path
  fromWorkingDirectory : (∀ configPath, ¬ FromConfiguration steps configPath) →
    Path.isAbsolute name = false → LeadsFrom t t.current name path

theorem foundUnder_of_run (ht : t.IsRooted)
    (h : (run (Tree.host world) steps).run.run t = (.ok b, u))
    (hprovider : latest Step.provider? steps = none) (name : String) :
    ∃ path, origin steps name = .disk path ∧ FoundUnder t steps name path := by
  obtain ⟨-, hconfig⟩ := exists_file_of_run h
  by_cases hfrom : ∃ configPath, FromConfiguration steps configPath
  · obtain ⟨configPath, hfrom⟩ := hfrom
    obtain ⟨place, data, hlocate, hfile⟩ := hconfig configPath hfrom.2
    refine ⟨_, origin_of_fromConfiguration hprovider hfrom, ?_, ?_, ?_⟩
    · rintro other hother
      obtain rfl := hfrom.path_eq hother
      refine ⟨place, data, hlocate, hfile, fun hname hcheck => ?_⟩
      exact Tree.locate_join_of_isDirectoryAt (Tree.isDirectoryAt_directory ht hlocate hfile) hname
        hcheck
    · intro other hother habsolute v current
      obtain rfl := hfrom.path_eq hother
      obtain ⟨front, last, rfl, hplain, hfront⟩ := Tree.exists_plain_of_file ht hlocate hfile
      rw [← Path.isAbsolute_directory hplain hfront] at habsolute
      exact Tree.locate_of_isAbsolute (Path.isAbsolute_join habsolute name) v current
    · intro hnot
      exact absurd hfrom (hnot configPath)
  · have hnot : ∀ configPath, ¬ FromConfiguration steps configPath := not_exists.mp hfrom
    refine ⟨_, origin_of_not_fromConfiguration hprovider hnot, ?_, ?_, ?_⟩
    · intro configPath hfrom
      exact absurd hfrom (hnot configPath)
    · intro configPath hfrom
      exact absurd hfrom (hnot configPath)
    · intro _ hname hcheck
      exact Tree.locate_join_of_isDirectoryAt ht.isDirectoryAt_dot hname hcheck

end OnTree

/-! ## The result -/

/-- A builder that resolves to font files builds its pipeline with what is read where its steps
say, or reports the first file that cannot be had there. What a configuration file says and
where it is plays no part if the options name the files. On a tree of files, without a provider,
a relative name leads on from the directory of the configuration file that names it, whatever
the working directory is if the path of that file is absolute, and else from the working
directory. -/
theorem fonts_come_from_origins :
    (∀ (σ : Type) (host : Host (StateM σ)) (steps : List (Step (StateM σ))) (s t : σ)
        (b : Builder (StateM σ)) (config : Config) (sources : Sources) (baseDir : Option RawText),
      (run host steps).run.run s = (.ok b, t) →
      Config.resolve b.options b.file = .ok config → config.fonts = .files sources baseDir →
        (∀ u, ∃ result v, (b.build host).run.run u = (result, v) ∧
          ((∃ fonts loaded, result = .ok ⟨config, fonts⟩ ∧
              Loads (origins host steps) u sources.requests loaded v ∧
              fonts.IsMadeOf sources loaded) ∨
            ∃ before variant path after loaded w cause, result = .error (.font cause) ∧
              sources.requests = before ++ (variant, path) :: after ∧
              Loads (origins host steps) u before loaded w ∧
              Refuses (origins host steps) w variant path cause v)) ∧
        (b.options.fonts.isSome → ∀ file other, Config.resolve b.options file = .ok other →
          other.fonts = config.fonts)) ∧
    ∀ (world : Surroundings) (steps : List (Step (StateM Tree))) (t u : Tree)
        (b : Builder (StateM Tree)),
      t.IsRooted → (run (Tree.host world) steps).run.run t = (.ok b, u) →
      latest Step.provider? steps = none →
        ∀ name, ∃ path, origin steps name = .disk path ∧ FoundUnder t steps name path := by
  constructor
  · intro σ host steps s t b config sources baseDir hrun hresolve hfonts
    constructor
    · intro u
      obtain ⟨loaded?, asked, v, hload, -, hloaded⟩ :=
        Library.load_asks (origins host steps) sources u
      rw [← (reflects_of_run hrun).loadFonts_eq host hresolve hfonts] at hload
      refine ⟨_, v, Pipeline.run_build_of_ok host b.provider hresolve hload, ?_⟩
      rcases hloaded with ⟨fonts, loaded, rfl, hloads, -, hmade⟩ |
        ⟨before, variant, path, after, loaded, w, cause, rfl, hrequests, hbefore, hrefused, -⟩
      · exact .inl ⟨fonts, loaded, rfl, hloads, hmade⟩
      · exact .inr ⟨before, variant, path, after, loaded, w, cause, rfl, hrequests, hbefore,
          hrefused⟩
    · intro hsome file other hother
      obtain ⟨given, hgiven⟩ := Option.isSome_iff_exists.mp hsome
      rw [Config.fonts_of_resolve hother hgiven, Config.fonts_of_resolve hresolve hgiven]
  · intro world steps t u b ht hrun hprovider name
    exact foundUnder_of_run ht hrun hprovider name

/-- A tree in which one works beside the directory of a configuration file. -/
def besideTree : Tree where
  entries :=
    [(["c"], .directory),
      (["c", "conf.json"],
        .file "\x7b\"fonts\":\x7b\"regular\":\"a.ttf\"\x7d\x7d".toUTF8),
      (["w"], .directory)]
  current := ["w"]

theorem isRooted_besideTree : besideTree.IsRooted := by
  apply Tree.isRooted_of_entries rfl
  intro entry hentry
  simp only [besideTree, List.mem_cons, List.not_mem_nil, or_false] at hentry
  rcases hentry with rfl | rfl | rfl <;> rfl

/-- A text and then a configuration file, which counts. -/
def fileSteps : List (Step (StateM Tree)) :=
  [.configSource "\x7b\"fontSize\":9\x7d", .configFile "/c/conf.json"]

def files? (b : Builder (StateM Tree)) : Option (Sources × Option RawText) :=
  (Config.resolve b.options b.file).toOption.bind fun config =>
    match config.fonts with
    | .files sources baseDir => some (sources, baseDir)
    | _ => none

theorem exists_of_files? {b : Builder (StateM Tree)} {sources : Sources} {baseDir : Option RawText}
    (h : files? b = some (sources, baseDir)) : ∃ config,
      Config.resolve b.options b.file = .ok config ∧ config.fonts = .files sources baseDir := by
  rw [files?] at h
  cases hresolve : Config.resolve b.options b.file with
  | error cause =>
    rw [hresolve] at h
    cases h
  | ok config =>
    rw [hresolve] at h
    refine ⟨config, rfl, ?_⟩
    simp only [Except.toOption, Option.bind_some] at h
    split at h
    · next hfonts =>
      obtain ⟨rfl, rfl⟩ := Prod.mk.inj (Option.some.inj h)
      exact hfonts
    · cases h

/-- The configuration file that counts names a font and nothing else. -/
theorem exists_run_fileSteps : ∃ b config,
    (run (Tree.host { time := 0 }) fileSteps).run.run besideTree = (.ok b, besideTree) ∧
      Config.resolve b.options b.file = .ok config ∧
      config.fonts = .files { regular := "a.ttf" } (some "/c") := by
  have hfiles :
      ((run (Tree.host { time := 0 }) fileSteps).run.run besideTree).1.toOption.bind files? =
        some (({ regular := "a.ttf" } : Sources), some ("/c" : RawText)) := by
    decide +kernel
  cases hrun : (run (Tree.host { time := 0 }) fileSteps).run.run besideTree with
  | mk result u =>
    rw [hrun] at hfiles
    cases result with
    | error failure => cases hfiles
    | ok b =>
      obtain ⟨config, hresolve, hfonts⟩ := exists_of_files? hfiles
      obtain ⟨rfl, -⟩ := exists_file_of_run hrun
      exact ⟨b, config, rfl, hresolve, hfonts⟩

/-- The options of a document in the face of a file. -/
def fontOptions : Config.Options := { fonts := some { regular := "a.ttf" } }

/-- The font that the configuration file names is missed beside it, and would be found there from
every working directory. One that the options name is looked up in the working directory, with
whatever configuration file. -/
theorem fonts_come_from_origins_beside :
    (∃ b v, (run (Tree.host { time := 0 }) fileSteps).run.run besideTree = (.ok b, besideTree) ∧
      (b.build (Tree.host { time := 0 })).run.run besideTree =
        (.error (.font (.missing .normal "a.ttf" (.notFound "/c/a.ttf"))), v)) ∧
    (∀ current, { besideTree with current }.locate "/c/a.ttf" = .ok ["c", "a.ttf"]) ∧
    (∀ file other, Config.resolve fontOptions file = .ok other →
      other.fonts = .files { regular := "a.ttf" } none) ∧
    besideTree.locate "./a.ttf" = .ok ["w", "a.ttf"] := by
  obtain ⟨hfonts, hplaces⟩ := fonts_come_from_origins
  have hrun : (run (Tree.host { time := 0 }) [.options fontOptions]).run.run besideTree =
      (.ok { options := fontOptions }, besideTree) := rfl
  refine ⟨?_, ?_, ?_, ?_⟩
  · obtain ⟨b, config, hrun, hresolve, hfiles⟩ := exists_run_fileSteps
    obtain ⟨hbuild, -⟩ := hfonts Tree (Tree.host { time := 0 }) fileSteps besideTree besideTree b
      config _ _ hrun hresolve hfiles
    obtain ⟨result, v, hresult, hloaded⟩ := hbuild besideTree
    refine ⟨b, v, hrun, hresult.trans ?_⟩
    have hmissing : ((origins (Tree.host { time := 0 }) fileSteps).load "a.ttf").run besideTree =
        (.error (.notFound "/c/a.ttf"), besideTree) := by
      rfl
    rcases hloaded with ⟨fonts, loaded, -, hloads, -⟩ |
      ⟨before, variant, path, after, loaded, w, cause, rfl, hrequests, hbefore, hrefused⟩
    · cases hloads with
      | cons first _ =>
        obtain ⟨data, hload, -⟩ := first
        cases (Prod.mk.inj (hmissing.symm.trans hload)).1
    · have hrequests : [(Variant.normal, "a.ttf")] = before ++ (variant, path) :: after := hrequests
      rcases List.singleton_eq_append_iff.mp hrequests with ⟨rfl, hfirst⟩ | ⟨-, hnone⟩
      · cases hfirst
        cases hbefore
        cases hrefused with
        | missing hload =>
          obtain ⟨hsource, -⟩ := Prod.mk.inj (hmissing.symm.trans hload)
          rw [Except.error.inj hsource]
        | unreadable hload => cases (Prod.mk.inj (hmissing.symm.trans hload)).1
      · cases hnone
  · intro current
    obtain ⟨b, config, hrun, -, -⟩ := exists_run_fileSteps
    obtain ⟨path, horigin, hfound⟩ := hplaces { time := 0 } fileSteps besideTree besideTree b
      isRooted_besideTree hrun rfl "a.ttf"
    have hfrom : FromConfiguration fileSteps "/c/conf.json" := ⟨rfl, rfl⟩
    obtain rfl : "/c/a.ttf" = path := by
      injection horigin
    rw [hfound.fromEverywhere "/c/conf.json" hfrom rfl]
    obtain ⟨place, data, hlocate, -, hleads⟩ := hfound.besideConfiguration "/c/conf.json" hfrom
    obtain rfl : (["c", "conf.json"] : Location) = place := by
      injection hlocate
    exact (hleads rfl rfl).trans rfl
  · intro file other hother
    obtain ⟨-, hsame⟩ := hfonts Tree (Tree.host { time := 0 }) [.options fontOptions] besideTree
      besideTree _ (.combine fontOptions {} (.files { regular := "a.ttf" } none)) _ _ hrun rfl rfl
    exact hsame rfl file other hother
  · obtain ⟨path, horigin, hfound⟩ := hplaces { time := 0 } [.options fontOptions] besideTree
      besideTree _ isRooted_besideTree hrun rfl "a.ttf"
    obtain rfl : "./a.ttf" = path := by
      injection horigin
    have hnot : ∀ configPath, ¬ FromConfiguration
        ([.options fontOptions] : List (Step (StateM Tree))) configPath := by
      rintro configPath ⟨-, hconfig⟩
      cases hconfig
    exact (hfound.fromWorkingDirectory hnot rfl rfl).trans rfl

end Builder

/-! ## The builder of the command -/

namespace Command

def Arguments.steps (a : Arguments) : List (Builder.Step (StateM Tree)) :=
  (a.config.map .configFile).toList ++ [.options a.options]

/-- The pipeline of a document is the one that a builder makes of the arguments. -/
theorem makeDocument_eq_builder (world : Surroundings) (a : Arguments) :
    makeDocument (Tree.host world) a =
      ExceptT.adapt Failure.io (readText (Tree.host world) a) >>= fun text =>
        Builder.run (Tree.host world) a.steps >>= fun b =>
          b.build (Tree.host world) >>= fun pipeline =>
            pipeline.renderToFile (Tree.host world) text.toList := by
  refine bind_congr (x := ExceptT.adapt Failure.io (readText (Tree.host world) a))
    fun text => ?_
  cases hconfig : a.config with
  | none => simp [Arguments.steps, hconfig, Builder.run, Builder.step, Builder.build]
  | some path =>
    simp [Arguments.steps, hconfig, Builder.run, Builder.step, Builder.build, Tree.host]

end Command

end TaggedPage
