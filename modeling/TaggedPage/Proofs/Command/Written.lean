import TaggedPage.Command.Run
import TaggedPage.Proofs.Files.Output
import TaggedPage.Proofs.Pipeline.Build
import TaggedPage.Surroundings

/-! # What a run of the command writes

On a tree of files, all that a document is made of is read before anything is written. Where
reading, resolving, loading or drawing fails, the tree is as it was; where the output directory
cannot be made or the file cannot be opened, there are at most new directories. A run that opens
the file of its document changes no other one, and it ends with 0 only if the whole document is
in its file and its path was printed (`run_writes_one_file`).
-/

namespace TaggedPage

/-! ## What is only read -/

namespace Font

variable {σ : Type} {p : Provider (StateM σ)}

section Same

variable {s t : σ} (h : ∀ path s, s = ((p.load path).run s).2)
include h

theorem Loads.same {requests : List (Variant × String)} {loaded : List (Variant × TrueType)}
    (hloads : Loads p s requests loaded t) : s = t := by
  induction hloads with
  | nil => rfl
  | @cons s _ _ _ path _ _ _ first _ ih =>
    obtain ⟨data, hload, -⟩ := first
    have hsame := h path s
    rw [hload] at hsame
    exact hsame.trans ih

theorem Refuses.same {v : Variant} {path : String} {cause : LibraryError}
    (hrefused : Refuses p s v path cause t) : s = t := by
  have hsame := h path s
  cases hrefused with
  | missing hload | unreadable hload =>
    rw [hload] at hsame
    exact hsame

theorem Library.load_reads (sources : Sources) : Reads (Library.load p sources) := by
  intro s
  obtain ⟨result, asked, t, hrun, -, hresult⟩ := Library.load_asks p sources s
  rw [hrun]
  obtain ⟨_, _, _, hloads, -⟩ | ⟨_, _, _, _, _, _, _, _, _, hbefore, hrefused, -⟩ := hresult
  · exact hloads.same h
  · exact (hbefore.same h).trans (hrefused.same h)

end Same

end Font

def decode {σ : Type} (bytes : ByteArray) : ExceptT IoError (StateM σ) String :=
  match String.fromUTF8? bytes with
  | some text => return text
  | none => throw .notUtf8

theorem decode_reads {σ : Type} (bytes : ByteArray) :
    Reads (decode bytes : ExceptT IoError (StateM σ) String) := by
  unfold decode
  split
  · exact .pure _
  · exact .throw _

theorem fromUTF8?_of_decode {σ : Type} {bytes : ByteArray} {text : String} {s u : σ}
    (h : (decode bytes).run.run s = (.ok text, u)) : String.fromUTF8? bytes = some text := by
  unfold decode at h
  split at h
  · next hdecoded => exact hdecoded.trans (congrArg some (Except.ok.inj (Prod.mk.inj h).1))
  · cases (Prod.mk.inj h).1

namespace Tree

variable {world : Surroundings}

theorem readText_eq (path : RawText) : disk.readText path = disk.read path >>= decode := rfl

theorem readText_reads (path : RawText) : Reads (disk.readText path) :=
  (keeps_read path).bind decode_reads

theorem loadFonts_reads (choice : Config.FontChoice) :
    Reads (Pipeline.loadFonts (Tree.host world) none choice) := by
  cases choice with
  | standard => exact .pure Font.Library.standard
  | files sources baseDir => exact Font.Library.load_reads (fun _ _ => rfl) sources
  | family name => exact (Keeps.lift (R := Eq) fun _ => rfl).bind fun files _ => rfl

theorem build_reads (options : Config.Options) (file : Option Config.File) :
    Reads (Pipeline.build (Tree.host world) options file none) := by
  unfold Pipeline.build
  split
  · exact .throw _
  · next config _ =>
    refine (Keeps.lift (loadFonts_reads config.fonts)).bind fun loaded => ?_
    split
    · exact .throw _
    · exact .pure _

theorem load_reads (path : RawText) : Reads (Config.File.load disk path) := by
  refine (Keeps.lift (readText_reads path)).bind fun answer => ?_
  split
  · exact .throw _
  · split
    · exact .throw _
    · exact .pure _

end Tree

/-! ## What a document is made of -/

/-- The path names a file with this text. -/
def Tree.HasText (t : Tree) (path : RawText) (text : String) : Prop :=
  ∃ bytes, t.read path = .ok bytes ∧ String.fromUTF8? bytes = some text

theorem Tree.hasText_of_readText {t u : Tree} {path : RawText} {text : String}
    (h : (disk.readText path).run.run t = (.ok text, u)) : t.HasText path text := by
  rw [readText_eq] at h
  obtain ⟨bytes, v, hread, hdecode⟩ := run_bind_eq_ok h
  exact ⟨bytes, congrArg Prod.fst hread, fromUTF8?_of_decode hdecode⟩

theorem Tree.of_load {t u : Tree} {path : RawText} {file : Config.File}
    (h : (Config.File.load disk path).run.run t = (.ok file, u)) :
    ∃ source read, t.HasText path source ∧ Config.File.ofJson source = .ok read ∧
      file = { read with baseDir := some ((Path.parent? path).getD "") } := by
  obtain ⟨answer, v, hanswer, h⟩ := run_bind_eq_ok h
  have hread : (disk.readText path).run.run t = (answer, v) := run_lift_eq_ok hanswer
  cases answer with
  | error cause => cases (Prod.mk.inj h).1
  | ok source =>
    refine ⟨source, ?_⟩
    dsimp only at h
    split at h
    · cases (Prod.mk.inj h).1
    · next read hjson =>
      exact ⟨read, hasText_of_readText hread, hjson, (Except.ok.inj (Prod.mk.inj h).1).symm⟩

namespace Command

/-- The text that the arguments ask to be drawn: that of the input file, or else that of the
standard input. -/
def IsText (t : Tree) (input : Except IoError ByteArray) (a : Arguments) (text : String) : Prop :=
  match a.input with
  | some path => t.HasText path text
  | none => ∃ bytes, input = .ok bytes ∧ String.fromUTF8? bytes = some text

/-- What the configuration file says that the arguments name, if they name one. -/
def IsFile (t : Tree) (a : Arguments) : Option Config.File → Prop
  | none => a.config = none
  | some file => ∃ path source read, a.config = some path ∧ t.HasText path source ∧
      Config.File.ofJson source = .ok read ∧
      file = { read with baseDir := some ((Path.parent? path).getD "") }

variable {world : Surroundings} {a : Arguments} {t u : Tree}

def readText (host : Host (StateM Tree)) (a : Arguments) : ExceptT IoError (StateM Tree) String :=
  match a.input with
  | some path => host.disk.readText path
  | none => readInput host

def readFile (a : Arguments) : ExceptT Failure (StateM Tree) (Option Config.File) :=
  a.config.mapM (Config.File.load Tree.disk)

theorem readText_reads (a : Arguments) : Reads (readText (Tree.host world) a) := by
  unfold readText
  split
  · exact Tree.readText_reads _
  · have hinput : Reads (Tree.host world).input := fun _ => rfl
    exact hinput.bind decode_reads

theorem isText_of_readText {text : String}
    (h : (readText (Tree.host world) a).run.run t = (.ok text, u)) :
    IsText t world.input a text := by
  unfold readText at h
  unfold IsText
  split at h
  · exact Tree.hasText_of_readText h
  · obtain ⟨bytes, v, hinput, hdecode⟩ := run_bind_eq_ok h
    exact ⟨bytes, (Prod.mk.inj hinput).1, fromUTF8?_of_decode hdecode⟩

theorem readFile_reads (a : Arguments) : Reads (readFile a) := by
  unfold readFile
  cases a.config with
  | none => exact .pure none
  | some path => exact (Tree.load_reads path).bind fun file => .pure (some file)

theorem isFile_of_readFile {file : Option Config.File}
    (h : (readFile a).run.run t = (.ok file, u)) : IsFile t a file := by
  unfold readFile at h
  cases hpath : a.config with
  | none =>
    rw [hpath] at h
    obtain rfl := Except.ok.inj (Prod.mk.inj h).1
    exact hpath
  | some path =>
    rw [hpath] at h
    obtain ⟨loaded, v, hload, hpure⟩ := run_bind_eq_ok h
    obtain rfl := Except.ok.inj (Prod.mk.inj hpure).1
    obtain ⟨source, read, hsource, hread, rfl⟩ := Tree.of_load hload
    exact ⟨path, source, read, hpath, hsource, hread, rfl⟩

/-- Everything is read first. If that fails, nothing has happened; else what is left is to
draw the text and to write the document. -/
theorem run_makeDocument (world : Surroundings) (a : Arguments) (t : Tree) :
    (∃ failure, (makeDocument (Tree.host world) a).run.run t = (.error failure, t)) ∨
      ∃ text file pipeline, IsText t world.input a text ∧ IsFile t a file ∧
        (Pipeline.build (Tree.host world) a.options file none).run.run t =
          (.ok pipeline, t) ∧
        (makeDocument (Tree.host world) a).run.run t =
          (pipeline.renderToFile (Tree.host world) text.toList).run.run t := by
  have hmake : makeDocument (Tree.host world) a =
      ExceptT.adapt Failure.io (readText (Tree.host world) a) >>= fun text =>
        readFile a >>= fun file =>
          Pipeline.build (Tree.host world) a.options file none >>= fun pipeline =>
            pipeline.renderToFile (Tree.host world) text.toList := rfl
  have htext : Reads (ExceptT.adapt Failure.io (readText (Tree.host world) a)) :=
    (readText_reads a).adapt Failure.io
  rw [hmake]
  rcases htext.run_bind _ t with ⟨failure, -, hrun⟩ | ⟨text, hread, hrun⟩
  · exact .inl ⟨failure, hrun⟩
  rw [hrun]
  rcases (readFile_reads a).run_bind _ t with ⟨failure, -, hrun⟩ | ⟨file, hfile, hrun⟩
  · exact .inl ⟨failure, hrun⟩
  rw [hrun]
  rcases (Tree.build_reads a.options file).run_bind _ t with
    ⟨failure, -, hrun⟩ | ⟨pipeline, hbuild, hrun⟩
  · exact .inl ⟨failure, hrun⟩
  rw [hrun]
  exact .inr ⟨text, file, pipeline, isText_of_readText (run_adapt_eq_ok hread),
    isFile_of_readFile hfile, hbuild, rfl⟩

/-- Drawing a text never fails, so all that is left to do is to write its document. -/
theorem renderToFile_eq_writeDocument (world : Surroundings) (p : Pipeline) (text : List Char) :
    p.renderToFile (Tree.host world) text =
      ExceptT.adapt Failure.io (Output.writeDocument Tree.disk (pure world.time) p.config.outputDir
        p.config.documentName (p.document text).write) := by
  rw [Pipeline.renderToFile, p.render_eq text]
  rfl

/-! ## Runs -/

theorem run_print (world : Surroundings) (text : String) (t : Tree) :
    ((Tree.host world).print text).run.run t = (world.output, t) := rfl

/-- A run whose arguments ask for no document does nothing, and it ends with 0 only for help and
the version. -/
theorem run_of_stop (world : Surroundings) {arguments : List RawText} {stop : Stop} (t : Tree)
    (hread : Arguments.read arguments = .error stop) :
    ∃ outcome, (run (Tree.host world) arguments).run t = (outcome, t) ∧
      (outcome.exit = 0 → stop = .help ∨ stop = .version) := by
  have htell (text : String) : ∃ outcome, (tell (Tree.host world) text).run t = (outcome, t) := by
    rw [tell, StateT.run_bind, run_print]
    cases world.output with
    | ok _ => exact ⟨_, rfl⟩
    | error cause => exact ⟨_, rfl⟩
  rw [run, hread]
  cases stop with
  | mistake => exact ⟨{ exit := 2, err := usageText }, rfl, fun hexit => absurd hexit (by decide)⟩
  | help =>
    obtain ⟨outcome, hrun⟩ := htell usageText
    exact ⟨outcome, hrun, fun _ => .inl rfl⟩
  | version =>
    obtain ⟨outcome, hrun⟩ := htell versionText
    exact ⟨outcome, hrun, fun _ => .inr rfl⟩

theorem run_of_read {arguments : List RawText} {answer : Except Failure RawText}
    (hread : Arguments.read arguments = .ok a)
    (hmake : (makeDocument (Tree.host world) a).run.run t = (answer, u)) :
    (run (Tree.host world) arguments).run t = (conclude (Tree.host world) answer).run u := by
  rw [run, hread, StateT.run_bind, hmake]
  rfl

/-- A run that has made its document prints the path and ends with 0, or else ends with 101. -/
theorem run_conclude_ok (world : Surroundings) (path : RawText) (u : Tree) :
    ∃ outcome, (conclude (Tree.host world) (.ok path)).run u = (outcome, u) ∧
      (outcome.exit = 0 ∧ outcome.out = path.shown ++ "\n" ∨ outcome.exit = 101) := by
  rw [conclude, StateT.run_bind, run_print]
  cases world.output with
  | ok _ => exact ⟨_, rfl, .inl ⟨rfl, rfl⟩⟩
  | error cause => exact ⟨_, rfl, .inr rfl⟩

/-- The arguments ask for a document, and the pipeline that they give draws it in these bytes:
its text and the configuration file can be read, the configuration resolves, and its fonts can
be loaded. -/
def Draws (world : Surroundings) (arguments : List RawText) (t : Tree) (p : Pipeline)
    (bytes : List UInt8) : Prop :=
  ∃ (a : Arguments) (text : String) (file : Option Config.File),
    Arguments.read arguments = .ok a ∧ IsText t world.input a text ∧ IsFile t a file ∧
      Config.resolve a.options file = .ok p.config ∧
      (Pipeline.loadFonts (Tree.host world) none p.config.fonts).run.run t = (.ok p.fonts, t) ∧
      p.render text.toList = .ok bytes

/-- The file of the document of a pipeline has these bytes, and elsewhere there are at most new
directories. -/
def Leaves (world : Surroundings) (p : Pipeline) (t u : Tree) (bytes : List UInt8) : Prop :=
  ∃ around, t.Wrote u p.config.outputDir (Output.fileName p.config.documentName world.time)
    ⟨bytes.toArray⟩ around

/-- How a run can end. -/
inductive Ends (world : Surroundings) (arguments : List RawText) (t : Tree) : Outcome → Tree → Prop
  | stopped {outcome : Outcome} (stop : Stop) (hread : Arguments.read arguments = .error stop)
      (hexit : outcome.exit = 0 → stop = .help ∨ stop = .version) : Ends world arguments t outcome t
  | failed {outcome : Outcome} {u : Tree} (hexit : outcome.exit = 1) (hgrows : t.Grows u) :
      Ends world arguments t outcome u
  | brokeOff {outcome : Outcome} {u : Tree} {p : Pipeline} {bytes : List UInt8} (count : Nat)
      (hexit : outcome.exit = 1) (hcount : count < bytes.length)
      (hdraws : Draws world arguments t p bytes) (hleaves : Leaves world p t u (bytes.take count)) :
      Ends world arguments t outcome u
  | unprinted {outcome : Outcome} {u : Tree} {p : Pipeline} {bytes : List UInt8}
      (hexit : outcome.exit = 101) (hdraws : Draws world arguments t p bytes)
      (hleaves : Leaves world p t u bytes) : Ends world arguments t outcome u
  | printed {outcome : Outcome} {u : Tree} {p : Pipeline} {bytes : List UInt8}
      (hexit : outcome.exit = 0) (hdraws : Draws world arguments t p bytes)
      (hleaves : Leaves world p t u bytes)
      (hout : outcome.out =
        (Output.path p.config.outputDir p.config.documentName world.time).shown ++ "\n") :
      Ends world arguments t outcome u

theorem leaves_of_fills {p : Pipeline} {place : Location} {bytes : List UInt8}
    (h : t.Fills u (Output.path p.config.outputDir p.config.documentName world.time) place
      ⟨bytes.toArray⟩) : Leaves world p t u bytes :=
  Tree.Fills.wrote h (Output.isPlain_fileName _ _)

/-- Where everything has been read, the run ends as the writing of its document does. -/
theorem ends_of_draws {arguments : List RawText} {p : Pipeline} {text : List Char}
    (hdraws : Draws world arguments t p (p.document text).write) :
    ∃ outcome v, (conclude (Tree.host world)
        ((p.renderToFile (Tree.host world) text).run.run t).1).run
          ((p.renderToFile (Tree.host world) text).run.run t).2 = (outcome, v) ∧
      Ends world arguments t outcome v := by
  have hends := Output.writeDocument_ends world.time p.config.outputDir p.config.documentName
    (p.document text).write t
  rw [renderToFile_eq_writeDocument, run_adapt]
  generalize (Output.writeDocument Tree.disk (pure world.time) p.config.outputDir
    p.config.documentName (p.document text).write).run.run t = written at hends
  obtain ⟨answer, u⟩ := written
  cases hends with
  | refused cause hgrows => exact ⟨_, u, rfl, .failed rfl hgrows⟩
  | brokeOff cause count hcount hfills =>
    exact ⟨_, u, rfl, .brokeOff count rfl hcount hdraws (leaves_of_fills hfills)⟩
  | written hfills =>
    obtain ⟨outcome, hrun, ⟨hexit, hout⟩ | hexit⟩ := run_conclude_ok world
      (Output.path p.config.outputDir p.config.documentName world.time) u
    · exact ⟨outcome, u, hrun, .printed hexit hdraws (leaves_of_fills hfills) hout⟩
    · exact ⟨outcome, u, hrun, .unprinted hexit hdraws (leaves_of_fills hfills)⟩

theorem run_ends (world : Surroundings) (arguments : List RawText) (t : Tree) :
    ∃ outcome u, (run (Tree.host world) arguments).run t = (outcome, u) ∧
      Ends world arguments t outcome u := by
  cases hread : Arguments.read arguments with
  | error stop =>
    obtain ⟨outcome, hrun, hexit⟩ := run_of_stop world t hread
    exact ⟨outcome, t, hrun, .stopped stop hread hexit⟩
  | ok a =>
    rcases run_makeDocument world a t with
      ⟨failure, hmake⟩ | ⟨text, file, p, htext, hfile, hbuild, hmake⟩
    · exact ⟨_, t, run_of_read hread hmake, .failed rfl (Std.Refl.refl t)⟩
    · obtain ⟨hresolve, hload⟩ := Pipeline.of_run_build hbuild
      rw [run_of_read hread hmake]
      exact ends_of_draws
        ⟨a, text, file, hread, htext, hfile, hresolve, hload, p.render_eq text.toList⟩

/-- A run that ends with 0 although neither help nor the version was asked for has written exactly
one file. It stands directly in the output directory and holds the text as it is drawn with the
configuration that the arguments and the configuration file give, and its path was printed as it
is, if it is a text. A run that ends otherwise has made or changed no file but perhaps that of its
document, and not that one either if it could not be opened; so the file was opened, and then its
writing broke off, or all of it was written and its path could not be printed. Directories may
have been made. -/
theorem run_writes_one_file (world : Surroundings) (arguments : List RawText) (t : Tree) :
    ∃ outcome u, (run (Tree.host world) arguments).run t = (outcome, u) ∧
      (outcome.exit = 0 →
        ((Arguments.read arguments = .error .help ∨ Arguments.read arguments = .error .version) ∧
          u = t) ∨
        ∃ p bytes, Draws world arguments t p bytes ∧ Leaves world p t u bytes ∧
          outcome.out =
            (Output.path p.config.outputDir p.config.documentName world.time).shown ++ "\n" ∧
          ∀ path : String, Output.path p.config.outputDir p.config.documentName world.time = path →
            outcome.out = path ++ "\n") ∧
      (outcome.exit ≠ 0 →
        (t.Grows u ∧ ∀ place, u.file? place = t.file? place) ∨
        ∃ p bytes, Draws world arguments t p bytes ∧
          ((∃ count, outcome.exit = 1 ∧ count < bytes.length ∧
              Leaves world p t u (bytes.take count)) ∨
            outcome.exit = 101 ∧ Leaves world p t u bytes)) := by
  obtain ⟨outcome, u, hrun, hends⟩ := run_ends world arguments t
  refine ⟨outcome, u, hrun, fun hzero => ?_, fun hnonzero => ?_⟩
  · cases hends with
    | stopped stop hread hexit =>
      refine .inl ⟨?_, rfl⟩
      rcases hexit hzero with rfl | rfl
      · exact .inl hread
      · exact .inr hread
    | failed hexit _ => cases hexit.symm.trans hzero
    | brokeOff _ hexit _ _ _ => cases hexit.symm.trans hzero
    | unprinted hexit _ _ => cases hexit.symm.trans hzero
    | printed _ hdraws hleaves hout =>
      refine .inr ⟨_, _, hdraws, hleaves, hout, fun path hpath => ?_⟩
      rw [hout, hpath, RawText.shown_ofText]
  · cases hends with
    | stopped => exact .inl ⟨Std.Refl.refl t, fun _ => rfl⟩
    | failed _ hgrows => exact .inl ⟨hgrows, hgrows.file?⟩
    | brokeOff count hexit hcount hdraws hleaves =>
      exact .inr ⟨_, _, hdraws, .inl ⟨count, hexit, hcount, hleaves⟩⟩
    | unprinted hexit hdraws hleaves => exact .inr ⟨_, _, hdraws, .inr ⟨hexit, hleaves⟩⟩
    | printed hexit _ _ _ => exact absurd hexit hnonzero

/-- A tree with one file, whose text is a letter. -/
def letterTree : Tree := { entries := [(["in.txt"], .file ⟨#[97]⟩)] }

/-- The same tree, in which a document breaks off behind three bytes. -/
def fullTree : Tree := { letterTree with faults := [none, none, some ⟨.system .noSpace, 3⟩] }

/-- Where the document of the letter goes. -/
def letterPlace : Location := ["out", "document-5.pdf"]

/-- On the full disk the run fails and leaves three bytes. -/
theorem run_fullTree :
    ((run (Tree.host { time := 5 }) ["-o", "out", "in.txt"]).run fullTree).1.exit = 1 ∧
      ((run (Tree.host { time := 5 }) ["-o", "out", "in.txt"]).run fullTree).2.file? letterPlace =
        some ⟨#[37, 80, 68]⟩ := by
  decide +kernel

/-- Arguments that name an output directory and nothing else set the default configuration. -/
theorem config_of_draws {dir : RawText} {p : Pipeline} {bytes : List UInt8}
    (hread : Arguments.read ["-o", dir, "in.txt"] =
      .ok { outputDir := some dir, input := some "in.txt" })
    (h : Draws world ["-o", dir, "in.txt"] t p bytes) :
    p.config = .combine { outputDir := some dir } {} .standard := by
  obtain ⟨a, text, file, hargs, -, hfile, hresolve, -, -⟩ := h
  obtain rfl := Except.ok.inj (hread.symm.trans hargs)
  cases file with
  | some file =>
    obtain ⟨path, -, -, hpath, -⟩ := hfile
    cases hpath
  | none =>
    obtain ⟨fonts, hfonts, hresolve⟩ := bind_eq_ok hresolve
    obtain ⟨_, -, hresolve⟩ := bind_eq_ok hresolve
    obtain rfl : .standard = fonts := Except.ok.inj hfonts
    exact (Except.ok.inj hresolve).symm

/-- The letter is drawn into a new file in a new directory, whatever the bytes of its name are. An
input that is not there is a failure, which leaves no file behind. On a disk that is full behind
three bytes the document breaks off. -/
theorem run_writes_one_file_letter :
    let host := Tree.host { time := 5 }
    (∃ outcome u, (run host ["-o", "out", "in.txt"]).run letterTree = (outcome, u) ∧
      outcome.exit = 0 ∧ outcome.out = "out/document-5.pdf\n" ∧
      ∃ bytes around, letterTree.Wrote u "out" "document-5.pdf" bytes around) ∧
    (∃ outcome u, (run host ["-o", ⟨[0xFF]⟩, "in.txt"]).run letterTree = (outcome, u) ∧
      outcome.exit = 0 ∧ outcome.out = "\uFFFD/document-5.pdf\n" ∧
      ∃ bytes around, letterTree.Wrote u ⟨[0xFF]⟩ "document-5.pdf" bytes around) ∧
    (∃ outcome u, (run host ["-o", "out", "none.txt"]).run letterTree = (outcome, u) ∧
      outcome.exit = 1 ∧ ∀ place, u.file? place = letterTree.file? place) ∧
    ∃ outcome u, (run host ["-o", "out", "in.txt"]).run fullTree = (outcome, u) ∧
      outcome.exit = 1 ∧ u.file? letterPlace = some ⟨#[37, 80, 68]⟩ ∧
      ∀ place, place ≠ letterPlace → u.file? place = letterTree.file? place := by
  intro host
  have hname : RawText.ofText (Output.fileName "document" 5) = "document-5.pdf" := by
    decide +kernel
  have hwritten (dir : RawText) (hread : Arguments.read ["-o", dir, "in.txt"] =
        .ok { outputDir := some dir, input := some "in.txt" })
      (hexit : ((run host ["-o", dir, "in.txt"]).run letterTree).1.exit = 0) :
      ∃ outcome u, (run host ["-o", dir, "in.txt"]).run letterTree = (outcome, u) ∧
        outcome.exit = 0 ∧ outcome.out = (Output.path dir "document" 5).shown ++ "\n" ∧
        ∃ bytes around, letterTree.Wrote u dir "document-5.pdf" bytes around := by
    obtain ⟨outcome, u, hrun, hwritten, -⟩ :=
      run_writes_one_file { time := 5 } ["-o", dir, "in.txt"] letterTree
    rw [hrun] at hexit
    rcases hwritten hexit with
      ⟨hstop | hstop, -⟩ | ⟨p, bytes, hdraws, ⟨around, hwrote⟩, hout, -⟩
    · cases hread.symm.trans hstop
    · cases hread.symm.trans hstop
    · rw [config_of_draws hread hdraws] at hout hwrote
      exact ⟨outcome, u, hrun, hexit, hout, _, around, hname ▸ hwrote⟩
  refine ⟨?_, ?_, ?_, ?_⟩
  · have hpath : (Output.path "out" "document" 5).shown ++ "\n" = "out/document-5.pdf\n" := by
      decide +kernel
    exact hpath ▸ hwritten "out" rfl (by decide +kernel)
  · have hpath : (Output.path ⟨[0xFF]⟩ "document" 5).shown ++ "\n" = "\uFFFD/document-5.pdf\n" := by
      decide +kernel
    exact hpath ▸ hwritten ⟨[0xFF]⟩ rfl (by decide +kernel)
  · obtain ⟨outcome, u, hrun, -, hfailed⟩ :=
      run_writes_one_file { time := 5 } ["-o", "out", "none.txt"] letterTree
    have hexit : ((run host ["-o", "out", "none.txt"]).run letterTree).1.exit = 1 := rfl
    rw [hrun] at hexit
    refine ⟨outcome, u, hrun, hexit, ?_⟩
    rcases hfailed (hexit ▸ by decide) with ⟨-, hsame⟩ | ⟨p, bytes, hdraws, -⟩
    · exact hsame
    · obtain ⟨a, text, file, hargs, htext, -⟩ := hdraws
      have hread : Arguments.read ["-o", "out", "none.txt"] =
          .ok { outputDir := some "out", input := some "none.txt" } := rfl
      obtain rfl := Except.ok.inj (hread.symm.trans hargs)
      obtain ⟨bytes, hnone, -⟩ := htext
      cases hnone
  · obtain ⟨outcome, u, hrun, -, hfailed⟩ :=
      run_writes_one_file { time := 5 } ["-o", "out", "in.txt"] fullTree
    have hends := run_fullTree
    rw [hrun] at hends
    obtain ⟨hexit, hfile⟩ := hends
    refine ⟨outcome, u, hrun, hexit, hfile, ?_⟩
    rcases hfailed (hexit ▸ by decide) with
      ⟨-, hsame⟩ | ⟨p, bytes, -, ⟨count, -, -, around, hwrote⟩ | ⟨hother, -⟩⟩
    · cases (hsame _).symm.trans hfile
    · have hplace :
          letterPlace = around ++ [.ofText (Output.fileName p.config.documentName 5)] := by
        by_contra hne
        cases (hwrote.others _ hne).symm.trans hfile
      exact hplace ▸ hwrote.others
    · cases hexit.symm.trans hother

/-- The exit code does not tell whether a file was written: a run that names the version ends with
0 and writes none, and one that fails on a full disk, or when it is to print, leaves a file. -/
theorem exit_hides_what_was_written :
    (∃ outcome u, (run (Tree.host { time := 0 }) ["--version"]).run {} = (outcome, u) ∧
      outcome.exit = 0 ∧ ∀ dir name data around, ¬ ({} : Tree).Wrote u dir name data around) ∧
    (∃ outcome u, (run (Tree.host { time := 5 }) ["-o", "out", "in.txt"]).run fullTree =
        (outcome, u) ∧
      outcome.exit = 1 ∧ fullTree.file? letterPlace = none ∧
      u.file? letterPlace = some ⟨#[37, 80, 68]⟩) ∧
    ∃ outcome u, (run (Tree.host { time := 5, output := .error (.system .noSpace) })
        ["-o", "out", "in.txt"]).run letterTree = (outcome, u) ∧
      outcome.exit = 101 ∧ letterTree.file? letterPlace = none ∧
      (u.file? letterPlace).isSome := by
  refine ⟨⟨{ exit := 0, out := versionText }, {}, rfl, rfl, ?_⟩, ?_, ?_⟩
  · intro dir name data around hwrote
    obtain ⟨place, -, hfile⟩ := Tree.file?_of_read hwrote.content
    have hnone : ({} : Tree).file? place = none := by
      cases place <;> rfl
    rw [hnone] at hfile
    cases hfile
  · obtain ⟨hexit, hfile⟩ := run_fullTree
    exact ⟨_, _, Prod.mk.eta.symm, hexit, rfl, hfile⟩
  · have hends :
        ((run (Tree.host { time := 5, output := .error (.system .noSpace) })
          ["-o", "out", "in.txt"]).run letterTree).1.exit = 101 ∧
        (((run (Tree.host { time := 5, output := .error (.system .noSpace) })
          ["-o", "out", "in.txt"]).run letterTree).2.file? letterPlace).isSome := by
      decide +kernel
    obtain ⟨hexit, hfile⟩ := hends
    exact ⟨_, _, Prod.mk.eta.symm, hexit, rfl, hfile⟩

end Command

end TaggedPage
