import TaggedPage.Failure
import TaggedPage.Font.Installed
import TaggedPage.Output
import TaggedPage.Pdf.Canvas

/-! # Pipelines

A pipeline is a checked configuration together with the faces it names. Everything
that can be wrong with either shows when the pipeline is built; after that a text is
compiled, laid out and drawn. `Host` is what the program asks of the system around
it: files, the time, the installed fonts, the standard input and the standard output.
-/

namespace TaggedPage

open Font (Library)

/-- The system around the program, in the monad `m`. -/
structure Host (m : Type → Type) where
  disk : Disk m
  /-- The time in milliseconds since the beginning of 1970. -/
  now : m Int
  /-- The files of the installed fonts. -/
  installedFonts : m (List ByteArray)
  /-- The bytes of the standard input. -/
  input : ExceptT IoError m ByteArray
  /-- Prints to the standard output. -/
  print : String → ExceptT IoError m Unit

/-- Loads a configuration file. Relative paths of fonts in it are seen from its own
directory. -/
def Config.File.load {m : Type → Type} [Monad m] (disk : Disk m) (path : RawText) :
    ExceptT Failure m Config.File := do
  let answer ← (disk.readText path).run
  match answer with
  | .error cause => throw (.config (.unreadable path.shown cause))
  | .ok text =>
    match Config.File.ofJson text with
    | .error cause => throw (.json cause)
    | .ok file => return { file with baseDir := some ((Path.parent? path).getD "") }

/-- A configuration and the faces it names. -/
structure Pipeline where
  config : Config
  fonts : Library

namespace Pipeline

variable {m : Type → Type} [Monad m]

/-- The faces of a source of fonts. Font files are read through the given provider, or
else from the directory that belongs to them. -/
def loadFonts (host : Host m) (provider : Option (Provider m)) :
    Config.FontChoice → ExceptT Font.LibraryError m Library
  | .standard => return .standard
  | .files sources baseDir =>
    Library.load (provider.getD (host.disk.provider (baseDir.getD Disk.currentDirectory))) sources
  | .family name => do
    let files ← host.installedFonts
    Library.ofFamily (Font.Installed.ofFiles files) name.toList

def build (host : Host m) (options : Config.Options) (file : Option Config.File)
    (provider : Option (Provider m)) : ExceptT Failure m Pipeline := do
  match Config.resolve options file with
  | .error cause => throw (.config cause)
  | .ok config =>
    let answer ← (loadFonts host provider config.fonts).run
    match answer with
    | .error cause => throw (.font cause)
    | .ok fonts => return ⟨config, fonts⟩

def layout (p : Pipeline) (text : List Char) : List Layout.Placement :=
  Layout.placeDocument p.config.settings p.fonts.widthOf (Markup.compileDocument text)

def drawInto {σ : Type} (p : Pipeline) (text : List Char) (sink : Sink σ) :
    ExceptT Failure (StateM σ) (List UInt8) :=
  ExceptT.adapt .render (sink.drawPage p.config.page (p.layout text))

def render (p : Pipeline) (text : List Char) : Except Failure (List UInt8) :=
  ((p.drawInto text Pdf.Canvas.sink).run (.new p.fonts)).1

/-- Writes a text's document into the output directory and gives the path of the
file. Nothing is written if the text cannot be rendered. -/
def renderToFile (p : Pipeline) (host : Host m) (text : List Char) :
    ExceptT Failure m RawText := do
  match p.render text with
  | .error failure => throw failure
  | .ok data =>
    ExceptT.adapt .io
      (Output.writeDocument host.disk host.now p.config.outputDir p.config.documentName data)

end Pipeline

end TaggedPage
