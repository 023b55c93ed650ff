import TaggedPage.Command.Arguments
import TaggedPage.Pipeline

/-! # The command

A run reads its input, then the configuration file, builds the pipeline and writes
the document, whose path it prints. It ends with 0 if the document was written, or if
help or the version was asked for, with 1 after a failure, and with 2 after a mistake
in the arguments. If the document was written and its path cannot be printed, the run
ends with 101.
-/

namespace TaggedPage.Command

/-- How a run ended. -/
structure Outcome where
  exit : UInt8
  /-- What was printed. -/
  out : String := ""
  /-- What there is to say of a failure. -/
  err : String := ""

def versionText : String := "tagpress 0.1.0\n"

def usageLine (key : Key) : String :=
  let letter :=
    match key.letter? with
    | some c => "-" ++ String.singleton c ++ ", "
    | none => "    "
  "  " ++ letter ++ "--" ++ key.long ++ " <VALUE>\n"

def usageText : String :=
  "Usage: tagpress [OPTIONS] [INPUT]\n\nOptions:\n" ++ String.join (Key.all.map usageLine) ++
    "  -h, --help\n  -V, --version\n"

def Arguments.options (a : Arguments) : Config.Options where
  fontSize := a.fontSize
  lineHeight := a.lineHeight
  color := a.color
  fontFamily := a.fontFamily
  outputDir := a.outputDir
  documentName := a.name

variable {m : Type → Type} [Monad m] (host : Host m)

def readInput : ExceptT IoError m String := do
  match String.fromUTF8? (← host.input) with
  | some text => return text
  | none => throw .notUtf8

/-- Makes the document that the arguments ask for and gives its path. -/
def makeDocument (a : Arguments) : ExceptT Failure m RawText := do
  let text ← ExceptT.adapt Failure.io <|
    match a.input with
    | some path => host.disk.readText path
    | none => readInput host
  let file ← a.config.mapM (Config.File.load host.disk)
  let pipeline ← Pipeline.build host a.options file none
  pipeline.renderToFile host text.toList

/-- Prints a text with which a run ends well, also if the text cannot be printed. -/
def tell (text : String) : m Outcome := do
  match ← (host.print text).run with
  | .ok _ => return { exit := 0, out := text }
  | .error _ => return { exit := 0 }

/-- Ends a run that was to make a document. -/
def conclude : Except Failure RawText → m Outcome
  | .ok path => do
    let text := path.shown ++ "\n"
    match ← (host.print text).run with
    | .ok _ => return { exit := 0, out := text }
    | .error cause =>
      return { exit := 101, err := "failed printing to stdout: " ++ cause.message ++ "\n" }
  | .error failure => return { exit := 1, err := "Error: " ++ Report.ofFailure failure ++ "\n" }

def run (arguments : List RawText) : m Outcome :=
  match Arguments.read arguments with
  | .error .mistake => return { exit := 2, err := usageText }
  | .error .help => tell host usageText
  | .error .version => tell host versionText
  | .ok a => do conclude host (← (makeDocument host a).run)

end TaggedPage.Command
