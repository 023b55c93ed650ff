import Std.Time.DateTime.Timestamp
import TaggedPage.Command.Run

/-! # The program

The host that the program runs on, and its entry point. Nothing is decided here: the
operations of the host are handed to `Command.run`. The files of the host are those whose
paths are texts.
-/

namespace TaggedPage

def ioError (e : IO.Error) : IoError :=
  match e with
  | .noFileOrDirectory .. => .system .notFound
  | .alreadyExists .. => .system .alreadyExists
  | .inappropriateType _ code _ =>
    if code = 21 then .system .isADirectory else .system .notADirectory
  | .invalidArgument _ code _ =>
    if code = 36 then .system .nameTooLong else .other (toString e)
  | .permissionDenied _ 13 _ => .system .permissionDenied
  | .resourceExhausted _ 28 _ => .system .noSpace
  | other => .other (toString other)

def attempt {α : Type} (act : IO α) : ExceptT IoError IO α :=
  ExceptT.mk do
    try
      return .ok (← act)
    catch e =>
      return .error (ioError e)

/-- Does a file operation on a path, which must be a text. -/
def attemptAt {α : Type} (path : RawText) (act : String → IO α) : ExceptT IoError IO α :=
  match path.text? with
  | some text => attempt (act text)
  | none => throw (.other ("no text: " ++ path.shown))

/-- The answer to a question about a path, to which there may be none. -/
def answerAt (path : RawText) (ask : String → IO Bool) : IO Bool :=
  return (← (attemptAt path ask).run).toOption.getD false

def systemDisk : Disk IO where
  read path := attemptAt path fun text => IO.FS.readBinFile text
  write path data := attemptAt path fun text => IO.FS.writeBinFile text data
  makeDirectory path := attemptAt path fun text => IO.FS.createDir text
  isDirectory path := answerAt path fun text => (System.mkFilePath [text]).isDir
  isFile path := answerAt path fun text => do
    return (← (System.mkFilePath [text]).metadata).type matches .file

def fontDirectories : IO (List String) := do
  let shared := ["/usr/share/fonts", "/usr/local/share/fonts"]
  match ← IO.getEnv "HOME" with
  | some home => return shared ++ [home ++ "/.fonts", home ++ "/.local/share/fonts"]
  | none => return shared

def isFontName (name : String) : Bool :=
  [".ttf", ".ttc", ".otf", ".otc"].any fun ending => name.toLower.endsWith ending

/-- The font files in a directory and those below it. -/
def readFonts (directory : String) : IO (List ByteArray) := do
  try
    let found ← (System.mkFilePath [directory]).walkDir
    let fonts := found.filter fun file => isFontName file.toString
    fonts.toList.mapM IO.FS.readBinFile
  catch _ =>
    return []

def systemHost : Host IO where
  disk := systemDisk
  now := do return (← Std.Time.Timestamp.now).toMillisecondsSinceUnixEpoch.val
  installedFonts := do
    let directories ← fontDirectories
    return (← directories.mapM readFonts).flatten
  input := attempt do (← IO.getStdin).readBinToEnd
  print text := attempt do
    let out ← IO.getStdout
    out.putStr text
    out.flush

end TaggedPage

def main (arguments : List String) : IO UInt32 := do
  let outcome ← TaggedPage.Command.run TaggedPage.systemHost (arguments.map .ofText)
  IO.eprint outcome.err
  return outcome.exit.toUInt32
