import TaggedPage.Files.Error
import TaggedPage.Files.Path
import TaggedPage.Resource

/-! # Disks

A disk is what the program can do with files, in whatever monad that happens. On
top of it a file is read as text, a directory is made together with those around
it, and files serve as resources: relative names are looked up in a base directory
and absolute ones as they are.
-/

namespace TaggedPage

/-- Operations on files and directories in the monad `m`. -/
structure Disk (m : Type → Type) where
  /-- The bytes of a file. -/
  read : RawText → ExceptT IoError m ByteArray
  /-- Creates a file with the given bytes, or replaces one. Where that breaks off, a part of the
  bytes may stand in the file. -/
  write : RawText → ByteArray → ExceptT IoError m Unit
  /-- Makes one directory. -/
  makeDirectory : RawText → ExceptT IoError m Unit
  /-- Whether a path names a directory. -/
  isDirectory : RawText → m Bool
  /-- Whether a path names a file. -/
  isFile : RawText → m Bool

namespace Disk

variable {m : Type → Type} [Monad m] (disk : Disk m)

def readText (path : RawText) : ExceptT IoError m String := do
  match String.fromUTF8? (← disk.read path) with
  | some text => return text
  | none => throw .notUtf8

/-- Passes over a failure to make a directory that is there. -/
def unlessDirectory (path : RawText) (failure : IoError) : ExceptT IoError m Unit := do
  unless ← disk.isDirectory path do throw failure

/-- Makes the first of the directories. Where another one has to be there before it,
the rest are made first. The empty path needs no directory. -/
def makeFirst : List RawText → ExceptT IoError m Unit
  | [] => throw (.other "failed to create whole tree")
  | path :: outer => do
    if path.bytes.isEmpty then return
    try
      disk.makeDirectory path
    catch
      | .system .notFound =>
        makeFirst outer
        try disk.makeDirectory path
        catch failure => disk.unlessDirectory path failure
      | failure => disk.unlessDirectory path failure

/-- Makes a directory and those around it, as far as they are not there. -/
def makeDirectories (path : RawText) : ExceptT IoError m Unit :=
  disk.makeFirst (path :: Path.ancestors path)

/-- The base directory of a provider that is given none. -/
def currentDirectory : RawText := "."

/-- The name under which files report themselves as a provider. -/
def providerName : String := "FilesystemResourceProvider"

/-- The files as resources, with relative names looked up in the directory `base`. -/
def provider (base : RawText) : Provider m where
  load path := do
    let full := Path.join base path
    let answer ← (disk.read full).run
    return answer.mapError fun failure =>
      if failure = .system .notFound then .notFound full.shown
      else .loadFailed full.shown failure.message

def provides (base : RawText) (path : String) : m Bool := disk.isFile (Path.join base path)

end Disk

end TaggedPage
