import TaggedPage.Config.Resolve
import TaggedPage.Text.Slug

/-! # Output files

A document is written under a name made of the slug of its own name and the time of
writing, in milliseconds since the beginning of 1970, in the output directory.
-/

namespace TaggedPage.Output

/-- The first part of a file name: the slug of a document's name, or the default name
where the slug is empty. -/
def stem (name : String) : String :=
  match Slug.ofText name.toList with
  | [] => Config.defaultName
  | slug => String.ofList slug

/-- The name of the file of a document written at a time. -/
def fileName (name : String) (time : Int) : String :=
  stem name ++ "-" ++ toString time ++ ".pdf"

def path (dir : RawText) (name : String) (time : Int) : RawText :=
  Path.join dir (fileName name time)

/-- Writes a document into a directory, which is made first if it is not there. Gives
the path of the file. -/
def writeDocument {m : Type → Type} [Monad m] (disk : Disk m) (now : m Int) (dir : RawText)
    (name : String) (data : List UInt8) : ExceptT IoError m RawText := do
  unless ← disk.isDirectory dir do disk.makeDirectories dir
  let path := Output.path dir name (← now)
  disk.write path ⟨data.toArray⟩
  return path

end TaggedPage.Output
