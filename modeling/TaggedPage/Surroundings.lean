import TaggedPage.Files.Tree
import TaggedPage.Pipeline

/-! # Surroundings

A host whose files are a tree. What it does besides is given beforehand.
-/

namespace TaggedPage

/-- What a program finds around it besides its files. -/
structure Surroundings where
  /-- The time in milliseconds since the beginning of 1970. -/
  time : Int
  /-- The files of the installed fonts. -/
  fonts : List ByteArray := []
  /-- The bytes of the standard input, or why it cannot be read. -/
  input : Except IoError ByteArray := .ok .empty
  /-- How it ends when something is printed. -/
  output : Except IoError Unit := .ok ()

def Tree.host (world : Surroundings) : Host (StateM Tree) where
  disk := Tree.disk
  now := pure world.time
  installedFonts := pure world.fonts
  input := fun t => (world.input, t)
  print _ := fun t => (world.output, t)

end TaggedPage
