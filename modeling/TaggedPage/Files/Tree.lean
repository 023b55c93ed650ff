import TaggedPage.Files.Disk

/-! # File trees

A tree of files and directories with a current directory, and the disk it makes. A
path is followed name by name: every name but the last must lead to a directory,
`.` stays, `..` goes up and stops at the root. Names have at most 255 bytes and
paths at most 4095.

A tree can be full, protected or broken: each step that changes it may have a fault, which the
tree brings along. A file is written in two such steps. It is created, or emptied if it is there,
and then it is filled, of which a fault may leave a part.
-/

namespace TaggedPage

/-- The names that lead from the root to a place. -/
abbrev Location := List RawText

/-- What stands at a place. -/
inductive Entry where
  | directory
  | file (data : ByteArray)

/-- What goes wrong in a step that changes a tree. -/
structure Tree.Fault where
  cause : IoError
  /-- How many bytes are written all the same, where the step is to write some. -/
  written : Nat := 0

/-- What stands at each place that is taken. The root is always a directory. -/
structure Tree where
  entries : List (Location × Entry) := []
  /-- The directory in which relative paths start. -/
  current : Location := []
  /-- The faults of the next steps, in order. Behind the last one nothing goes wrong. -/
  faults : List (Option Tree.Fault) := []

namespace Tree

def get? (t : Tree) (place : Location) : Option Entry :=
  if place.isEmpty then some .directory else t.entries.lookup place

/-- The tree with an entry at a place, instead of what stood there. -/
def set (t : Tree) (place : Location) (entry : Entry) : Tree :=
  { t with entries := (place, entry) :: t.entries.filter (·.1 != place) }

def file? (t : Tree) (place : Location) : Option ByteArray :=
  match t.get? place with
  | some (.file data) => some data
  | _ => none

def files (t : Tree) : List (Location × ByteArray) :=
  t.entries.filterMap fun (place, entry) =>
    match entry with
    | .file data => some (place, data)
    | .directory => none

/-- The tree with an entry at a place, and directories around it where there were
none. -/
def plant (t : Tree) (place : Location) (entry : Entry) : Tree :=
  let around := (List.range place.length).map place.take
  let grown := around.foldl (fun t place =>
    if (t.get? place).isNone then t.set place .directory else t) t
  grown.set place entry

def nameLimit : Nat := 255

def pathLimit : Nat := 4095

/-- Fails unless there is a directory at a place. -/
def enter (t : Tree) (place : Location) : Except SystemError Unit :=
  match t.get? place with
  | none => .error .notFound
  | some (.file _) => .error .notADirectory
  | some .directory => .ok ()

/-- The place to which names lead from a place. The last name need not be taken. -/
def follow (t : Tree) (place : Location) : List RawText → Except SystemError Location
  | [] => .ok place
  | name :: rest => do
    t.enter place
    if name = "" ∨ name = "." then t.follow place rest
    else if name = ".." then t.follow place.dropLast rest
    else if nameLimit < name.bytes.length then .error .nameTooLong
    else t.follow (place ++ [name]) rest

def start (t : Tree) (path : RawText) : Location :=
  if Path.isAbsolute path then [] else t.current

/-- Fails for paths that name nothing in any tree. -/
def checkPath (path : RawText) : Except IoError Unit :=
  if path.bytes.contains 0 then .error .zeroInPath
  else if path.bytes.isEmpty then .error (.system .notFound)
  else if pathLimit < path.bytes.length then .error (.system .nameTooLong)
  else .ok ()

def locate (t : Tree) (path : RawText) : Except IoError Location := do
  checkPath path
  (t.follow (t.start path) (Path.names path)).mapError .system

def find (t : Tree) (path : RawText) : Except IoError Entry := do
  match t.get? (← t.locate path) with
  | some entry => return entry
  | none => .error (.system .notFound)

def read (t : Tree) (path : RawText) : Except IoError ByteArray := do
  match ← t.find path with
  | .file data => return data
  | .directory => .error (.system .isADirectory)

/-- The tree with an empty file at the place that a path names, instead of one that is there. -/
def create (t : Tree) (path : RawText) : Except IoError (Location × Tree) := do
  let place ← t.locate path
  match t.get? place with
  | some .directory => .error (.system .isADirectory)
  | _ => return (place, t.set place (.file .empty))

/-- The tree with a new directory. Slashes behind its name do not count. -/
def makeDirectory (t : Tree) (path : RawText) : Except IoError Tree := do
  checkPath path
  match (Path.names path).reverse.dropWhile (·.bytes.isEmpty) with
  | [] => .error (.system .alreadyExists)
  | name :: before =>
    let around ← (t.follow (t.start path) before.reverse).mapError .system
    (t.enter around).mapError .system
    if name = "." ∨ name = ".." then .error (.system .alreadyExists)
    else if nameLimit < name.bytes.length then .error (.system .nameTooLong)
    else if (t.get? (around ++ [name])).isSome then .error (.system .alreadyExists)
    else return t.set (around ++ [name]) .directory

def isDirectory (t : Tree) (path : RawText) : Bool :=
  match t.find path with
  | .ok .directory => true
  | _ => false

def isFile (t : Tree) (path : RawText) : Bool :=
  match t.find path with
  | .ok (.file _) => true
  | _ => false

/-- The tree when the next of its faults is over. -/
def settled (t : Tree) : Tree := { t with faults := t.faults.tail }

/-- Goes over to a changed tree, or leaves everything in place where the change fails or has a
fault. -/
def change {α : Type} (f : Tree → Except IoError (α × Tree)) : ExceptT IoError (StateM Tree) α :=
  fun t =>
    match t.faults.head?.join with
    | some fault => (.error fault.cause, t.settled)
    | none =>
      match f t.settled with
      | .ok (result, changed) => (.ok result, changed)
      | .error failure => (.error failure, t.settled)

/-- Writes bytes into the file at a place. A fault in this does not show if it is behind the last
byte. -/
def fill (place : Location) (data : ByteArray) : ExceptT IoError (StateM Tree) Unit := fun t =>
  match t.faults.head?.join.filter (·.written < data.size) with
  | some fault =>
    (.error fault.cause, t.settled.set place (.file (data.extract 0 fault.written)))
  | none => (.ok (), t.settled.set place (.file data))

def disk : Disk (StateM Tree) where
  read path := fun t => (t.read path, t)
  write path data := do fill (← change (·.create path)) data
  makeDirectory path := change fun t => (t.makeDirectory path).map fun made => ((), made)
  isDirectory path := fun t => (t.isDirectory path, t)
  isFile path := fun t => (t.isFile path, t)

end Tree

end TaggedPage
