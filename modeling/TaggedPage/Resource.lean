/-! # Resources

Font files are read through a provider, which answers a path with the bytes
stored under it. A provider may have effects of its own; `Provider.logged` is a
provider that also notes every path it is asked for.
-/

namespace TaggedPage

/-- Why a resource could not be read. -/
inductive ResourceError where
  | notFound (path : String)
  | loadFailed (path message : String)
  deriving DecidableEq, Repr

def ResourceError.message : ResourceError → String
  | .notFound path => "Resource not found: " ++ path
  | .loadFailed path message => "Failed to load resource '" ++ path ++ "': " ++ message

/-- A reader of named resources, which works in the monad `m`. -/
structure Provider (m : Type → Type) where
  /-- The bytes stored under a path. -/
  load : String → m (Except ResourceError ByteArray)

/-- The provider that notes every path before it passes the request on. -/
def Provider.logged {m : Type → Type} [Monad m] (p : Provider m) :
    Provider (StateT (List String) m) where
  load path := do
    modify (· ++ [path])
    p.load path

/-- Resources held in memory, the latest entry for a path first. -/
structure Shelf where
  entries : List (String × ByteArray) := []

namespace Shelf

/-- The name under which a shelf reports itself. -/
def name : String := "InMemoryResourceProvider"

/-- The shelf with the bytes stored under `path`, in place of earlier ones. -/
def add (s : Shelf) (path : String) (data : ByteArray) : Shelf :=
  ⟨(path, data) :: s.entries.filter (·.1 ≠ path)⟩

def get? (s : Shelf) (path : String) : Option ByteArray := s.entries.lookup path

def contains (s : Shelf) (path : String) : Bool := (s.get? path).isSome

def load (s : Shelf) (path : String) : Except ResourceError ByteArray :=
  match s.get? path with
  | some data => .ok data
  | none => .error (.notFound path)

def provider {m : Type → Type} [Monad m] (s : Shelf) : Provider m where
  load path := pure (s.load path)

end Shelf

end TaggedPage
