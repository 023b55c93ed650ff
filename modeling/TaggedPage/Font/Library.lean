import TaggedPage.Font.Face
import TaggedPage.Resource

/-! # Font libraries

A library holds the faces of a document and says which of them each variant is
drawn with. Variants may share a face; a face loaded twice is two faces, even if
their bytes agree. A library from font files loads the regular face first and
then the others in order, and a variant without a file shares the regular face.
-/

namespace TaggedPage.Font

/-- Why no library could be made. -/
inductive LibraryError where
  | missing (variant : Variant) (path : String) (source : ResourceError)
  | unreadable (variant : Variant) (cause : FaceError)
  | familyNotFound (family : String)

def LibraryError.message : LibraryError → String
  | .missing variant path source =>
    "Font file '" ++ path ++ "' for the " ++ variant.name ++ " face could not be loaded: " ++
      source.message
  | .unreadable variant cause =>
    "Font data for the " ++ variant.name ++ " face could not be parsed: " ++ cause.message
  | .familyNotFound family => "System font family '" ++ family ++ "' was not found"

/-- The faces of a document, and the one of them that each variant uses. -/
structure Library where
  faces : List Face
  slot : Variant → Fin faces.length

namespace Library

def face (l : Library) (v : Variant) : Face := l.faces[l.slot v]

def Shares (l : Library) (v w : Variant) : Prop := l.slot v = l.slot w

instance (l : Library) (v w : Variant) : Decidable (l.Shares v w) :=
  inferInstanceAs (Decidable (_ = _))

/-- A library with a face of its own for every variant. -/
def ofFaces (faceOf : Variant → Face) : Library :=
  ⟨[faceOf .normal, faceOf .bold, faceOf .italic, faceOf .boldItalic], Variant.index⟩

@[simp] theorem face_ofFaces (faceOf : Variant → Face) (v : Variant) :
    (ofFaces faceOf).face v = faceOf v := by
  cases v <;> rfl

/-- The library in which all variants share one face. -/
def shared (face : Face) : Library := ⟨[face], fun _ => ⟨0, Nat.zero_lt_one⟩⟩

def replace (l : Library) (v : Variant) (face : Face) : Library where
  faces := l.faces ++ [face]
  slot w :=
    if w = v then ⟨l.faces.length, by simp⟩
    else ⟨l.slot w, by have := (l.slot w).isLt; simp only [List.length_append]; omega⟩

@[simp] theorem face_shared (face : Face) (v : Variant) : (shared face).face v = face := rfl

@[simp] theorem face_replace_self (l : Library) (v : Variant) (face : Face) :
    (l.replace v face).face v = face := by
  simp [Library.face, replace]

@[simp] theorem face_replace_of_ne (l : Library) {v w : Variant} (face : Face) (h : w ≠ v) :
    (l.replace v face).face w = l.face w := by
  simp [Library.face, replace, h]

def standard : Library := ofFaces fun v => .standard (Standard.helvetica v)

def widthOf (l : Library) (text : List Char) (v : Variant) (size : Float32) : Float32 :=
  (l.face v).widthOf text size

end Library

/-- The files of the four faces. Only the regular one is required. -/
structure Sources where
  regular : String
  bold : Option String := none
  italic : Option String := none
  boldItalic : Option String := none
  deriving DecidableEq, Repr, Inhabited

def Sources.path? (s : Sources) : Variant → Option String
  | .normal => some s.regular
  | .bold => s.bold
  | .italic => s.italic
  | .boldItalic => s.boldItalic

def loadFace {m : Type → Type} [Monad m] (p : Provider m) (variant : Variant) (path : String) :
    ExceptT LibraryError m Face := do
  match ← (p.load path : m _) with
  | .error source => throw (.missing variant path source)
  | .ok data =>
    match TrueType.read variant data with
    | .error cause => throw (.unreadable variant cause)
    | .ok font => return .trueType font

/-- Loads the face of a variant into a library. A variant without a path keeps the
face it has. -/
def Library.loadVariant {m : Type → Type} [Monad m] (p : Provider m) (sources : Sources)
    (l : Library) (v : Variant) : ExceptT LibraryError m Library := do
  match sources.path? v with
  | none => return l
  | some path => return l.replace v (← loadFace p v path)

def Library.load {m : Type → Type} [Monad m] (p : Provider m) (sources : Sources) :
    ExceptT LibraryError m Library := do
  let regular ← loadFace p .normal sources.regular
  [Variant.bold, .italic, .boldItalic].foldlM (Library.loadVariant p sources) (.shared regular)

end TaggedPage.Font
