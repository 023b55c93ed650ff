import TaggedPage.Font.Library

/-! # Installed fonts

The faces of the font files of a system, described by what a search by family
name needs: their names, style, weight and width. `bestMatch?` narrows the faces
of a family first by width, then by style, then by weight.
-/

namespace TaggedPage.Font

/-- The slant of a face. -/
inductive Slant where
  | upright
  | italic
  | oblique
  deriving DecidableEq, Repr

/-- One installed face: its file, its place in the file, and its description. -/
structure Installed where
  data : ByteArray
  index : Nat
  families : List (List Char)
  slant : Slant
  weight : Nat
  width : Nat

/-- What is wanted of a face besides its family; the width wanted is the middle one. -/
structure Wish where
  weight : Nat
  slant : Slant

def middleWidth : Nat := 5

def Wish.ofVariant (v : Variant) : Wish :=
  ⟨if v.isBold then 700 else 400, if v.isItalic then .italic else .upright⟩

namespace Installed

/-- The family names with one purpose: those in Unicode, and, if none of these is in
English, the first one in the Roman encoding. -/
def familiesFor (names : List NameRecord) (purpose : Nat) : List (List Char) :=
  let ours := names.filter (·.purpose = purpose)
  let unicode := ours.filterMap fun r => r.unicode?.map (r.isEnglish, ·)
  let roman :=
    if unicode.any (·.1) then []
    else ((ours.find? (·.isRoman)).bind NameRecord.text?).toList
  unicode.map (·.2) ++ roman

/-- The family names of a face. The common names count only if there is no
typographic one. -/
def familyNames (names : List NameRecord) : List (List Char) :=
  match familiesFor names typographicFamilyName with
  | [] => familiesFor names familyName
  | families => families

/-- Whether the first PostScript name in a supported encoding is a valid text. -/
def hasPostScriptName (names : List NameRecord) : Bool :=
  ((names.find? fun r => r.purpose = postScriptName && (r.isUnicode || r.isRoman)).bind
    NameRecord.text?).isSome

def statedSlant (os2 : Option Os2) : Slant :=
  match os2 with
  | none => .upright
  | some t =>
    if t.selects 0 then .italic else if 4 ≤ t.version && t.selects 9 then .oblique else .upright

/-- Whether a `post` table does not state an angle of zero. -/
def statesAngle (post : ByteArray) : Bool := u32? post 4 != some 0

/-- The description of a face of a file; a face without names is left out. -/
def describe? (data : ByteArray) (index : Nat) : Option Installed := do
  let d ← (Directory.ofFile data index).toOption
  let names ← nameRecords? (← d.sortedTable? "name")
  let families := familyNames names
  if families.isEmpty || !hasPostScriptName names then none
  else
    let os2 := (d.sortedTable? "OS/2").bind Os2.read?
    let slanted := ((d.sortedTable? "post").map statesAngle).getD false
    let stated := statedSlant os2
    return {
      data
      index
      families
      slant := if stated = .upright ∧ slanted then .italic else stated
      weight := (os2.map Os2.weight).getD 400
      width := (os2.map Os2.width).getD middleWidth }

def ofFile (data : ByteArray) : List Installed :=
  (List.range (faceCount data)).filterMap (describe? data)

def ofFiles (files : List ByteArray) : List Installed := files.flatMap ofFile

end Installed

/-- The first number of a list that no other one undercuts. -/
def least? (key : Nat → Nat) : List Nat → Option Nat
  | [] => none
  | n :: rest =>
    match least? key rest with
    | some m => if key m < key n then some m else some n
    | none => some n

/-- The number nearest to `wanted` on the side that `preferred` names, or else on
the other side. -/
def nearest? (preferred : Nat → Bool) (wanted : Nat) (values : List Nat) : Option Nat :=
  let distance (n : Nat) : Nat := max n wanted - min n wanted
  (least? distance (values.filter preferred)).or (least? distance values)

/-- The width to choose: the middle one, else the next narrower one, else the next
wider one. -/
def chosenWidth? (widths : List Nat) : Option Nat :=
  nearest? (· ≤ middleWidth) middleWidth widths

/-- The slants in the order in which they are taken for a wanted one. -/
def Slant.preferences : Slant → List Slant
  | .upright => [.upright, .oblique, .italic]
  | .italic => [.italic, .oblique, .upright]
  | .oblique => [.oblique, .italic, .upright]

/-- The weight to choose: the wanted one; else, for a text weight, 500 and then the
next lighter and the next heavier one; else the next heavier and the next lighter
one. -/
def chosenWeight? (wanted : Nat) (weights : List Nat) : Option Nat :=
  if weights.contains wanted then some wanted
  else if wanted ≤ 500 then
    if weights.contains 500 then some 500 else nearest? (· ≤ wanted) wanted weights
  else nearest? (wanted ≤ ·) wanted weights

/-- The face of a family that fits a wish best; of equally good faces the first. -/
def bestMatch? (wish : Wish) (faces : List Installed) : Option Installed := do
  let width ← chosenWidth? (faces.map (·.width))
  let inWidth := faces.filter (·.width = width)
  let slant ← wish.slant.preferences.find? fun s => inWidth.any (·.slant = s)
  let inSlant := inWidth.filter (·.slant = slant)
  let weight ← chosenWeight? wish.weight (inSlant.map (·.weight))
  inSlant.find? (·.weight = weight)

def query? (installed : List Installed) (family : List Char) (v : Variant) : Option Installed :=
  bestMatch? (Wish.ofVariant v) (installed.filter (·.families.contains family))

/-- Reads the face of a variant of an installed family. The face is read from the
start of its file. -/
def familyFace (installed : List Installed) (family : List Char) (v : Variant) :
    Except LibraryError Face :=
  match query? installed family v with
  | none => .error (.familyNotFound (String.ofList family))
  | some found =>
    match TrueType.read v found.data with
    | .error cause => .error (.unreadable v cause)
    | .ok font => .ok (.trueType font)

/-- The library of an installed family, with a face of its own for every variant. -/
def Library.ofFamily (installed : List Installed) (family : List Char) :
    Except LibraryError Library := do
  let normal ← familyFace installed family .normal
  let bold ← familyFace installed family .bold
  let italic ← familyFace installed family .italic
  let boldItalic ← familyFace installed family .boldItalic
  return Library.ofFaces fun
    | .normal => normal
    | .bold => bold
    | .italic => italic
    | .boldItalic => boldItalic

end TaggedPage.Font
