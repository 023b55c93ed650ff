import TaggedPage.Font.Library
import TaggedPage.Pdf.Content
import TaggedPage.Pdf.Document
import TaggedPage.Sink

/-! # Canvas

A canvas is the sink that makes a PDF document. It embeds the distinct faces of a
library once each and names them `F1`, `F2`, and so on, by first appearance in the
order of the variants. While a page is open its operations are collected; the font
and the fill colour are selected only when they differ from those in force on the
page. A page becomes an object when the next one is begun or the document is
finished.
-/

namespace TaggedPage.Pdf

open Font (Face Library Standard TrueType)
open Layout (Placement)

/-- The number under which the shared resources of all pages are stored. -/
def resourcesId : Nat := 1

def pagesId : Nat := 2

def catalogId : Nat := 3

def standardDictionary (font : Standard) : Object :=
  .dictionary
    [("Type", .name "Font"),
     ("Subtype", .name "Type1"),
     ("BaseFont", .name font.name),
     ("Encoding", .name "WinAnsiEncoding")]

/-- The properties of an embedded face as a sum of powers of two: not symbolic, of
fixed pitch, slanted. -/
def fontFlags (font : TrueType) : Nat :=
  32 + (if font.fixedPitch then 1 else 0) + (if font.italicAngle != 0.0 then 64 else 0)

def fontFile (font : TrueType) : Object :=
  .ofData [("Length1", .integer font.data.size)] font.data.data.toList

/-- The description of an embedded face whose file is the object `file`. -/
def fontDescriptor (font : TrueType) (file : Nat) : Object :=
  .dictionary
    [("Type", .name "FontDescriptor"),
     ("FontName", .name font.name),
     ("Flags", .integer (fontFlags font)),
     ("FontBBox", .array [.real font.xMin, .real font.yMin, .real font.xMax, .real font.yMax]),
     ("ItalicAngle", .real font.italicAngle),
     ("Ascent", .real font.ascent),
     ("Descent", .real font.descent),
     ("CapHeight", .real font.capHeight),
     ("StemV", .integer 80),
     ("FontFile2", .reference file)]

/-- The font dictionary of an embedded face whose description is the object
`descriptor`. -/
def trueTypeDictionary (font : TrueType) (descriptor : Nat) : Object :=
  .dictionary
    [("Type", .name "Font"),
     ("Subtype", .name "TrueType"),
     ("BaseFont", .name font.name),
     ("FirstChar", .integer Font.firstCode),
     ("LastChar", .integer Font.lastCode),
     ("Widths", .array (font.widths.map fun w => .integer w.toNat)),
     ("Encoding", .name "WinAnsiEncoding"),
     ("FontDescriptor", .reference descriptor)]

/-- Stores the objects of a face, the font dictionary last; gives its number. -/
def addFace (t : Table) : Face → Nat × Table
  | .standard font => t.add (standardDictionary font)
  | .trueType font =>
    let (file, t) := t.add (fontFile font)
    let (descriptor, t) := t.add (fontDescriptor font file)
    t.add (trueTypeDictionary font descriptor)

/-- The distinct faces that the variants use, in order of first appearance. -/
def usedSlots (l : Library) : List (Fin l.faces.length) :=
  Variant.all.foldl (fun known v => if l.slot v ∈ known then known else known ++ [l.slot v]) []

/-- The resource name of the face that was registered as number `index`. -/
def resourceName (index : Nat) : String := "F" ++ toString (index + 1)

def fontName (l : Library) (v : Variant) : String :=
  resourceName ((usedSlots l).idxOf (l.slot v))

/-- Stores faces of which the first is registered as number `index`; gives the
entries of the font dictionary. -/
def addFaces (t : Table) (index : Nat) : List Face → Entries × Table
  | [] => ([], t)
  | face :: rest =>
    let (id, t) := addFace t face
    let (entries, t) := addFaces t (index + 1) rest
    ((resourceName index, .reference id) :: entries, t)

/-- The font and the fill colour in force on a page. -/
structure TextState where
  font : Option (String × Float32) := none
  fill : Option Color := none

/-- A page that is being drawn. -/
structure OpenPage where
  size : PageSize
  /-- The operations so far, the latest one first. -/
  latest : List Operation := []
  state : TextState := {}

namespace OpenPage

def operations (p : OpenPage) : List Operation := p.latest.reverse

def push (p : OpenPage) (o : Operation) : OpenPage := { p with latest := o :: p.latest }

@[simp] theorem operations_push (p : OpenPage) (o : Operation) :
    (p.push o).operations = p.operations ++ [o] := by
  simp [operations, push]

def hasFont (p : OpenPage) (name : String) (size : Float32) : Bool :=
  match p.state.font with
  | some (known, knownSize) => known == name && knownSize == size
  | none => false

/-- Selects a font and size, unless they are in force. -/
def useFont (p : OpenPage) (name : String) (size : Float32) : OpenPage :=
  if p.hasFont name size then p
  else
    { p.push (.setFont name size) with state := { p.state with font := some (name, size) } }

def useFill (p : OpenPage) (c : Color) : OpenPage :=
  if p.state.fill = some c then p
  else
    let (red, green, blue) := c.units
    { p.push (.setFill red green blue) with state := { p.state with fill := some c } }

/-- Draws a text in the font with the given name. An empty text leaves no trace. -/
def draw (p : OpenPage) (name : String) (c : Placement) : OpenPage :=
  if c.text.isEmpty then p
  else
    let p := (p.push .beginText).useFont name c.size
    let p := p.useFill c.color
    ((p.push (.moveTo c.x c.y)).push (.showString (WinAnsi.encode c.text))).push .endText

end OpenPage

def pageObject (size : PageSize) (content : Nat) : Object :=
  .dictionary
    [("Type", .name "Page"),
     ("Parent", .reference pagesId),
     ("MediaBox", .array [.real 0.0, .real 0.0, .real size.width, .real size.height]),
     ("Contents", .reference content),
     ("Resources", .reference resourcesId)]

/-- A document in the making. -/
structure Canvas where
  table : Table
  fonts : Entries
  fontName : Variant → String
  page : Option OpenPage := none
  pageIds : List Nat := []

namespace Canvas

/-- An empty document with the faces of a library. The first three numbers are kept
for the resources, the list of pages and the catalog. -/
def new (l : Library) : Canvas :=
  let (_, t) := ({} : Table).reserve
  let (_, t) := t.reserve
  let (_, t) := t.reserve
  let (fonts, t) := addFaces t 0 ((usedSlots l).map fun slot => l.faces[slot])
  { table := t, fonts, fontName := Pdf.fontName l }

def pageCount (c : Canvas) : Nat := c.pageIds.length + (if c.page.isSome then 1 else 0)

/-- Turns the open page, if there is one, into its objects. -/
def closePage (c : Canvas) : Canvas :=
  match c.page with
  | none => c
  | some page =>
    let (content, t) := c.table.add (.ofData [] (writeContent page.operations))
    let (id, t) := t.add (pageObject page.size content)
    { c with table := t, page := none, pageIds := c.pageIds ++ [id] }

def beginPage (c : Canvas) (size : PageSize) : Canvas :=
  { c.closePage with page := some { size } }

def drawText (c : Canvas) (p : Placement) : Except RenderError Canvas :=
  match c.page with
  | none => .error .noPage
  | some page => .ok { c with page := some (page.draw (c.fontName p.variant) p) }

def document (c : Canvas) : Document :=
  let c := c.closePage
  let t := c.table.put resourcesId (.dictionary [("Font", .dictionary c.fonts)])
  let t := t.put pagesId
    (.dictionary
      [("Type", .name "Pages"),
       ("Kids", .array (c.pageIds.map .reference)),
       ("Count", .integer c.pageIds.length)])
  let t := t.put catalogId
    (.dictionary [("Type", .name "Catalog"), ("Pages", .reference pagesId)])
  let (info, t) := t.add (.dictionary [("Producer", .string (ascii "tagpress"))])
  ⟨t.objects, catalogId, info⟩

def sink : Sink Canvas where
  beginPage size := modify fun c => c.beginPage size
  drawText p := fun c =>
    match c.drawText p with
    | .ok next => (.ok (), next)
    | .error e => (.error e, c)
  finish := do return (← get).document.write

end Canvas

end TaggedPage.Pdf
