import TaggedPage.Geometry
import TaggedPage.Json.Record
import TaggedPage.Variant

/-! # JSON forms of the basic types

Page sizes and margins are records with further keys allowed, colours are written as
objects, and a variant is a name, or an object whose only key is the name and whose
value is null.
-/

namespace TaggedPage

/-- The number in a data file; infinities have no written form. -/
def Json.writeSingle (x : Float32) : List Char :=
  if x.isFinite then (Number.dataNumber (-6) 12).single x else "null".toList

def Json.writeObject (members : List (String × List Char)) : List Char :=
  let one (m : String × List Char) : List Char := '"' :: m.1.toList ++ '"' :: ':' :: m.2
  '\x7b' :: [','].intercalate (members.map one) ++ ['\x7d']

def PageSize.record : Json.Record PageSize where
  name := "PageSize"
  blank := ⟨0, 0⟩
  closed := false
  fields :=
    [.of "width" Json.Node.single (fun s x => { s with width := x }) true,
     .of "height" Json.Node.single (fun s x => { s with height := x }) true]

def PageSize.toJson (s : PageSize) : List Char :=
  Json.writeObject [("width", Json.writeSingle s.width), ("height", Json.writeSingle s.height)]

def Margins.record : Json.Record Margins where
  name := "EdgeMargins"
  blank := .unset
  closed := false
  fields :=
    [.of "top" (Json.Node.option Json.Node.single) fun m x => { m with top := x },
     .of "bottom" (Json.Node.option Json.Node.single) fun m x => { m with bottom := x },
     .of "left" (Json.Node.option Json.Node.single) fun m x => { m with left := x },
     .of "right" (Json.Node.option Json.Node.single) fun m x => { m with right := x }]

def Margins.toJson (m : Margins) : List Char :=
  let one (x : Option Float32) : List Char := (x.map Json.writeSingle).getD "null".toList
  Json.writeObject
    [("top", one m.top), ("bottom", one m.bottom), ("left", one m.left), ("right", one m.right)]

def Color.toJson (c : Color) : List Char :=
  let one (x : UInt8) : List Char := (toString x.toNat).toList
  Json.writeObject [("r", one c.red), ("g", one c.green), ("b", one c.blue)]

def Variant.toJson (v : Variant) : List Char := '"' :: v.key.toList ++ ['"']

namespace Variant

open Json

def keys : List String := all.map key

def ofNode (node : Node) : Except Complaint Variant :=
  match node with
  | .string value stop =>
    match all.find? fun v => v.key.toList == value with
    | some v => .ok v
    | none => complain (.unknownVariant value keys) stop
  | other => other.refuse "variant identifier"

/-- What is wrong where the name of a variant should stand in its object form. -/
def nameFault (c : Cursor) : Fault :=
  match c.rest with
  | [] => c.here .endInObject
  | '\x7d' :: _ => c.ahead .wantedValue
  | _ => c.ahead .keyNotString

def readName (c : Cursor) : Except Complaint (Variant × Cursor) := do
  let (name, behind) := readValue (enoughFuel c) depthLimit c
  return (← ofNode name, behind.getD c)

/-- Reads a variant behind the opening brace of its object form. -/
def readTagged (c : Cursor) : Except Complaint (Variant × Cursor) := do
  let malformed (fault : Fault) : Complaint := ⟨.malformed fault.cause, some fault.place⟩
  let c := c.skipBlank
  if c.rest.head? ≠ some '"' then throw (malformed (nameFault c))
  let (variant, behindName) ← readName c
  let start ← behindName.colon.mapError malformed
  let (value, behindValue) := readValue (enoughFuel start) (depthLimit - 1) start
  match value with
  | .null _ =>
    let c := (behindValue.getD start).skipBlank
    match c.rest with
    | '\x7d' :: _ => return (variant, c.next)
    | [] => .error (malformed (c.here .endInObject))
    | _ => .error (malformed (c.here .wantedValue))
  | other => other.refuse "unit"

def readAt (c : Cursor) : Except Complaint (Variant × Cursor) := do
  let malformed (fault : Fault) : Complaint := ⟨.malformed fault.cause, some fault.place⟩
  let c := c.skipBlank
  match c.rest with
  | [] => .error (malformed (c.here .endInValue))
  | '\x7b' :: _ => readTagged c.next
  | '"' :: _ => readName c
  | _ => .error (malformed (c.ahead .wantedValue))

def ofJson (text : List Char) : Except Json.Error Variant :=
  let result : Except Complaint Variant := do
    let (variant, c) ← readAt (Cursor.ofText text)
    let c := c.skipBlank
    if c.rest.isEmpty then return variant
    else complain (.malformed .trailingCharacters) (c.ahead .trailingCharacters).place
  result.mapError (·.locate text)

end Variant

end TaggedPage
