import TaggedPage.Number.Written
import TaggedPage.Pdf.Literal

/-! # Objects

The values of which a document is made, and their written form. Within an array or
a dictionary a space stands before a number or a reference, since nothing else
would divide it from what comes before.
-/

namespace TaggedPage.Pdf

/-- A value in a document. A stream is a dictionary with bytes behind it; a
reference names another object by its number. -/
inductive Object where
  | integer (value : Int)
  | real (value : Float32)
  | name (value : String)
  | string (bytes : List UInt8)
  | array (items : List Object)
  | dictionary (entries : List (String × Object))
  | stream (entries : List (String × Object)) (data : List UInt8)
  | reference (id : Nat)
  deriving Inhabited

abbrev Entries := List (String × Object)

def ascii (text : String) : List UInt8 := text.toList.map fun c => UInt8.ofNat c.toNat

namespace Object

/-- A stream whose dictionary ends with the length of its data. -/
def ofData (entries : Entries) (data : List UInt8) : Object :=
  .stream (entries ++ [("Length", .integer data.length)]) data

/-- Whether a space divides the object from what comes before it. -/
def needsSpace : Object → Bool
  | .integer _ | .real _ | .reference _ => true
  | _ => false

def space (o : Object) : List UInt8 := if o.needsSpace then [32] else []

mutual

def write : Object → List UInt8
  | .integer value => ascii (toString value)
  | .real value => ascii (Number.plain value)
  | .name value => 47 :: ascii value
  | .string bytes => Literal.write bytes
  | .array [] => ascii "[]"
  | .array (first :: rest) => 91 :: write first ++ writeItems rest ++ [93]
  | .dictionary entries => ascii "<<" ++ writeEntries entries ++ ascii ">>"
  | .stream entries data =>
    ascii "<<" ++ writeEntries entries ++ ascii ">>stream\n" ++ data ++ ascii "\nendstream"
  | .reference id => ascii (toString id) ++ ascii " 0 R"

/-- The written form of the items of an array behind its first one. -/
def writeItems : List Object → List UInt8
  | [] => []
  | item :: rest => space item ++ write item ++ writeItems rest

def writeEntries : List (String × Object) → List UInt8
  | [] => []
  | (key, value) :: rest =>
    47 :: ascii key ++ space value ++ write value ++ writeEntries rest

end

def isStream : Object → Bool
  | .stream _ _ => true
  | _ => false

end Object

end TaggedPage.Pdf
