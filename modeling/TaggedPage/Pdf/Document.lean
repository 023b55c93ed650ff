import TaggedPage.Pdf.Object

/-! # Documents

A document is a table of numbered objects with two of them named: the catalog,
from which everything else is reached, and the information about the document.
Numbers are given out in ascending order. A number can be reserved before its
object is known, so that objects may refer to each other.

The written form begins with a header, lists the objects by number, and ends with a
stream that holds the offset of every object, itself included.
-/

namespace TaggedPage.Pdf

/-- Numbered objects in ascending order of their numbers. -/
abbrev Numbered := List (Nat × Object)

/-- The objects with one more under the given number, in place of an earlier one. -/
def Numbered.insert (id : Nat) (object : Object) : Numbered → Numbered
  | [] => [(id, object)]
  | (other, known) :: rest =>
    if id < other then (id, object) :: (other, known) :: rest
    else if id = other then (id, object) :: rest
    else (other, known) :: Numbered.insert id object rest

/-- A table of objects that is being filled: `next` is the first number not given
out yet. -/
structure Table where
  next : Nat := 1
  objects : Numbered := []

namespace Table

/-- Gives out a number without an object. -/
def reserve (t : Table) : Nat × Table := (t.next, { t with next := t.next + 1 })

/-- Stores an object under a number that was given out. -/
def put (t : Table) (id : Nat) (object : Object) : Table :=
  { t with objects := Numbered.insert id object t.objects }

/-- Stores an object under a new number. -/
def add (t : Table) (object : Object) : Nat × Table :=
  (t.next, { t.put t.next object with next := t.next + 1 })

end Table

/-- A finished document. -/
structure Document where
  objects : Numbered
  catalog : Nat
  info : Nat

/-- The comment that marks a file as binary behind the version of the format. -/
def header : List UInt8 := ascii "%PDF-1.7\n%" ++ [0xBB, 0xAD, 0xC0, 0xDE, 10]

def writeNumbered (id : Nat) (object : Object) : List UInt8 :=
  ascii (toString id) ++ ascii " 0 obj\n" ++ object.space ++ object.write ++
    (if object.isStream || object.needsSpace then [32] else []) ++ ascii "\nendobj\n"

/-- The written forms of objects of which the first begins at an offset, and the
offsets at which they begin. -/
def writeAll (offset : Nat) : Numbered → List UInt8 × List Nat
  | [] => ([], [])
  | (id, object) :: rest =>
    let written := writeNumbered id object
    let (others, offsets) := writeAll (offset + written.length) rest
    (written ++ others, offset :: offsets)

/-- A number in `count` bytes, the most significant one first. -/
def bigEndian (n : Nat) : (count : Nat) → List UInt8
  | 0 => []
  | count + 1 => UInt8.ofNat (n / Nat.pow 256 count % 256) :: bigEndian n count

/-- The entry of an object in use in the list of offsets. -/
def offsetEntry (offset : Nat) : List UInt8 := 1 :: bigEndian offset 4 ++ bigEndian 0 2

/-- The stream that lists the offsets of all objects up to itself. -/
def crossReference (d : Document) (id : Nat) (offsets : List Nat) : Object :=
  .ofData
    [("Root", .reference d.catalog),
     ("Info", .reference d.info),
     ("Type", .name "XRef"),
     ("Size", .integer (id + 1)),
     ("W", .array [.integer 1, .integer 4, .integer 2]),
     ("Index", .array [.integer 1, .integer id])]
    (offsets.flatMap offsetEntry)

def Document.lastId (d : Document) : Nat := ((d.objects.map (·.1)).max?).getD 0

def Document.write (d : Document) : List UInt8 :=
  let (body, offsets) := writeAll header.length d.objects
  let start := header.length + body.length
  let id := d.lastId + 1
  header ++ body ++ writeNumbered id (crossReference d id (offsets ++ [start])) ++
    ascii "\nstartxref\n" ++ ascii (toString start) ++ ascii "\n%%EOF"

end TaggedPage.Pdf
