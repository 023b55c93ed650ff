import TaggedPage.Json.Node
import TaggedPage.Text.Quoted

/-! # Typed reading of JSON values

A value is read as a number, a text, an option or a record, and refused with the
reason and the place. A record is described by its fields in order; it may be
written as an object with these keys or as an array of the values in this order.
Everything is looked at in reading order, so that of several complaints the first
one is made.

A complaint about a key, or one found inside a value that has no place of its own,
is reported where the enclosing object or array is left.
-/

namespace TaggedPage.Json

/-- Why a value is not what was wanted. -/
inductive Mismatch where
  | malformed (cause : Malformed)
  | wrongType (found wanted : String)
  | unknownField (key : List Char) (known : List String)
  | duplicateField (key : String)
  | missingField (key : String)
  | wrongLength (count : Nat) (wanted : String)
  | unknownVariant (name : List Char) (known : List String)
  | badColor (cause : ColorError)
  | notAColor
  deriving DecidableEq, Repr

/-- A complaint; one without a place gets the place where its surroundings are left. -/
structure Complaint where
  cause : Mismatch
  place : Option Nat
  deriving DecidableEq, Repr

def alternatives : List String → String
  | [] => "nothing"
  | [a] => "`" ++ a ++ "`"
  | [a, b] => "`" ++ a ++ "` or `" ++ b ++ "`"
  | names => "one of " ++ String.intercalate ", " (names.map fun name => "`" ++ name ++ "`")

def Mismatch.message : Mismatch → String
  | .malformed cause => cause.message
  | .wrongType found wanted => "invalid type: " ++ found ++ ", expected " ++ wanted
  | .unknownField key known =>
    "unknown field `" ++ String.ofList key ++ "`, expected " ++ alternatives known
  | .duplicateField key => "duplicate field `" ++ key ++ "`"
  | .missingField key => "missing field `" ++ key ++ "`"
  | .wrongLength count wanted => "invalid length " ++ toString count ++ ", expected " ++ wanted
  | .unknownVariant name known =>
    "unknown variant `" ++ String.ofList name ++ "`, expected " ++ alternatives known
  | .badColor cause => cause.message
  | .notAColor => "data did not match any variant of untagged enum ColorDef"

def complain {α : Type} (cause : Mismatch) (place : Nat) : Except Complaint α :=
  .error ⟨cause, some place⟩

/-- Gives a complaint without a place the place `settled`. -/
def settle {α : Type} (settled : Nat) : Except Complaint α → Except Complaint α
  | .error ⟨cause, none⟩ => .error ⟨cause, some settled⟩
  | result => result

namespace Node

/-- The complaint that a value is of another type than wanted. -/
def refuse {α : Type} (wanted : String) : Node → Except Complaint α
  | .null stop => complain (.wrongType "null" wanted) stop
  | .bool value stop =>
    complain (.wrongType ("boolean `" ++ toString value ++ "`") wanted) stop
  | .number value stop => complain (.wrongType value.describe wanted) stop
  | .string value stop =>
    complain (.wrongType ("string " ++ String.ofList (Quoted.quoteChars value)) wanted) stop
  | .array start _ => complain (.wrongType "sequence" wanted) start
  | .object start _ => complain (.wrongType "map" wanted) start
  | .fault f => complain (.malformed f.cause) f.place

def single : Node → Except Complaint Float32
  | .number value _ => .ok value.single
  | other => other.refuse "f32"

def text : Node → Except Complaint String
  | .string value _ => .ok (String.ofList value)
  | other => other.refuse "a string"

def path : Node → Except Complaint String
  | .string value _ => .ok (String.ofList value)
  | other => other.refuse "path string"

/-- Reads a value that may be null. -/
def option {α : Type} (read : Node → Except Complaint α) : Node → Except Complaint (Option α)
  | .null _ => .ok none
  | other => (read other).map some

def channel? : Node → Option UInt8
  | .number (.natural value) _ => if value < 256 then some (UInt8.ofNat value) else none
  | _ => none

end Node

def Members.valuesOf (key : List Char) : Members → List Node
  | .member other _ value _ rest =>
    if other = key then value :: rest.valuesOf key else rest.valuesOf key
  | _ => []

/-- The channel that an object gives under a key, which must occur once. -/
def Members.channelOf? (members : Members) (key : Char) : Option UInt8 :=
  match members.valuesOf [key] with
  | [value] => value.channel?
  | _ => none

/-- Reads a colour: a text that spells one, or an object with its three channels. Only
faults in the value have a place of their own. -/
def Node.color (node : Node) : Except Complaint Color :=
  match node.firstFault? with
  | some f => complain (.malformed f.cause) f.place
  | none =>
    match node with
    | .string value _ => (Color.read value).mapError fun cause => ⟨.badColor cause, none⟩
    | .object _ members =>
      match members.channelOf? 'r', members.channelOf? 'g', members.channelOf? 'b' with
      | some red, some green, some blue => .ok ⟨red, green, blue⟩
      | _, _, _ => .error ⟨.notAColor, none⟩
    | _ => .error ⟨.notAColor, none⟩

/-- A field of a record of type `ρ`. -/
structure Field (ρ : Type) where
  key : String
  /-- Reads the value and stores it in the record. -/
  read : Node → ρ → Except Complaint ρ
  /-- Whether an object must have the field. -/
  required : Bool := false
  /-- Whether an array may end before the field. -/
  skippable : Bool := false

/-- A field that stores what `read` gives. -/
def Field.of {ρ α : Type} (key : String) (read : Node → Except Complaint α) (store : ρ → α → ρ)
    (required : Bool := false) (skippable : Bool := false) : Field ρ :=
  ⟨key, fun node record => (read node).map (store record), required, skippable⟩

/-- The description of a record: its name in messages, the record whose fields are all
absent, its fields in order, and whether other keys are refused. -/
structure Record (ρ : Type) where
  name : String
  blank : ρ
  fields : List (Field ρ)
  closed : Bool

namespace Record

variable {ρ : Type} (r : Record ρ)

def keys : List String := r.fields.map (·.key)

def field? (key : List Char) : Option (Field ρ) :=
  r.fields.find? fun f => f.key.toList == key

/-- Reads the members of an object; `seen` holds the keys that have occurred. -/
def readMembers (seen : List String) (record : ρ) : Members → Except Complaint ρ
  | .close stop =>
    match r.fields.find? fun f => f.required && !seen.contains f.key with
    | some f => complain (.missingField f.key) stop
    | none => .ok record
  | .fault f => complain (.malformed f.cause) f.place
  | .member key keySettled value settled rest =>
    match r.field? key with
    | none =>
      if r.closed then complain (.unknownField key r.keys) keySettled
      else readMembers seen record rest
    | some f =>
      if seen.contains f.key then complain (.duplicateField f.key) keySettled
      else
        match settle settled (f.read value record) with
        | .error complaint => .error complaint
        | .ok record => readMembers (f.key :: seen) record rest

/-- How the record is called when an array has the wrong length. -/
def lengthName : String :=
  "struct " ++ r.name ++ " with " ++ toString r.fields.length ++ " elements"

/-- The end of an array behind the last field. A fault is reported as it looks to a
reader that expects nothing but the end. -/
def readEnd (record : ρ) : Items → Except Complaint ρ
  | .close _ => .ok record
  | .item start _ _ _ => complain (.malformed .trailingCharacters) (start + 1)
  | .fault f =>
    match f.cause with
    | .wantedListEnd => complain (.malformed .trailingCharacters) f.place
    | .endInValue => complain (.malformed .trailingCharacters) f.place
    | cause => complain (.malformed cause) f.place

/-- Reads the items of an array into the fields that are left, behind `count` others. -/
def readItems (count : Nat) (record : ρ) : List (Field ρ) → Items → Except Complaint ρ
  | [], items => readEnd record items
  | f :: fields, .item _ value settled rest =>
    match settle settled (f.read value record) with
    | .error complaint => .error complaint
    | .ok record => readItems (count + 1) record fields rest
  | f :: fields, .close stop =>
    if f.skippable then readItems (count + 1) record fields (.close stop)
    else complain (.wrongLength count r.lengthName) stop
  | _ :: _, .fault f => complain (.malformed f.cause) f.place

/-- Reads a record from either of its written forms. -/
def read (node : Node) : Except Complaint ρ :=
  match node with
  | .object _ members => r.readMembers [] r.blank members
  | .array _ items => r.readItems 0 r.blank r.fields items
  | other => other.refuse ("struct " ++ r.name)

end Record

/-- A complaint about a text as it is shown: with the line and column, where it has a
place. -/
structure Error where
  cause : Mismatch
  position : Option (Nat × Nat)
  deriving DecidableEq, Repr

def Error.message (e : Error) : String :=
  match e.position with
  | none => e.cause.message
  | some (line, column) =>
    e.cause.message ++ " at line " ++ toString line ++ " column " ++ toString column

def Complaint.locate (text : List Char) (c : Complaint) : Error :=
  ⟨c.cause, c.place.map fun place => lineColumn place text⟩

/-- Reads a whole text as one value. -/
def decode {α : Type} (read : Node → Except Complaint α) (text : List Char) : Except Error α :=
  let contents := Contents.ofText text
  let result : Except Complaint α := do
    let value ← read contents.root
    match contents.trailing with
    | some fault => complain (.malformed fault.cause) fault.place
    | none => return value
  result.mapError (·.locate text)

end TaggedPage.Json
