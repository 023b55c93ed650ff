import TaggedPage.Json.Number
import TaggedPage.Json.Text

/-! # Values of a JSON text

A text is read into a tree of values that know where they stand. Where the text
stops being JSON the tree ends in a fault, so that what was read before the fault
can still be looked at first. At most 127 arrays and objects may be open at once.

The value of an object's member may be wanted or not, and an unwanted one is held
to fewer rules. A faulty value of a member is therefore followed by the members
that are found when it is merely skipped.
-/

namespace TaggedPage.Json

mutual

/-- A value with its place. The place of a scalar is behind it, that of an array or
an object before its opening bracket. -/
inductive Node where
  | null (stop : Nat)
  | bool (value : Bool) (stop : Nat)
  | number (value : Numeral) (stop : Nat)
  | string (value : List Char) (stop : Nat)
  | array (start : Nat) (items : Items)
  | object (start : Nat) (members : Members)
  | fault (fault : Fault)

/-- The items of an array. An item knows where it starts and where a complaint about
it is reported once its array is left. -/
inductive Items where
  | close (stop : Nat)
  | item (start : Nat) (value : Node) (settled : Nat) (rest : Items)
  | fault (fault : Fault)

/-- The members of an object. A member knows where complaints about its key and about
its value are reported once its object is left. -/
inductive Members where
  | close (stop : Nat)
  | member (key : List Char) (keySettled : Nat) (value : Node) (settled : Nat) (rest : Members)
  | fault (fault : Fault)

end

instance : Inhabited Node := ⟨.null 0⟩

namespace Cursor

/-- Where a complaint is reported when an array is left here: behind white space, and
behind the closing bracket, or behind a comma and more white space. -/
def settleInList (c : Cursor) : Nat :=
  let c := c.skipBlank
  match c.rest with
  | ']' :: _ => c.next.place
  | ',' :: _ => c.next.skipBlank.place
  | _ => c.place

/-- Where a complaint is reported when an object is left here: behind white space, and
behind the closing brace. -/
def settleInObject (c : Cursor) : Nat :=
  let c := c.skipBlank
  match c.rest with
  | '\x7d' :: _ => c.next.place
  | _ => c.place

/-- The cursor behind the letters of a word. -/
def word (c : Cursor) : List Char → Except Fault Cursor
  | [] => .ok c
  | letter :: letters =>
    match c.rest with
    | [] => .error (c.here .endInValue)
    | found :: _ => if found = letter then c.next.word letters else .error (c.ahead .wantedWord)

/-- The cursor behind the colon of a member. -/
def colon (c : Cursor) : Except Fault Cursor :=
  let c := c.skipBlank
  match c.rest with
  | [] => .error (c.here .endInObject)
  | ':' :: _ => .ok c.next
  | _ => .error (c.ahead .wantedColon)

end Cursor

mutual

def skipValue : (fuel : Nat) → Cursor → Except Fault Cursor
  | 0, c => .error (c.here .endInValue)
  | fuel + 1, c =>
    let c := c.skipBlank
    match c.rest with
    | [] => .error (c.here .endInValue)
    | 'n' :: _ => c.word ['n', 'u', 'l', 'l']
    | 't' :: _ => c.word ['t', 'r', 'u', 'e']
    | 'f' :: _ => c.word ['f', 'a', 'l', 's', 'e']
    | '-' :: _ => skipNumeral c.next
    | '"' :: _ => skipString c.next
    | '[' :: _ =>
      let c := c.next.skipBlank
      match c.rest with
      | [] => .error (c.here .endInList)
      | ']' :: _ => .ok c.next
      | _ => skipItems fuel c
    | '\x7b' :: _ =>
      let c := c.next.skipBlank
      match c.rest with
      | [] => .error (c.here .endInObject)
      | '\x7d' :: _ => .ok c.next
      | _ => skipMembers fuel c
    | first :: _ => if first.isDigit then skipNumeral c else .error (c.ahead .wantedValue)

def skipItems : (fuel : Nat) → Cursor → Except Fault Cursor
  | 0, c => .error (c.here .endInList)
  | fuel + 1, c => do
    let c := (← skipValue fuel c).skipBlank
    match c.rest with
    | [] => .error (c.here .endInList)
    | ']' :: _ => .ok c.next
    | ',' :: _ => skipItems fuel c.next
    | _ => .error (c.ahead .wantedListEnd)

def skipMembers : (fuel : Nat) → Cursor → Except Fault Cursor
  | 0, c => .error (c.here .endInObject)
  | fuel + 1, c => do
    let c := c.skipBlank
    match c.rest with
    | [] => .error (c.here .endInObject)
    | '"' :: _ =>
      let c := (← skipValue fuel (← (← skipString c.next).colon)).skipBlank
      match c.rest with
      | [] => .error (c.here .endInObject)
      | '\x7d' :: _ => .ok c.next
      | ',' :: _ => skipMembers fuel c.next
      | _ => .error (c.ahead .wantedObjectEnd)
    | _ => .error (c.ahead .keyNotString)

end

/-- A scalar that was read, or the fault in it, and the cursor behind it. -/
def scalar {α : Type} (node : α → Nat → Node) : Except Fault (α × Cursor) → Node × Option Cursor
  | .ok (value, behind) => (node value behind.place, some behind)
  | .error fault => (.fault fault, none)

/-- How many calls of the readers below a text can take. -/
def enoughFuel (c : Cursor) : Nat := 4 * c.rest.length + 8

mutual

/-- Reads a value and the cursor behind it; `depth` more arrays and objects may be
opened. -/
def readValue : (fuel depth : Nat) → Cursor → Node × Option Cursor
  | 0, _, c => (.fault (c.here .endInValue), none)
  | fuel + 1, depth, c =>
    let c := c.skipBlank
    match c.rest with
    | [] => (.fault (c.here .endInValue), none)
    | 'n' :: _ => scalar (fun _ => .null) ((c.word ['n', 'u', 'l', 'l']).map (((), ·)))
    | 't' :: _ => scalar .bool ((c.word ['t', 'r', 'u', 'e']).map ((true, ·)))
    | 'f' :: _ => scalar .bool ((c.word ['f', 'a', 'l', 's', 'e']).map ((false, ·)))
    | '-' :: _ => scalar .number (readNumeral true c.next)
    | '"' :: _ => scalar .string (readString c.next)
    | '[' :: _ =>
      match depth with
      | 0 => (.fault (c.ahead .tooDeep), none)
      | depth + 1 =>
        let (items, behind) := readFirstItem fuel depth c.next
        (.array c.place items, behind)
    | '\x7b' :: _ =>
      match depth with
      | 0 => (.fault (c.ahead .tooDeep), none)
      | depth + 1 =>
        let (members, behind) := readFirstMember fuel depth c.next
        (.object c.place members, behind)
    | first :: _ =>
      if first.isDigit then scalar .number (readNumeral false c)
      else (.fault (c.ahead .wantedValue), none)

def readFirstItem : (fuel depth : Nat) → Cursor → Items × Option Cursor
  | 0, _, c => (.fault (c.here .endInList), none)
  | fuel + 1, depth, c =>
    let c := c.skipBlank
    match c.rest with
    | [] => (.fault (c.here .endInList), none)
    | ']' :: _ => (.close c.next.place, some c.next)
    | _ => readItem fuel depth c

def readItem : (fuel depth : Nat) → Cursor → Items × Option Cursor
  | 0, _, c => (.fault (c.here .endInList), none)
  | fuel + 1, depth, c =>
    match readValue fuel depth c with
    | (value, none) => (.item c.place value c.place (.close c.place), none)
    | (value, some behind) =>
      let (rest, last) := readMoreItems fuel depth behind
      (.item c.place value behind.settleInList rest, last)

def readMoreItems : (fuel depth : Nat) → Cursor → Items × Option Cursor
  | 0, _, c => (.fault (c.here .endInList), none)
  | fuel + 1, depth, c =>
    let c := c.skipBlank
    match c.rest with
    | [] => (.fault (c.here .endInList), none)
    | ']' :: _ => (.close c.next.place, some c.next)
    | ',' :: _ =>
      let c := c.next.skipBlank
      match c.rest with
      | [] => (.fault (c.here .endInValue), none)
      | ']' :: _ => (.fault (c.ahead .trailingComma), none)
      | _ => readItem fuel depth c
    | _ => (.fault (c.ahead .wantedListEnd), none)

def readFirstMember : (fuel depth : Nat) → Cursor → Members × Option Cursor
  | 0, _, c => (.fault (c.here .endInObject), none)
  | fuel + 1, depth, c =>
    let c := c.skipBlank
    match c.rest with
    | [] => (.fault (c.here .endInObject), none)
    | '\x7d' :: _ => (.close c.next.place, some c.next)
    | '"' :: _ => readMember fuel depth c.next
    | _ => (.fault (c.ahead .keyNotString), none)

/-- Reads a member behind the opening quote of its key, and those behind it. -/
def readMember : (fuel depth : Nat) → Cursor → Members × Option Cursor
  | 0, _, c => (.fault (c.here .endInObject), none)
  | fuel + 1, depth, c =>
    match readString c with
    | .error fault => (.fault fault, none)
    | .ok (key, behindKey) =>
      match behindKey.colon with
      | .error fault =>
        (.member key behindKey.settleInObject (.fault fault) c.place (.fault fault), none)
      | .ok start =>
        match readValue fuel depth start with
        | (value, some behind) =>
          let (rest, last) := readMoreMembers fuel depth behind
          (.member key behindKey.settleInObject value behind.settleInObject rest, last)
        | (value, none) =>
          match skipValue (enoughFuel start) start with
          | .error fault =>
            (.member key behindKey.settleInObject value c.place (.fault fault), none)
          | .ok behind =>
            let (rest, last) := readMoreMembers fuel depth behind
            (.member key behindKey.settleInObject value behind.settleInObject rest, last)

def readMoreMembers : (fuel depth : Nat) → Cursor → Members × Option Cursor
  | 0, _, c => (.fault (c.here .endInObject), none)
  | fuel + 1, depth, c =>
    let c := c.skipBlank
    match c.rest with
    | [] => (.fault (c.here .endInObject), none)
    | '\x7d' :: _ => (.close c.next.place, some c.next)
    | ',' :: _ =>
      let c := c.next.skipBlank
      match c.rest with
      | [] => (.fault (c.here .endInValue), none)
      | '"' :: _ => readMember fuel depth c.next
      | '\x7d' :: _ => (.fault (c.ahead .trailingComma), none)
      | _ => (.fault (c.ahead .keyNotString), none)
    | _ => (.fault (c.ahead .wantedObjectEnd), none)

end

/-- The greatest number of arrays and objects that may be open at once. -/
def depthLimit : Nat := 127

/-- What a text holds: a value, and a fault if more than white space follows it. -/
structure Contents where
  root : Node
  trailing : Option Fault

def Contents.ofText (text : List Char) : Contents :=
  let start := Cursor.ofText text
  let (root, behind) := readValue (enoughFuel start) depthLimit start
  let trailing := behind.bind fun c =>
    let c := c.skipBlank
    if c.rest.isEmpty then none else some (c.ahead .trailingCharacters)
  ⟨root, trailing⟩

mutual

/-- The first fault in a value, in reading order. -/
def Node.firstFault? : Node → Option Fault
  | .array _ items => items.firstFault?
  | .object _ members => members.firstFault?
  | .fault fault => some fault
  | _ => none

def Items.firstFault? : Items → Option Fault
  | .close _ => none
  | .item _ value _ rest => value.firstFault?.or rest.firstFault?
  | .fault fault => some fault

def Members.firstFault? : Members → Option Fault
  | .close _ => none
  | .member _ _ value _ rest => value.firstFault?.or rest.firstFault?
  | .fault fault => some fault

end

end TaggedPage.Json
