import TaggedPage.Color
import TaggedPage.Number.Reading
import TaggedPage.Text.Raw

/-! # Command line arguments

Arguments are read from left to right, and the first one that settles the outcome
does so: a mistake, a wish for help, or a wish for the version. An option is written
with its name in full or, for some, with one letter; its value follows behind an
equals sign, directly behind the letter, or as the next argument, which must not look
like an option then. Behind `--` every argument is an input. Paths may have any bytes;
the other values must be texts.
-/

namespace TaggedPage.Command

/-- The options, all of which have a value. -/
inductive Key where
  | config
  | fontSize
  | lineHeight
  | color
  | fontFamily
  | outputDir
  | name
  deriving DecidableEq, Repr

namespace Key

/-- The options in the order of the usage text. -/
def all : List Key := [config, fontSize, lineHeight, color, fontFamily, outputDir, name]

/-- The name of an option in full. -/
def long : Key → String
  | config => "config"
  | fontSize => "font-size"
  | lineHeight => "line-height"
  | color => "color"
  | fontFamily => "font-family"
  | outputDir => "output-dir"
  | name => "name"

def letter? : Key → Option Char
  | config => some 'c'
  | outputDir => some 'o'
  | name => some 'n'
  | _ => none

def ofLong? (name : RawText) : Option Key := all.find? fun key => key.long = name

def ofLetter? (letter : UInt8) : Option Key :=
  all.find? fun key => key.letter?.map Char.toUInt8 == some letter

end Key

/-- Why the arguments ask for no document. -/
inductive Stop where
  | mistake
  | help
  | version
  deriving DecidableEq, Repr

/-- What the arguments ask for. -/
structure Arguments where
  config : Option RawText := none
  fontSize : Option Float32 := none
  lineHeight : Option Float32 := none
  color : Option Color := none
  fontFamily : Option String := none
  outputDir : Option RawText := none
  name : Option String := none
  /-- The file of the text; the standard input where there is none. -/
  input : Option RawText := none

namespace Arguments

def has (a : Arguments) : Key → Bool
  | .config => a.config.isSome
  | .fontSize => a.fontSize.isSome
  | .lineHeight => a.lineHeight.isSome
  | .color => a.color.isSome
  | .fontFamily => a.fontFamily.isSome
  | .outputDir => a.outputDir.isSome
  | .name => a.name.isSome

/-- Stores the value of an option, unless the value is of the wrong form. -/
def store? (a : Arguments) (key : Key) (value : RawText) : Option Arguments :=
  match key with
  | .config => if value.bytes.isEmpty then none else some { a with config := some value }
  | .fontSize => do return { a with fontSize := some (← Number.readSingle? (← value.text?).toList) }
  | .lineHeight => do
    return { a with lineHeight := some (← Number.readSingle? (← value.text?).toList) }
  | .color => do return { a with color := some (← (Color.read (← value.text?).toList).toOption) }
  | .fontFamily => do return { a with fontFamily := some (← value.text?) }
  | .outputDir => if value.bytes.isEmpty then none else some { a with outputDir := some value }
  | .name => do return { a with name := some (← value.text?) }

/-- Sets an option, which must not have been given before. -/
def set (a : Arguments) (key : Key) (value : RawText) : Except Stop Arguments :=
  if a.has key then .error .mistake
  else
    match a.store? key value with
    | some next => .ok next
    | none => .error .mistake

/-- Sets the input, of which there is at most one. -/
def setInput (a : Arguments) (path : RawText) : Except Stop Arguments :=
  if a.input.isSome || path.bytes.isEmpty then .error .mistake
  else .ok { a with input := some path }

end Arguments

/-- What a single argument is. -/
inductive Argument where
  /-- The mark behind which every argument is an input. -/
  | separator
  /-- An option, perhaps with its value. -/
  | option (key : Key) (value : Option RawText)
  | stop (cause : Stop)
  | input (path : RawText)

@[match_pattern] abbrev hyphen : UInt8 := 0x2D

@[match_pattern] abbrev equalsSign : UInt8 := 0x3D

namespace Argument

/-- An option with its name in full, behind the two hyphens. -/
def ofLong (argument : List UInt8) : Argument :=
  let name : RawText := ⟨argument.takeWhile (· ≠ equalsSign)⟩
  let value : Option RawText :=
    match argument.dropWhile (· ≠ equalsSign) with
    | [] => none
    | _ :: value => some ⟨value⟩
  match Key.ofLong? name with
  | some key => .option key value
  | none =>
    if value.isSome then .stop .mistake
    else if name = "help" then .stop .help
    else if name = "version" then .stop .version
    else .stop .mistake

/-- An option with its letter, behind the hyphen. -/
def ofLetter (letter : UInt8) (rest : List UInt8) : Argument :=
  match Key.ofLetter? letter with
  | some key =>
    match rest with
    | [] => .option key none
    | equalsSign :: value => .option key (some ⟨value⟩)
    | value => .option key (some ⟨value⟩)
  | none =>
    if letter = 'h'.toUInt8 then .stop .help
    else if letter = 'V'.toUInt8 then .stop .version
    else .stop .mistake

/-- What an argument in front of the separator is. A lone hyphen is an input. -/
def read (argument : RawText) : Argument :=
  match argument.bytes with
  | [hyphen, hyphen] => .separator
  | hyphen :: hyphen :: rest => ofLong rest
  | hyphen :: letter :: rest => ofLetter letter rest
  | _ => .input argument

end Argument

/-- Whether an argument cannot be the value of the option before it. -/
def looksLikeOption (argument : RawText) : Bool :=
  match argument.bytes with
  | hyphen :: _ :: _ => true
  | _ => false

/-- Reads the arguments that follow those in `a`. -/
def Arguments.readFrom (a : Arguments) : List RawText → Except Stop Arguments
  | [] => .ok a
  | argument :: rest =>
    match Argument.read argument with
    | .separator => rest.foldlM Arguments.setInput a
    | .stop cause => .error cause
    | .input path =>
      match a.setInput path with
      | .ok next => next.readFrom rest
      | .error cause => .error cause
    | .option key (some value) =>
      match a.set key value with
      | .ok next => next.readFrom rest
      | .error cause => .error cause
    | .option key none =>
      match rest with
      | [] => .error .mistake
      | value :: rest =>
        if looksLikeOption value then .error .mistake
        else
          match a.set key value with
          | .ok next => next.readFrom rest
          | .error cause => .error cause

def Arguments.read (arguments : List RawText) : Except Stop Arguments :=
  ({} : Arguments).readFrom arguments

end TaggedPage.Command
