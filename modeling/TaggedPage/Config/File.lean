import TaggedPage.Files.Disk
import TaggedPage.Font.Library
import TaggedPage.Geometry
import TaggedPage.Json.Record

/-! # Configuration files

What a configuration file may say. It is a JSON record of eight fields, each of which
may be left out; unknown keys are refused everywhere but in a colour. A file that was loaded also
knows its directory, in which the font files it names are looked up.
-/

namespace TaggedPage.Config

/-- The page dimensions of a file. -/
structure File.Page where
  width : Option Float32 := none
  height : Option Float32 := none

/-- The margins of a file. -/
structure File.Margin where
  top : Option Float32 := none
  left : Option Float32 := none

/-- What a file says of the output. -/
structure File.Output where
  dir : Option RawText := none
  name : Option String := none

/-- What a configuration file says. -/
structure File where
  page : File.Page := {}
  fontSize : Option Float32 := none
  lineHeight : Option Float32 := none
  color : Option Color := none
  margin : File.Margin := {}
  fonts : Option Font.Sources := none
  fontFamily : Option String := none
  output : File.Output := {}
  /-- The directory of the file. -/
  baseDir : Option RawText := none

namespace File

open Json (Field Node Record)

def pageRecord : Record Page where
  name := "PageSection"
  blank := {}
  closed := true
  fields :=
    [.of "width" (Node.option Node.single) fun p x => { p with width := x },
     .of "height" (Node.option Node.single) fun p x => { p with height := x }]

def marginRecord : Record Margin where
  name := "MarginSection"
  blank := {}
  closed := true
  fields :=
    [.of "top" (Node.option Node.single) fun m x => { m with top := x },
     .of "left" (Node.option Node.single) fun m x => { m with left := x }]

/-- The JSON form of the font files, of which the regular one must be given. -/
def fontsRecord : Record Font.Sources where
  name := "FontsSection"
  blank := ⟨"", none, none, none⟩
  closed := true
  fields :=
    [.of "regular" Node.text (fun s x => { s with regular := x }) true,
     .of "bold" (Node.option Node.text) fun s x => { s with bold := x },
     .of "italic" (Node.option Node.text) fun s x => { s with italic := x },
     .of "boldItalic" (Node.option Node.text) fun s x => { s with boldItalic := x }]

def outputRecord : Record Output where
  name := "OutputSection"
  blank := {}
  closed := true
  fields :=
    [.of "dir" (Node.option Node.path) fun o x => { o with dir := x.map .ofText },
     .of "name" (Node.option Node.text) fun o x => { o with name := x }]

/-- The JSON form of a file. Page, margin and output may be left out but are never null;
the other values may be null, which says nothing. -/
def record : Record File where
  name := "ConfigFile"
  blank := {}
  closed := true
  fields :=
    [.of "page" pageRecord.read (fun f x => { f with page := x }) false true,
     .of "fontSize" (Node.option Node.single) fun f x => { f with fontSize := x },
     .of "lineHeight" (Node.option Node.single) fun f x => { f with lineHeight := x },
     .of "color" (Node.option Node.color) fun f x => { f with color := x },
     .of "margin" marginRecord.read (fun f x => { f with margin := x }) false true,
     .of "fonts" (Node.option fontsRecord.read) fun f x => { f with fonts := x },
     .of "fontFamily" (Node.option Node.text) fun f x => { f with fontFamily := x },
     .of "output" outputRecord.read (fun f x => { f with output := x }) false true]

def ofJson (text : String) : Except Json.Error File := Json.decode record.read text.toList

end File

end TaggedPage.Config
