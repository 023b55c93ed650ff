import TaggedPage.Config.File
import TaggedPage.Files.Error
import TaggedPage.Layout
import TaggedPage.Number.Written
import TaggedPage.Text.Blank

/-! # Configurations

The settings of a document, complete and checked. Each setting is taken from the
options, else from the configuration file, else it has a default. The source of the
fonts is taken from the first of these tiers that names one, and a tier must not name
two. `Config.resolve` finds the settings and refuses those with which no document can
be made.
-/

namespace TaggedPage

/-- Settings given for one run. -/
structure Config.Options where
  pageSize : Option PageSize := none
  fontSize : Option Float32 := none
  lineHeight : Option Float32 := none
  color : Option Color := none
  marginTop : Option Float32 := none
  marginLeft : Option Float32 := none
  fonts : Option Font.Sources := none
  fontFamily : Option String := none
  outputDir : Option RawText := none
  documentName : Option String := none

/-- Where the four faces come from. -/
inductive Config.FontChoice where
  /-- The built-in family. -/
  | standard
  /-- Font files, with relative paths seen from a directory. -/
  | files (sources : Font.Sources) (baseDir : Option RawText)
  /-- An installed family. -/
  | family (name : String)

/-- The settings of a document. -/
structure Config where
  page : PageSize
  fontSize : Float32
  lineHeight : Float32
  color : Color
  marginTop : Float32
  marginLeft : Float32
  fonts : Config.FontChoice
  outputDir : RawText
  documentName : String

namespace Config

/-- The settings that are checked as numbers. -/
inductive Quantity where
  | pageWidth
  | pageHeight
  | fontSize
  | lineHeight
  | topMargin
  | leftMargin
  deriving DecidableEq, Repr

def Quantity.name : Quantity → String
  | .pageWidth => "page width"
  | .pageHeight => "page height"
  | .fontSize => "font size"
  | .lineHeight => "line height"
  | .topMargin => "top margin"
  | .leftMargin => "left margin"

/-- What is wrong with a configuration. -/
inductive Invalid where
  | unreadable (path : String) (cause : IoError)
  | twoFontSources (family : String)
  | notPositive (what : Quantity) (value : Float32)
  | negative (what : Quantity) (value : Float32)
  | noName
  | noRegularPath
  | noFamilyName

def Invalid.message : Invalid → String
  | .unreadable path cause =>
    "Failed to read configuration from '" ++ path ++ "': " ++ cause.message
  | .twoFontSources family => "both font files and the font family '" ++ family ++ "' are set"
  | .notPositive what value =>
    what.name ++ " must be a positive number, got " ++ Number.plain value
  | .negative what value => what.name ++ " must not be negative, got " ++ Number.plain value
  | .noName => "document name must not be empty"
  | .noRegularPath => "a regular font path is required"
  | .noFamilyName => "font family must not be empty"

def defaultFontSize : Float32 := 14

/-- What the line height of a document that sets none is larger than its font size. -/
def leading : Float32 := 10

def defaultMargin : Float32 := 50

def defaultOutputDir : RawText := "output"

def defaultName : String := "document"

/-- The source of fonts that one tier names, if it names one. -/
def fontsOfTier (sources : Option Font.Sources) (family : Option String)
    (baseDir : Option RawText) : Except Invalid (Option FontChoice) :=
  match sources, family with
  | some _, some name => .error (.twoFontSources name)
  | some sources, none => .ok (some (.files sources baseDir))
  | none, some name => .ok (some (.family name))
  | none, none => .ok none

def chooseFonts (options : Options) (file : File) : Except Invalid FontChoice := do
  match ← fontsOfTier options.fonts options.fontFamily none with
  | some choice => return choice
  | none =>
    let choice ← fontsOfTier file.fonts file.fontFamily file.baseDir
    return choice.getD .standard

/-- Whether a number is finite and above zero. -/
def isPositive (x : Float32) : Bool := x.isFinite && 0 < x

/-- Whether a number is finite and not below zero. -/
def isNonNegative (x : Float32) : Bool := x.isFinite && 0 ≤ x

def isBlankText (text : String) : Bool := (trim text.toList).isEmpty

def checkPositive (what : Quantity) (value : Float32) : Except Invalid Unit :=
  if isPositive value then .ok () else .error (.notPositive what value)

def checkNonNegative (what : Quantity) (value : Float32) : Except Invalid Unit :=
  if isNonNegative value then .ok () else .error (.negative what value)

/-- Fails unless the source of the fonts has a name. -/
def FontChoice.check : FontChoice → Except Invalid Unit
  | .standard => .ok ()
  | .files sources _ =>
    if isBlankText sources.regular then .error .noRegularPath else .ok ()
  | .family name => if isBlankText name then .error .noFamilyName else .ok ()

/-- Fails with the first thing that is wrong with the settings. -/
def check (c : Config) : Except Invalid Unit := do
  checkPositive .pageWidth c.page.width
  checkPositive .pageHeight c.page.height
  checkPositive .fontSize c.fontSize
  checkPositive .lineHeight c.lineHeight
  checkNonNegative .topMargin c.marginTop
  checkNonNegative .leftMargin c.marginLeft
  if isBlankText c.documentName then .error .noName
  c.fonts.check

/-- The settings before they are checked, with the given source of fonts. -/
def combine (options : Options) (file : File) (fonts : FontChoice) : Config :=
  let fontSize := (options.fontSize.or file.fontSize).getD defaultFontSize
  { page :=
      ⟨((options.pageSize.map (·.width)).or file.page.width).getD PageSize.a4.width,
       ((options.pageSize.map (·.height)).or file.page.height).getD PageSize.a4.height⟩
    fontSize
    lineHeight := (options.lineHeight.or file.lineHeight).getD (fontSize + leading)
    color := (options.color.or file.color).getD .black
    marginTop := (options.marginTop.or file.margin.top).getD defaultMargin
    marginLeft := (options.marginLeft.or file.margin.left).getD defaultMargin
    fonts
    outputDir := (options.outputDir.or file.output.dir).getD defaultOutputDir
    documentName := (options.documentName.or file.output.name).getD defaultName }

/-- The settings of a document from the options and the configuration file. -/
def resolve (options : Options) (file : Option File) : Except Invalid Config := do
  let file := file.getD {}
  let config := combine options file (← chooseFonts options file)
  config.check
  return config

/-- The part of the settings on which layout depends. -/
def settings (c : Config) : Layout.Settings where
  baseFontSize := c.fontSize
  lineHeight := c.lineHeight
  leftMargin := c.marginLeft
  topMargin := c.marginTop
  pageHeight := c.page.height
  defaultColor := c.color

end Config

end TaggedPage
