import TaggedPage.Config.Resolve
import TaggedPage.Sink
import TaggedPage.Text.Quoted

/-! # Failures

Everything that can keep a document from being made, with two wordings: a message
for a reader, and a report that names the kinds of failure and shows the values in
them. The report of a value is its kind, with its parts in brackets; texts in it are
quoted.
-/

namespace TaggedPage

/-- Why a document could not be made. -/
inductive Failure where
  | config (cause : Config.Invalid)
  | font (cause : Font.LibraryError)
  | render (cause : RenderError)
  | io (cause : IoError)
  | json (cause : Json.Error)

namespace Failure

def message : Failure → String
  | .config cause => "Configuration is invalid: " ++ cause.message
  | .font cause => "Font loading failed: " ++ cause.message
  | .render cause => "Rendering failed: " ++ cause.message
  | .io cause => "I/O error: " ++ cause.message
  | .json cause => "Configuration JSON could not be parsed: " ++ cause.message

end Failure

namespace Report

open Quoted (quote)

/-- A kind with one part. -/
def one (kind value : String) : String := kind ++ "(" ++ value ++ ")"

/-- A kind with named parts. -/
def parts (kind : String) (values : List (String × String)) : String :=
  kind ++ " \x7b " ++
    String.intercalate ", " (values.map fun (name, value) => name ++ ": " ++ value) ++ " \x7d"

def ofIo : IoError → String
  | .system cause =>
    parts "Os" [("code", toString cause.code), ("kind", cause.kind), ("message", quote cause.text)]
  | .notUtf8 =>
    parts "Error" [("kind", "InvalidData"), ("message", quote IoError.notUtf8.message)]
  | .zeroInPath =>
    parts "Error" [("kind", "InvalidInput"), ("message", quote IoError.zeroInPath.message)]
  | .other message => parts "Custom" [("kind", "Other"), ("error", quote message)]

def ofResource : ResourceError → String
  | .notFound path => one "NotFound" (quote path)
  | .loadFailed path message =>
    parts "LoadFailed" [("path", quote path), ("message", quote message)]

def ofLibrary : Font.LibraryError → String
  | .missing variant path source =>
    parts "Missing"
      [("variant", variant.label), ("path", quote path), ("source", ofResource source)]
  | .unreadable variant cause =>
    parts "Parse" [("variant", variant.label), ("message", quote cause.message)]
  | .familyNotFound family => one "SystemFontNotFound" (quote family)

def ofRender : RenderError → String
  | .io cause => one "Io" (ofIo cause)
  | .pdf message => one "Pdf" (quote message)
  | .noPage => "NoPage"
  | .unknownFont variant => one "UnknownFont" variant.label

def ofJson (e : Json.Error) : String :=
  let (line, column) := e.position.getD (0, 0)
  one "Error" (quote e.cause.message ++ ", line: " ++ toString line ++ ", column: " ++
    toString column)

def ofFailure : Failure → String
  | .config cause => one "Config" (quote cause.message)
  | .font cause => one "Font" (ofLibrary cause)
  | .render cause => one "Render" (ofRender cause)
  | .io cause => one "Io" (ofIo cause)
  | .json cause => one "Json" (ofJson cause)

end Report

end TaggedPage
