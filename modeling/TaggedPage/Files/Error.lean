/-! # Input and output errors

The failures of file operations: the ones the system reports, each with its number
and its kind, and the ones found before the system is asked or in what it gives.
-/

namespace TaggedPage

/-- A failure reported by the system. -/
inductive SystemError where
  | notFound
  | alreadyExists
  | notADirectory
  | isADirectory
  | nameTooLong
  | permissionDenied
  | noSpace
  /-- Any other one, with its number, its kind and its wording. -/
  | other (code : Nat) (kind text : String)
  deriving DecidableEq, Repr

namespace SystemError

def code : SystemError → Nat
  | .notFound => 2
  | .alreadyExists => 17
  | .notADirectory => 20
  | .isADirectory => 21
  | .nameTooLong => 36
  | .permissionDenied => 13
  | .noSpace => 28
  | .other code _ _ => code

def text : SystemError → String
  | .notFound => "No such file or directory"
  | .alreadyExists => "File exists"
  | .notADirectory => "Not a directory"
  | .isADirectory => "Is a directory"
  | .nameTooLong => "File name too long"
  | .permissionDenied => "Permission denied"
  | .noSpace => "No space left on device"
  | .other _ _ text => text

def kind : SystemError → String
  | .notFound => "NotFound"
  | .alreadyExists => "AlreadyExists"
  | .notADirectory => "NotADirectory"
  | .isADirectory => "IsADirectory"
  | .nameTooLong => "InvalidFilename"
  | .permissionDenied => "PermissionDenied"
  | .noSpace => "StorageFull"
  | .other _ kind _ => kind

end SystemError

/-- A failure of a file operation. -/
inductive IoError where
  | system (cause : SystemError)
  /-- Text was wanted and the bytes are not UTF-8. -/
  | notUtf8
  /-- A path holds a zero byte. -/
  | zeroInPath
  /-- Any other failure, with its wording. -/
  | other (message : String)
  deriving DecidableEq, Repr

def IoError.message : IoError → String
  | .system cause => cause.text ++ " (os error " ++ toString cause.code ++ ")"
  | .notUtf8 => "stream did not contain valid UTF-8"
  | .zeroInPath => "file name contained an unexpected NUL byte"
  | .other message => message

end TaggedPage
