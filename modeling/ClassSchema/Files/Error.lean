/-
# Failures of the file system

Why a file or a directory could not be used, and how messages word it.
-/

namespace ClassSchema

inductive FileError where
  | notFound
  | permissionDenied
  | notDirectory
  | isDirectory
  | nameTooLong
  /-- The path holds a character that no path can hold. -/
  | badName
  /-- The content is no text in UTF-8. -/
  | notText
  | other (text : String)
deriving DecidableEq, Repr, Inhabited

def FileError.text : FileError → String
  | .notFound => "No such file or directory (os error 2)"
  | .permissionDenied => "Permission denied (os error 13)"
  | .notDirectory => "Not a directory (os error 20)"
  | .isDirectory => "Is a directory (os error 21)"
  | .nameTooLong => "File name too long (os error 36)"
  | .badName => "file name contained an unexpected NUL byte"
  | .notText => "stream did not contain valid UTF-8"
  | .other text => text

end ClassSchema
