import ClassSchema.Files.Error

/-
# Access to files

What the program asks of a file system, as a record of actions, so that it runs the same on the
files of a machine and on a directory tree that is a value.
-/

namespace ClassSchema

inductive FileKind where
  | file
  | directory
deriving DecidableEq, Repr, Inhabited

structure FileAccess (m : Type → Type) where
  /-- What stands at a path. -/
  kind : String → m (Option FileKind)
  /-- The text in a file. -/
  read : String → m (Except FileError String)
  /-- The names in a directory, in any order. -/
  list : String → m (Except FileError (List String))
  /-- Writes a text in the stead of what the file holds. -/
  write : String → String → m (Except FileError Unit)

end ClassSchema
