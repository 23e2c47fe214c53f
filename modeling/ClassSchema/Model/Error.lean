import ClassSchema.Files.Error
import ClassSchema.Model.Relationship
import ClassSchema.Yaml.Mapping

/-
# Why a model cannot be read

A file may be out of reach, its text may not be the document that it should be, or a record in it
may be no relationship.
-/

namespace ClassSchema.Model

inductive ModelError where
  | unreadable (path : String) (error : FileError)
  /-- The document called `path` is no subsystem. -/
  | badSubsystem (path : String) (fault : Fault)
  /-- The document called `path` is no type dictionary. -/
  | badDictionary (path : String) (fault : Yaml.MappingFault)
  /-- A record of a subsystem is no relationship. -/
  | malformed (subsystem : String) (record : Malformed)
deriving DecidableEq, Repr

/-- The whole wording where there is one; the wording of a fault in a document is its own. -/
def ModelError.message : ModelError → Option String
  | .unreadable path error => some s!"Failed to read '{path}': {error.text}"
  | .badSubsystem _ fault => fault.message
  | .badDictionary _ fault => fault.message
  | .malformed subsystem record => some s!"Subsystem '{subsystem}': {record.message}"

end ClassSchema.Model
