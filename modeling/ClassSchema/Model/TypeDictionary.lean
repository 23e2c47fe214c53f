import ClassSchema.Schema.Relation
import ClassSchema.Text.Blank
import ClassSchema.Yaml.Mapping

/-
# Type dictionaries

A dictionary maps the type names of a model to the types of stored data.  It is written as a YAML
mapping; a blank text is an empty dictionary.
-/

namespace ClassSchema.Model

structure TypeDictionary where
  types : OrderedMap String DataType
deriving DecidableEq, Inhabited

namespace TypeDictionary

def empty : TypeDictionary := ⟨.empty⟩

/-- The type that a name stands for. -/
def resolve? (d : TypeDictionary) (name : String) : Option DataType := d.types.get? name

/-- How many names the dictionary has. -/
def size (d : TypeDictionary) : Nat := d.types.entries.length

/-- Reads a dictionary. -/
def ofText (text : String) : Except Yaml.MappingFault TypeDictionary :=
  if Text.isBlankText text then .ok empty
  else ((Yaml.Document.ofText text).toMapping DataType.names).map (⟨·⟩)

end TypeDictionary

end ClassSchema.Model
