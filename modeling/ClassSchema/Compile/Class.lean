import ClassSchema.Model.Class
import ClassSchema.Model.TypeDictionary
import ClassSchema.Schema.Name

/-
# The relation of a class

A class becomes a relation with a column for each attribute, of the type that the dictionary gives
for the attribute's type, and with an identifier for each group that an attribute takes part in.
-/

namespace ClassSchema

open Model

/-- An attribute has a type that the dictionary does not know. -/
structure UnknownType where
  className : String
  attributeName : String
  type : String
deriving DecidableEq, Repr

def UnknownType.message (e : UnknownType) : String :=
  s!"Class '{e.className}' attribute '{e.attributeName}' has unknown type '{e.type}'"

/-- The columns for some attributes of a class, up to the first whose type is not known. -/
def columnsOf (types : TypeDictionary) (className : String) :
    List Model.Attribute → Except UnknownType (List Schema.Attribute)
  | [] => .ok []
  | a :: rest =>
    match types.resolve? a.typeName with
    | none => .error ⟨className, a.name, a.typeName⟩
    | some type => do
      let columns ← columnsOf types className rest
      .ok (⟨unspaced a.name, type⟩ :: columns)

/-- Adds a name to a group, unless the group has it. -/
def enroll (name : String) (groups : OrderedMap UInt32 (List String)) (group : UInt32) :
    OrderedMap UInt32 (List String) :=
  let names := (groups.get? group).getD []
  if name ∈ names then groups else groups.insert group (names ++ [name])

/-- The identifiers that some attributes make up. -/
def identifiersOf (as : List Model.Attribute) : OrderedMap UInt32 (List String) :=
  as.foldl (fun groups a => (a.memberships.map (·.group)).foldl (enroll (unspaced a.name)) groups)
    .empty

/-- The relation of a class. -/
def relationOf (types : TypeDictionary) (c : Model.Class) : Except UnknownType Schema.Relation := do
  let columns ← columnsOf types c.name c.attributes
  .ok ⟨unspaced c.name, columns, identifiersOf c.attributes⟩

end ClassSchema
