import ClassSchema.OrderedMap

/-
# Relations of a schema

A relation has typed attributes in an order and any number of identifiers: groups of attributes,
by number, of which each tells the tuples apart.  The group with the lowest number is the key that
the tuples are stored under; a relation without identifiers is stored under all its attributes.
-/

namespace ClassSchema

/-- The types of stored data. -/
inductive DataType where
  | string
  | int
  | float
  | bool
deriving DecidableEq, Repr, Inhabited

namespace DataType

/-- The name by which a definition refers to a type. -/
def name : DataType → String
  | .string => "string"
  | .int => "int"
  | .float => "float"
  | .bool => "bool"

/-- The name in the language of the database. -/
def columnType : DataType → String
  | .string => "String"
  | .int => "Int"
  | .float => "Float"
  | .bool => "Bool"

/-- All names that a type may be referred to by. -/
def names : List (String × DataType) :=
  [("string", .string), ("int", .int), ("integer", .int), ("double", .float), ("float", .float),
    ("bool", .bool), ("boolean", .bool)]

end DataType

namespace Schema

structure Attribute where
  name : String
  type : DataType
deriving DecidableEq, Repr, Inhabited

structure Relation where
  name : String
  attributes : List Attribute
  /-- The attribute names of each identifier. -/
  identifiers : OrderedMap UInt32 (List String)
deriving DecidableEq, Inhabited

namespace Relation

variable (r : Relation)

/-- The attribute names, in order of declaration. -/
def columns : List String := r.attributes.map (·.name)

/-- The attribute called `name`. -/
def attribute? (name : String) : Option Attribute := r.attributes.find? fun a => a.name == name

/-- The attributes of the key, in the order in which the identifier lists them. -/
def keyAttributes : List Attribute :=
  match r.identifiers.values with
  | group :: _ => group.filterMap r.attribute?
  | [] => r.attributes

/-- The attributes outside the key, in order of declaration. -/
def valueAttributes : List Attribute :=
  let key := r.keyAttributes.map (·.name)
  r.attributes.filter fun a => a.name ∉ key

end Relation

end Schema

end ClassSchema
