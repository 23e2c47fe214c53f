/-
# Classes of a model

A class has a name and typed attributes, and each attribute says in which of the numbered
identifiers of its class it takes part.  A class may be imported from another domain; then it is
known by name only and nothing is created for it.
-/

namespace ClassSchema.Model

/-- An attribute takes part in the identifier `group` of its class. -/
structure Membership where
  group : UInt32
  /-- Whether the model marks the membership as one of a superkey. -/
  superkey : Bool
deriving DecidableEq, Repr, Inhabited

structure Attribute where
  name : String
  /-- The declared type, if any. -/
  type : Option String
  memberships : List Membership
deriving DecidableEq, Repr, Inhabited

/-- The type name that stands for a type that was not declared. -/
def undeclaredType : String := "<unresolved>"

/-- The name under which the type of an attribute is looked up and recorded. -/
def Attribute.typeName (a : Attribute) : String := a.type.getD undeclaredType

/-- The groups of an attribute, each once, in order of first mention. -/
def Attribute.groups (a : Attribute) : List UInt32 := (a.memberships.map (·.group)).eraseDups

structure Class where
  name : String
  /-- The domain that the class comes from, if it is not its own. -/
  importedFrom : Option String
  attributes : List Attribute
deriving DecidableEq, Repr, Inhabited

/-- A class is imported when it names a domain to import it from. -/
def Class.isImported (c : Class) : Bool :=
  match c.importedFrom with
  | some domain => domain != ""
  | none => false

end ClassSchema.Model
