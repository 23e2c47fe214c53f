import ClassSchema.Json.Printer
import ClassSchema.Model.Class

/-
# Population of the metamodel

Beside the schema a compilation records the classes that it has created as rows of three tables:
one row for each attribute, one for each identifier of a class, and one for each part that an
attribute takes in an identifier.  Attributes are added one at a time; what has been recorded of
a class is kept with the class, so that its identifiers are recorded once.
-/

namespace ClassSchema

structure AttributeRow where
  name : String
  className : String
  domain : String
  type : String
deriving DecidableEq, Repr

structure IdentifierRow where
  group : UInt32
  className : String
  domain : String
deriving DecidableEq, Repr

structure IdentifierAttributeRow where
  group : UInt32
  attributeName : String
  className : String
  domain : String
deriving DecidableEq, Repr

structure Population where
  attributes : List AttributeRow := []
  identifiers : List IdentifierRow := []
  identifierAttributes : List IdentifierAttributeRow := []
deriving DecidableEq, Repr, Inhabited

/-- A class of which attributes are recorded. -/
structure PopulatedClass where
  name : String
  domain : String
  /-- The identifiers recorded for it, in order. -/
  groups : List UInt32 := []
deriving DecidableEq, Repr, Inhabited

/-- How many rows each table has. -/
structure RowCounts where
  attributes : Nat := 0
  identifiers : Nat := 0
  identifierAttributes : Nat := 0
deriving DecidableEq, Repr, Inhabited

/-- The recorded identifiers in ascending order. -/
def PopulatedClass.ascendingGroups (c : PopulatedClass) : List UInt32 := c.groups.mergeSort

namespace Population

def counts (p : Population) : RowCounts :=
  ⟨p.attributes.length, p.identifiers.length, p.identifierAttributes.length⟩

/-- Records one attribute of a class, and with it the identifiers that it is the first to name. -/
def addAttribute (p : Population) (c : PopulatedClass) (a : Model.Attribute) :
    Population × PopulatedClass :=
  let fresh := a.groups.filter fun g => g ∉ c.groups
  ({ attributes := p.attributes ++ [⟨a.name, c.name, c.domain, a.typeName⟩]
     identifiers := p.identifiers ++ fresh.map fun g => ⟨g, c.name, c.domain⟩
     identifierAttributes :=
      p.identifierAttributes ++ a.groups.map fun g => ⟨g, a.name, c.name, c.domain⟩ },
    { c with groups := c.groups ++ fresh })

/-- Records attributes of a class in order. -/
def addAttributes (p : Population) (c : PopulatedClass) (as : List Model.Attribute) :
    Population × PopulatedClass :=
  as.foldl (fun (p, c) a => p.addAttribute c a) (p, c)

/-- Records a class with all its attributes. -/
def addClass (p : Population) (c : Model.Class) (domain : String) : Population :=
  (p.addAttributes ⟨c.name, domain, []⟩ c.attributes).1

open Json in
/-- The tables as a value, each row with its columns by name. -/
def toValue (p : Population) : Value :=
  .object
    [("attributes", .array (p.attributes.map fun r => .object
      [("name", .string r.name), ("class", .string r.className), ("domain", .string r.domain),
        ("type", .string r.type)])),
     ("identifiers", .array (p.identifiers.map fun r => .object
      [("number", .integer r.group.toNat), ("class", .string r.className),
        ("domain", .string r.domain)])),
     ("identifier_attributes", .array (p.identifierAttributes.map fun r => .object
      [("identifier", .integer r.group.toNat), ("attribute", .string r.attributeName),
        ("class", .string r.className), ("domain", .string r.domain)]))]

end Population

end ClassSchema
