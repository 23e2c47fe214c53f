import ClassSchema.Json.Decoder
import ClassSchema.Json.Printer
import ClassSchema.Schema.Constraint
import ClassSchema.Schema.Relation

/-
# Schema documents

How relations and constraints are written as JSON and read again.  A constraint is an object whose
member `kind` tells which of the three it is; an object for a relation has no such member.
-/

namespace ClassSchema.Schema

open Json Json.Decoder

/-! ### Reading -/

/-- A multiplicity, by its name. -/
def multiplicityName : Decoder Multiplicity := variant (Multiplicity.all.map fun m => (m.name, m))

def dataTypeName : Decoder DataType := variant DataType.names

def readAttribute : Decoder Attribute :=
  record "struct RelationAttribute"
    (.cons "name" text none <| .cons "data_type" dataTypeName none .nil)
    fun (name, type, ()) => ⟨name, type⟩

def readRelation : Decoder Relation :=
  record "struct RelationDef"
    (.cons "name" text none <| .cons "attributes" (list readAttribute) none <|
      .cons "identifiers" (mapOf groupKey (list text)) none .nil)
    fun (name, attributes, identifiers, ()) => ⟨name, attributes, identifiers⟩

def readAssociationEnd : Decoder AssociationEnd :=
  record "struct AssociationEnd"
    (.cons "relation" text none <| .cons "attrs" (list text) none <|
      .cons "mult" multiplicityName none .nil)
    fun (relation, attributes, multiplicity, ()) => ⟨relation, attributes, multiplicity⟩

def readAssociation : Decoder Association :=
  record "struct AssociationConstraint"
    (.cons "name" text none <| .cons "from" readAssociationEnd none <|
      .cons "to" readAssociationEnd none .nil)
    fun (name, referring, referenced, ()) => ⟨name, referring, referenced⟩

def readCorrelationEnd : Decoder CorrelationEnd :=
  record "struct CorrelationEnd"
    (.cons "attrs" (list text) none <| .cons "mult" multiplicityName none <|
      .cons "relation" text none <| .cons "ref_attrs" (list text) none .nil)
    fun (attributes, multiplicity, relation, referenced, ()) =>
      ⟨attributes, multiplicity, relation, referenced⟩

def readCorrelation : Decoder Correlation :=
  record "struct CorrelationConstraint"
    (.cons "name" text none <| .cons "correlation_relation" text none <|
      .cons "a" readCorrelationEnd none <| .cons "b" readCorrelationEnd none .nil)
    fun (name, relation, a, b, ()) => ⟨name, relation, a, b⟩

def readPartition : Decoder Partition :=
  record "struct PartitionConstraint"
    (.cons "name" text none <| .cons "superclass" text none <|
      .cons "super_attrs" (list text) none <|
      .cons "subclasses" (mapOf Key.value (list text)) none .nil)
    fun (name, superclass, superAttributes, subclasses, ()) =>
      ⟨name, superclass, superAttributes, subclasses⟩

def readConstraint : Decoder Constraint :=
  union "internally tagged enum Constraint" "kind"
    [("association", fun src t => (readAssociation src t).map .association),
     ("correlation", fun src t => (readCorrelation src t).map .correlation),
     ("partition", fun src t => (readPartition src t).map .partition)]

/-! ### Writing -/

def Attribute.toValue (a : Attribute) : Value :=
  .object [("name", .string a.name), ("data_type", .string a.type.name)]

def Relation.toValue (r : Relation) : Value :=
  .object
    [("name", .string r.name), ("attributes", .array (r.attributes.map Attribute.toValue)),
     ("identifiers", .object (r.identifiers.entries.map fun (number, names) =>
        (toString number, Value.strings names)))]

def AssociationEnd.toValue (e : AssociationEnd) : Value :=
  .object
    [("relation", .string e.relation), ("attrs", Value.strings e.attributes),
     ("mult", .string e.multiplicity.name)]

def CorrelationEnd.toValue (e : CorrelationEnd) : Value :=
  .object
    [("attrs", Value.strings e.attributes), ("mult", .string e.multiplicity.name),
     ("relation", .string e.relation), ("ref_attrs", Value.strings e.referenced)]

/-- The members of a constraint other than its kind. -/
def Constraint.members : Constraint → List (String × Value)
  | .association c =>
    [("name", .string c.name), ("from", c.referring.toValue), ("to", c.referenced.toValue)]
  | .correlation c =>
    [("name", .string c.name), ("correlation_relation", .string c.relation), ("a", c.a.toValue),
     ("b", c.b.toValue)]
  | .partition c =>
    [("name", .string c.name), ("superclass", .string c.superclass),
     ("super_attrs", Value.strings c.superAttributes),
     ("subclasses", .object (c.subclasses.entries.map fun (relation, attributes) =>
        (relation, Value.strings attributes)))]

def Constraint.toValue (c : Constraint) : Value :=
  .object (("kind", .string c.kind.name) :: c.members)

/-- The text under which a constraint is stored. -/
def Constraint.definition (c : Constraint) : String := c.toValue.compact

end ClassSchema.Schema
