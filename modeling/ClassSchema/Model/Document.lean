import ClassSchema.Json.Decoder
import ClassSchema.Model.Class
import ClassSchema.Model.Relationship

/-
# Model documents

How the records of a class model are written as JSON: the members of each record in their order of
declaration, with what stands for a member that is absent.
-/

namespace ClassSchema.Model

open Json Json.Decoder

/-- A multiplicity, by its tag. -/
def multiplicityTag : Decoder Multiplicity := variant (Multiplicity.all.map fun m => (m.tag, m))

def readSide : Decoder Side :=
  record "struct Side"
    (.cons "cname" text none <| .cons "mult" multiplicityTag none <|
      .cons "phrase" (optional text) (some none) .nil)
    fun (c, m, phrase, ()) => ⟨c, m, phrase⟩

def readPathEnd : Decoder PathEnd :=
  record "struct RefEnd"
    (.cons "class" text none <| .cons "attrs" (list text) none .nil)
    fun (c, attributes, ()) => ⟨c, attributes⟩

def readPath : Decoder ReferencePath :=
  record "struct RefPath"
    (.cons "source" readPathEnd none <| .cons "target" readPathEnd none .nil)
    fun (source, target, ()) => ⟨source, target⟩

def readRelationship : Decoder RelationshipRecord :=
  record "struct RelationshipRecord"
    (.cons "rnum" text none <|
      .cons "t_side" (optional readSide) (some none) <|
      .cons "p_side" (optional readSide) (some none) <|
      .cons "ref1" (optional readPath) (some none) <|
      .cons "ref2" (optional readPath) (some none) <|
      .cons "assoc_cname" (optional text) (some none) <|
      .cons "superclass" (optional text) (some none) <|
      .cons "subclasses" (list text) (some []) <|
      .cons "genrefs" (list readPath) (some []) <|
      .cons "ascend" (optional anything) (some none) .nil)
    fun (number, t, p, ref1, ref2, associationClass, superclass, subclasses, genrefs, ascend, ()) =>
      ⟨number, t, p, ref1, ref2, associationClass, superclass, subclasses, genrefs, ascend⟩

/-- The membership that a value denotes: a group number, or a group number and a flag. -/
def Membership.ofValue? : Value → Option Membership
  | .integer g => if 0 ≤ g ∧ g < UInt32.size then some ⟨UInt32.ofNat g.toNat, false⟩ else none
  | .array [.integer g, .bool superkey] =>
    if 0 ≤ g ∧ g < UInt32.size then some ⟨UInt32.ofNat g.toNat, superkey⟩ else none
  | _ => none

def readMembership : Decoder Membership := fun src t => do
  let v ← t.value src.room
  match Membership.ofValue? v with
  | some m => .ok m
  | none => .error (.noForm "IdentifierRepr")

def readAttribute : Decoder Attribute :=
  record "struct AttributeRecord"
    (.cons "name" text none <| .cons "type" (optional text) (some none) <|
      .cons "I" (list readMembership) (some []) .nil)
    fun (name, type, memberships, ()) => ⟨name, type, memberships⟩

def readClass : Decoder Class :=
  record "struct ClassRecord"
    (.cons "name" text none <| .cons "import" (optional text) (some none) <|
      .cons "attributes" (list readAttribute) (some []) .nil)
    fun (name, importedFrom, attributes, ()) => ⟨name, importedFrom, attributes⟩

end ClassSchema.Model
