import ClassSchema.Model.Document
import ClassSchema.Model.Error

/-
# Subsystems

A subsystem is a part of a domain with its classes and relationships, written in one document.
`Subsystem.ofText` reads such a document: the records first, as they stand, and then each
relationship record as one of the kinds of relationship.
-/

namespace ClassSchema.Model

open Json Json.Decoder

structure Subsystem where
  name : String
  domain : String
  classes : List Class
  relationships : List Relationship
deriving DecidableEq, Repr, Inhabited

/-- A subsystem as it is written down. -/
structure SubsystemRecord where
  name : Option String
  domain : String
  classes : List Class
  relationships : List RelationshipRecord
deriving Repr, Inhabited

def readSubsystem : Decoder SubsystemRecord :=
  record "struct SubsystemRecord"
    (.cons "name" (optional text) (some none) <| .cons "domain" text (some "") <|
      .cons "classes" (list readClass) (some []) <|
      .cons "rels" (list readRelationship) (some []) .nil)
    fun (name, domain, classes, relationships, ()) => ⟨name, domain, classes, relationships⟩

/-- Classifies records in order, up to the first that is no relationship. -/
def classifyAll : List RelationshipRecord → Except Malformed (List Relationship)
  | [] => .ok []
  | r :: rest => do
    let x ← r.classify
    let xs ← classifyAll rest
    .ok (x :: xs)

/-- The subsystem that a record writes down; `fallback` names it if the record does not. -/
def SubsystemRecord.subsystem (r : SubsystemRecord) (fallback : String) :
    Except ModelError Subsystem :=
  let name := r.name.getD fallback
  match classifyAll r.relationships with
  | .ok relationships => .ok ⟨name, r.domain, r.classes, relationships⟩
  | .error m => .error (.malformed name m)

/-- Reads the document called `path`; `fallback` names the subsystem if the document does not. -/
def Subsystem.ofText (path fallback text : String) : Except ModelError Subsystem :=
  match document readSubsystem text with
  | .ok r => r.subsystem fallback
  | .error f => .error (.badSubsystem path f)

end ClassSchema.Model
