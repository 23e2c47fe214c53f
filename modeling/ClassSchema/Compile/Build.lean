import ClassSchema.Compile.Class
import ClassSchema.Compile.Relationship
import ClassSchema.Population
import ClassSchema.Store.Basic

/-
# Builds

A build is a store together with what is known about the model that is built into it: the classes
that have a relation, by their model names, and the rows recorded for them.  `addClass` and
`addRelationship` are its two steps.  A step that fails changes nothing.
-/

namespace ClassSchema

open Model

structure Build (σ : Type) where
  store : σ
  /-- The model names of the classes that have a relation. -/
  known : OrderedMap String Unit := .empty
  population : Population := {}

/-- Why a step fails. -/
inductive BuildError where
  | unknownType (e : UnknownType)
  | rejected (e : Schema.SchemaError)
deriving DecidableEq, Repr

inductive ClassOutcome where
  /-- The class has the relation of this name now. -/
  | materialized (relation : String)
  | imported
deriving DecidableEq, Repr

inductive RelationshipOutcome where
  | created (kind : Schema.ConstraintKind)
  /-- This class has no relation, so there is no constraint either. -/
  | deferred (missing : String)
  | ordinal
deriving DecidableEq, Repr

namespace Build

variable {σ : Type}

def isKnown (b : Build σ) (className : String) : Bool := b.known.contains className

def markKnown (b : Build σ) (className : String) : Build σ :=
  { b with known := b.known.insert className () }

/-- The first of some classes that has no relation. -/
def firstMissing? (b : Build σ) (classes : List String) : Option String :=
  classes.find? fun c => !b.isKnown c

variable [Store σ]

/-- Creates the relation of a class, unless the class is imported. -/
def addClass (types : TypeDictionary) (domain : String) (b : Build σ) (c : Model.Class) :
    Except BuildError (Build σ × ClassOutcome) :=
  if c.isImported then .ok (b, .imported)
  else
    match relationOf types c with
    | .error e => .error (.unknownType e)
    | .ok relation =>
      match Store.create b.store (.relation relation) with
      | .error e => .error (.rejected e)
      | .ok store =>
        .ok ({ store
               known := b.known.insert c.name ()
               population := b.population.addClass c domain },
          .materialized relation.name)

/-- Creates the constraint of a relationship, if it has one and its classes have relations. -/
def addRelationship (b : Build σ) (r : Relationship) :
    Except BuildError (Build σ × RelationshipOutcome) :=
  match b.firstMissing? r.requiredClasses, r.constraint? with
  | _, none => .ok (b, .ordinal)
  | some missing, some _ => .ok (b, .deferred missing)
  | none, some constraint =>
    match Store.create b.store (.constraint constraint) with
    | .error e => .error (.rejected e)
    | .ok store => .ok ({ b with store }, .created constraint.kind)

end Build

end ClassSchema
