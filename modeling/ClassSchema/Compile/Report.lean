import ClassSchema.Population
import ClassSchema.Schema.Constraint

/-
# Reports

What a compilation has done: the relations and constraints that it created, in order, and what it
left out and why.
-/

namespace ClassSchema

/-- A constraint that was created. -/
structure CreatedConstraint where
  name : String
  kind : Schema.ConstraintKind
deriving DecidableEq, Repr

/-- A relationship that was left out because a class that it involves has no relation. -/
structure DeferredRelationship where
  number : String
  subsystem : String
  missing : String
deriving DecidableEq, Repr

structure Report where
  /-- The kind of store that the schema went into. -/
  store : String
  subsystems : List String := []
  relations : List String := []
  constraints : List CreatedConstraint := []
  deferred : List DeferredRelationship := []
  ordinal : List String := []
  skippedImports : List String := []
  population : RowCounts := {}
deriving DecidableEq, Repr

end ClassSchema
