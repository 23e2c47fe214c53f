import ClassSchema.Model.Multiplicity
import ClassSchema.OrderedMap

/-
# Constraints of a schema

What a schema demands across relations.  An association lets attributes of one relation refer to
attributes of another.  A correlation is a relation that refers to two others and so says which of
their tuples belong together.  A partition lets several relations refer to one, each tuple of
which belongs to exactly one of them.
-/

namespace ClassSchema.Schema

/-- One end of an association. -/
structure AssociationEnd where
  relation : String
  attributes : List String
  multiplicity : Multiplicity
deriving DecidableEq, Repr, Inhabited

structure Association where
  name : String
  referring : AssociationEnd
  referenced : AssociationEnd
deriving DecidableEq, Repr, Inhabited

/-- One end of a correlation: `attributes` of the correlating relation refer to `referenced`
attributes of `relation`. -/
structure CorrelationEnd where
  attributes : List String
  multiplicity : Multiplicity
  relation : String
  referenced : List String
deriving DecidableEq, Repr, Inhabited

structure Correlation where
  name : String
  /-- The relation whose tuples correlate the two ends. -/
  relation : String
  a : CorrelationEnd
  b : CorrelationEnd
deriving DecidableEq, Repr, Inhabited

structure Partition where
  name : String
  superclass : String
  superAttributes : List String
  /-- The relations of the subclasses, each with the attributes that refer to the superclass. -/
  subclasses : OrderedMap String (List String)
deriving DecidableEq, Inhabited

inductive Constraint where
  | association (c : Association)
  | correlation (c : Correlation)
  | partition (c : Partition)
deriving DecidableEq, Inhabited

inductive ConstraintKind where
  | association
  | correlation
  | partition
deriving DecidableEq, Repr, Inhabited

def ConstraintKind.name : ConstraintKind → String
  | .association => "association"
  | .correlation => "correlation"
  | .partition => "partition"

namespace Constraint

def name : Constraint → String
  | .association c => c.name
  | .correlation c => c.name
  | .partition c => c.name

def kind : Constraint → ConstraintKind
  | .association _ => .association
  | .correlation _ => .correlation
  | .partition _ => .partition

end Constraint

end ClassSchema.Schema
