import ClassSchema.Model.Relationship
import ClassSchema.Schema.Constraint
import ClassSchema.Schema.Name

/-
# The constraint of a relationship

A relationship becomes a constraint once the classes that it involves have relations: an
association becomes an association, an associative relationship a correlation, a generalization a
partition.  An ordering says nothing about relations and becomes no constraint.
-/

namespace ClassSchema

open Model

/-- The classes that must have relations before a relationship becomes a constraint. -/
def Model.Relationship.requiredClasses : Relationship → List String
  | .association r => [r.ref1.source.className, r.ref1.target.className]
  | .associative r => [r.associationClass, r.ref1.target.className, r.ref2.target.className]
  | .generalization r => r.superclass :: r.subclasses
  | .ordinal _ => []

/-- The referring class is where the path starts; multiplicities go with the class they name. -/
def Model.Association.constraint (r : Model.Association) : Schema.Association :=
  let source := r.ref1.source
  let target := r.ref1.target
  let (referring, referenced) := r.sides.project source.className
  ⟨r.number,
    ⟨unspaced source.className, source.attributes.map unspaced, referring⟩,
    ⟨unspaced target.className, target.attributes.map unspaced, referenced⟩⟩

/-- Both paths start at the association class.  The multiplicity of the class that the first path
leads to goes to the first end. -/
def Model.Associative.constraint (r : Associative) : Schema.Correlation :=
  let (a, b) := r.sides.project r.ref1.target.className
  let correlationEnd (path : ReferencePath) (m : Multiplicity) : Schema.CorrelationEnd :=
    ⟨path.source.attributes.map unspaced, m, unspaced path.target.className,
      path.target.attributes.map unspaced⟩
  ⟨r.number, unspaced r.associationClass, correlationEnd r.ref1 a, correlationEnd r.ref2 b⟩

/-- The subclasses of a partition: one path serves all of them, several serve one each. -/
def Model.Generalization.subclassAttributes (r : Generalization) :
    OrderedMap String (List String) :=
  match r.genrefs with
  | [] => .empty
  | [shared] =>
    .ofList (r.subclasses.map fun c => (unspaced c, shared.source.attributes.map unspaced))
  | paths =>
    .ofList (paths.map fun p => (unspaced p.source.className, p.source.attributes.map unspaced))

/-- The attributes of the superclass are those that the first path leads to. -/
def Model.Generalization.constraint (r : Generalization) : Schema.Partition :=
  let superAttributes :=
    match r.genrefs with
    | [] => []
    | first :: _ => first.target.attributes.map unspaced
  ⟨r.number, unspaced r.superclass, superAttributes, r.subclassAttributes⟩

/-- The constraint of a relationship; an ordering has none. -/
def Model.Relationship.constraint? : Relationship → Option Schema.Constraint
  | .association r => some (.association r.constraint)
  | .associative r => some (.correlation r.constraint)
  | .generalization r => some (.partition r.constraint)
  | .ordinal _ => none

end ClassSchema
