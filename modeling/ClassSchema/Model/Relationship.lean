import ClassSchema.Json.Value
import ClassSchema.Model.Multiplicity

/-
# Relationships of a model

A relationship record has many optional members, and which of them are present tells its kind: an
association between two classes, an associative relationship held by a class of its own, a
generalization, or an ordering of the instances of a class.  `RelationshipRecord.classify` sorts a
record into one of the four, with the members of that kind and no others, or says why it is none.
-/

namespace ClassSchema.Model

/-- One participant of a binary relationship. -/
structure Side where
  className : String
  multiplicity : Multiplicity
  phrase : Option String
deriving DecidableEq, Repr, Inhabited

/-- The two participants of a binary relationship.  Each carries the multiplicity of the class that
it names, whichever of the two refers to the other. -/
structure Sides where
  t : Side
  p : Side
deriving DecidableEq, Repr, Inhabited

/-- The multiplicity of the side that names `role`, and that of the other side.  If neither side
names it, the p-side is taken for it; if both do, the t-side. -/
def Sides.project (s : Sides) (role : String) : Multiplicity × Multiplicity :=
  if s.t.className = role then (s.t.multiplicity, s.p.multiplicity)
  else (s.p.multiplicity, s.t.multiplicity)

/-- A class and a list of its attributes. -/
structure PathEnd where
  className : String
  attributes : List String
deriving DecidableEq, Repr, Inhabited

/-- A reference from attributes of one class to attributes of another. -/
structure ReferencePath where
  source : PathEnd
  target : PathEnd
deriving DecidableEq, Repr, Inhabited

/-- A relationship as it is written down. -/
structure RelationshipRecord where
  number : String
  tSide : Option Side
  pSide : Option Side
  ref1 : Option ReferencePath
  ref2 : Option ReferencePath
  associationClass : Option String
  superclass : Option String
  subclasses : List String
  genrefs : List ReferencePath
  ascend : Option Json.Value
deriving Repr, Inhabited

/-- A class refers to another. -/
structure Association where
  number : String
  sides : Sides
  ref1 : ReferencePath
deriving DecidableEq, Repr, Inhabited

/-- A class refers to two others and so holds their association. -/
structure Associative where
  number : String
  associationClass : String
  sides : Sides
  ref1 : ReferencePath
  ref2 : ReferencePath
deriving DecidableEq, Repr, Inhabited

/-- A class is partitioned into subclasses.  There is one path for all subclasses, or one path for
each of them. -/
structure Generalization where
  number : String
  superclass : String
  subclasses : List String
  genrefs : List ReferencePath
deriving DecidableEq, Repr, Inhabited

/-- The instances of a class are ordered. -/
structure Ordinal where
  number : String
  /-- The class, if the record names it. -/
  orderedClass : Option String
deriving DecidableEq, Repr, Inhabited

inductive Relationship where
  | association (r : Association)
  | associative (r : Associative)
  | generalization (r : Generalization)
  | ordinal (r : Ordinal)
deriving DecidableEq, Repr, Inhabited

/-- The number by which the model refers to a relationship. -/
def Relationship.number : Relationship → String
  | .association r => r.number
  | .associative r => r.number
  | .generalization r => r.number
  | .ordinal r => r.number

/-- Why a record is no relationship. -/
inductive Defect where
  | severalKinds
  | pathInGeneralization
  | noSubclasses
  | noGenrefs
  /-- A path starts at a class that is not among the subclasses. -/
  | foreignSource (className : String)
  /-- Two paths start at one subclass. -/
  | repeatedSource (className : String)
  /-- No path starts at a subclass. -/
  | noGenref (className : String)
  | missingSide
  | noPath
  | noAssociationClass
deriving DecidableEq, Repr

def Defect.reason : Defect → String
  | .severalKinds => "more than one of superclass, ref2 and ascend is present"
  | .pathInGeneralization => "generalization carries a ref1 path"
  | .noSubclasses => "generalization names no subclasses"
  | .noGenrefs => "generalization has no genrefs"
  | .foreignSource c => s!"genref source '{c}' is not a subclass"
  | .repeatedSource c => s!"subclass '{c}' has more than one genref"
  | .noGenref c => s!"subclass '{c}' has no genref"
  | .missingSide => "missing t_side or p_side"
  | .noPath => "no reference path"
  | .noAssociationClass => "associative relationship without assoc_cname"

/-- A record that is no relationship. -/
structure Malformed where
  number : String
  defect : Defect
deriving DecidableEq, Repr

def Malformed.message (m : Malformed) : String :=
  s!"Malformed relationship {m.number}: {m.defect.reason}"

/-- The first path, in order, that starts at a class outside `subclasses` or where one of the
classes `before` it does. -/
def badSource? (subclasses before : List String) : List String → Option Defect
  | [] => none
  | c :: rest =>
    if c ∉ subclasses then some (.foreignSource c)
    else if c ∈ before then some (.repeatedSource c)
    else badSource? subclasses (c :: before) rest

/-- What is wrong with one path for each subclass. -/
def genrefDefect? (subclasses : List String) (genrefs : List ReferencePath) : Option Defect :=
  let sources := genrefs.map (·.source.className)
  (badSource? subclasses [] sources).or
    ((subclasses.find? fun c => c ∉ sources).map .noGenref)

namespace RelationshipRecord

variable (r : RelationshipRecord)

/-- How many of the members are present that each mark a kind of its own. -/
def markerCount : Nat :=
  [r.superclass.isSome, r.ref2.isSome, r.ascend.isSome].countP id

/-- The record as a partition of `superclass`. -/
def asGeneralization (superclass : String) : Except Defect Generalization :=
  if r.ref1.isSome then .error .pathInGeneralization
  else if r.subclasses.isEmpty then .error .noSubclasses
  else if r.genrefs.isEmpty then .error .noGenrefs
  else
    match if 1 < r.genrefs.length then genrefDefect? r.subclasses r.genrefs else none with
    | some d => .error d
    | none => .ok ⟨r.number, superclass, r.subclasses, r.genrefs⟩

/-- The record as an ordering. -/
def asOrdinal (ascend : Json.Value) : Ordinal :=
  ⟨r.number, (ascend.member? "cname").bind Json.Value.string?⟩

/-- The record as a relationship of two sides. -/
def asBinary : Except Defect Relationship :=
  match r.tSide, r.pSide with
  | some t, some p =>
    match r.ref1 with
    | none => .error .noPath
    | some ref1 =>
      match r.ref2, r.associationClass with
      | some ref2, some c => .ok (.associative ⟨r.number, c, ⟨t, p⟩, ref1, ref2⟩)
      | some _, none => .error .noAssociationClass
      | none, _ => .ok (.association ⟨r.number, ⟨t, p⟩, ref1⟩)
  | _, _ => .error .missingSide

/-- The kind of relationship that a record writes down. -/
def kind : Except Defect Relationship :=
  if 1 < r.markerCount then .error .severalKinds
  else match r.superclass, r.ascend with
    | some superclass, _ => (r.asGeneralization superclass).map .generalization
    | none, some ascend => .ok (.ordinal (r.asOrdinal ascend))
    | none, none => r.asBinary

/-- The relationship that a record writes down, or what is wrong with the record. -/
def classify : Except Malformed Relationship := r.kind.mapError (⟨r.number, ·⟩)

end RelationshipRecord

end ClassSchema.Model
