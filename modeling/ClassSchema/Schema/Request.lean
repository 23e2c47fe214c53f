import ClassSchema.Schema.Constraint
import ClassSchema.Schema.Relation

/-
# Requests and their validation

A schema grows by requests, each for one relation or one constraint.  Whether a request may be
accepted depends on what is stored already, as far as a `View` shows it; every kind of store is
asked the same questions, so all of them reject the same requests for the same reason.  The checks
run in a fixed order and the first that fails gives the reason.
-/

namespace ClassSchema.Schema

inductive Request where
  | relation (r : Relation)
  | constraint (c : Constraint)
deriving DecidableEq, Inhabited

/-- Why a request or a query is rejected. -/
inductive SchemaError where
  | duplicateRelation (name : String)
  | emptyRelation (name : String)
  | duplicateAttribute (relation column : String)
  | duplicateIdentifierAttribute (relation : String) (group : UInt32) (column : String)
  | duplicateConstraint (name : String)
  | unknownRelation (name : String)
  | unknownAttribute (relation column : String)
  | countMismatch (name : String) (referring referenced : Nat)
  | emptyPartition (name : String)
  /-- The database does not take a statement. -/
  | refused
  /-- A name pattern is too large. -/
  | invalidPattern
deriving DecidableEq, Repr

def SchemaError.message : SchemaError → Option String
  | .duplicateRelation name => some s!"Relation '{name}' already exists"
  | .emptyRelation name => some s!"Relation '{name}' has no attributes"
  | .duplicateAttribute relation column =>
    some s!"Relation '{relation}' declares attribute '{column}' more than once"
  | .duplicateIdentifierAttribute relation group column =>
    some s!"Relation '{relation}' identifier {group} lists '{column}' more than once"
  | .duplicateConstraint name => some s!"Constraint '{name}' already exists"
  | .unknownRelation name => some s!"Unknown relation '{name}'"
  | .unknownAttribute relation column => some s!"Relation '{relation}' has no attribute '{column}'"
  | .countMismatch name referring referenced =>
    some <| s!"Constraint '{name}': {referring} referring attribute(s) against " ++
      s!"{referenced} referenced attribute(s)"
  | .emptyPartition name => some s!"Partition '{name}' has no subclasses"
  | .refused | .invalidPattern => none

/-- What validation asks of a store. -/
structure View where
  hasRelation : String → Bool
  /-- The attribute names of a stored relation. -/
  columns? : String → Option (List String)
  hasConstraint : String → Bool

/-- The first name that is among the names before it. -/
def firstRepeat? (before : List String) : List String → Option String
  | [] => none
  | name :: rest => if name ∈ before then some name else firstRepeat? (name :: before) rest

/-- All names must be among the columns of the relation. -/
def checkNames (relation : String) (columns names : List String) : Except SchemaError Unit :=
  match names.find? fun name => name ∉ columns with
  | some name => .error (.unknownAttribute relation name)
  | none => .ok ()

/-- Every identifier lists attributes of the relation, none of them twice. -/
def checkIdentifiers (relation : String) (columns : List String) :
    List (UInt32 × List String) → Except SchemaError Unit
  | [] => .ok ()
  | (group, names) :: rest => do
    checkNames relation columns names
    match firstRepeat? [] names with
    | some name => .error (.duplicateIdentifierAttribute relation group name)
    | none => checkIdentifiers relation columns rest

/-- As many attributes refer as are referred to, and at least one does. -/
def checkCounts (constraint : String) (referring referenced : List String) :
    Except SchemaError Unit :=
  if referring.isEmpty ∨ referring.length ≠ referenced.length then
    .error (.countMismatch constraint referring.length referenced.length)
  else .ok ()

namespace View

variable (v : View)

/-- The relation is stored and has all the attributes. -/
def checkReference (relation : String) (names : List String) : Except SchemaError Unit :=
  match v.columns? relation with
  | some columns => checkNames relation columns names
  | none => .error (.unknownRelation relation)

def checkNew (constraint : String) : Except SchemaError Unit :=
  if v.hasConstraint constraint then .error (.duplicateConstraint constraint) else .ok ()

def checkRelation (r : Relation) : Except SchemaError Unit :=
  if v.hasRelation r.name then .error (.duplicateRelation r.name)
  else if r.attributes.isEmpty then .error (.emptyRelation r.name)
  else
    match firstRepeat? [] r.columns with
    | some name => .error (.duplicateAttribute r.name name)
    | none => checkIdentifiers r.name r.columns r.identifiers.entries

def checkAssociation (c : Association) : Except SchemaError Unit := do
  v.checkNew c.name
  v.checkReference c.referring.relation c.referring.attributes
  v.checkReference c.referenced.relation c.referenced.attributes
  checkCounts c.name c.referring.attributes c.referenced.attributes

/-- One end of a correlation held by `relation`. -/
def checkEnd (constraint relation : String) (e : CorrelationEnd) : Except SchemaError Unit := do
  v.checkReference relation e.attributes
  v.checkReference e.relation e.referenced
  checkCounts constraint e.attributes e.referenced

def checkCorrelation (c : Correlation) : Except SchemaError Unit := do
  v.checkNew c.name
  v.checkEnd c.name c.relation c.a
  v.checkEnd c.name c.relation c.b

/-- The subclasses of a partition, each with its attributes. -/
def checkSubclasses (constraint : String) (superAttributes : List String) :
    List (String × List String) → Except SchemaError Unit
  | [] => .ok ()
  | (relation, names) :: rest => do
    v.checkReference relation names
    checkCounts constraint names superAttributes
    checkSubclasses constraint superAttributes rest

def checkPartition (c : Partition) : Except SchemaError Unit := do
  v.checkNew c.name
  if c.subclasses.isEmpty then .error (.emptyPartition c.name)
  v.checkReference c.superclass c.superAttributes
  v.checkSubclasses c.name c.superAttributes c.subclasses.entries

/-- Whether a request may be accepted. -/
def check : Request → Except SchemaError Unit
  | .relation r => v.checkRelation r
  | .constraint (.association c) => v.checkAssociation c
  | .constraint (.correlation c) => v.checkCorrelation c
  | .constraint (.partition c) => v.checkPartition c

end View

end ClassSchema.Schema
