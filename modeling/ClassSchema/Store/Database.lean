import ClassSchema.Schema.Ddl
import ClassSchema.Schema.Document
import ClassSchema.Store.Basic
import ClassSchema.Store.Engine

/-
# Databases

A database keeps a schema as stored relations of an engine.  All that it does is to run scripts.  Of
a relation the engine knows the columns, those of the key first, with their types.  What it has no
place for is kept as rows of two relations of its own, the catalogs of identifiers and of
constraints, which stand beside the relations of the schema but are not listed among them.  A
constraint is remembered by the text of its definition.
-/

namespace ClassSchema

open Schema

/-- Where a database lives. -/
inductive Medium where
  | memory
  | file
deriving DecidableEq, Repr, Inhabited

structure Database (δ : Type) where
  medium : Medium
  engine : δ
deriving DecidableEq, Inhabited

namespace Database

variable {δ : Type} [Engine δ]

/-! ### Queries -/

/-- The rows that a query gives, none if it is refused.  A database asks only for what it has
stored, so there is no reason to refuse it. -/
def query (d : Database δ) (script : Script) : List ResultRow :=
  (Engine.run d.engine script).1.getD []

/-- The texts in the first column. -/
def firstColumn (rows : List ResultRow) : List String :=
  rows.filterMap fun
    | .text s :: _ => some s
    | _ => none

/-- The names of the stored relations. -/
def storedNames (d : Database δ) : List String := firstColumn (d.query ⟨relationsQuery, []⟩)

/-- The names of the stored relations other than the catalogs. -/
def relationNames (d : Database δ) : List String := d.storedNames.filter fun n => !isCatalog n

def hasRelation (d : Database δ) (name : String) : Bool := name ∈ d.relationNames

def columns? (d : Database δ) (name : String) : Option (List String) :=
  if d.hasRelation name then some (firstColumn (d.query ⟨columnsQuery name, []⟩)) else none

def hasConstraint (d : Database δ) (name : String) : Bool :=
  !(d.query ⟨constraintLookup, [("name", .text name)]⟩).isEmpty

def constraintNames (d : Database δ) : List String :=
  firstColumn (d.query ⟨Schema.constraintNames, []⟩)

def view (d : Database δ) : View := ⟨d.hasRelation, d.columns?, d.hasConstraint⟩

/-! ### Statements -/

/-- Runs scripts one after the other, up to the first that is refused. -/
def runAll (d : Database δ) : List Script → Except SchemaError Unit × Database δ
  | [] => (.ok (), d)
  | script :: rest =>
    match Engine.run d.engine script with
    | (some _, engine) => runAll { d with engine } rest
    | (none, engine) => (.error .refused, { d with engine })

/-- The rows that record the identifiers of a relation. -/
def rowsOf (r : Relation) : List (IdentifierPlace × String) :=
  r.identifiers.entries.flatMap fun (group, names) =>
    names.mapIdx fun i name => (⟨r.name, group.toNat, i⟩, name)

/-- A row for the catalog of identifiers as a value. -/
def identifierCell (row : IdentifierPlace × String) : Cell :=
  .list [.text row.1.relation, .number row.1.number, .number row.1.position, .text row.2]

/-- The script that records rows in the catalog of identifiers. -/
def identifierScript (rows : List (IdentifierPlace × String)) : Script :=
  ⟨identifierInsert, [("rows", .list (rows.map identifierCell))]⟩

/-- The script that records a constraint. -/
def constraintScript (name kind definition : String) : Script :=
  ⟨constraintInsert, [("name", .text name), ("kind", .text kind), ("definition", .text definition)]⟩

/-- What is run for a request. -/
def scripts : Request → List Script
  | .relation r =>
    ⟨r.ddl, []⟩ :: if (rowsOf r).isEmpty then [] else [identifierScript (rowsOf r)]
  | .constraint c => [constraintScript c.name c.kind.name c.definition]

/-- What is run to create the catalogs that are not there. -/
def missingCatalogs (d : Database δ) : List Script :=
  (catalogs.filter fun e => e.1 ∉ d.storedNames).map fun e => ⟨e.2, []⟩

/-- Takes an engine's database into use, which gets the catalogs that it does not have. -/
def connect (medium : Medium) (engine : δ) : Except SchemaError (Database δ) :=
  let d : Database δ := ⟨medium, engine⟩
  match d.runAll d.missingCatalogs with
  | (.ok (), d) => .ok d
  | (.error e, _) => .error e

instance : Store (Database δ) where
  title d :=
    match d.medium with
    | .memory => "CozoMem"
    | .file => "CozoSqlite"
  view := view
  serve d q := d.runAll (scripts q)
  relations := relationNames
  constraints := constraintNames

/-! ### What is remembered -/

/-- Adds a name to the end of the last group if it has the number `group`, else opens a group. -/
def extendGroups (groups : OrderedMap UInt32 (List String)) (group : UInt32) (name : String) :
    OrderedMap UInt32 (List String) :=
  groups.insert group ((groups.get? group).getD [] ++ [name])

/-- The group that a row speaks of, and the name in it. -/
def member? : ResultRow → Option (UInt32 × String)
  | .number number :: _ :: .text name :: _ => some (UInt32.ofInt number, name)
  | _ => none

/-- The identifiers recorded for a relation. -/
def identifiers (d : Database δ) (relation : String) : OrderedMap UInt32 (List String) :=
  ((d.query ⟨identifiersQuery, [("relation", .text relation)]⟩).filterMap member?).foldl
    (fun groups m => extendGroups groups m.1 m.2) .empty

/-- The constraint called `name`, read from its stored definition. -/
def constraint? (d : Database δ) (name : String) : Except SchemaError (Option Constraint) :=
  match firstColumn (d.query ⟨constraintDefinition, [("name", .text name)]⟩) with
  | [] => .ok none
  | definition :: _ =>
    match Json.Decoder.document readConstraint definition with
    | .ok c => .ok (some c)
    | .error _ => .error .refused

end Database

end ClassSchema
