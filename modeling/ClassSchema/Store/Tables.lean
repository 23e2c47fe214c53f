import ClassSchema.Store.Statement

/-
# An engine

The engine that the program runs with keeps the contents of a database as they are.  It takes the
statements that a program sends to keep a schema and refuses all others.  A relation must have a
name that is free and a key, and no column twice; its name and those of its columns must be
identifiers.  If its name begins with an underscore, it is temporary: it is created, and at the end
of the script it is gone.
-/

namespace ClassSchema

open Schema

/-- Contents in which all relations have names that a statement can name. -/
structure Tables extends Contents where
  named : ∀ n ∈ stored.keys, Text.isIdentifier n = true
deriving DecidableEq

namespace Tables

/-- An engine's database in which nothing has been made. -/
def empty : Tables := ⟨.empty, fun _ h => by cases h⟩

instance : Inhabited Tables := ⟨empty⟩

theorem named_insert {stored : OrderedMap String StoredRelation}
    (h : ∀ n ∈ stored.keys, Text.isIdentifier n = true) {name : String}
    (hname : Text.isIdentifier name = true) (r : StoredRelation) :
    ∀ n ∈ (stored.insert name r).keys, Text.isIdentifier n = true := by
  intro n hn
  obtain ⟨e, he, rfl⟩ := List.mem_map.1 hn
  rcases OrderedMap.mem_place he with rfl | he
  · exact hname
  · exact h _ (List.mem_map_of_mem he)

/-! ### Statements -/

/-- Creates a relation. -/
def create (t : Tables) (name : String) (r : StoredRelation) : Option Tables :=
  if t.stored.contains name || r.key.isEmpty || !r.columns.Nodup ||
      !r.columns.all Text.isIdentifier then none
  else if hname : Text.isIdentifier name = true then
    some { t with stored := t.stored.insert name r, named := named_insert t.named hname r }
  else if name.toList.head? = some '_' then some t
  else none

/-- Reads a row for the catalog of identifiers. -/
def identifierRow? : Cell → Option (IdentifierPlace × String)
  | .list [.text relation, .number number, .number position, .text column] =>
    some (⟨relation, number, position⟩, column)
  | _ => none

/-- Adds rows to the catalog of identifiers. -/
def putIdentifiers (t : Tables) (parameters : List (String × Cell)) : Option Tables := do
  match parameters.lookup "rows" with
  | some (.list cells) =>
    let rows ← cells.mapM identifierRow?
    some ⟨t.toContents.putIdentifiers rows, t.named⟩
  | _ => none

/-- Adds a row to the catalog of constraints. -/
def putConstraint (t : Tables) (parameters : List (String × Cell)) : Option Tables :=
  match parameters.lookup "name", parameters.lookup "kind", parameters.lookup "definition" with
  | some (.text name), some (.text kind), some (.text definition) =>
    some ⟨t.toContents.putConstraint name ⟨kind, definition⟩, t.named⟩
  | _, _, _ => none

/-! ### Queries -/

/-- The rows of the catalog of identifiers that are about a relation. -/
def identifiersOf (t : Tables) (parameters : List (String × Cell)) : Option (List ResultRow) :=
  match parameters.lookup "relation" with
  | some (.text relation) =>
    some <| (t.identifierRows.entries.filter fun row => row.1.relation == relation).map fun row =>
      [.number row.1.number, .number row.1.position, .text row.2]
  | _ => none

/-- The row of the catalog of constraints that is about the constraint with a name, as far as
`shown` shows it. -/
def constraintOf (t : Tables) (parameters : List (String × Cell))
    (shown : String → ConstraintRow → ResultRow) : Option (List ResultRow) :=
  match parameters.lookup "name" with
  | some (.text name) => some ((t.constraintRows.get? name).toList.map (shown name))
  | _ => none

/-! ### Scripts -/

/-- The catalog that a statement is about. -/
def catalog? : Statement → Option String
  | .putIdentifiers | .identifiers => some identifierCatalog
  | .putConstraint | .constraintNames | .constraintLookup | .constraintDefinition =>
    some constraintCatalog
  | .create .. | .relations | .columns _ => none

/-- Carries out a statement. -/
def carryOut (t : Tables) (s : Statement) (parameters : List (String × Cell)) :
    Option (List ResultRow × Tables) :=
  match s with
  | .create name r => (t.create name r).map ([], ·)
  | .putIdentifiers => (t.putIdentifiers parameters).map ([], ·)
  | .putConstraint => (t.putConstraint parameters).map ([], ·)
  | .relations => some (t.stored.keys.map fun n => [.text n], t)
  | .columns name => (t.stored.get? name).map fun r => (r.columns.map fun c => [.text c], t)
  | .identifiers => (t.identifiersOf parameters).map (·, t)
  | .constraintNames => some (t.constraintRows.keys.map fun n => [.text n], t)
  | .constraintLookup => (t.constraintOf parameters fun name _ => [.text name]).map (·, t)
  | .constraintDefinition =>
    (t.constraintOf parameters fun _ row => [.text row.definition]).map (·, t)

/-- Runs a script.  A statement about a catalog is refused as long as the catalog is not there. -/
def run? (t : Tables) (script : Script) : Option (List ResultRow × Tables) := do
  let s ← Statement.read script.text
  if (catalog? s).all t.stored.contains then t.carryOut s script.parameters else none

instance : Engine Tables where
  run t script :=
    match t.run? script with
    | some (rows, t') => (some rows, t')
    | none => (none, t)

end Tables

end ClassSchema
