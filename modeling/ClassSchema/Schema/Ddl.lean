import ClassSchema.Schema.Relation

/-
# Statements of the database

The text that creates a stored relation: its name, then a column a line, those of the key first
and the others after an arrow.  Identifiers and constraints have no statement of their own in the
database; they are kept in two catalogs, whose statements and queries are fixed texts.  Where a
statement depends on a value, a name after a dollar sign stands for it; but the names of relations
and of columns are put into the text as they are.
-/

namespace ClassSchema.Schema

/-- The line of a column. -/
def Attribute.column (a : Attribute) : String := "    " ++ a.name ++ ": " ++ a.type.columnType

/-- The lines of some columns. -/
def columnLines (as : List Attribute) : String := ",\n".intercalate (as.map Attribute.column)

/-- The statement that creates a stored relation. -/
def createStatement (name : String) (key rest : List Attribute) : String :=
  let head := ":create " ++ name ++ " \x7b\n" ++ columnLines key
  if rest.isEmpty then head ++ "\n\x7d"
  else head ++ "\n    =>\n" ++ columnLines rest ++ "\n\x7d"

/-- The statement that creates the stored relation of a relation. -/
def Relation.ddl (r : Relation) : String :=
  createStatement r.name r.keyAttributes r.valueAttributes

/-- The catalog of identifiers: a row for each place in each identifier of each relation. -/
def identifierCatalog : String := "xuml_identifiers"

/-- The catalog of constraints: a row for each constraint with its kind and its definition. -/
def constraintCatalog : String := "xuml_constraints"

/-- The catalogs and the statements that create them. -/
def catalogs : List (String × String) :=
  [(identifierCatalog,
    "\n:create xuml_identifiers \x7b\n    relation: String,\n    number: Int,\n    position: Int\n" ++
      "    =>\n    attribute: String\n\x7d\n"),
   (constraintCatalog,
    "\n:create xuml_constraints \x7b\n    name: String\n    =>\n    kind: String,\n" ++
      "    definition: String\n\x7d\n")]

/-- Whether a name is that of a catalog. -/
def isCatalog (name : String) : Bool := name == identifierCatalog || name == constraintCatalog

/-! ### Statements -/

/-- Adds rows to the catalog of identifiers. -/
def identifierInsert : String :=
  "?[relation, number, position, attribute] <- $rows\n:put " ++ identifierCatalog ++
    " \x7b relation, number, position => attribute \x7d"

/-- Adds a row to the catalog of constraints. -/
def constraintInsert : String :=
  "?[name, kind, definition] <- [[$name, $kind, $definition]]\n:put " ++ constraintCatalog ++
    " \x7b name => kind, definition \x7d"

/-! ### Queries -/

/-- Lists the stored relations. -/
def relationsQuery : String := "::relations"

/-- Lists the columns of a stored relation. -/
def columnsQuery (relation : String) : String := "::columns " ++ relation

/-- The rows for a relation in the catalog of identifiers, in order. -/
def identifiersQuery : String :=
  "?[number, position, attribute] := *" ++ identifierCatalog ++
    "\x7brelation, number, position, attribute\x7d, relation = $relation\n:order number, position"

/-- Lists the names of all constraints. -/
def constraintNames : String := "?[name] := *" ++ constraintCatalog ++ "\x7bname\x7d"

/-- Looks for a constraint by its name. -/
def constraintLookup : String := constraintNames ++ ", name = $name"

/-- The definition of the constraint with a name. -/
def constraintDefinition : String :=
  "?[definition] := *" ++ constraintCatalog ++ "\x7bname, definition\x7d, name = $name"

end ClassSchema.Schema
