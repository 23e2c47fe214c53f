import ClassSchema.Schema.Relation

/-
# Database engines

What stores the relations of a database is an engine, which is not part of the program.  It runs
scripts: a script is a text with values for the names in it, and it either gives rows or is refused.
The rest of this module says what there is to store, as far as a program that keeps a schema is
concerned: relations with their columns, and the rows of two catalogs.
-/

namespace ClassSchema

open Schema

/-! ### Scripts -/

/-- A value in a row or of a parameter. -/
inductive Cell where
  | text (s : String)
  | number (n : Int)
  | list (cells : List Cell)
deriving Inhabited

/-- A row that a query gives. -/
abbrev ResultRow := List Cell

structure Script where
  text : String
  /-- The values for the names that stand in the text after a dollar sign. -/
  parameters : List (String × Cell) := []

/-- What runs scripts on databases of type `δ`. -/
class Engine (δ : Type) where
  /-- The rows that a script gives, nothing if it is refused, and the database afterwards. -/
  run : δ → Script → Option (List ResultRow) × δ

/-! ### Contents -/

/-- A relation as a database stores it. -/
structure StoredRelation where
  key : List Attribute
  rest : List Attribute
deriving DecidableEq, Repr, Inhabited

/-- The column names of a stored relation, those of the key first. -/
def StoredRelation.columns (r : StoredRelation) : List String :=
  r.key.map (·.name) ++ r.rest.map (·.name)

/-- The key of a row in the catalog of identifiers: the place of an attribute in an identifier of a
relation. -/
structure IdentifierPlace where
  relation : String
  number : Int
  position : Int
deriving DecidableEq, Repr, Inhabited

/-- Rows are in order of the relation, then of the number, then of the position. -/
instance : Ord IdentifierPlace where
  compare := compareLex (compareOn IdentifierPlace.relation)
    (compareLex (compareOn IdentifierPlace.number) (compareOn IdentifierPlace.position))

instance : Std.TransOrd IdentifierPlace :=
  inferInstanceAs (Std.TransCmp (compareLex (compareOn IdentifierPlace.relation)
    (compareLex (compareOn IdentifierPlace.number) (compareOn IdentifierPlace.position))))

/-- A row in the catalog of constraints, its name apart. -/
structure ConstraintRow where
  kind : String
  definition : String
deriving DecidableEq, Repr, Inhabited

/-- What a database holds. -/
structure Contents where
  /-- All stored relations, the catalogs among them. -/
  stored : OrderedMap String StoredRelation
  identifierRows : OrderedMap IdentifierPlace String
  constraintRows : OrderedMap String ConstraintRow
deriving DecidableEq, Inhabited

namespace Contents

def empty : Contents := ⟨.empty, .empty, .empty⟩

/-- The contents with some more rows in the catalog of identifiers; a row replaces one of the same
place. -/
def putIdentifiers (c : Contents) (rows : List (IdentifierPlace × String)) : Contents :=
  { c with identifierRows := rows.foldl (fun m row => m.insert row.1 row.2) c.identifierRows }

/-- The contents with one more row in the catalog of constraints; it replaces one of the same
name. -/
def putConstraint (c : Contents) (name : String) (row : ConstraintRow) : Contents :=
  { c with constraintRows := c.constraintRows.insert name row }

end Contents

end ClassSchema
