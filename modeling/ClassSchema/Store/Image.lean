import ClassSchema.Json.Printer
import ClassSchema.Schema.Document
import ClassSchema.Store.Tables

/-
# Database files

A database in a file is kept as one JSON document with three lists: the stored relations, and the
rows of the two catalogs.  An empty file is a database in which nothing has been made.
-/

namespace ClassSchema.Tables

open Json Json.Decoder Schema

/-! ### Writing -/

def storedValue (name : String) (r : StoredRelation) : Value :=
  .object
    [("name", .string name), ("key", .array (r.key.map Attribute.toValue)),
     ("rest", .array (r.rest.map Attribute.toValue))]

def identifierValue (place : IdentifierPlace) (column : String) : Value :=
  .object
    [("relation", .string place.relation), ("number", .integer place.number),
     ("position", .integer place.position), ("attribute", .string column)]

def constraintValue (name : String) (r : ConstraintRow) : Value :=
  .object
    [("name", .string name), ("kind", .string r.kind), ("definition", .string r.definition)]

/-- The text of the file for a database. -/
def image (t : Tables) : String :=
  Value.compact <| .object
    [("relations", .array (t.stored.entries.map fun e => storedValue e.1 e.2)),
     ("identifiers", .array (t.identifierRows.entries.map fun e => identifierValue e.1 e.2)),
     ("constraints", .array (t.constraintRows.entries.map fun e => constraintValue e.1 e.2))]

/-! ### Reading -/

def readStored : Decoder (String × StoredRelation) :=
  record "a relation"
    (.cons "name" text none <| .cons "key" (list readAttribute) none <|
      .cons "rest" (list readAttribute) none .nil)
    fun (name, key, rest, ()) => (name, ⟨key, rest⟩)

def readIdentifierRow : Decoder (IdentifierPlace × String) :=
  record "a row for an identifier"
    (.cons "relation" text none <| .cons "number" group none <| .cons "position" group none <|
      .cons "attribute" text none .nil)
    fun (relation, number, position, column, ()) =>
      (⟨relation, number.toNat, position.toNat⟩, column)

def readConstraintRow : Decoder (String × ConstraintRow) :=
  record "a row for a constraint"
    (.cons "name" text none <| .cons "kind" text none <| .cons "definition" text none .nil)
    fun (name, kind, definition, ()) => (name, ⟨kind, definition⟩)

def readContents : Decoder Contents :=
  record "a database"
    (.cons "relations" (list readStored) none <|
      .cons "identifiers" (list readIdentifierRow) none <|
      .cons "constraints" (list readConstraintRow) none .nil)
    fun (relations, identifiers, constraints, ()) =>
      ⟨.ofList relations, .ofList identifiers, .ofList constraints⟩

/-- The contents as a database, if a statement can name all relations in them. -/
def ofContents? (c : Contents) : Option Tables :=
  if h : ∀ n ∈ c.stored.keys, Text.isIdentifier n = true then some ⟨c, h⟩ else none

/-- The database in a file with the given text. -/
def ofImage? (text : String) : Option Tables := do
  if text = "" then some .empty else ofContents? (← (document readContents text).toOption)

end ClassSchema.Tables
