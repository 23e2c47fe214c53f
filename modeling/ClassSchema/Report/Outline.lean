import ClassSchema.Json.Printer

/-
# Outlines of results

The result of a command has named parts: texts, lists of texts, tables of texts and groups of
counts.  An outline holds them in order and can be written as JSON as it is.
-/

namespace ClassSchema

inductive OutlinePart where
  | text (s : String)
  | texts (ss : List String)
  /-- Rows with a text in each column. -/
  | table (columns : List String) (rows : List (List String))
  /-- Counts by name. -/
  | counts (cs : List (String × Nat))
deriving DecidableEq, Repr, Inhabited

abbrev Outline := List (String × OutlinePart)

open Json

def OutlinePart.toValue : OutlinePart → Value
  | .text s => .string s
  | .texts ss => Value.strings ss
  | .table columns rows =>
    .array (rows.map fun row => .object (columns.zip (row.map .string)))
  | .counts cs => .object (cs.map fun (name, n) => (name, .integer n))

/-- The outline as an object. -/
def Outline.toValue (o : Outline) : Value := .object (o.map fun (name, part) => (name, part.toValue))

end ClassSchema
