import ClassSchema.Store.Basic

/-
# Catalogs

A catalog holds a schema in memory: its relations and its constraints by name, and the requests
that it has accepted, in order.  It refuses nothing that is valid.
-/

namespace ClassSchema

open Schema

structure Catalog where
  relations : OrderedMap String Relation
  constraints : OrderedMap String Constraint
  /-- The accepted requests, the first one first. -/
  history : List Request
deriving DecidableEq, Inhabited

namespace Catalog

/-- The catalog of an empty schema. -/
def empty : Catalog := ⟨.empty, .empty, []⟩

def view (c : Catalog) : View where
  hasRelation name := c.relations.contains name
  columns? name := (c.relations.get? name).map Relation.columns
  hasConstraint name := c.constraints.contains name

/-- The catalog with one more relation or constraint. -/
def add (c : Catalog) (q : Request) : Catalog :=
  match q with
  | .relation r =>
    { c with relations := c.relations.insert r.name r, history := c.history ++ [q] }
  | .constraint k =>
    { c with constraints := c.constraints.insert k.name k, history := c.history ++ [q] }

/-- The accepted constraints, the first one first. -/
def constraintsInOrder (c : Catalog) : List Constraint :=
  c.history.filterMap fun
    | .constraint k => some k
    | .relation _ => none

instance : Store Catalog where
  title _ := "Memory"
  view := view
  serve c q := (.ok (), c.add q)
  relations c := c.relations.keys
  constraints c := c.constraints.keys

end Catalog

end ClassSchema
