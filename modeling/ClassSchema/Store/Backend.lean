import ClassSchema.Store.Catalog
import ClassSchema.Store.Database

/-
# Stores of either kind

A program chooses its store when it runs, so it works with a catalog or a database.
-/

namespace ClassSchema

inductive Backend (δ : Type) where
  | catalog (c : Catalog)
  | database (d : Database δ)

namespace Backend

variable {δ : Type} [Engine δ]

instance : Store (Backend δ) where
  title
    | .catalog c => Store.title c
    | .database d => Store.title d
  view
    | .catalog c => Store.view c
    | .database d => Store.view d
  serve
    | .catalog c, q => (Store.serve c q).map id .catalog
    | .database d, q => (Store.serve d q).map id .database
  relations
    | .catalog c => Store.relations c
    | .database d => Store.relations d
  constraints
    | .catalog c => Store.constraints c
    | .database d => Store.constraints d

end Backend

end ClassSchema
