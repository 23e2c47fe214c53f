import ClassSchema.Proofs.OrderedMap
import ClassSchema.Store.Database

/-
# What is documented of an engine

An engine is somebody else's, so all that can be said of a database rests on what is documented of
it.  `LawfulEngine` is that, as far as the scripts of a database go: what each does to the contents
if it is not refused, and what it shows of them.  Which scripts are refused is left open, so an
engine may refuse any of them at any time; a script that is refused has no effect.

Names are put into statements as they are, and only identifiers of the engine's language are read
back as the same names.  What is not said of other names matters: a blank before a name is passed
over, so the statement creates a relation of another name, and a name with a colon and a comma in it
may turn into two columns.  So the columns of a new relation are known only if its name and theirs
are identifiers.  Of a statement with other names it is known that it creates a relation, if it is
taken, and does not touch what is there already.
-/

namespace ClassSchema

open Schema

namespace Engine

variable {δ : Type} [Engine δ]

/-- The script is not refused. -/
def Takes (d : δ) (s : Script) : Prop := (run d s).1 ≠ none

/-- The database after a script. -/
def next (d : δ) (s : Script) : δ := (run d s).2

end Engine

open Engine Database

/-- A word of plain letters, digits and underscores that begins with a letter. -/
def isWord (s : String) : Bool :=
  match s.toList with
  | [] => false
  | c :: rest => c.isAlpha && rest.all fun x => x.isAlphanum || x == '_'

/-- What is documented of the engine of a database. -/
class LawfulEngine (δ : Type) [Engine δ] where
  /-- What a database holds. -/
  contents : δ → Contents
  /-- The identifiers that relations and columns can have for names. -/
  IsName : String → Prop
  /-- Words are identifiers. -/
  isName_of_isWord {n : String} (h : isWord n = true) : IsName n
  /-- A relation whose name begins with an underscore is temporary, so no stored relation is called
  so. -/
  not_isName_of_underscore {n : String} (h : n.toList.head? = some '_') : ¬ IsName n
  isName_of_stored {d : δ} {n : String} (h : (contents d).stored.contains n = true) : IsName n
  /-- A script that is refused has no effect. -/
  refused {d : δ} {s : Script} (h : ¬ Takes d s) : contents (next d s) = contents d
  /-- A line break before a statement and one after it do not matter. -/
  run_framed (d : δ) (n : String) (key rest : List Attribute) :
    run d ⟨"\n" ++ createStatement n key rest ++ "\n", []⟩ = run d ⟨createStatement n key rest, []⟩
  /-- A name that is stored cannot be created once more. -/
  create_of_stored {d : δ} {n : String} (key rest : List Attribute)
    (h : (contents d).stored.contains n = true) : ¬ Takes d ⟨createStatement n key rest, []⟩
  /-- What is stored stays when a relation is created, and so do the rows of the catalogs. -/
  create_keeps (d : δ) (n : String) (key rest : List Attribute) {m : String}
    (h : (contents d).stored.contains m = true) :
    (contents (next d ⟨createStatement n key rest, []⟩)).stored.contains m = true
  create_identifierRows (d : δ) (n : String) (key rest : List Attribute) :
    (contents (next d ⟨createStatement n key rest, []⟩)).identifierRows =
      (contents d).identifierRows
  create_constraintRows (d : δ) (n : String) (key rest : List Attribute) :
    (contents (next d ⟨createStatement n key rest, []⟩)).constraintRows =
      (contents d).constraintRows
  /-- A relation is stored under its name, if this is an identifier. -/
  create_stores {d : δ} {n : String} {key rest : List Attribute} (hn : IsName n)
    (h : Takes d ⟨createStatement n key rest, []⟩) :
    (contents (next d ⟨createStatement n key rest, []⟩)).stored.contains n = true
  /-- It is stored with its columns, if their names are identifiers too, and nothing else
  changes. -/
  create_columns {d : δ} {n : String} {key rest : List Attribute} (hn : IsName n)
    (hcolumns : ∀ a ∈ key ++ rest, IsName a.name) (h : Takes d ⟨createStatement n key rest, []⟩) :
    (contents (next d ⟨createStatement n key rest, []⟩)).stored =
      (contents d).stored.insert n ⟨key, rest⟩
  /-- Rows are put into a catalog under their keys. -/
  put_identifiers {d : δ} {rows : List (IdentifierPlace × String)}
    (h : Takes d (identifierScript rows)) :
    contents (next d (identifierScript rows)) = (contents d).putIdentifiers rows
  put_constraint {d : δ} {name kind definition : String}
    (h : Takes d (constraintScript name kind definition)) :
    contents (next d (constraintScript name kind definition)) =
      (contents d).putConstraint name ⟨kind, definition⟩
  /-- The stored relations are listed, in any order. -/
  relations (d : δ) : ∃ rows, (run d ⟨relationsQuery, []⟩).1 = some rows ∧
    (firstColumn rows).Perm (contents d).stored.keys
  /-- The columns of a stored relation are listed, those of the key first. -/
  columns {d : δ} {n : String} {r : StoredRelation} (h : (contents d).stored.get? n = some r) :
    ∃ rows, (run d ⟨columnsQuery n, []⟩).1 = some rows ∧ firstColumn rows = r.columns
  /-- The rows of a relation in the catalog of identifiers are given in order. -/
  identifiers {d : δ} (h : (contents d).stored.contains identifierCatalog = true) (n : String) :
    (run d ⟨identifiersQuery, [("relation", .text n)]⟩).1 = some
      (((contents d).identifierRows.entries.filter fun row => row.1.relation == n).map fun row =>
        [.number row.1.number, .number row.1.position, .text row.2])
  /-- The names in the catalog of constraints are listed, in any order. -/
  constraintNames {d : δ} (h : (contents d).stored.contains constraintCatalog = true) :
    ∃ rows, (run d ⟨Schema.constraintNames, []⟩).1 = some rows ∧
      (firstColumn rows).Perm (contents d).constraintRows.keys
  /-- There is a row for a name if and only if the catalog of constraints has it. -/
  constraintLookup {d : δ} (h : (contents d).stored.contains constraintCatalog = true)
    (n : String) : ∃ rows, (run d ⟨Schema.constraintLookup, [("name", .text n)]⟩).1 = some rows ∧
      (rows = [] ↔ (contents d).constraintRows.contains n = false)
  /-- Texts come back unchanged. -/
  constraintDefinition {d : δ} (h : (contents d).stored.contains constraintCatalog = true)
    (n : String) :
    ∃ rows, (run d ⟨Schema.constraintDefinition, [("name", .text n)]⟩).1 = some rows ∧
      firstColumn rows = ((contents d).constraintRows.get? n).toList.map (·.definition)

end ClassSchema
