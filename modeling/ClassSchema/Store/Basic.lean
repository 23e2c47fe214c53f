import ClassSchema.Schema.Request
import ClassSchema.Text.Glob

/-
# Stores of a schema

A store takes requests that have been found valid and can say what it holds.  `create` is the way
to use one: it validates a request against what is held and then hands it over.  A store gives its
names in whatever order it has them; lists of names are sorted and may be narrowed by a pattern.
-/

namespace ClassSchema

open Schema

/-- What holds a schema. -/
class Store (σ : Type) where
  /-- What kind of store it is, for reports. -/
  title : σ → String
  view : σ → View
  /-- Adds what a valid request asks for, unless the store refuses it.  The second result is the
  store afterwards, which may have changed even when the request is refused. -/
  serve : σ → Request → Except SchemaError Unit × σ
  /-- The names of the relations, in any order. -/
  relations : σ → List String
  /-- The names of the constraints, in any order. -/
  constraints : σ → List String

namespace Store

variable {σ : Type} [Store σ]

/-- The store with what a valid request asks for, unless the store refuses it. -/
def accept (s : σ) (q : Request) : Except SchemaError σ :=
  match serve s q with
  | (.ok (), s') => .ok s'
  | (.error e, _) => .error e

/-- Validates a request and adds what it asks for. -/
def create (s : σ) (q : Request) : Except SchemaError σ := do
  (view s).check q
  accept s q

/-- The answer to a request, and the store afterwards. -/
def respond (s : σ) (q : Request) : Except SchemaError Unit × σ :=
  match (view s).check q with
  | .ok () => serve s q
  | .error e => (.error e, s)

variable (regex : Text.Regex.Library)

/-- The names that match a pattern; without a pattern, or with an empty one, all of them. -/
def select (names : List String) : Option String → Except SchemaError (List String)
  | none => .ok names
  | some p =>
    if p = "" then .ok names
    else
      match regex.compile (Text.Glob.expression regex p) with
      | some accepts => .ok (names.filter accepts)
      | none => .error .invalidPattern

/-- Names in ascending order. -/
def sorted (names : List String) : List String := names.mergeSort fun a b => a ≤ b

/-- The names that match a pattern, sorted. -/
def narrow (names : List String) (pattern : Option String) : Except SchemaError (List String) :=
  (select regex names pattern).map sorted

/-- The names of the relations that match a pattern. -/
def relationNames (s : σ) (pattern : Option String) : Except SchemaError (List String) :=
  narrow regex (relations s) pattern

/-- The names of the constraints that match a pattern. -/
def constraintNames (s : σ) (pattern : Option String) : Except SchemaError (List String) :=
  narrow regex (constraints s) pattern

end Store

end ClassSchema
