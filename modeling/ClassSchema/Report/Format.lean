import ClassSchema.Report.Toon

/-
# Formats of results
-/

namespace ClassSchema

/-- How a command writes its result. -/
inductive OutputFormat where
  /-- Text for readers. -/
  | table
  | json
  | toon
deriving DecidableEq, Repr, Inhabited

/-- The result of a command: as text for readers, and as an outline. -/
structure Rendering where
  table : String
  outline : Outline

def Rendering.write (r : Rendering) : OutputFormat → String
  | .table => r.table
  | .json => r.outline.toValue.pretty
  | .toon => Toon.encode r.outline

end ClassSchema
