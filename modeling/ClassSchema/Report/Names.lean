import ClassSchema.Report.Format
import ClassSchema.Text.Upper

/-
# Listings of names
-/

namespace ClassSchema

/-- The names of one kind of things that match a pattern. -/
structure NameListing where
  kind : String
  pattern : Option String
  names : List String
deriving DecidableEq, Repr

namespace NameListing

/-- The listing with a heading, a name a line. -/
def table (l : NameListing) : String :=
  let kind := Text.capitalised l.kind
  let heading := match l.pattern with
    | some p => kind ++ " matching '" ++ p ++ "'"
    | none => kind
  let first := heading ++ " (" ++ toString l.names.length ++ "):"
  let lines := if l.names.isEmpty then ["  No " ++ l.kind ++ " found."]
    else l.names.map fun n => "  " ++ n
  "\n".intercalate (first :: lines)

def outline (l : NameListing) : Outline :=
  ("kind", .text l.kind) ::
    (match l.pattern with
      | some p => [("pattern", .text p)]
      | none => []) ++
    [("names", .texts l.names)]

def rendering (l : NameListing) : Rendering := ⟨l.table, l.outline⟩

end NameListing

end ClassSchema
