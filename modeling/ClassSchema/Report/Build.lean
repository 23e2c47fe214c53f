import ClassSchema.Compile.Report
import ClassSchema.Report.Format

/-
# Summaries of compiled packages
-/

namespace ClassSchema

/-- A compiled package: where it is, what was done, and where its population was written. -/
structure BuildSummary where
  package : String
  report : Report
  populationFile : Option String
deriving DecidableEq, Repr

namespace BuildSummary

/-- A heading with a count. -/
def counted (title : String) (n : Nat) : String := title ++ " (" ++ toString n ++ "):"

/-- A count at the right of four places or more. -/
def rightAligned (n : Nat) : String :=
  let ds := toString n
  String.ofList (List.replicate (4 - ds.length) ' ') ++ ds

/-- A line with all texts, if there are any. -/
def listLine (title : String) (ss : List String) : List String :=
  if ss.isEmpty then [] else [title ++ ": " ++ ", ".intercalate ss]

def lines (s : BuildSummary) : List String :=
  let r := s.report
  let subsystems := counted "Subsystems" r.subsystems.length
  ["Build: " ++ s.package ++ " (" ++ r.store ++ ")", "",
    if r.subsystems.isEmpty then subsystems
    else subsystems ++ " " ++ ", ".intercalate r.subsystems,
    counted "Relations" r.relations.length] ++
  r.relations.map (fun n => "  " ++ n) ++
  [counted "Constraints" r.constraints.length] ++
  r.constraints.map (fun c => "  " ++ c.name ++ " [" ++ c.kind.name ++ "]") ++
  (if r.deferred.isEmpty then []
    else counted "Skipped, class not in schema" r.deferred.length ::
      r.deferred.map fun d => "  " ++ d.number ++ " in " ++ d.subsystem ++ ": " ++ d.missing) ++
  listLine "Ordinal, no constraint" r.ordinal ++
  listLine "Imported classes" r.skippedImports ++
  ["", "Population:",
    "  Attributes:             " ++ rightAligned r.population.attributes,
    "  Identifiers:            " ++ rightAligned r.population.identifiers,
    "  Identifier attributes:  " ++ rightAligned r.population.identifierAttributes] ++
  (match s.populationFile with
    | some path => ["Population written to " ++ path]
    | none => [])

def outline (s : BuildSummary) : Outline :=
  let r := s.report
  [("package", .text s.package), ("backend", .text r.store), ("subsystems", .texts r.subsystems),
    ("relations", .texts r.relations),
    ("constraints", .table ["name", "kind"] (r.constraints.map fun c => [c.name, c.kind.name])),
    ("deferred", .table ["rnum", "subsystem", "missing"]
      (r.deferred.map fun d => [d.number, d.subsystem, d.missing])),
    ("ordinal", .texts r.ordinal), ("skipped_imports", .texts r.skippedImports),
    ("population", .counts
      [("attributes", r.population.attributes), ("identifiers", r.population.identifiers),
       ("identifier_attributes", r.population.identifierAttributes)])] ++
  (match s.populationFile with
    | some path => [("population_file", .text path)]
    | none => [])

def rendering (s : BuildSummary) : Rendering := ⟨"\n".intercalate s.lines, s.outline⟩

end BuildSummary

end ClassSchema
