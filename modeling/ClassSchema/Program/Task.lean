import ClassSchema.CommandLine.Arguments
import ClassSchema.Compile.Package
import ClassSchema.Program.Connection
import ClassSchema.Report.Build
import ClassSchema.Report.Names

/-
# What the program can do

`build` compiles the package in a directory into a store and `names` lists what a store holds.
-/

namespace ClassSchema.Program

open CommandLine Model

section Files

variable {m : Type → Type} [Monad m] (files : FileAccess m)

/-- Reads the dictionary in the file at `path`. -/
def readTypes (path : String) : ExceptT ModelError m TypeDictionary := do
  match ← files.read path with
  | .error e => throw (.unreadable path e)
  | .ok text => ExceptT.mk (pure ((TypeDictionary.ofText text).mapError (.badDictionary path)))

/-- The content of the file at `path`, if a file is there. -/
def contentAt (path : String) : m (Option (Except FileError String)) := do
  match ← files.kind path with
  | some .file => return some (← files.read path)
  | _ => return none

/-- The entries of a directory, with the contents of those that hold subsystems. -/
def readPackage (directory extension : String) : m (Except FileError (List DirectoryEntry)) := do
  match ← files.list directory with
  | .error e => return .error e
  | .ok names =>
    let wanted := names.filter (Package.isSubsystemName extension)
    return .ok (← wanted.mapM fun name =>
      return ⟨name.toUTF8, ← contentAt files (Path.join directory name)⟩)

variable {σ : Type} [Store σ]

/-- Compiles the package in a directory and writes its population to a file, if one is named.  The
second result is the store afterwards, which also holds something new after a failure. -/
def build (layout : PackageLayout) (store : σ) (o : BuildOptions) :
    m (Except ProgramError BuildSummary × σ) := do
  let typesFile := o.types.getD (Path.join o.package layout.typesFile)
  match ← (readTypes files typesFile).run with
  | .error e => return (.error (.compile (.model e)), store)
  | .ok types =>
    let extension := o.extension.getD layout.extension
    let entries ← readPackage files o.package extension
    match Package.compile types store o.package extension entries with
    | .error e => return (.error (.compile e.error), e.store)
    | .ok c =>
      let summary : BuildSummary := ⟨o.package, c.report, o.population⟩
      match o.population with
      | none => return (.ok summary, c.store)
      | some path =>
        match ← files.write path c.population.toValue.pretty with
        | .error e => return (.error (.unwritten path e), c.store)
        | .ok () => return (.ok summary, c.store)

end Files

variable {σ : Type} [Store σ]

/-- Lists the names of relations or of constraints. -/
def names (store : σ) (o : NamesOptions) : Except Schema.SchemaError NameListing :=
  let regex := Text.Regex.standard
  if o.constraints then
    (Store.constraintNames regex store o.pattern).map fun names =>
      ⟨"constraints", o.pattern, names⟩
  else (Store.relationNames regex store o.pattern).map fun names => ⟨"relations", o.pattern, names⟩

/-- Does a task; the results are what is to be shown and the store afterwards. -/
def perform {m : Type → Type} [Monad m] (files : FileAccess m) (layout : PackageLayout) (store : σ)
    (task : CommandLine.Task) : m (Except ProgramError Rendering × σ) := do
  match task with
  | .build o =>
    let (result, store) ← build files layout store o
    return (result.map BuildSummary.rendering, store)
  | .names o => return (((names store o).mapError .schema).map NameListing.rendering, store)
  | .unknown name _ => return (.error (.unknownCommand name), store)

end ClassSchema.Program
