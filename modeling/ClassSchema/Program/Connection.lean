import ClassSchema.Files.Access
import ClassSchema.Program.Error
import ClassSchema.Store.Backend
import ClassSchema.Store.Image

/-
# Connections

Before the program does anything it reads its configuration, finds out which store is meant and
opens it.
-/

namespace ClassSchema.Program

variable {m : Type → Type} [Monad m] (files : FileAccess m)

/-- Reads the configuration in the file at `path`. -/
def readConfig (path : String) : ExceptT ConfigError m Config := do
  match ← files.read path with
  | .error e => throw (.unreadable path e)
  | .ok text => ExceptT.mk (pure (Config.ofText path text))

/-- The configuration: the file that is named, or the default file if it is there. -/
def loadConfig (path : Option String) : ExceptT ConfigError m (Option Config) := do
  match path with
  | some path => return some (← readConfig files path)
  | none =>
    match ← files.kind Config.defaultFile with
    | some _ => return some (← readConfig files Config.defaultFile)
    | none => return none

/-- The tables in a file; where there is no file, new ones. -/
def openTables (path : String) : m (Option Tables) := do
  match ← files.read path with
  | .ok text => return Tables.ofImage? text
  | .error .notFound => return some .empty
  | .error _ => return none

/-- A database of the engine that the program runs with. -/
def connectTables (medium : Medium) (tables : Tables) : Except ProgramError (Database Tables) :=
  (Database.connect medium tables).mapError .schema

/-- Opens the store at an address.  A file that is to hold a database must let itself be written. -/
def connect : Address → ExceptT ProgramError m (Backend Tables)
  | .catalog => return .catalog .empty
  | .database => do return .database (← ExceptT.mk (pure (connectTables .memory .empty)))
  | .file path => do
    match ← (openTables files path : m (Option Tables)) with
    | none => throw (.unopened path)
    | some tables =>
      let d ← ExceptT.mk (pure (connectTables .file tables))
      match ← files.write path d.engine.image with
      | .ok () => return .database d
      | .error _ => throw (.unopened path)

/-- Keeps what a store holds, if its address is that of a file. -/
def keep : Address → Backend Tables → m Unit
  | .file path, .database d => do
    let _ ← files.write path d.engine.image
  | _, _ => return

end ClassSchema.Program
