import ClassSchema.Compile.Run
import ClassSchema.Config

/-
# Why the program fails

Every part of the program has its own causes of failure; here they come together, each with what
the program says about it.
-/

namespace ClassSchema.Program

/-- Why a run of the program fails. -/
inductive ProgramError where
  | config (e : ConfigError)
  | address (e : AddressError)
  /-- The database at the path cannot be opened. -/
  | unopened (path : String)
  | compile (e : CompileError)
  | schema (e : Schema.SchemaError)
  /-- The population cannot be written to the path. -/
  | unwritten (path : String) (e : FileError)
  | unknownCommand (name : String)

/-- The wording of a fault in a document, also of one that has no wording of its own. -/
def described (message : Option String) : String := message.getD "not well formed"

open Schema in
/-- What the program says about a rejected request. -/
def ofSchema (e : SchemaError) : String :=
  match e, e.message with
  | _, some message => message
  | .invalidPattern, none => "Invalid name pattern: too large"
  | _, none => "Backend failure: statement refused"

open Model in
/-- What the program says about a model that cannot be read. -/
def ofModel (e : ModelError) : String :=
  match e with
  | .badSubsystem path fault => s!"Failed to parse '{path}': {described fault.message}"
  | .badDictionary path fault => s!"Failed to parse '{path}': {described fault.message}"
  | _ => described e.message

/-- What the program says about an error. -/
def ProgramError.message : ProgramError → String
  | .config (.bad path fault) =>
    (ConfigError.bad path fault).context ++ ": " ++ described fault.message
  | .config e => e.context
  | .address e => e.message
  | .unopened path => s!"Failed to open database '{path}'"
  | .compile (.model e) => ofModel e
  | .compile (.build (.unknownType e)) => e.message
  | .compile (.build (.rejected e)) => ofSchema e
  | .schema e => ofSchema e
  | .unwritten path e => "Failed to write population to " ++ path ++ ": " ++ e.text
  | .unknownCommand name => "Unknown command: " ++ name

end ClassSchema.Program
