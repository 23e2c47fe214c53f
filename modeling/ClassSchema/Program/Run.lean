import ClassSchema.Program.Task

/-
# Runs of the program

A run reads the command line and does the task on it.  Its exit code is 0 when the task is done, or
when help or the version is asked for, 1 when the task fails, and 2 when the command line cannot be
understood.
-/

namespace ClassSchema.Program

open CommandLine

/-- What a run leaves behind, files apart. -/
structure Outcome where
  exitCode : UInt8
  /-- The text of the result. -/
  output : String := ""
  /-- The text of the failure. -/
  complaint : String := ""
deriving DecidableEq, Repr

/-- The name and the version of the program. -/
def versionLine : String := "xuml_schema 0.1.0\n"

/-- What is said about a command line that is not carried out. -/
def refusalText : Refusal → String
  | .badValue message => message
  | .unknownArgument => "error: unexpected argument"
  | .invalidValue => "error: a value is missing or not allowed"
  | .conflict => "error: an option is given more than once"
  | .tooManyValues => "error: a flag takes no value"
  | .missingArgument => "error: the package is not given"
  | .invalidSubcommand => "error: unrecognized subcommand"
  | .missingSubcommand => "error: a subcommand is missing"
  | .help | .version | .nothing => "Usage: xuml_schema [OPTIONS] <COMMAND>"

/-- The outcome for a command line that is not carried out. -/
def refuse : Refusal → Outcome
  | .version => { exitCode := 0, output := versionLine }
  | .help => { exitCode := 0, output := refusalText .help ++ "\n" }
  | r => { exitCode := 2, complaint := refusalText r ++ "\n" }

variable {m : Type → Type} [Monad m] (files : FileAccess m)

/-- Does what a command line asks for; `environment` is the address in the environment. -/
def execute (environment : Option String) (a : Arguments) : ExceptT ProgramError m String := do
  let config ← ExceptT.adapt ProgramError.config (loadConfig files a.config)
  match Config.address a.store config environment with
  | .error e => throw (.address e)
  | .ok address =>
    let store ← connect files address
    let layout := (config.map Config.package).getD {}
    let (result, store) ← (perform files layout store a.task : m _)
    (keep files address store : m Unit)
    match result with
    | .error e => throw e
    | .ok rendering => return rendering.write a.format

/-- Runs the program on the words of a command line. -/
def run (environment : Option String) (words : List String) : m Outcome := do
  match ← (CommandLine.read files.kind words).run with
  | .error r => return refuse r
  | .ok a =>
    match ← (execute files environment a).run with
    | .error e => return { exitCode := 1, complaint := "Error: " ++ e.message ++ "\n" }
    | .ok text => return { exitCode := 0, output := text ++ "\n" }

end ClassSchema.Program
