import ClassSchema.CommandLine.Grammar
import ClassSchema.Report.Format

/-
# The command line

The options that every command takes may stand before the command or behind it; what stands behind
it wins.  There are two commands, and any other word is taken for the name of a command that is not
known, together with all words behind it.
-/

namespace ClassSchema.CommandLine

/-- What `build` is told. -/
structure BuildOptions where
  package : String
  /-- The file with the type dictionary. -/
  types : Option String
  extension : Option String
  /-- Where to write the population. -/
  population : Option String
deriving DecidableEq, Repr

/-- What `names` is told. -/
structure NamesOptions where
  pattern : Option String
  /-- Whether constraints are listed, and not relations. -/
  constraints : Bool
deriving DecidableEq, Repr

inductive Task where
  | build (options : BuildOptions)
  | names (options : NamesOptions)
  | unknown (name : String) (words : List String)
deriving DecidableEq, Repr

/-- A command line that has been understood. -/
structure Arguments where
  /-- The address of the store. -/
  store : Option String
  format : OutputFormat
  /-- The configuration file. -/
  config : Option String
  verbosity : Nat
  task : Task
deriving DecidableEq, Repr

/-- How much is logged. -/
def Arguments.logLevel (a : Arguments) : String :=
  match a.verbosity with
  | 0 => "warn"
  | 1 => "info"
  | _ => "debug"

/-- The formats by the names that the command line has for them. -/
def formats : List (String × OutputFormat) :=
  [("table", .table), ("json", .json), ("toon", .toon)]

def helpSwitch : Switch := ⟨"help", some 'h', .help⟩

/-- The options that every command takes. -/
def commonSwitches : List Switch :=
  [⟨"db", none, .value .text⟩,
   ⟨"format", some 'o', .value (.choice (formats.map (·.1)))⟩,
   ⟨"config", none, .value .path⟩,
   ⟨"verbose", some 'v', .count⟩,
   helpSwitch]

def topCommand : Command where
  switches := commonSwitches ++ [⟨"version", some 'V', .version⟩]
  commands := ["build", "names", "help"]
  takesOthers := true

/-- How messages show the word that `build` takes. -/
def packageWord : String := "<PACKAGE>"

def buildCommand : Command where
  switches := commonSwitches ++
    [⟨"types", some 't', .value .existingFile⟩,
     ⟨"extension", some 'e', .value .text⟩,
     ⟨"population", some 'p', .value .path⟩]
  word := some (packageWord, .existingDirectory)

/-- How messages show the word that `names` takes. -/
def patternWord : String := "[PATTERN]"

def namesCommand : Command where
  switches := commonSwitches ++ [⟨"constraints", some 'c', .flag⟩]
  word := some (patternWord, .text)

/-- Puts together what was read before a command, what was read behind it, and what to do. -/
def arguments (before behind : Matches) (task : Task) : Arguments :=
  let value? (name : String) := (behind.value? name).or (before.value? name)
  { store := value? "db"
    format := ((value? "format").bind fun name => formats.lookup name).getD .table
    config := value? "config"
    verbosity := if behind.counts = 0 then before.counts else behind.counts
    task }

section

variable {m : Type → Type} [Monad m] (look : String → m (Option FileKind))

/-- Reads all words of a command that has no commands of its own. -/
def readCommand (c : Command) (words : List String) : ExceptT Refusal m Matches := do
  let (got, _) ← scan look c words {}
  settle look got

def readBuild (before : Matches) (words : List String) : ExceptT Refusal m Arguments := do
  let got ← readCommand look buildCommand words
  match got.value? packageWord with
  | none => throw .missingArgument
  | some package =>
    let before ← settle look before
    let value? := got.value?
    return arguments before got
      (.build ⟨package, value? "types", value? "extension", value? "population"⟩)

def readNames (before : Matches) (words : List String) : ExceptT Refusal m Arguments := do
  let got ← readCommand look namesCommand words
  let before ← settle look before
  return arguments before got (.names ⟨got.value? patternWord, got.hasFlag "constraints"⟩)

/-- Reads a command line; `look` tells what stands at a path. -/
def read (words : List String) : ExceptT Refusal m Arguments := do
  let (before, rest) ← scan look topCommand words {}
  match rest with
  | .command "build" words => readBuild look before words
  | .command _ words => readNames look before words
  | .other name words =>
    let before ← settle look before
    return arguments before {} (.unknown name words)
  | .ended =>
    let before ← settle look before
    throw (if before.isEmpty then .nothing else .missingSubcommand)

end

end ClassSchema.CommandLine
