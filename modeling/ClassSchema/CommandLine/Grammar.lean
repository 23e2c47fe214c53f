import ClassSchema.Files.Access

/-
# Reading a command line

A command takes options and words.  An option is a flag or carries a value, which follows an equals
sign, stands right behind a short name or is the next word.  A value is looked at when the next
option, flag or word has been understood, so that what cannot be understood is reported first.
-/

namespace ClassSchema.CommandLine

/-- Why a command line is not carried out. -/
inductive Refusal where
  /-- Help is asked for. -/
  | help
  /-- The version is asked for. -/
  | version
  /-- There is nothing on the command line. -/
  | nothing
  | missingSubcommand
  | invalidSubcommand
  | unknownArgument
  | invalidValue
  | conflict
  | tooManyValues
  | missingArgument
  /-- A value does not pass its check. -/
  | badValue (message : String)
deriving DecidableEq, Repr

/-- What a value must be. -/
inductive ValueKind where
  | text
  /-- A text that is not empty. -/
  | path
  /-- One of some words. -/
  | choice (words : List String)
  | existingFile
  | existingDirectory
deriving DecidableEq, Repr

inductive Action where
  | flag
  /-- A flag that may be repeated. -/
  | count
  | value (kind : ValueKind)
  | help
  | version
deriving DecidableEq, Repr

/-- An option. -/
structure Switch where
  long : String
  short : Option Char
  action : Action
deriving DecidableEq, Repr

/-- A command: its options, the word that it takes, and its own commands. -/
structure Command where
  switches : List Switch
  word : Option (String × ValueKind) := none
  commands : List String := []
  /-- Whether any other word is taken for the name of a command. -/
  takesOthers : Bool := false

/-- A value that has been read and not been looked at. -/
structure Pending where
  name : String
  /-- How messages show what the value is for. -/
  shown : String
  kind : ValueKind
  value : Option String

/-- What has been read of a command line. -/
structure Matches where
  values : List (String × String) := []
  flags : List String := []
  counts : Nat := 0
  pending : Option Pending := none
  /-- Whether the word of the command has been read. -/
  hasWord : Bool := false
  /-- Whether only words follow. -/
  onlyWords : Bool := false

namespace Matches

variable (got : Matches)

def value? (name : String) : Option String := got.values.lookup name

def hasFlag (name : String) : Bool := name ∈ got.flags

/-- Whether nothing has been given. -/
def isEmpty : Bool := got.values.isEmpty && got.flags.isEmpty && got.counts = 0

/-- Whether the next word is the value of an option. -/
def awaits : Bool := got.pending.any fun p => p.value.isNone

end Matches

/-- The first line of a text. -/
def firstLine (s : String) : String := String.ofList (s.toList.takeWhile (· ≠ '\n'))

/-- How messages show an option with a value. -/
def Switch.shown (s : Switch) : String :=
  "--" ++ s.long ++ " <" ++ String.ofList (s.long.toList.map Char.toUpper) ++ ">"

/-- Help for a command: its name must lead somewhere. -/
def helpFor (c : Command) : List String → Refusal
  | [] => .help
  | [name] => if name ∈ c.commands then .help else .invalidSubcommand
  | _ => .invalidSubcommand

/-- What follows the options of a command. -/
inductive Rest where
  | ended
  /-- One of its own commands, and the words behind it. -/
  | command (name : String) (words : List String)
  /-- A word that is taken for the name of a command, and the words behind it. -/
  | other (name : String) (words : List String)

section

variable {m : Type → Type} [Monad m] (look : String → m (Option FileKind))

/-- Checks a value against what it must be. -/
def checkValue (shown : String) (kind : ValueKind) (v : String) : ExceptT Refusal m Unit := do
  let bad (reason : String) : Refusal :=
    .badValue (firstLine ("error: invalid value '" ++ v ++ "' for '" ++ shown ++ "': " ++ reason))
  match kind with
  | .text => return
  | .path => if v = "" then throw .invalidValue
  | .choice words => if v ∉ words then throw .invalidValue
  | .existingFile => if (← look v) ≠ some .file then throw (bad ("File not found: " ++ v))
  | .existingDirectory =>
    if (← look v) ≠ some .directory then throw (bad ("Package directory not found: " ++ v))

/-- Looks at the value that has been read last. -/
def settle (got : Matches) : ExceptT Refusal m Matches :=
  match got.pending with
  | none => return got
  | some p =>
    match p.value with
    | none => throw .invalidValue
    | some v =>
      if (got.value? p.name).isSome then throw .conflict
      else do
        checkValue look p.shown p.kind v
        return { got with values := got.values ++ [(p.name, v)], pending := none }

/-- Takes an option without a value. -/
def takeFlag (s : Switch) (got : Matches) : ExceptT Refusal m Matches := do
  let got ← settle look got
  match s.action with
  | .flag =>
    if got.hasFlag s.long then throw .conflict else return { got with flags := s.long :: got.flags }
  | .count => return { got with counts := min 255 (got.counts + 1) }
  | .help => throw .help
  | .version => throw .version
  | .value _ => return got

/-- Takes an option with the value attached to it, or with the next word for its value. -/
def takeOption (s : Switch) (kind : ValueKind) (attached : Option String) (got : Matches) :
    ExceptT Refusal m Matches := do
  let got ← settle look got
  let got := { got with pending := some ⟨s.long, s.shown, kind, attached⟩ }
  if attached.isSome then settle look got else return got

/-- Takes an option by its long name. -/
def takeLong (c : Command) (text : List Char) (got : Matches) : ExceptT Refusal m Matches :=
  let name := String.ofList (text.takeWhile (· ≠ '='))
  let attached := match text.dropWhile (· ≠ '=') with
    | _ :: v => some (String.ofList v)
    | [] => none
  match c.switches.find? fun s => s.long == name with
  | none => throw .unknownArgument
  | some s =>
    match s.action with
    | .value kind => takeOption look s kind attached got
    | _ => if attached.isSome then throw .tooManyValues else takeFlag look s got

/-- Takes options by their short names; what follows the name of an option with a value is its
value. -/
def takeShort (c : Command) : List Char → Matches → ExceptT Refusal m Matches
  | [], got => return got
  | x :: rest, got =>
    match c.switches.find? fun s => s.short == some x with
    | none => throw .unknownArgument
    | some s =>
      match s.action with
      | .value kind =>
        let attached := match rest with
          | [] => none
          | '=' :: v => some (String.ofList v)
          | v => some (String.ofList v)
        takeOption look s kind attached got
      | _ => do takeShort c rest (← takeFlag look s got)

/-- Reads the words of a command up to the name of one of its commands. -/
def scan (c : Command) : List String → Matches → ExceptT Refusal m (Matches × Rest)
  | [], got => return (got, .ended)
  | w :: rest, got =>
    let asWord : ExceptT Refusal m (Matches × Rest) :=
      match c.word with
      | some (shown, kind) =>
        if got.hasWord then throw .unknownArgument
        else do
          let got ← settle look got
          scan c rest { got with pending := some ⟨shown, shown, kind, some w⟩, hasWord := true }
      | none => if c.takesOthers then return (got, .other w rest) else throw .unknownArgument
    if got.onlyWords then asWord
    else if !got.awaits && w ∈ c.commands then
      if w = "help" then throw (helpFor c rest) else return (got, .command w rest)
    else
      match w.toList with
      | ['-', '-'] => scan c rest { got with onlyWords := true }
      | '-' :: '-' :: text => do scan c rest (← takeLong look c text got)
      | '-' :: x :: text => do scan c rest (← takeShort look c (x :: text) got)
      | _ =>
        match got.pending with
        | some p =>
          if p.value.isNone then
            scan c rest { got with pending := some { p with value := some w } }
          else asWord
        | none => asWord

end

end ClassSchema.CommandLine
