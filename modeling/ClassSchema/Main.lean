import ClassSchema.Program.Run

/-
# The program

Everything that touches the machine: its files, its environment, and the standard streams.
-/

namespace ClassSchema

/-- The failure that a report of the system is about. -/
def FileError.ofSystem : IO.Error → FileError
  | .noFileOrDirectory .. => .notFound
  | .permissionDenied .. => .permissionDenied
  | .inappropriateType _ code details =>
    if code = 20 then .notDirectory else if code = 21 then .isDirectory else .other details
  | e => .other (toString e)

/-- The directory entry at the end of a path. -/
def entryAt (path : String) : IO.FS.DirEntry := ⟨path, ""⟩

/-- What stands at a path of the machine. -/
def kindAt (path : String) : IO (Option FileKind) := do
  match ← (entryAt path).root.metadata.toBaseIO with
  | .error _ => return none
  | .ok data =>
    match data.type with
    | .dir => return some .directory
    | .file => return some .file
    | _ => return none

/-- The files of the machine. -/
def machineFiles : FileAccess IO where
  kind := kindAt
  read path := do
    if (← kindAt path) = some .directory then return .error .isDirectory
    match ← (IO.FS.readBinFile path).toBaseIO with
    | .error e => return .error (.ofSystem e)
    | .ok bytes =>
      match String.fromUTF8? bytes with
      | some text => return .ok text
      | none => return .error .notText
  list path := do
    match ← (entryAt path).root.readDir.toBaseIO with
    | .error e => return .error (.ofSystem e)
    | .ok entries => return .ok (entries.toList.map (·.fileName))
  write path text := do
    if (← kindAt path) = some .directory then return .error .isDirectory
    match ← (IO.FS.writeFile path text).toBaseIO with
    | .error e => return .error (.ofSystem e)
    | .ok () => return .ok ()

end ClassSchema

def main (words : List String) : IO UInt32 := do
  let environment ← IO.getEnv ClassSchema.Config.variableName
  let outcome ← ClassSchema.Program.run ClassSchema.machineFiles environment words
  (← IO.getStdout).putStr outcome.output
  (← IO.getStderr).putStr outcome.complaint
  return outcome.exitCode.toUInt32
