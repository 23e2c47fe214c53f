import ClassSchema.Compile.Run
import ClassSchema.Files.Path

/-
# Packages

A package is a directory with a file for each subsystem of a domain.  Its subsystems are the files
with the right extension that are not hidden, in the order of their names.  Each is read when its
classes are due, so a file that cannot be read leaves the relations of the files before it.
-/

namespace ClassSchema

open Model

/-- A name in a directory; `content` is absent unless it is that of a file. -/
structure DirectoryEntry where
  /-- The bytes of the name, which need not be those of a text. -/
  name : ByteArray
  content : Option (Except FileError String)

namespace Package

/-- Whether a file of this name holds a subsystem. -/
def isSubsystemName (extension name : String) : Bool :=
  name.toList.head? != some '.' && Path.hasEnding name ("." ++ extension)

/-- A file with a subsystem. -/
structure SourceFile where
  name : String
  content : Except FileError String

/-- The file with a subsystem that an entry is, if it is one. -/
def source? (extension : String) (e : DirectoryEntry) : Option SourceFile :=
  match String.fromUTF8? e.name with
  | none => none
  | some name =>
    if isSubsystemName extension name then e.content.map (⟨name, ·⟩) else none

/-- The files of a directory that hold subsystems, in the order of their names. -/
def sources (extension : String) (entries : List DirectoryEntry) : List SourceFile :=
  (entries.filterMap (source? extension)).mergeSort fun a b => a.name ≤ b.name

/-- Reads the subsystem in a file; the name of the file without its extension is the name of a
subsystem that does not give one. -/
def SourceFile.subsystem (directory extension : String) (f : SourceFile) :
    Except ModelError Subsystem :=
  let path := Path.join directory f.name
  match f.content with
  | .error e => .error (.unreadable path e)
  | .ok text => Subsystem.ofText path (Path.withoutEnding f.name ("." ++ extension)) text

variable {σ : Type} [Store σ]

/-- Reads subsystems one after the other and creates their relations. -/
def materialize (types : TypeDictionary) (directory extension : String) :
    List SourceFile → Run σ → Except (Stopped σ) (List Subsystem × Run σ)
  | [], run => .ok ([], run)
  | f :: rest, run =>
    match f.subsystem directory extension with
    | .error e => .error ⟨.model e, run.build.store⟩
    | .ok s => do
      let run ← Run.materialize types s run
      let (subsystems, run) ← materialize types directory extension rest run
      .ok (s :: subsystems, run)

/-- Compiles the subsystems of a directory with the given entries, if it can be listed. -/
def compile (types : TypeDictionary) (store : σ) (directory extension : String)
    (entries : Except FileError (List DirectoryEntry)) :
    Except (Stopped σ) (Compilation σ) := do
  match entries with
  | .error e => .error ⟨.model (.unreadable directory e), store⟩
  | .ok entries =>
    let (subsystems, run) ←
      materialize types directory extension (sources extension entries) (.start store)
    let run ← Run.constrainAll subsystems run
    .ok run.finish

end Package

end ClassSchema
