import ClassSchema.Files.Access

/-
# Directory trees

A directory tree as a value: what stands under each path, given as the list of names that lead to
it from the root, and the directory that relative paths start from.  `access` uses it as a file
system.
-/

namespace ClassSchema

inductive FileNode where
  | directory
  | file (content : ByteArray)

structure FileTree where
  /-- What there is, the root apart; parents stand before their children. -/
  nodes : List (List String × FileNode)
  /-- Where relative paths start. -/
  current : List String

namespace FileTree

/-- What stands at a place. -/
def node? (t : FileTree) (place : List String) : Option FileNode :=
  if place.isEmpty then some .directory else t.nodes.lookup place

/-- Puts a node at a place, in the stead of what is there. -/
def put (t : FileTree) (place : List String) (n : FileNode) : FileTree :=
  if (t.nodes.lookup place).isSome then
    { t with nodes := t.nodes.map fun e => if e.1 = place then (place, n) else e }
  else { t with nodes := t.nodes ++ [(place, n)] }

/-- The names in a directory. -/
def children (t : FileTree) (place : List String) : List String :=
  t.nodes.filterMap fun e => if e.1.dropLast = place then e.1.getLast? else none

/-- Makes the directories that lead to a place, and the last one too. -/
def makeDirectories (t : FileTree) : (above : List String) → (names : List String) → FileTree
  | _, [] => t
  | above, name :: rest =>
    let place := above ++ [name]
    let t := if (t.node? place).isNone then t.put place .directory else t
    makeDirectories t place rest

/-- The names in a path, some of them empty. -/
def names (path : String) : List String := path.splitOn "/"

/-- Lays out a file below the current directory. -/
def layOut (t : FileTree) (path : String) (n : FileNode) : FileTree :=
  let parts := (names path).filter (· ≠ "")
  (t.makeDirectories t.current parts.dropLast).put (t.current ++ parts) n

/-- An empty directory to start from. -/
def empty : FileTree := ⟨[(["work"], .directory)], ["work"]⟩

/-- Only directories have something below them. -/
def checkDirectory (t : FileTree) (place : List String) : Except FileError Unit :=
  match t.node? place with
  | some .directory => .ok ()
  | some _ => .error .notDirectory
  | none => .error .notFound

/-- Follows names from a place. -/
def walk (t : FileTree) : (place : List String) → (names : List String) →
    Except FileError (List String)
  | place, [] => .ok place
  | place, name :: rest => do
    t.checkDirectory place
    if name = "" ∨ name = "." then walk t place rest
    else if name = ".." then walk t place.dropLast rest
    else if 255 < name.utf8ByteSize then .error .nameTooLong
    else walk t (place ++ [name]) rest

/-- The place that a path leads to. -/
def resolve (t : FileTree) (path : String) : Except FileError (List String) :=
  if path.toList.contains '\x00' then .error .badName
  else if path = "" then .error .notFound
  else if 4095 < path.utf8ByteSize then .error .nameTooLong
  else t.walk (if path.toList.head? = some '/' then [] else t.current) (names path)

/-- What a path leads to. -/
def find (t : FileTree) (path : String) : Except FileError FileNode := do
  let place ← t.resolve path
  match t.node? place with
  | some n => .ok n
  | none => .error .notFound

def kind (t : FileTree) (path : String) : Option FileKind :=
  match t.find path with
  | .ok .directory => some .directory
  | .ok _ => some .file
  | .error _ => none

def read (t : FileTree) (path : String) : Except FileError String := do
  match ← t.find path with
  | .directory => .error .isDirectory
  | .file bytes =>
    match String.fromUTF8? bytes with
    | some s => .ok s
    | none => .error .notText

def list (t : FileTree) (path : String) : Except FileError (List String) := do
  let place ← t.resolve path
  t.checkDirectory place
  .ok (t.children place)

/-- The place where a path lets a file be made. -/
def target (t : FileTree) (path : String) : Except FileError (List String) := do
  let place ← t.resolve path
  match t.node? place with
  | some .directory => .error .isDirectory
  | _ => .ok place

def write (t : FileTree) (path text : String) : Except FileError FileTree := do
  let place ← t.target path
  .ok (t.put place (.file text.toUTF8))

/-- A tree as a file system. -/
def access : FileAccess (StateM FileTree) where
  kind path := do return (← get).kind path
  read path := do return (← get).read path
  list path := do return (← get).list path
  write path text := do
    match (← get).write path text with
    | .ok t => set t; return .ok ()
    | .error e => return .error e

end FileTree

end ClassSchema
