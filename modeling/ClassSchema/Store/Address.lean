/-
# Addresses of stores

A store is named by an address: one text for a catalog in memory, one for a database in memory, and
otherwise the path of a file that holds a database.
-/

namespace ClassSchema

inductive Address where
  /-- A catalog in memory. -/
  | catalog
  /-- A database in memory. -/
  | database
  /-- A database in a file. -/
  | file (path : String)
deriving DecidableEq, Repr, Inhabited

/-- Why a text is no address. -/
inductive AddressError where
  | empty
  | unsupported (url : String)
deriving DecidableEq, Repr

def AddressError.message : AddressError → String
  | .empty => "Empty database URL"
  | .unsupported url => "Unsupported database URL: " ++ url

namespace Address

/-- What stands after `stem` in a text that begins with it. -/
def after? (stem : List Char) (text : List Char) : Option (List Char) :=
  if stem.isPrefixOf text then some (text.drop stem.length) else none

/-- Whether a part of the text equals `part`. -/
def hasPart (part : List Char) : List Char → Bool
  | [] => part.isEmpty
  | c :: rest => part.isPrefixOf (c :: rest) || hasPart part rest

/-- Reads an address. -/
def ofText (text : String) : Except AddressError Address :=
  if text = "" then .error .empty
  else if text = ":memory:" then .ok .database
  else if text = "mem:" then .ok .catalog
  else match after? "sqlite://".toList text.toList with
    | some path => .ok (.file (String.ofList path))
    | none =>
      if hasPart "://".toList text.toList then .error (.unsupported text) else .ok (.file text)

/-- The address that is used when nothing else says one. -/
def default : Address := .file "./schema.sqlite"

end Address

end ClassSchema
