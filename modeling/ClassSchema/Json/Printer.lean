import ClassSchema.Json.Value

/-
# Writing values

A value is written on one line without blanks, or over several lines with two blanks for each
level.  Either way a string is written between quotes, with escapes for the quote, the backslash
and control characters and nothing else.
-/

namespace ClassSchema.Json

/-- A hexadecimal digit, in lower case. -/
def hexChar (n : Nat) : Char := if n < 10 then Char.ofNat (48 + n) else Char.ofNat (87 + n)

/-- How one character of a string is written. -/
def writtenChar (c : Char) : List Char :=
  match c with
  | '"' => ['\\', '"']
  | '\\' => ['\\', '\\']
  | '\x08' => ['\\', 'b']
  | '\t' => ['\\', 't']
  | '\n' => ['\\', 'n']
  | '\x0c' => ['\\', 'f']
  | '\r' => ['\\', 'r']
  | c =>
    if c.toNat < 0x20 then ['\\', 'u', '0', '0', hexChar (c.toNat / 16), hexChar (c.toNat % 16)]
    else [c]

/-- A string as it is written. -/
def writtenString (s : String) : String :=
  String.ofList ('"' :: s.toList.flatMap writtenChar ++ ['"'])

mutual

/-- A value on one line, without blanks. -/
def Value.compact : Value → String
  | .null => "null"
  | .bool b => if b then "true" else "false"
  | .integer i => toString i
  | .float negative x => writtenFloat negative x
  | .string s => writtenString s
  | .array items => "[" ++ ",".intercalate (Value.compactItems items) ++ "]"
  | .object members => "\x7b" ++ ",".intercalate (Value.compactMembers members) ++ "\x7d"

def Value.compactItems : List Value → List String
  | [] => []
  | v :: rest => v.compact :: Value.compactItems rest

def Value.compactMembers : List (String × Value) → List String
  | [] => []
  | (name, v) :: rest =>
    (writtenString name ++ ":" ++ v.compact) :: Value.compactMembers rest

end

/-- The beginning of a line at some level. -/
def indent (level : Nat) : String := "\n" ++ String.ofList (List.replicate (2 * level) ' ')

/-- Lines between two brackets, or the brackets alone. -/
def bracketed (level : Nat) (left right : String) (lines : List String) : String :=
  if lines.isEmpty then left ++ right
  else
    left ++ indent (level + 1) ++ (("," ++ indent (level + 1)).intercalate lines) ++
      indent level ++ right

mutual

/-- A value over several lines, standing at some level. -/
def Value.prettyAt (level : Nat) : Value → String
  | .array items => bracketed level "[" "]" (Value.prettyItems (level + 1) items)
  | .object members => bracketed level "\x7b" "\x7d" (Value.prettyMembers (level + 1) members)
  | .null => "null"
  | .bool b => if b then "true" else "false"
  | .integer i => toString i
  | .float negative x => writtenFloat negative x
  | .string s => writtenString s

def Value.prettyItems (level : Nat) : List Value → List String
  | [] => []
  | v :: rest => v.prettyAt level :: Value.prettyItems level rest

def Value.prettyMembers (level : Nat) : List (String × Value) → List String
  | [] => []
  | (name, v) :: rest =>
    (writtenString name ++ ": " ++ v.prettyAt level) :: Value.prettyMembers level rest

end

/-- A value over several lines. -/
def Value.pretty (v : Value) : String := v.prettyAt 0

/-- An array of strings. -/
def Value.strings (ss : List String) : Value := .array (ss.map .string)

end ClassSchema.Json
