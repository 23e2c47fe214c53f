import ClassSchema.Decimal
import ClassSchema.Report.Outline
import ClassSchema.Text.Blank
import ClassSchema.Text.Digit

/-
# Token-oriented notation

A notation for results that spares tokens: fields in the order of their names, lists on one line,
tables with their columns named once.  A text is quoted only if it could be taken for something
else.  A count is written as the double nearest to it.
-/

namespace ClassSchema.Toon

/-- What is left behind the decimal digits at the head of a text; `none` if there are none. -/
def afterDigits? (cs : List Char) : Option (List Char) :=
  if cs.head?.any Text.isDecimalDigit then some (cs.dropWhile Text.isDecimalDigit) else none

/-- What is left behind the power of ten at the head of a text, if it begins with one. -/
def afterPower (cs : List Char) : List Char :=
  match cs with
  | 'e' :: rest =>
    let digits := match rest with
      | '+' :: ds | '-' :: ds => ds
      | ds => ds
    (afterDigits? digits).getD cs
  | cs => cs

/-- Whether a text reads as a number: a sign, digits, places and a power of ten. -/
def isNumberLike (cs : List Char) : Bool :=
  let unsigned := match cs with
    | '-' :: rest => rest
    | cs => cs
  match afterDigits? unsigned with
  | none => false
  | some rest =>
    let rest := match rest with
      | '.' :: places => (afterDigits? places).getD rest
      | rest => rest
    (afterPower rest).isEmpty

/-- Characters with a meaning of their own. -/
def special : List Char := [':', '"', '\\', '[', ']', '\x7b', '\x7d', ',', '\n', '\r', '\t']

/-- Whether a text must be quoted. -/
def needsQuotes (s : String) : Bool :=
  let cs := s.toList
  cs.isEmpty || cs.head?.any Text.isBlank || cs.getLast?.any Text.isBlank ||
    s ∈ ["true", "false", "null"] || isNumberLike cs || cs.any (· ∈ special) ||
    ['-', ' '].isPrefixOf cs

/-- How one character is written between quotes. -/
def quotedChar (c : Char) : List Char :=
  match c with
  | '\\' => ['\\', '\\']
  | '"' => ['\\', '"']
  | '\n' => ['\\', 'n']
  | '\r' => ['\\', 'r']
  | '\t' => ['\\', 't']
  | c => [c]

/-- A text, quoted if it must be. -/
def text (s : String) : String :=
  if needsQuotes s then String.ofList ('"' :: s.toList.flatMap quotedChar ++ ['"']) else s

/-- A count, as the double nearest to it. -/
def count (n : Nat) : String :=
  match Binary64.nearest ⟨n, 0⟩ with
  | some x => if n < 1000000000000000 then toString n else x.shortest.natural
  | none => toString n

/-- Things in the order of their names. -/
def byName {α : Type} (xs : List (String × α)) : List (String × α) :=
  xs.mergeSort fun a b => a.1 ≤ b.1

/-- The lines of a part. -/
def partLines (name : String) (part : OutlinePart) : List String :=
  let sized (n : Nat) : String := name ++ "[" ++ toString n ++ "]"
  match part with
  | .text s => [name ++ ": " ++ text s]
  | .texts [] => [sized 0 ++ ":"]
  | .texts ss => [sized ss.length ++ ": " ++ ",".intercalate (ss.map text)]
  | .table _ [] => [sized 0 ++ ":"]
  | .table columns rows =>
    let head := sized rows.length ++ "\x7b" ++ ",".intercalate (columns.mergeSort (· ≤ ·)) ++ "\x7d:"
    head :: rows.map fun row => "  " ++ ",".intercalate ((byName (columns.zip row)).map (text ·.2))
  | .counts cs => (name ++ ":") :: (byName cs).map fun (n, k) => "  " ++ n ++ ": " ++ count k

/-- An outline in the notation. -/
def encode (o : Outline) : String :=
  "\n".intercalate ((byName o).flatMap fun (name, part) => partLines name part)

end ClassSchema.Toon
