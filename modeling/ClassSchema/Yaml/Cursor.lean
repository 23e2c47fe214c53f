/-
# Places in a text

YAML gives meaning to lines and columns, so its text is read through a cursor that knows where it
stands.  There are five characters that break a line; when a break becomes part of a scalar, the
breaks of ASCII and the next-line control become line feeds.
-/

namespace ClassSchema.Yaml

/-- A place in a text: what is still to be read, how many characters have been read, and the line
and the column. -/
structure Cursor where
  rest : List Char
  index : Nat := 0
  line : Nat := 0
  column : Nat := 0
deriving Repr, Inhabited

def isBreak (c : Char) : Bool :=
  c == '\n' || c == '\r' || c == '\x85' || c == '\u2028' || c == '\u2029'

def isBlank (c : Char) : Bool := c == ' ' || c == '\t'

/-- Letters, digits, the hyphen and the underscore, of ASCII. -/
def isWordChar (c : Char) : Bool := c.isAlphanum || c == '-' || c == '_'

/-- Whether a stream may hold the character at all. -/
def isAllowed (c : Char) : Bool :=
  let n := c.toNat
  n == 0x09 || n == 0x0A || n == 0x0D || (0x20 ≤ n && n ≤ 0x7E) || n == 0x85 ||
    (0xA0 ≤ n && n ≤ 0xFFFD) || 0x10000 ≤ n

namespace Cursor

/-- The character `n` places ahead. -/
def look (c : Cursor) (n : Nat) : Option Char := c.rest[n]?

/-- Whether the character `n` places ahead is `x`. -/
def sees (c : Cursor) (n : Nat) (x : Char) : Bool := c.look n == some x

/-- Whether the text has ended. -/
def atEnd (c : Cursor) : Bool := c.rest.isEmpty

/-- Whether a blank stands `n` places ahead. -/
def blankAt (c : Cursor) (n : Nat) : Bool := (c.look n).any isBlank

/-- Whether a line break stands `n` places ahead. -/
def breakAt (c : Cursor) (n : Nat) : Bool := (c.look n).any isBreak

/-- Whether a line break or the end stands `n` places ahead. -/
def lineEndsAt (c : Cursor) (n : Nat) : Bool := (c.look n).all isBreak

/-- Whether a blank, a line break or the end stands `n` places ahead. -/
def gapAt (c : Cursor) (n : Nat) : Bool := (c.look n).all fun x => isBlank x || isBreak x

/-- Passes one character, which is no line break. -/
def skip (c : Cursor) : Cursor :=
  { c with rest := c.rest.tail, index := c.index + 1, column := c.column + 1 }

/-- Passes `n` characters, none of which is a line break. -/
def skipN (c : Cursor) (n : Nat) : Cursor :=
  { c with rest := c.rest.drop n, index := c.index + n, column := c.column + n }

/-- Passes a line break, which may be a carriage return and a line feed, and returns what it is in
a scalar. -/
def takeBreak (c : Cursor) : Option (Char × Cursor) :=
  let down (n : Nat) : Cursor := ⟨c.rest.drop n, c.index + n, c.line + 1, 0⟩
  match c.rest with
  | '\r' :: '\n' :: _ => some ('\n', down 2)
  | x :: _ =>
    if x == '\u2028' || x == '\u2029' then some (x, down 1)
    else if isBreak x then some ('\n', down 1)
    else none
  | [] => none

/-- Passes a line break, if one stands here. -/
def skipBreak (c : Cursor) : Cursor :=
  match c.takeBreak with
  | some (_, c) => c
  | none => c

/-- Passes the characters from here on that satisfy `p`, which no line break does. -/
def skipWhile (p : Char → Bool) (c : Cursor) : Cursor := c.skipN (c.rest.takeWhile p).length

/-- The characters from here on that satisfy `p`, and the place after them. -/
def takeWhile (p : Char → Bool) (c : Cursor) : List Char × Cursor :=
  (c.rest.takeWhile p, c.skipWhile p)

/-- Passes everything up to the end of the line. -/
def skipLine (c : Cursor) : Cursor := c.skipWhile fun x => !isBreak x

/-- Whether a line begins here with three times `x`, and nothing attached to them. -/
def atMarker (c : Cursor) (x : Char) : Bool :=
  c.column == 0 && c.sees 0 x && c.sees 1 x && c.sees 2 x && c.gapAt 3

/-- Whether a document begins or ends here. -/
def atDocumentMarker (c : Cursor) : Bool := c.atMarker '-' || c.atMarker '.'

end Cursor

end ClassSchema.Yaml
