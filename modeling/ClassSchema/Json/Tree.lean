import ClassSchema.Json.Lexeme

/-
# Trees of JSON text

The tree of a text says what is written, value by value, and where the writing breaks off.  A
broken text has a tree too: the containers that are open at the fault end there, and what stands
before it is complete.  So a decoder that walks the tree from left to right meets the first
problem of the document first, whether that is a value it cannot use or the end of the grammar.

`Builder.next` adds one lexeme to a stack of open containers and `Document.ofText` folds it over
the lexemes of a text.
-/

namespace ClassSchema.Json

/-- How a container ends: at its bracket, or broken off at a lexeme that cannot stand there. -/
inductive Ending where
  | closed
  | broken (stray : Lexeme)
deriving DecidableEq, Repr, Inhabited

/-- A member name as it is written. -/
structure Key where
  written : List Char
  /-- The text that it spells, if it is complete and spells one. -/
  text : Option String
  /-- Whether the closing quote is there. -/
  complete : Bool
deriving DecidableEq, Repr, Inhabited

/-- What a text holds where a value may stand. -/
inductive Tree where
  | null
  | bool (b : Bool)
  | number (n : Numeral)
  | string (s : Literal)
  | array (items : List Tree) (ending : Ending)
  | object (members : List (Key × Tree)) (ending : Ending)
  /-- There is no value. -/
  | missing
deriving Repr, Inhabited

/-- A tree and whether nothing but blanks follows it. -/
structure Document where
  root : Tree
  alone : Bool
deriving Repr, Inhabited

/-- A container that is still open, its content reversed. -/
inductive Frame where
  | array (items : List Tree)
  | object (members : List (Key × Tree))
  /-- An object whose last key still waits for its value. -/
  | member (members : List (Key × Tree)) (key : Key)
deriving Repr

namespace Frame

/-- The container that ends here. -/
def close (ending : Ending) : Frame → Tree
  | .array items => .array items.reverse ending
  | .object members => .object members.reverse ending
  | .member members key => .object ((key, .missing) :: members).reverse ending

/-- Adds a value to the innermost open container. -/
def add (t : Tree) : Frame → Frame
  | .array items => .array (t :: items)
  | .object members => .object members
  | .member members key => .object ((key, t) :: members)

end Frame

/-- What may stand next. -/
inductive Expected where
  | value
  /-- A value, or the end of an empty array. -/
  | firstItem
  | key
  /-- A key, or the end of an empty object. -/
  | firstKey
  | colon
  /-- A comma or the end of the container. -/
  | separator
  /-- Nothing: the value of the document is complete. -/
  | nothing
deriving DecidableEq, Repr

/-- The open containers, innermost first, and what may stand next; or the finished document. -/
inductive Builder where
  | reading (stack : List Frame) (expected : Expected)
  | complete (root : Tree)
  | stopped (document : Document)
deriving Repr

namespace Builder

def start : Builder := .reading [] .value

/-- Ends all open containers at the lexeme `stray`. -/
def breakOff (stack : List Frame) (t : Option Tree) (stray : Lexeme) : Builder :=
  let root := stack.foldl
    (fun inner frame => some ((match inner with
      | some t => frame.add t
      | none => frame).close (.broken stray))) t
  .stopped ⟨root.getD .missing, false⟩

/-- Adds a complete value. -/
def put (stack : List Frame) (t : Tree) : Builder :=
  match stack with
  | [] => .complete t
  | frame :: rest => .reading (frame.add t :: rest) .separator

/-- Reads a lexeme where a value may stand. -/
def nextValue (stack : List Frame) (l : Lexeme) : Builder :=
  match l with
  | .null => put stack .null
  | .bool b => put stack (.bool b)
  | .number n => put stack (.number n)
  | .string s => put stack (.string s)
  | .openBracket => .reading (.array [] :: stack) .firstItem
  | .openBrace => .reading (.object [] :: stack) .firstKey
  | stray => breakOff stack (some .missing) stray

/-- Ends the innermost container. -/
def closeFrame (stack : List Frame) : Builder :=
  match stack with
  | [] => .complete .missing
  | frame :: rest => put rest (frame.close .closed)

/-- Reads a member name. -/
def nextKey (stack : List Frame) (l : Lexeme) : Builder :=
  match stack, l with
  | .object members :: rest, .string s =>
    .reading (.member members ⟨s.written, s.text, true⟩ :: rest) .colon
  | .object members :: rest, .fault (some written) =>
    breakOff (.member members ⟨written, none, false⟩ :: rest) none l
  | stack, stray => breakOff stack none stray

/-- Reads one lexeme. -/
def next (b : Builder) (l : Lexeme) : Builder :=
  match b with
  | .stopped d => .stopped d
  | .complete root => .stopped ⟨root, false⟩
  | .reading stack expected =>
    match expected, l with
    | .value, l => nextValue stack l
    | .firstItem, .closeBracket => closeFrame stack
    | .firstItem, l => nextValue stack l
    | .firstKey, .closeBrace => closeFrame stack
    | .firstKey, l | .key, l => nextKey stack l
    | .colon, .colon => .reading stack .value
    | .colon, stray => breakOff stack none stray
    | .separator, .comma =>
      match stack with
      | .array _ :: _ => .reading stack .value
      | _ => .reading stack .key
    | .separator, .closeBracket =>
      match stack with
      | .array _ :: _ => closeFrame stack
      | _ => breakOff stack none l
    | .separator, .closeBrace =>
      match stack with
      | .object _ :: _ => closeFrame stack
      | _ => breakOff stack none l
    | .separator, stray | .nothing, stray => breakOff stack none stray

/-- The document, once the last lexeme has been read. -/
def finish (b : Builder) : Document :=
  match b with
  | .stopped d => d
  | .complete root => ⟨root, true⟩
  | .reading stack expected =>
    let value := if expected = .value ∨ expected = .firstItem then some Tree.missing else none
    match breakOff stack value (.fault none) with
    | .stopped d => d
    | _ => ⟨.missing, false⟩

end Builder

/-- The document of a text. -/
def Document.ofText (text : String) : Document :=
  ((lexemes text.toList).foldl Builder.next Builder.start).finish

end ClassSchema.Json
