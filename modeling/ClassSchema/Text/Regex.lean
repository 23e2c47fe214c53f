/-
# Regular expressions

The part of the language of regular expressions that name patterns are written in: the anchors `^`
and `$`, characters, the dot, and any number of repetitions of a character or of the dot.  What
compiles an expression and looks for it in a text is a `Library`, which is not part of the program.
A small one stands here to run the program with; it reads the text of an expression into its items
and runs these over a text as a set of positions, those at which a match so far can end.
-/

namespace ClassSchema.Text.Regex

/-- A library of regular expressions. -/
structure Library where
  /-- The expression for a text that is to stand for itself. -/
  escape : String → String
  /-- Whether a text has a match of the expression somewhere in it.  Nothing if the library does not
  compile the expression. -/
  compile : String → Option (String → Bool)

/-! ### Expressions -/

/-- What stands for one character: a character for itself, and the dot for any but a line break. -/
inductive Atom where
  | char (c : Char)
  | any
deriving DecidableEq, Repr

/-- Whether an atom stands for a character. -/
def Atom.fits : Atom → Char → Bool
  | .char c, x => x == c
  | .any, x => x != '\n'

/-- The items that an expression is a sequence of. -/
inductive Item where
  /-- The beginning of the text. -/
  | start
  /-- The end of the text. -/
  | finish
  | once (a : Atom)
  /-- The atom, any number of times. -/
  | many (a : Atom)
deriving DecidableEq, Repr

/-! ### Reading -/

/-- The characters that do not stand for themselves unless a backslash is before them. -/
def specials : List Char := "\\.+*?()|[]\x7b\x7d^$#&-~".toList

def isSpecial (c : Char) : Bool := c ∈ specials

def escapeChar (c : Char) : List Char := if isSpecial c then ['\\', c] else [c]

inductive Token where
  | start
  | finish
  | star
  | atom (a : Atom)
deriving DecidableEq, Repr

/-- The token of a character with no backslash before it. -/
def token? (c : Char) : Option Token :=
  match c with
  | '^' => some .start
  | '$' => some .finish
  | '*' => some .star
  | '.' => some (.atom .any)
  | c => if isSpecial c then none else some (.atom (.char c))

def tokens : List Char → Option (List Token)
  | [] => some []
  | '\\' :: c :: rest =>
    if isSpecial c then (tokens rest).map (.atom (.char c) :: ·) else none
  | c :: rest => do
    let t ← token? c
    (tokens rest).map (t :: ·)

/-- A star belongs to the atom before it. -/
def items : List Token → Option (List Item)
  | [] => some []
  | .start :: rest => (items rest).map (.start :: ·)
  | .finish :: rest => (items rest).map (.finish :: ·)
  | .star :: _ => none
  | .atom a :: .star :: rest => (items rest).map (.many a :: ·)
  | .atom a :: rest => (items rest).map (.once a :: ·)

/-- The items of an expression. -/
def read (expression : String) : Option (List Item) := do
  items (← tokens expression.toList)

/-! ### Matching -/

/-- The positions reached from `reached` over one character each that satisfies `ok`.  The first
flag belongs to the position before `text`; `carried` tells whether it is reached from the left. -/
def across (ok : Char → Bool) (carried : Bool) : (text : List Char) → (reached : List Bool) →
    List Bool
  | c :: text, here :: reached => carried :: across ok (here && ok c) text reached
  | [], _ :: _ => [carried]
  | _, [] => []

/-- The positions reached from `reached` over any run of characters that satisfy `ok`; `carried`
tells whether a run arrives from the left. -/
def along (ok : Char → Bool) (carried : Bool) : (text : List Char) → (reached : List Bool) →
    List Bool
  | c :: text, here :: reached =>
    (carried || here) :: along ok ((carried || here) && ok c) text reached
  | [], here :: _ => [carried || here]
  | _, [] => []

/-- Keeps the first of the positions. -/
def first : List Bool → List Bool
  | [] => []
  | here :: reached => here :: reached.map fun _ => false

/-- Keeps the last of the positions. -/
def last : List Bool → List Bool
  | [] => []
  | [here] => [here]
  | _ :: reached => false :: last reached

/-- The positions reached over one item. -/
def step (text : List Char) (reached : List Bool) : Item → List Bool
  | .start => first reached
  | .finish => last reached
  | .once a => across a.fits false text reached
  | .many a => along a.fits false text reached

/-- Whether a text has a match somewhere in it: one can begin at every position. -/
def isMatch (is : List Item) (text : List Char) : Bool :=
  (is.foldl (step text) (true :: text.map fun _ => true)).any id

/-! ### A library -/

def Item.hasDot : Item → Bool
  | .once .any | .many .any => true
  | _ => false

/-- The library that compiles expressions with fewer dots than a limit. -/
def upTo (limit : Nat) : Library where
  escape text := String.ofList (text.toList.flatMap escapeChar)
  compile expression := do
    let is ← read expression
    if is.countP Item.hasDot < limit then some fun text => isMatch is text.toList else none

/-- The library that the program runs with.  Libraries bound the memory for one expression, by ten
megabytes if nothing else is said; a dot stands for so many characters that fifty thousand of them
take more. -/
def standard : Library := upTo 50000

end ClassSchema.Text.Regex
