import ClassSchema.Schema.Ddl
import ClassSchema.Store.Engine
import ClassSchema.Text.Identifier

/-
# Reading statements

An engine gets texts and has to read them.  Most statements are fixed texts, with parameters for
what is particular, and are recognized as a whole.  The statement that creates a relation and the
query for its columns have names in them.  Such a text is first cut into tokens, words and symbols,
so blanks between them do not matter; then the tokens are read.
-/

namespace ClassSchema

open Schema

/-- A word of letters, digits and underscores, or any other character but a blank. -/
inductive Token where
  | word (cs : List Char)
  | symbol (c : Char)
deriving DecidableEq, Repr

/-- What a script can ask for. -/
inductive Statement where
  | create (name : String) (r : StoredRelation)
  | putIdentifiers
  | putConstraint
  | relations
  | columns (name : String)
  | identifiers
  | constraintNames
  | constraintLookup
  | constraintDefinition
deriving DecidableEq, Repr

namespace Statement

/-! ### Tokens -/

/-- Whether a character only divides tokens. -/
def divides (c : Char) : Bool := c == ' ' || c == '\t' || c == '\r' || c == '\n'

/-- A word that has come to its end. -/
def closeWord (cs : List Char) : List Token := if cs = [] then [] else [.word cs]

/-- The tokens of a text; `word` is what has been read of a word. -/
def tokensAfter (word : List Char) : List Char → List Token
  | [] => closeWord word
  | c :: rest =>
    if Text.isIdentifierRest c then tokensAfter (word ++ [c]) rest
    else if divides c then closeWord word ++ tokensAfter [] rest
    else closeWord word ++ .symbol c :: tokensAfter [] rest

/-- The tokens of a text. -/
def tokens (text : String) : List Token := tokensAfter [] text.toList

/-! ### Creating a relation -/

/-- The type with a name. -/
def typeOf? (name : List Char) : Option DataType :=
  [DataType.string, .int, .float, .bool].find? fun type => type.columnType.toList = name

/-- Reads columns with commas between them; the second result is what follows. -/
def readColumns : List Token → Option (List Attribute × List Token)
  | .word name :: .symbol ':' :: .word typeName :: rest => do
    let type ← typeOf? typeName
    match rest with
    | .symbol ',' :: rest =>
      let (others, rest) ← readColumns rest
      some (⟨String.ofList name, type⟩ :: others, rest)
    | rest => some ([⟨String.ofList name, type⟩], rest)
  | _ => none

/-- Reads the columns of the key and, after an arrow, the others. -/
def readBody (ts : List Token) : Option StoredRelation := do
  match ← readColumns ts with
  | (key, [.symbol '\x7d']) => some ⟨key, []⟩
  | (key, .symbol '=' :: .symbol '>' :: ts) =>
    match ← readColumns ts with
    | (rest, [.symbol '\x7d']) => some ⟨key, rest⟩
    | _ => none
  | _ => none

/-- Reads what follows `:create`: a name, and in braces the columns. -/
def readCreate : List Token → Option Statement
  | .word name :: .symbol '\x7b' :: body => (readBody body).map (.create (String.ofList name))
  | _ => none

/-! ### Statements -/

/-- The statements that are fixed texts. -/
def fixed : List (String × Statement) :=
  [(identifierInsert, .putIdentifiers), (constraintInsert, .putConstraint),
    (relationsQuery, .relations), (identifiersQuery, .identifiers),
    (Schema.constraintNames, .constraintNames), (Schema.constraintLookup, .constraintLookup),
    (Schema.constraintDefinition, .constraintDefinition)]

/-- Reads a statement that has names in it. -/
def readTokens : List Token → Option Statement
  | .symbol ':' :: .word w :: ts => if w = "create".toList then readCreate ts else none
  | [.symbol ':', .symbol ':', .word w, .word name] =>
    if w = "columns".toList then some (.columns (String.ofList name)) else none
  | _ => none

/-- Reads a statement. -/
def read (text : String) : Option Statement :=
  match fixed.find? fun e => e.1 = text with
  | some e => some e.2
  | none => readTokens (tokens text)

end Statement

end ClassSchema
