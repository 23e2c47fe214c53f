/-
# Multiplicities

How many instances of one class a single instance of the other may be linked to.  A model marks a
side with a short tag, a schema names the multiplicity in full, and diagrams use a symbol; all
three are spellings of the same four values.
-/

namespace ClassSchema

inductive Multiplicity where
  | atLeastOne
  | exactlyOne
  | zeroOneOrMany
  | zeroOrOne
deriving DecidableEq, Repr, Inhabited

namespace Multiplicity

/-- All multiplicities, in their order of declaration. -/
def all : List Multiplicity := [.atLeastOne, .exactlyOne, .zeroOneOrMany, .zeroOrOne]

/-- The tag in a class model. -/
def tag : Multiplicity → String
  | .atLeastOne => "M"
  | .exactlyOne => "1"
  | .zeroOneOrMany => "Mc"
  | .zeroOrOne => "1c"

/-- The name in a schema definition. -/
def name : Multiplicity → String
  | .atLeastOne => "AT_LEAST_ONE"
  | .exactlyOne => "EXACTLY_ONE"
  | .zeroOneOrMany => "ZERO_ONE_OR_MANY"
  | .zeroOrOne => "ZERO_OR_ONE"

/-- The symbol in a diagram. -/
def symbol : Multiplicity → String
  | .atLeastOne => "+"
  | .exactlyOne => "1"
  | .zeroOneOrMany => "*"
  | .zeroOrOne => "?"

end Multiplicity

end ClassSchema
