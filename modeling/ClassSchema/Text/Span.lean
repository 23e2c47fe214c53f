/-
# Character classes as spans of code points

The character classes of the Unicode standard are kept as lists of closed intervals of code
points; a character is in a class when one of the intervals holds its code point.
-/

namespace ClassSchema.Text

/-- Whether one of the closed intervals holds the code point of `c`. -/
def inSpans (spans : List (Nat × Nat)) (c : Char) : Bool :=
  spans.any fun s => s.1 ≤ c.toNat && c.toNat ≤ s.2

end ClassSchema.Text
