import ClassSchema.Text.Span

/-
# White space

The 25 characters with the standard's property `White_Space`, and texts made of them alone.
-/

namespace ClassSchema.Text

/-- Code points with the property `White_Space`. -/
def blanks : List (Nat × Nat) := [
  (0x9, 0xD), (0x20, 0x20), (0x85, 0x85), (0xA0, 0xA0), (0x1680, 0x1680), (0x2000, 0x200A),
  (0x2028, 0x2029), (0x202F, 0x202F), (0x205F, 0x205F), (0x3000, 0x3000)]

/-- White space in the sense of the standard, not of ASCII alone. -/
def isBlank (c : Char) : Bool := inSpans blanks c

/-- Whether nothing is left of a text once white space at its ends is dropped. -/
def isBlankText (s : String) : Bool := s.toList.all isBlank

end ClassSchema.Text
