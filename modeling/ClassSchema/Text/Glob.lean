import ClassSchema.Text.Regex

/-
# Name patterns

In a pattern `*` stands for any run of characters and `?` for any one character, a line break
never among them; every other character stands for itself.  A pattern must match the whole name.
A library of regular expressions does the work: a pattern is translated into an expression, which
is anchored at both ends.
-/

namespace ClassSchema.Text.Glob

/-- The part of the expression for one character of a pattern. -/
def part (regex : Regex.Library) (c : Char) : String :=
  match c with
  | '*' => ".*"
  | '?' => "."
  | c => regex.escape (String.singleton c)

/-- The expression for a pattern. -/
def expression (regex : Regex.Library) (pattern : String) : String :=
  "^" ++ String.join (pattern.toList.map (part regex)) ++ "$"

end ClassSchema.Text.Glob
