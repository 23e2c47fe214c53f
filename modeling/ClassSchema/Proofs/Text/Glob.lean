import ClassSchema.Proofs.Text.Regex
import ClassSchema.Text.Glob
import Mathlib.Data.List.Forall2

/-
# What a name pattern matches

A pattern matches a name if the name can be cut into consecutive pieces, one for each character of
the pattern: any run of characters for `*`, one character for `?`, both without a line break, and
the character itself for any other.  The expression for a pattern says the same, one item for each
character between two anchors.  So with every library that is documented the names that the
expression accepts are those that the pattern matches (`accepts_iff_matches`), whatever characters
of the pattern mean something in an expression.
-/

namespace ClassSchema.Text.Glob

open Regex (Item Atom)

/-- The pieces of a name that a pattern character stands for. -/
inductive StandsFor : Char → List Char → Prop
  /-- A star stands for any run without a line break, also for none. -/
  | run {piece : List Char} (h : ∀ c ∈ piece, c ≠ '\n') : StandsFor '*' piece
  /-- A question mark stands for any one character that is no line break. -/
  | one {c : Char} (h : c ≠ '\n') : StandsFor '?' [c]
  /-- Any other character stands for itself. -/
  | self {c : Char} (hstar : c ≠ '*') (hmark : c ≠ '?') : StandsFor c [c]

/-- The name can be cut into consecutive pieces, one for each character of the pattern. -/
def Matches (pattern name : List Char) : Prop :=
  ∃ pieces, List.Forall₂ StandsFor pattern pieces ∧ pieces.flatten = name

/-! ### The items of a pattern -/

def itemOf (p : Char) : Item :=
  match p with
  | '*' => .many .any
  | '?' => .once .any
  | p => .once (.char p)

/-- The items of the expression for a pattern. -/
def itemsOf (pattern : List Char) : List Item := .start :: (pattern.map itemOf ++ [.finish])

lemma itemText_itemOf (regex : Regex.Library) (p : Char) :
    regex.itemText (itemOf p) = part regex p := by
  unfold itemOf
  split
  · rfl
  · rfl
  · next hstar hmark =>
    unfold part
    split
    · exact absurd rfl hstar
    · exact absurd rfl hmark
    · rfl

lemma expression_eq_text (regex : Regex.Library) (pattern : String) :
    expression regex pattern = regex.text (itemsOf pattern.toList) := by
  have hparts : (pattern.toList.map itemOf).map regex.itemText =
      pattern.toList.map (part regex) := by
    rw [List.map_map]
    exact List.map_congr_left fun p _ => itemText_itemOf regex p
  rw [← String.toList_inj, expression, Regex.Library.text, itemsOf, List.map_cons, List.map_append,
    hparts]
  simp [Regex.Library.itemText]

/-! ### Pieces -/

lemma matches_nil_iff {name : List Char} : Matches [] name ↔ name = [] := by
  simp [Matches, eq_comm]

/-- The first piece is the one for the first pattern character. -/
lemma matches_cons_iff {p : Char} {pattern name : List Char} : Matches (p :: pattern) name ↔
    ∃ piece rest, name = piece ++ rest ∧ StandsFor p piece ∧ Matches pattern rest := by
  constructor
  · rintro ⟨pieces, hpieces, rfl⟩
    obtain ⟨piece, rest, hpiece, hrest, rfl⟩ := List.forall₂_cons_left_iff.1 hpieces
    exact ⟨piece, rest.flatten, rfl, hpiece, rest, hrest, rfl⟩
  · rintro ⟨piece, _, rfl, hpiece, rest, hrest, rfl⟩
    exact ⟨piece :: rest, .cons hpiece hrest, rfl⟩

variable {before rest : List Char}

/-- An item matches the pieces that its pattern character stands for. -/
lemma matchesAt_itemOf_iff {p : Char} {is : List Item} :
    Regex.MatchesAt (itemOf p :: is) before rest ↔ ∃ piece rest', rest = piece ++ rest' ∧
      StandsFor p piece ∧ Regex.MatchesAt is (before ++ piece) rest' := by
  unfold itemOf
  split
  · constructor
    · rintro ⟨run, rest', rfl, hrun, h⟩
      exact ⟨run, rest', rfl, .run fun c hc => by simpa [Atom.fits] using hrun c hc, h⟩
    · rintro ⟨run, rest', rfl, hrun, h⟩
      cases hrun with
      | run hrun => exact ⟨run, rest', rfl, fun c hc => by simpa [Atom.fits] using hrun c hc, h⟩
      | self hstar _ => exact absurd rfl hstar
  · constructor
    · rintro ⟨c, rest', rfl, hc, h⟩
      exact ⟨[c], rest', rfl, .one (by simpa [Atom.fits] using hc), h⟩
    · rintro ⟨_, rest', rfl, hpiece, h⟩
      cases hpiece with
      | one hc => exact ⟨_, rest', rfl, by simpa [Atom.fits] using hc, h⟩
      | self _ hmark => exact absurd rfl hmark
  · next hstar hmark =>
    constructor
    · rintro ⟨c, rest', rfl, hc, h⟩
      obtain rfl : c = p := by simpa [Atom.fits] using hc
      exact ⟨[c], rest', rfl, .self hstar hmark, h⟩
    · rintro ⟨_, rest', rfl, hpiece, h⟩
      cases hpiece with
      | run _ => exact absurd rfl hstar
      | one _ => exact absurd rfl hmark
      | self _ _ => exact ⟨p, rest', rfl, by simp [Atom.fits], h⟩

/-- What the items of a pattern match up to the end of a text is what the pattern matches. -/
lemma matchesAt_map_itemOf_iff {pattern : List Char} :
    Regex.MatchesAt (pattern.map itemOf ++ [.finish]) before rest ↔ Matches pattern rest := by
  induction pattern generalizing before rest with
  | nil => simp [Regex.MatchesAt, matches_nil_iff]
  | cons p pattern ih =>
    rw [List.map_cons, List.cons_append, matchesAt_itemOf_iff, matches_cons_iff]
    simp only [ih]

lemma matches_itemsOf_iff {pattern name : List Char} :
    Regex.Matches (itemsOf pattern) name ↔ Matches pattern name := by
  constructor
  · rintro ⟨before, rest, rfl, rfl, h⟩
    exact matchesAt_map_itemOf_iff.1 h
  · intro h
    exact ⟨[], name, rfl, rfl, matchesAt_map_itemOf_iff.2 h⟩

instance (pattern name : List Char) : Decidable (Matches pattern name) :=
  decidable_of_iff (Regex.isMatch (itemsOf pattern) name = true)
    (Regex.isMatch_iff_matches.trans matches_itemsOf_iff)

/-- What a documented library makes of a pattern accepts the names that the pattern matches. -/
theorem accepts_iff_matches {regex : Regex.Library} (hregex : regex.Documented) {pattern : String}
    {accepts : String → Bool} (h : regex.compile (expression regex pattern) = some accepts)
    (name : String) : accepts name = true ↔ Matches pattern.toList name.toList := by
  rw [expression_eq_text] at h
  rw [hregex _ accepts h, matches_itemsOf_iff]

end ClassSchema.Text.Glob
