import ClassSchema.Text.Regex
import Mathlib.Tactic.Common

/-
# What regular expressions match

An expression is the text of its items, one after the other.  It matches a text if its items match
from some place in it, and that place may have something before it and something after it: an
anchor says whether it may (`MatchesAt`).  `Library.Documented` says of a library that what it
compiles matches just so; nothing is said of what it does not compile.

The library that the program runs with is documented (`upTo_documented`).  It reads from the text of
an expression the items that were written (`read_text`), and it runs them over the set of the
positions where a match of the items so far can end.  The invariant of the run is `Marks`: the flag
of a position tells whether this place can be reached.  One item takes the places that can be
reached to others (`beyond`), and the flags with them (`Marks.step`).
-/

namespace ClassSchema.Text.Regex

/-! ### Meaning -/

/-- The items match from the place in a text that has `before` to the left and `rest` to the
right. -/
def MatchesAt : List Item → (before rest : List Char) → Prop
  | [], _, _ => True
  | .start :: is, before, rest => before = [] ∧ MatchesAt is before rest
  | .finish :: is, before, rest => rest = [] ∧ MatchesAt is before rest
  | .once a :: is, before, rest =>
    ∃ c rest', rest = c :: rest' ∧ a.fits c = true ∧ MatchesAt is (before ++ [c]) rest'
  | .many a :: is, before, rest =>
    ∃ run rest', rest = run ++ rest' ∧ (∀ c ∈ run, a.fits c = true) ∧
      MatchesAt is (before ++ run) rest'

/-- The items match somewhere in a text. -/
def Matches (is : List Item) (text : List Char) : Prop :=
  ∃ before rest, text = before ++ rest ∧ MatchesAt is before rest

namespace Library

variable (regex : Library)

def atomText : Atom → String
  | .char c => regex.escape (String.singleton c)
  | .any => "."

def itemText : Item → String
  | .start => "^"
  | .finish => "$"
  | .once a => regex.atomText a
  | .many a => regex.atomText a ++ "*"

/-- The expression that some items make up. -/
def text (is : List Item) : String := String.join (is.map regex.itemText)

/-- What is documented of a library: an expression that it compiles matches a text where its items
match. -/
def Documented : Prop :=
  ∀ is accepts, regex.compile (regex.text is) = some accepts →
    ∀ t, accepts t = true ↔ Matches is t.toList

end Library

/-! ### Reading an expression -/

def Item.tokens : Item → List Token
  | .start => [.start]
  | .finish => [.finish]
  | .once a => [.atom a]
  | .many a => [.atom a, .star]

lemma items_flatMap_tokens (is : List Item) : items (is.flatMap Item.tokens) = some is := by
  induction is with
  | nil => rfl
  | cons i rest ih =>
    cases i with
    | start | finish | many a => simp [Item.tokens, items, ih]
    | once a =>
      rw [List.flatMap_cons]
      -- what follows an atom is not a star, since no item begins with one
      cases rest with
      | nil => rfl
      | cons j rest => cases j <;> simpa [Item.tokens, items] using ih

section

variable {limit : Nat}

lemma tokens_cons (c : Char) (rest : List Char) (hc : c ≠ '\\') :
    tokens (c :: rest) = (token? c).bind fun t => (tokens rest).map (t :: ·) := by
  rw [tokens]
  · rfl
  · rintro d ds rfl
    exact absurd rfl hc

lemma tokens_escapeChar_append (c : Char) (rest : List Char) :
    tokens (escapeChar c ++ rest) = (tokens rest).map (.atom (.char c) :: ·) := by
  rw [escapeChar]
  by_cases hc : isSpecial c = true
  · simp [hc, tokens]
  · have hne : c ≠ '\\' := by
      rintro rfl
      exact hc (by decide)
    have htoken : token? c = some (.atom (.char c)) := by
      unfold token?
      split
      · exact absurd (by decide) hc
      · exact absurd (by decide) hc
      · exact absurd (by decide) hc
      · exact absurd (by decide) hc
      · rw [if_neg hc]
    rw [if_neg hc, List.singleton_append, tokens_cons c rest hne, htoken, Option.bind_some]

lemma tokens_atomText_append (a : Atom) (rest : List Char) :
    tokens (((upTo limit).atomText a).toList ++ rest) = (tokens rest).map (.atom a :: ·) := by
  cases a with
  | any =>
    change tokens (".".toList ++ rest) = _
    exact tokens_cons '.' rest (by decide)
  | char c =>
    simpa [Library.atomText, upTo] using tokens_escapeChar_append c rest

lemma tokens_itemText_append (i : Item) (rest : List Char) :
    tokens (((upTo limit).itemText i).toList ++ rest) = (tokens rest).map (i.tokens ++ ·) := by
  cases i with
  | start =>
    change tokens ("^".toList ++ rest) = _
    exact tokens_cons '^' rest (by decide)
  | finish =>
    change tokens ("$".toList ++ rest) = _
    exact tokens_cons '$' rest (by decide)
  | once a => exact tokens_atomText_append a rest
  | many a =>
    have hstar : tokens ("*".toList ++ rest) = (tokens rest).map (.star :: ·) :=
      tokens_cons '*' rest (by decide)
    rw [Library.itemText, String.toList_append, List.append_assoc, tokens_atomText_append, hstar,
      Option.map_map]
    rfl

lemma tokens_text (is : List Item) :
    tokens ((upTo limit).text is).toList = some (is.flatMap Item.tokens) := by
  induction is with
  | nil => rfl
  | cons i rest ih =>
    have htext : ((upTo limit).text (i :: rest)).toList =
        ((upTo limit).itemText i).toList ++ ((upTo limit).text rest).toList := by
      simp [Library.text]
    rw [htext, tokens_itemText_append, ih, Option.map_some, List.flatMap_cons]

/-- What is written is read. -/
lemma read_text (is : List Item) : read ((upTo limit).text is) = some is := by
  rw [read, tokens_text]
  exact items_flatMap_tokens is

end

/-! ### Places that can be reached -/

/-- The places that an item leads to from the places of which `P` holds. -/
def beyond (i : Item) (P : List Char → List Char → Prop) (before rest : List Char) : Prop :=
  match i with
  | .start => before = [] ∧ P before rest
  | .finish => rest = [] ∧ P before rest
  | .once a => ∃ c before', before = before' ++ [c] ∧ a.fits c = true ∧ P before' (c :: rest)
  | .many a =>
    ∃ run before', before = before' ++ run ∧ (∀ c ∈ run, a.fits c = true) ∧ P before' (run ++ rest)

variable {P : List Char → List Char → Prop} {text : List Char}

/-- The first item may be taken before the others. -/
lemma exists_matchesAt_cons_iff {i : Item} {is : List Item} :
    (∃ before rest, text = before ++ rest ∧ P before rest ∧ MatchesAt (i :: is) before rest) ↔
      ∃ before rest, text = before ++ rest ∧ beyond i P before rest ∧ MatchesAt is before rest := by
  cases i with
  | start => simp only [MatchesAt, beyond]; grind
  | finish => simp only [MatchesAt, beyond]; grind
  | once a =>
    constructor
    · rintro ⟨before, _, rfl, hP, c, rest, rfl, hc, h⟩
      exact ⟨before ++ [c], rest, by simp, ⟨c, before, rfl, hc, hP⟩, h⟩
    · rintro ⟨_, rest, rfl, ⟨c, before, rfl, hc, hP⟩, h⟩
      exact ⟨before, c :: rest, by simp, hP, c, rest, rfl, hc, h⟩
  | many a =>
    constructor
    · rintro ⟨before, _, rfl, hP, run, rest, rfl, hrun, h⟩
      exact ⟨before ++ run, rest, by simp, ⟨run, before, rfl, hrun, hP⟩, h⟩
    · rintro ⟨_, rest, rfl, ⟨run, before, rfl, hrun, hP⟩, h⟩
      exact ⟨before, run ++ rest, by simp, hP, run, rest, rfl, hrun, h⟩

/-- All items, one after the other. -/
lemma exists_matchesAt_iff {is : List Item} :
    (∃ before rest, text = before ++ rest ∧ P before rest ∧ MatchesAt is before rest) ↔
      ∃ before rest, text = before ++ rest ∧ is.foldl (fun P i => beyond i P) P before rest := by
  induction is generalizing P with
  | nil => simp [MatchesAt]
  | cons i rest ih => rw [exists_matchesAt_cons_iff, ih, List.foldl_cons]

/-! ### Sets of positions -/

/-- Each flag tells of its place, the first one of that between `before` and `rest` and the others
of those further right, whether `P` holds of it. -/
inductive Marks (P : List Char → List Char → Prop) : (before rest : List Char) → List Bool → Prop
  | nil {before : List Char} {here : Bool} (h : here = true ↔ P before []) :
      Marks P before [] [here]
  | cons {before rest : List Char} {c : Char} {here : Bool} {reached : List Bool}
      (h : here = true ↔ P before (c :: rest)) (others : Marks P (before ++ [c]) rest reached) :
      Marks P before (c :: rest) (here :: reached)

namespace Marks

variable {before rest : List Char} {reached : List Bool} {ok : Char → Bool} {carried : Bool}

lemma all (before rest : List Char) :
    Marks (fun _ _ => True) before rest (true :: rest.map fun _ => true) := by
  induction rest generalizing before with
  | nil => exact .nil (by simp)
  | cons c rest ih => exact .cons (by simp) (ih _)

/-- Some flag is set if `P` holds of some place. -/
lemma any_iff (h : Marks P before rest reached) :
    reached.any id = true ↔ ∃ u v, rest = u ++ v ∧ P (before ++ u) v := by
  induction h with
  | nil h => simp [h]
  | @cons before rest c here reached h others ih =>
    rw [List.any_cons, Bool.or_eq_true, id, h, ih]
    constructor
    · rintro (hP | ⟨u, v, rfl, hP⟩)
      · exact ⟨[], c :: rest, rfl, by simpa using hP⟩
      · exact ⟨c :: u, v, rfl, by simpa using hP⟩
    · rintro ⟨u, v, huv, hP⟩
      cases u with
      | nil =>
        obtain rfl : c :: rest = v := huv
        exact .inl (by simpa using hP)
      | cons d u =>
        obtain ⟨rfl, rfl⟩ := List.cons.inj huv
        exact .inr ⟨u, v, rfl, by simpa using hP⟩

/-- None but the place on the left is at the beginning. -/
lemma map_false (h : Marks P before rest reached) (hbefore : before ≠ []) :
    Marks (beyond .start P) before rest (reached.map fun _ => false) := by
  induction h with
  | nil _ => exact .nil (by simp [beyond, hbefore])
  | cons _ others ih => exact .cons (by simp [beyond, hbefore]) (ih (by simp))

lemma first (h : Marks P [] rest reached) : Marks (beyond .start P) [] rest (first reached) := by
  cases h with
  | nil h => exact .nil (by simpa [beyond] using h)
  | cons h others => exact .cons (by simpa [beyond] using h) (others.map_false (by simp))

lemma last (h : Marks P before rest reached) :
    Marks (beyond .finish P) before rest (last reached) := by
  induction h with
  | nil h => exact .nil (by simpa [beyond] using h)
  | cons h others ih =>
    cases others with
    | nil h' | cons h' others => exact .cons (by simp [beyond]) ih

/-- One character further; the first place is reached if one is before it. -/
lemma across {a : Atom} (h : Marks P before rest reached)
    (hcarried : carried = true ↔ beyond (.once a) P before rest) :
    Marks (beyond (.once a) P) before rest (across a.fits carried rest reached) := by
  induction h generalizing carried with
  | nil h => exact .nil hcarried
  | @cons before rest c here reached h others ih =>
    refine .cons hcarried (ih ?_)
    rw [Bool.and_eq_true, h, beyond]
    constructor
    · rintro ⟨hP, hc⟩
      exact ⟨c, before, rfl, hc, hP⟩
    · rintro ⟨d, before', heq, hd, hP⟩
      obtain ⟨rfl, hcd⟩ := List.append_inj' heq rfl
      obtain rfl : c = d := by simpa using hcd
      exact ⟨hP, hd⟩

/-- A run is empty or ends in a character. -/
lemma over_many_iff {a : Atom} {before rest : List Char} {c : Char} :
    beyond (.many a) P (before ++ [c]) rest ↔
      P (before ++ [c]) rest ∨ a.fits c = true ∧ beyond (.many a) P before (c :: rest) := by
  constructor
  · rintro ⟨run, before', heq, hrun, hP⟩
    rcases List.eq_nil_or_concat run with rfl | ⟨run, d, rfl⟩
    · exact .inl (by simpa [heq] using hP)
    · rw [List.concat_eq_append] at heq hrun hP
      rw [← List.append_assoc] at heq
      obtain ⟨rfl, hcd⟩ := List.append_inj' heq rfl
      obtain rfl : c = d := by simpa using hcd
      refine .inr ⟨hrun c (by simp), run, before', rfl, fun x hx => hrun x (by simp [hx]), ?_⟩
      simpa using hP
  · rintro (hP | ⟨hc, run, before', rfl, hrun, hP⟩)
    · exact ⟨[], before ++ [c], by simp, by simp, hP⟩
    · refine ⟨run ++ [c], before', by simp, ?_, by simpa using hP⟩
      intro x hx
      rcases List.mem_append.1 hx with hx | hx
      · exact hrun x hx
      · exact List.mem_singleton.1 hx ▸ hc

/-- Any number of characters further, also from a place to the left. -/
lemma along {a : Atom} (h : Marks P before rest reached)
    (hcarried : carried = true ∨ P before rest ↔ beyond (.many a) P before rest) :
    Marks (beyond (.many a) P) before rest (along a.fits carried rest reached) := by
  induction h generalizing carried with
  | nil h => exact .nil (by rw [Bool.or_eq_true, h, hcarried])
  | @cons before rest c here reached h others ih =>
    refine .cons (by rw [Bool.or_eq_true, h, hcarried]) (ih ?_)
    rw [over_many_iff, Bool.and_eq_true, Bool.or_eq_true, h, hcarried]
    tauto

/-- One item. -/
lemma step (h : Marks P [] text reached) (i : Item) :
    Marks (beyond i P) [] text (step text reached i) := by
  cases i with
  | start => exact h.first
  | finish => exact h.last
  | once a => exact h.across (by simp [beyond])
  | many a => exact h.along (by simp [beyond])

/-- Items, one after the other. -/
lemma foldl_step (h : Marks P [] text reached) (is : List Item) :
    Marks (is.foldl (fun P i => beyond i P) P) [] text (is.foldl (Regex.step text) reached) := by
  induction is generalizing P reached with
  | nil => exact h
  | cons i rest ih => exact ih (h.step i)

end Marks

lemma isMatch_iff_matches {is : List Item} : isMatch is text = true ↔ Matches is text := by
  have h := (Marks.all [] text).foldl_step is
  rw [isMatch, h.any_iff, Matches]
  simp only [List.nil_append]
  rw [← exists_matchesAt_iff]
  simp only [true_and]

/-- A library that is documented: that of the program, whatever the limit. -/
theorem upTo_documented (limit : Nat) : (upTo limit).Documented := by
  intro is accepts hcompile t
  have hread : read ((upTo limit).text is) = some is := read_text is
  change ((read ((upTo limit).text is)).bind fun is => _) = some accepts at hcompile
  rw [hread, Option.bind_some] at hcompile
  split at hcompile
  · obtain rfl := Option.some.inj hcompile
    exact isMatch_iff_matches
  · cases hcompile

end ClassSchema.Text.Regex
