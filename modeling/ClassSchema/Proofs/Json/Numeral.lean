import ClassSchema.Proofs.Json.Lexeme
import Mathlib.Data.Nat.Basic
import Mathlib.Tactic.IntervalCases

/-
# Number literals

A number literal has a sign, a whole part without leading zeros, a fraction and an exponent, all but
the whole part optional.  `Numeral.IsText n cs` says this of the characters `cs` and says what they
write, without a scan.  The scan reads every literal of this form (`Numeral.IsText.settles`): each
part is a run of the automaton for literals, and the runs are put together.
-/

namespace ClassSchema.Json

open Scan

/-! ### The form of a literal -/

/-- The number that decimal digits write after `n`. -/
def decimalAfter (n : Nat) (cs : List Char) : Nat :=
  cs.foldl (fun n c => 10 * n + (c.toNat - '0'.toNat)) n

/-- The number that decimal digits write. -/
def decimal (cs : List Char) : Nat := decimalAfter 0 cs

/-- One decimal digit or several. -/
structure AreDigits (cs : List Char) : Prop where
  ne_nil : cs ≠ []
  isDigit : ∀ c ∈ cs, c.isDigit = true

/-- A whole number: a zero, or digits that begin with another one. -/
def IsWhole (cs : List Char) : Prop := cs = ['0'] ∨ AreDigits cs ∧ cs.head? ≠ some '0'

lemma isWhole_digit {c : Char} (h : c.isDigit = true) : IsWhole [c] := by
  by_cases hzero : c = '0'
  · exact .inl (by rw [hzero])
  · exact .inr ⟨⟨by simp, by simpa using h⟩, by simpa using hzero⟩

/-- A fraction with the digits `ds`, or none. -/
inductive IsFraction : List Char → List Char → Prop
  | absent : IsFraction [] []
  | present {ds : List Char} (h : AreDigits ds) : IsFraction ('.' :: ds) ds

/-- An exponent that writes the power of ten, or none. -/
inductive IsExponent : List Char → Int → Prop
  | absent : IsExponent [] 0
  | unsigned {e : Char} {ds : List Char} (he : e = 'e' ∨ e = 'E') (h : AreDigits ds) :
      IsExponent (e :: ds) (decimal ds)
  | positive {e : Char} {ds : List Char} (he : e = 'e' ∨ e = 'E') (h : AreDigits ds) :
      IsExponent (e :: '+' :: ds) (decimal ds)
  | negative {e : Char} {ds : List Char} (he : e = 'e' ∨ e = 'E') (h : AreDigits ds) :
      IsExponent (e :: '-' :: ds) (-decimal ds)

/-- The minus sign of a negative number. -/
def signOf (negative : Bool) : List Char := if negative then ['-'] else []

/-- The characters are a number literal, and the numeral is what they write. -/
inductive Numeral.IsText : Numeral → List Char → Prop
  | mk {negative : Bool} {whole fraction digits exponent : List Char} {power : Int}
      (hwhole : IsWhole whole) (hfraction : IsFraction fraction digits)
      (hexponent : IsExponent exponent power) :
      IsText ⟨negative, decimal (whole ++ digits), digits.length, power,
          fraction.isEmpty && exponent.isEmpty⟩
        (signOf negative ++ whole ++ fraction ++ exponent)

/-! ### Runs of the automaton -/

lemma digit?_of_isDigit {c : Char} (h : c.isDigit = true) :
    digit? c = some (c.toNat - '0'.toNat) := by
  rw [Char.isDigit, Bool.and_eq_true, decide_eq_true_eq, decide_eq_true_eq] at h
  exact if_pos h

/-- The automaton gets from one state to another with the characters. -/
def OpenNumeral.Runs (n : OpenNumeral) (cs : List Char) (n' : OpenNumeral) : Prop :=
  ∀ found, cs.foldl Scan.next ⟨found, .numeral n⟩ = ⟨found, .numeral n'⟩

namespace OpenNumeral.Runs

variable {n n' n'' : OpenNumeral} {cs ds : List Char} {c : Char}

lemma nil (n : OpenNumeral) : n.Runs [] n := fun _ => rfl

lemma cons (hc : n.next c = .goOn n') (h : n'.Runs cs n'') : n.Runs (c :: cs) n'' := by
  intro found
  have hnext : Scan.next ⟨found, .numeral n⟩ c = ⟨found, .numeral n'⟩ := by
    simp only [Scan.next, hc]
  rw [List.foldl_cons, hnext, h]

lemma append (h : n.Runs cs n') (h' : n'.Runs ds n'') : n.Runs (cs ++ ds) n'' := by
  intro found
  rw [List.foldl_append, h, h']

/-- Digits in a part of the literal that takes each of them into a number and counts them. -/
lemma digits (state : Nat → Nat → OpenNumeral)
    (hstate : ∀ number count c d, digit? c = some d →
      (state number count).next c = .goOn (state (10 * number + d) (count + 1)))
    (number count : Nat) (h : ∀ c ∈ cs, c.isDigit = true) :
    Runs (state number count) cs (state (decimalAfter number cs) (count + cs.length)) := by
  induction cs generalizing number count with
  | nil => exact nil _
  | cons c rest ih =>
    have hc := digit?_of_isDigit (h c List.mem_cons_self)
    rw [List.length_cons, Nat.add_comm rest.length, ← Nat.add_assoc]
    exact cons (hstate _ _ _ _ hc) (ih _ _ fun d hd => h d (List.mem_cons_of_mem _ hd))

variable {negative powerNegative : Bool} {number places power : Nat}

/-- More digits of the whole part. -/
lemma whole (h : ∀ c ∈ cs, c.isDigit = true) :
    Runs ⟨.integer, negative, number, 0, false, 0⟩ cs
      ⟨.integer, negative, decimalAfter number cs, 0, false, 0⟩ := by
  refine digits (fun number _ => ⟨.integer, negative, number, 0, false, 0⟩) ?_ number 0 h
  intro number _ c d hc
  simp only [OpenNumeral.next, hc]

/-- More digits of the fraction. -/
lemma fraction (h : ∀ c ∈ cs, c.isDigit = true) :
    Runs ⟨.fraction, negative, number, places, false, 0⟩ cs
      ⟨.fraction, negative, decimalAfter number cs, places + cs.length, false, 0⟩ := by
  refine digits (fun number places => ⟨.fraction, negative, number, places, false, 0⟩) ?_
    number places h
  intro number places c d hc
  simp only [OpenNumeral.next, hc]

/-- More digits of the exponent. -/
lemma exponent (h : ∀ c ∈ cs, c.isDigit = true) :
    Runs ⟨.power, negative, number, places, powerNegative, power⟩ cs
      ⟨.power, negative, number, places, powerNegative, decimalAfter power cs⟩ := by
  refine digits (fun power _ => ⟨.power, negative, number, places, powerNegative, power⟩) ?_
    power 0 h
  intro power _ c d hc
  simp only [OpenNumeral.next, hc]

/-- A fraction after a whole part. -/
lemma present_fraction {part : NumeralPart} (hpart : part = .zero ∨ part = .integer)
    (h : AreDigits ds) :
    Runs ⟨part, negative, number, 0, false, 0⟩ ('.' :: ds)
      ⟨.fraction, negative, decimalAfter number ds, ds.length, false, 0⟩ := by
  obtain ⟨hne, hdigit⟩ := h
  cases ds with
  | nil => exact absurd rfl hne
  | cons c rest =>
    have hc := digit?_of_isDigit (hdigit c List.mem_cons_self)
    have hpoint : OpenNumeral.next ⟨part, negative, number, 0, false, 0⟩ '.' =
        .goOn ⟨.point, negative, number, 0, false, 0⟩ := by
      rcases hpart with rfl | rfl <;> rfl
    rw [List.length_cons, Nat.add_comm]
    have hfirst : OpenNumeral.next ⟨.point, negative, number, 0, false, 0⟩ c =
        .goOn ⟨.fraction, negative, 10 * number + (c.toNat - '0'.toNat), 1, false, 0⟩ := by
      simp only [OpenNumeral.next, hc]
    exact cons hpoint (cons hfirst (fraction fun d hd => hdigit d (List.mem_cons_of_mem _ hd)))

/-- The digits of an exponent after its letter and its sign. -/
lemma first_exponent {part : NumeralPart} (hpart : part = .letter ∨ part = .powerSign)
    (h : AreDigits ds) :
    Runs ⟨part, negative, number, places, powerNegative, 0⟩ ds
      ⟨.power, negative, number, places, powerNegative, decimal ds⟩ := by
  obtain ⟨hne, hdigit⟩ := h
  cases ds with
  | nil => exact absurd rfl hne
  | cons c rest =>
    have hc := digit?_of_isDigit (hdigit c List.mem_cons_self)
    have hfirst : decimal (c :: rest) = decimalAfter (c.toNat - '0'.toNat) rest := by
      simp [decimal, decimalAfter]
    rw [hfirst]
    refine cons ?_ (exponent fun d hd => hdigit d (List.mem_cons_of_mem _ hd))
    rcases hpart with rfl | rfl <;> simp only [OpenNumeral.next, hc]

end OpenNumeral.Runs

/-! ### Whole literals -/

lemma mem_of_isDigit {c : Char} (h : c.isDigit = true) :
    c ∈ ['0', '1', '2', '3', '4', '5', '6', '7', '8', '9'] := by
  rw [Char.isDigit, Bool.and_eq_true, decide_eq_true_eq, decide_eq_true_eq] at h
  obtain ⟨hlow, hhigh⟩ := h
  have hlow' : 48 ≤ c.toNat := hlow
  have hhigh' : c.toNat ≤ 57 := hhigh
  rw [← Char.ofNat_toNat c]
  interval_cases c.toNat <;> decide

/-- The state of the automaton after the first digit of the whole part. -/
def OpenNumeral.first (negative : Bool) (c : Char) : OpenNumeral :=
  ⟨if c = '0' then .zero else .integer, negative, c.toNat - '0'.toNat, 0, false, 0⟩

/-- The scan begins a literal at its sign or, if there is none, at its first digit. -/
lemma foldl_first {c : Char} (h : c.isDigit = true) (negative : Bool) (found : List Lexeme) :
    (signOf negative ++ [c]).foldl Scan.next ⟨found, .between⟩ =
      ⟨found, .numeral (.first negative c)⟩ := by
  have hc := mem_of_isDigit h
  simp only [List.mem_cons, List.not_mem_nil, or_false] at hc
  rcases hc with rfl | rfl | rfl | rfl | rfl | rfl | rfl | rfl | rfl | rfl <;>
    cases negative <;> rfl

/-- The sign and the whole part of a literal. -/
lemma IsWhole.foldl_next {cs : List Char} (h : IsWhole cs) (negative : Bool)
    (found : List Lexeme) : ∃ part, (part = .zero ∨ part = .integer) ∧
      (signOf negative ++ cs).foldl Scan.next ⟨found, .between⟩ =
        ⟨found, .numeral ⟨part, negative, decimal cs, 0, false, 0⟩⟩ := by
  rcases h with rfl | ⟨⟨hne, hdigit⟩, hhead⟩
  · exact ⟨.zero, .inl rfl, foldl_first rfl negative found⟩
  · cases cs with
    | nil => exact absurd rfl hne
    | cons c rest =>
      have hc : c ≠ '0' := fun heq => hhead (congrArg some heq)
      have hfirst := foldl_first (hdigit c List.mem_cons_self) negative found
      rw [OpenNumeral.first, if_neg hc] at hfirst
      refine ⟨.integer, .inr rfl, ?_⟩
      rw [List.append_cons, List.foldl_append, hfirst,
        OpenNumeral.Runs.whole (fun d hd => hdigit d (List.mem_cons_of_mem _ hd)) found]
      simp [decimal, decimalAfter]

/-- The parts of a literal after which it may end or go on with an exponent. -/
def NumeralPart.IsSettled (part : NumeralPart) : Prop :=
  part = .zero ∨ part = .integer ∨ part = .fraction

/-- The fraction of a literal. -/
lemma IsFraction.exists_runs {fraction digits : List Char} (h : IsFraction fraction digits)
    {part : NumeralPart} (hpart : part = .zero ∨ part = .integer) (negative : Bool) (n : Nat) :
    ∃ part' : NumeralPart, part'.IsSettled ∧ decide (part' ≠ .fraction) = fraction.isEmpty ∧
      OpenNumeral.Runs ⟨part, negative, n, 0, false, 0⟩ fraction
        ⟨part', negative, decimalAfter n digits, digits.length, false, 0⟩ := by
  cases h with
  | absent =>
    refine ⟨part, ?_, ?_, .nil _⟩
    · rcases hpart with rfl | rfl
      · exact .inl rfl
      · exact .inr (.inl rfl)
    · rcases hpart with rfl | rfl <;> rfl
  | present h => exact ⟨.fraction, .inr (.inr rfl), rfl, .present_fraction hpart h⟩

/-- The exponent of a literal, and with it the end. -/
lemma IsExponent.exists_runs {exponent : List Char} {power : Int} (h : IsExponent exponent power)
    {part : NumeralPart} (hpart : part.IsSettled) (negative : Bool) (n places : Nat) :
    ∃ n', OpenNumeral.Runs ⟨part, negative, n, places, false, 0⟩ exponent n' ∧
      n'.finish? = some ⟨negative, n, places, power,
        decide (part ≠ .fraction) && exponent.isEmpty⟩ := by
  have hletter : ∀ e : Char, e = 'e' ∨ e = 'E' →
      OpenNumeral.next ⟨part, negative, n, places, false, 0⟩ e =
        .goOn ⟨.letter, negative, n, places, false, 0⟩ := by
    rintro e (rfl | rfl) <;> rcases hpart with rfl | rfl | rfl <;> rfl
  have hplus : OpenNumeral.next ⟨.letter, negative, n, places, false, 0⟩ '+' =
      .goOn ⟨.powerSign, negative, n, places, false, 0⟩ := rfl
  have hminus : OpenNumeral.next ⟨.letter, negative, n, places, false, 0⟩ '-' =
      .goOn ⟨.powerSign, negative, n, places, true, 0⟩ := rfl
  cases h with
  | absent =>
    refine ⟨_, .nil _, ?_⟩
    rcases hpart with rfl | rfl | rfl <;> rfl
  | unsigned he h =>
    refine ⟨_, .cons (hletter _ he) (.first_exponent (.inl rfl) h), ?_⟩
    simp [OpenNumeral.finish?]
  | positive he h =>
    refine ⟨_, .cons (hletter _ he) (.cons hplus (.first_exponent (.inr rfl) h)), ?_⟩
    simp [OpenNumeral.finish?]
  | negative he h =>
    refine ⟨_, .cons (hletter _ he) (.cons hminus (.first_exponent (.inr rfl) h)), ?_⟩
    simp [OpenNumeral.finish?]

/-- A literal that may end is ended by a delimiter and by the end of the text. -/
lemma settled_numeral {n : OpenNumeral} {v : Numeral} (h : n.finish? = some v)
    (found : List Lexeme) : Settled ⟨found, .numeral n⟩ (.number v :: found) where
  next_eq c hc := by
    have hother : digit? c = none ∧ c ≠ '.' ∧ c ≠ 'e' ∧ c ≠ 'E' := by
      simp only [isDelimiter, isSpace, Bool.or_eq_true, decide_eq_true_eq] at hc
      rcases hc with (((((rfl | rfl) | rfl) | rfl) | rfl) | rfl) | rfl <;> decide
    obtain ⟨hdigit, hpoint, he, hE⟩ := hother
    have hended : n.next c = .ended := by
      cases hpart : n.part with
      | sign | point | letter | powerSign => simp [OpenNumeral.finish?, hpart] at h
      | zero | integer | fraction | power =>
        simp [OpenNumeral.next, hpart, hdigit, hpoint, he, hE]
    simp only [Scan.next, hended, h]
    rfl
  finish_eq := by simp only [Scan.finish, h, Scan.emit]

/-- The scan reads a number literal. -/
theorem Numeral.IsText.settles {n : Numeral} {cs : List Char} (h : n.IsText cs) :
    Settles cs [.number n] := by
  intro found
  obtain @⟨negative, whole, fraction, digits, exponent, power, hwhole, hfraction, hexponent⟩ := h
  obtain ⟨part, hpart, hfold⟩ := hwhole.foldl_next negative found
  obtain ⟨part', hpart', hempty, hruns⟩ := hfraction.exists_runs hpart negative (decimal whole)
  obtain ⟨n', hruns', hfinish⟩ := hexponent.exists_runs hpart' negative
    (decimalAfter (decimal whole) digits) digits.length
  have hdigits : decimalAfter (decimal whole) digits = decimal (whole ++ digits) := by
    simp [decimal, decimalAfter]
  rw [hempty, hdigits] at hfinish
  rw [List.foldl_append, List.foldl_append, hfold, hruns, hruns']
  exact settled_numeral hfinish found

end ClassSchema.Json
