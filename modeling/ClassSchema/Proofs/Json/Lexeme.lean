import ClassSchema.Json.Printer
import Mathlib.Tactic.Common

/-
# Texts and the lexemes that they spell

`Yields cs ls` says that the scan, wherever it stands between two lexemes, reads the characters
`cs` as the lexemes `ls` and stands between two lexemes again.  Texts with this property are
written one after the other (`Yields.append`), so a long text is read piece by piece.

A number literal ends only where something else begins.  `Settles cs ls` says that the scan reads
`cs` as `ls` if a delimiter or the end of the text comes next.  Inside a text there is always one of
them after a value.

A string literal spells code units, and there is more than one way to write a character
(`Spells`).  What the printer writes for a string is one of them (`yields_writtenString`), and the
units of a text are that text again, as no character is half of a surrogate pair.
-/

namespace ClassSchema.Json

open Scan

/-! ### Texts between lexemes -/

/-- Between two lexemes the characters `cs` are read as the lexemes `ls`. -/
def Yields (cs : List Char) (ls : List Lexeme) : Prop :=
  ∀ found, cs.foldl Scan.next ⟨found, .between⟩ = ⟨ls.reverse ++ found, .between⟩

namespace Yields

variable {cs ds : List Char} {ls ms : List Lexeme}

lemma nil : Yields [] [] := fun _ => rfl

lemma append (h : Yields cs ls) (h' : Yields ds ms) : Yields (cs ++ ds) (ls ++ ms) := by
  intro found
  rw [List.foldl_append, h, h', List.reverse_append, List.append_assoc]

lemma openBrace : Yields ['\x7b'] [.openBrace] := fun _ => rfl

lemma closeBrace : Yields ['\x7d'] [.closeBrace] := fun _ => rfl

lemma openBracket : Yields ['['] [.openBracket] := fun _ => rfl

lemma closeBracket : Yields [']'] [.closeBracket] := fun _ => rfl

lemma comma : Yields [','] [.comma] := fun _ => rfl

lemma colon : Yields [':'] [.colon] := fun _ => rfl

/-- Blanks are no lexemes. -/
lemma blanks (h : ∀ c ∈ cs, isSpace c = true) : Yields cs [] := by
  induction cs with
  | nil => exact nil
  | cons c rest ih =>
    intro found
    have hnext : Scan.next ⟨found, .between⟩ c = ⟨found, .between⟩ := by
      simp [Scan.next, nextBetween, h c List.mem_cons_self]
    rw [List.foldl_cons, hnext]
    exact ih (fun d hd => h d (List.mem_cons_of_mem _ hd)) found

end Yields

/-! ### Texts before a delimiter -/

/-- A character that ends the literal before it: a blank, a comma, or the end of a container. -/
def isDelimiter (c : Char) : Bool := isSpace c || c = ',' || c = ']' || c = '\x7d'

/-- The scan has found the lexemes, or finds the last of them when a delimiter or the end of the
text comes next. -/
structure Settled (s : Scan) (found : List Lexeme) : Prop where
  next_eq : ∀ c, isDelimiter c = true → s.next c = Scan.next ⟨found, .between⟩ c
  finish_eq : s.finish = found.reverse

/-- Between two lexemes the characters `cs` are read as the lexemes `ls` if a delimiter or the end
of the text comes next. -/
def Settles (cs : List Char) (ls : List Lexeme) : Prop :=
  ∀ found, Settled (cs.foldl Scan.next ⟨found, .between⟩) (ls.reverse ++ found)

section

variable {cs ds : List Char} {ls ms : List Lexeme}

lemma Yields.settles (h : Yields cs ls) : Settles cs ls := by
  intro found
  rw [h found]
  exact ⟨fun _ _ => rfl, rfl⟩

lemma Yields.append_settles (h : Yields cs ls) (h' : Settles ds ms) :
    Settles (cs ++ ds) (ls ++ ms) := by
  intro found
  rw [List.foldl_append, h, List.reverse_append, List.append_assoc]
  exact h' _

namespace Settles

lemma append_yields {c : Char} (h : Settles cs ls) (h' : Yields (c :: ds) ms)
    (hc : isDelimiter c = true) : Yields (cs ++ c :: ds) (ls ++ ms) := by
  intro found
  rw [List.foldl_append, List.foldl_cons, (h found).next_eq c hc, ← List.foldl_cons, h',
    List.reverse_append, List.append_assoc]

lemma append_blanks (h : Settles cs ls) (hds : ∀ c ∈ ds, isSpace c = true) :
    Settles (cs ++ ds) ls := by
  cases ds with
  | nil => rwa [List.append_nil]
  | cons c rest =>
    have hc : isDelimiter c = true := by simp [isDelimiter, hds c List.mem_cons_self]
    have hall := h.append_yields (Yields.blanks hds) hc
    rw [List.append_nil] at hall
    exact hall.settles

/-- A text of which all is read. -/
lemma lexemes_eq (h : Settles cs ls) : lexemes cs = ls := by
  rw [lexemes, Scan.start, (h []).finish_eq, List.append_nil, List.reverse_reverse]

end Settles

end

/-! ### String literals -/

/-- The characters between the quotes of a literal and the code units that they spell. -/
inductive Spells : List Char → List Nat → Prop
  | nil : Spells [] []
  | plain {c : Char} {cs : List Char} {us : List Nat} (hquote : c ≠ '"') (hslash : c ≠ '\\')
      (hcontrol : 0x20 ≤ c.toNat) (h : Spells cs us) : Spells (c :: cs) (c.toNat :: us)
  | short {e c : Char} {cs : List Char} {us : List Nat} (he : shortEscape? e = some c)
      (h : Spells cs us) : Spells ('\\' :: e :: cs) (c.toNat :: us)
  | hex {a b c d : Char} {i j k l : Nat} {cs : List Char} {us : List Nat}
      (ha : hexDigit? a = some i) (hb : hexDigit? b = some j) (hc : hexDigit? c = some k)
      (hd : hexDigit? d = some l) (h : Spells cs us) :
      Spells ('\\' :: 'u' :: a :: b :: c :: d :: cs) ((16 * (16 * (16 * i + j) + k) + l) :: us)

namespace Spells

variable {cs ds : List Char} {us vs : List Nat}

lemma append (h : Spells cs us) (h' : Spells ds vs) : Spells (cs ++ ds) (us ++ vs) := by
  induction h with
  | nil => exact h'
  | plain hquote hslash hcontrol _ ih => exact .plain hquote hslash hcontrol ih
  | short he _ ih => exact .short he ih
  | hex ha hb hc hd _ ih => exact .hex ha hb hc hd ih

/-- Inside a literal the scan gathers what is written and what it spells. -/
lemma foldl_next (h : Spells cs us) (found : List Lexeme) (written : List Char)
    (units : List Nat) : cs.foldl Scan.next ⟨found, .string .plain written units⟩ =
      ⟨found, .string .plain (cs.reverse ++ written) (us.reverse ++ units)⟩ := by
  induction h generalizing written units with
  | nil => rfl
  | @plain c cs us hquote hslash hcontrol _ ih =>
    have hnext : Scan.next ⟨found, .string .plain written units⟩ c =
        ⟨found, .string .plain (c :: written) (c.toNat :: units)⟩ := by
      simp [Scan.next, nextInString, hquote, hslash, Nat.not_lt.2 hcontrol]
    rw [List.foldl_cons, hnext, ih]
    simp
  | @short e c cs us he _ ih =>
    -- after the backslash one character ends the escape
    have hne : e ≠ 'u' := by
      rintro rfl
      simp [shortEscape?] at he
    have hnext : Scan.next ⟨found, .string .escape ('\\' :: written) units⟩ e =
        ⟨found, .string .plain (e :: '\\' :: written) (c.toNat :: units)⟩ := by
      simp [Scan.next, nextInString, hne, he]
    rw [List.foldl_cons, List.foldl_cons]
    change List.foldl Scan.next
      (Scan.next ⟨found, .string .escape ('\\' :: written) units⟩ e) cs = _
    rw [hnext, ih]
    simp
  | @hex a b c d i j k l cs us ha hb hc hd _ ih =>
    -- three digits are gathered, the fourth completes the unit
    have hdigit : ∀ (x : Char) (n m v : Nat) (w : List Char), hexDigit? x = some n → 1 < m →
        Scan.next ⟨found, .string (.hex m v) w units⟩ x =
          ⟨found, .string (.hex (m - 1) (16 * v + n)) (x :: w) units⟩ := by
      intro x n m v w hx hm
      simp [Scan.next, nextInString, hx, Nat.not_le.2 hm]
    have hlast : ∀ (x : Char) (n v : Nat) (w : List Char), hexDigit? x = some n →
        Scan.next ⟨found, .string (.hex 1 v) w units⟩ x =
          ⟨found, .string .plain (x :: w) ((16 * v + n) :: units)⟩ := by
      intro x n v w hx
      simp [Scan.next, nextInString, hx]
    rw [List.foldl_cons, List.foldl_cons]
    change List.foldl Scan.next ⟨found, .string (.hex 4 0) ('u' :: '\\' :: written) units⟩
      (a :: b :: c :: d :: cs) = _
    rw [List.foldl_cons, List.foldl_cons, List.foldl_cons, List.foldl_cons,
      hdigit a i 4 0 _ ha (by omega), hdigit b j 3 _ _ hb (by omega),
      hdigit c k 2 _ _ hc (by omega), hlast d l _ _ hd, ih]
    simp

/-- A literal in its quotes. -/
lemma yields (h : Spells cs us) :
    Yields ('"' :: cs ++ ['"']) [.string ⟨cs, (joinSurrogates us).map String.ofList⟩] := by
  intro found
  rw [List.cons_append, List.foldl_cons, List.foldl_append]
  change List.foldl Scan.next (List.foldl Scan.next ⟨found, .string .plain [] []⟩ cs) ['"'] = _
  rw [h.foldl_next]
  simp [Scan.next, nextInString, Scan.emit]

end Spells

/-! ### What the printer writes -/

lemma toNat_not_surrogate (c : Char) :
    isHighSurrogate c.toNat = false ∧ isLowSurrogate c.toNat = false := by
  have h := c.valid
  simp only [isHighSurrogate, isLowSurrogate, Bool.and_eq_false_iff, decide_eq_false_iff_not]
  rcases h with h | ⟨h, -⟩
  · have h' : c.toNat < 0xD800 := h
    omega
  · have h' : 0xDFFF < c.toNat := h
    omega

/-- The code units of characters are joined to the same characters. -/
lemma joinSurrogates_map_toNat (cs : List Char) :
    joinSurrogates (cs.map Char.toNat) = some cs := by
  induction cs with
  | nil => rfl
  | cons c rest ih =>
    obtain ⟨hhigh, hlow⟩ := toNat_not_surrogate c
    cases rest with
    | nil => simp [joinSurrogates, hhigh, hlow]
    | cons d rest =>
      rw [List.map_cons] at ih
      simp [joinSurrogates, hhigh, hlow, ih]

lemma hexDigit?_hexChar : ∀ n < 16, hexDigit? (hexChar n) = some n := by decide

lemma spells_writtenChar (c : Char) : Spells (writtenChar c) [c.toNat] := by
  unfold writtenChar
  split
  · exact .short (c := '"') rfl .nil
  · exact .short (c := '\\') rfl .nil
  · exact .short (c := '\x08') rfl .nil
  · exact .short (c := '\t') rfl .nil
  · exact .short (c := '\n') rfl .nil
  · exact .short (c := '\x0c') rfl .nil
  · exact .short (c := '\r') rfl .nil
  next hquote hslash _ _ _ _ _ =>
    split
    next hcontrol =>
      have h : Spells ['\\', 'u', '0', '0', hexChar (c.toNat / 16), hexChar (c.toNat % 16)]
          [16 * (16 * (16 * 0 + 0) + c.toNat / 16) + c.toNat % 16] :=
        .hex rfl rfl (hexDigit?_hexChar _ (by omega)) (hexDigit?_hexChar _ (by omega)) .nil
      have hvalue : 16 * (16 * (16 * 0 + 0) + c.toNat / 16) + c.toNat % 16 = c.toNat := by omega
      rwa [hvalue] at h
    next hcontrol => exact .plain hquote hslash (by omega) .nil

lemma spells_writtenChars (cs : List Char) :
    Spells (cs.flatMap writtenChar) (cs.map Char.toNat) := by
  induction cs with
  | nil => exact .nil
  | cons c rest ih => exact (spells_writtenChar c).append ih

/-- The literal that the printer writes for a string. -/
def Literal.of (s : String) : Literal := ⟨s.toList.flatMap writtenChar, some s⟩

/-- What is written for a string spells it. -/
lemma yields_writtenString (s : String) :
    Yields (writtenString s).toList [.string (.of s)] := by
  have h := (spells_writtenChars s.toList).yields
  rw [joinSurrogates_map_toNat, Option.map_some, String.ofList_toList] at h
  rw [writtenString, String.toList_ofList]
  exact h

end ClassSchema.Json
