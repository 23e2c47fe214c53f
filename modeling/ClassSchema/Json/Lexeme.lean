import ClassSchema.Decimal

/-
# Lexemes of JSON text

A text is read one character at a time: `Scan.next` is the step and `lexemes` folds it over the
text.  Reading never fails.  Where the text leaves the grammar the last lexeme is a `fault`, and
what stood before it is still there, so that a reader can act on the text in the order in which
it is written.
-/

namespace ClassSchema.Json

/-- A number literal: its digits read as one natural number, how many of them stand after the
point, and the power of ten, as far as it has a fraction or an exponent. -/
structure Numeral where
  negative : Bool
  digits : Nat
  places : Nat
  power : Int
  /-- Written without a fraction and without an exponent. -/
  whole : Bool
deriving DecidableEq, Repr, Inhabited

/-- The absolute value of a numeral. -/
def Numeral.magnitude (n : Numeral) : Decimal := ⟨n.digits, n.power - n.places⟩

/-- A string literal: the characters between its quotes as they are written, and the text that
they spell.  A literal with an escaped surrogate that lacks its partner spells none. -/
structure Literal where
  written : List Char
  text : Option String
deriving DecidableEq, Repr, Inhabited

inductive Lexeme where
  | openBrace | closeBrace | openBracket | closeBracket | comma | colon
  | null
  | bool (b : Bool)
  | number (n : Numeral)
  | string (s : Literal)
  /-- The text stops here or goes on with what is no JSON.  `unfinished` is what a string literal
  held up to this point, if the fault lies in one. -/
  | fault (unfinished : Option (List Char))
deriving DecidableEq, Repr, Inhabited

/-- Blanks between lexemes. -/
def isSpace (c : Char) : Bool := c = ' ' || c = '\n' || c = '\t' || c = '\r'

/-- The value of a hexadecimal digit of either case. -/
def hexDigit? (c : Char) : Option Nat :=
  if '0' ≤ c ∧ c ≤ '9' then some (c.toNat - '0'.toNat)
  else if 'a' ≤ c ∧ c ≤ 'f' then some (c.toNat - 'a'.toNat + 10)
  else if 'A' ≤ c ∧ c ≤ 'F' then some (c.toNat - 'A'.toNat + 10)
  else none

/-- The value of a decimal digit. -/
def digit? (c : Char) : Option Nat :=
  if '0' ≤ c ∧ c ≤ '9' then some (c.toNat - '0'.toNat) else none

/-- The character that a one-letter escape stands for. -/
def shortEscape? : Char → Option Char
  | '"' => some '"'
  | '\\' => some '\\'
  | '/' => some '/'
  | 'b' => some '\x08'
  | 'f' => some '\x0c'
  | 'n' => some '\n'
  | 'r' => some '\r'
  | 't' => some '\t'
  | _ => none

def isHighSurrogate (n : Nat) : Bool := 0xD800 ≤ n && n ≤ 0xDBFF

def isLowSurrogate (n : Nat) : Bool := 0xDC00 ≤ n && n ≤ 0xDFFF

/-- Joins surrogate pairs; `none` if a surrogate has no partner. -/
def joinSurrogates : List Nat → Option (List Char)
  | [] => some []
  | [n] => if isHighSurrogate n || isLowSurrogate n then none else some [Char.ofNat n]
  | n :: m :: rest =>
    if isHighSurrogate n && isLowSurrogate m then
      (joinSurrogates rest).map (Char.ofNat (0x10000 + (n - 0xD800) * 0x400 + (m - 0xDC00)) :: ·)
    else if isHighSurrogate n || isLowSurrogate n then none
    else (joinSurrogates (m :: rest)).map (Char.ofNat n :: ·)

/-- Where in a number literal the scan stands. -/
inductive NumeralPart where
  /-- After the minus sign. -/
  | sign
  /-- After a leading zero. -/
  | zero
  | integer
  /-- After the point. -/
  | point
  | fraction
  /-- After the letter of the exponent. -/
  | letter
  | powerSign
  | power
deriving DecidableEq, Repr

/-- A number literal that has been read in part. -/
structure OpenNumeral where
  part : NumeralPart
  negative : Bool := false
  digits : Nat := 0
  places : Nat := 0
  powerNegative : Bool := false
  power : Nat := 0
deriving DecidableEq, Repr

namespace OpenNumeral

/-- The numeral, if it may end here. -/
def finish? (n : OpenNumeral) : Option Numeral :=
  let value (whole : Bool) : Numeral :=
    ⟨n.negative, n.digits, n.places, if n.powerNegative then -n.power else n.power, whole⟩
  match n.part with
  | .zero | .integer => some (value true)
  | .fraction | .power => some (value false)
  | .sign | .point | .letter | .powerSign => none

/-- What the next character means to a number literal. -/
inductive Next where
  | goOn (n : OpenNumeral)
  /-- The character does not belong to the literal any more. -/
  | ended
  | bad

/-- Reads one more character of a number literal. -/
def next (n : OpenNumeral) (c : Char) : Next :=
  match n.part, digit? c with
  | .sign, some 0 => .goOn { n with part := .zero }
  | .sign, some d => .goOn { n with part := .integer, digits := d }
  | .sign, none => .bad
  | .zero, some _ => .bad
  | .integer, some d => .goOn { n with digits := 10 * n.digits + d }
  | .zero, none | .integer, none =>
    if c = '.' then .goOn { n with part := .point }
    else if c = 'e' ∨ c = 'E' then .goOn { n with part := .letter }
    else .ended
  | .point, some d | .fraction, some d =>
    .goOn { n with part := .fraction, digits := 10 * n.digits + d, places := n.places + 1 }
  | .point, none => .bad
  | .fraction, none => if c = 'e' ∨ c = 'E' then .goOn { n with part := .letter } else .ended
  | .letter, some d | .powerSign, some d => .goOn { n with part := .power, power := d }
  | .letter, none =>
    if c = '+' then .goOn { n with part := .powerSign }
    else if c = '-' then .goOn { n with part := .powerSign, powerNegative := true }
    else .bad
  | .powerSign, none => .bad
  | .power, some d => .goOn { n with power := 10 * n.power + d }
  | .power, none => .ended

/-- The literal that begins with `c`, if one does. -/
def start? (c : Char) : Option OpenNumeral :=
  if c = '-' then some { part := .sign, negative := true }
  else (digit? c).map fun d =>
    if d = 0 then { part := .zero } else { part := .integer, digits := d }

end OpenNumeral

/-- Where in a string literal the scan stands. -/
inductive StringPart where
  | plain
  /-- After a backslash. -/
  | escape
  /-- In the digits of a `\u` escape: how many are still to come and the value so far. -/
  | hex (missing : Nat) (value : Nat)
deriving DecidableEq, Repr

/-- What is being read. -/
inductive Mode where
  | between
  /-- The rest of a word and the lexeme that it spells. -/
  | word (rest : List Char) (spelled : Lexeme)
  | numeral (n : OpenNumeral)
  /-- A string literal: what is written of it and the code units that it spells, both reversed. -/
  | string (part : StringPart) (written : List Char) (units : List Nat)
  /-- A fault has been met; the rest of the text does not count. -/
  | stopped
deriving DecidableEq, Repr

/-- The lexemes read so far, the last one first, and what is being read. -/
structure Scan where
  found : List Lexeme
  mode : Mode
deriving DecidableEq, Repr

namespace Scan

def start : Scan := ⟨[], .between⟩

/-- Ends the scan at a fault. -/
def fail (s : Scan) (unfinished : Option (List Char)) : Scan :=
  ⟨.fault unfinished :: s.found, .stopped⟩

/-- Adds a complete lexeme. -/
def emit (s : Scan) (l : Lexeme) : Scan := ⟨l :: s.found, .between⟩

/-- The next character between two lexemes. -/
def nextBetween (s : Scan) (c : Char) : Scan :=
  if isSpace c then { s with mode := .between } else
  match c with
  | '\x7b' => s.emit .openBrace
  | '\x7d' => s.emit .closeBrace
  | '[' => s.emit .openBracket
  | ']' => s.emit .closeBracket
  | ',' => s.emit .comma
  | ':' => s.emit .colon
  | '"' => { s with mode := .string .plain [] [] }
  | 'n' => { s with mode := .word ['u', 'l', 'l'] .null }
  | 't' => { s with mode := .word ['r', 'u', 'e'] (.bool true) }
  | 'f' => { s with mode := .word ['a', 'l', 's', 'e'] (.bool false) }
  | c =>
    match OpenNumeral.start? c with
    | some n => { s with mode := .numeral n }
    | none => s.fail none

/-- The next character inside a string literal. -/
def nextInString (s : Scan) (part : StringPart) (written : List Char) (units : List Nat)
    (c : Char) : Scan :=
  match part with
  | .plain =>
    if c = '"' then
      s.emit (.string ⟨written.reverse, (joinSurrogates units.reverse).map String.ofList⟩)
    else if c = '\\' then { s with mode := .string .escape (c :: written) units }
    else if c.toNat < 0x20 then s.fail (some written.reverse)
    else { s with mode := .string .plain (c :: written) (c.toNat :: units) }
  | .escape =>
    if c = 'u' then { s with mode := .string (.hex 4 0) (c :: written) units }
    else match shortEscape? c with
      | some d => { s with mode := .string .plain (c :: written) (d.toNat :: units) }
      | none => s.fail (some written.reverse)
  | .hex missing value =>
    match hexDigit? c with
    | none => s.fail (some written.reverse)
    | some d =>
      let value := 16 * value + d
      if missing ≤ 1 then { s with mode := .string .plain (c :: written) (value :: units) }
      else { s with mode := .string (.hex (missing - 1) value) (c :: written) units }

/-- Reads one character. -/
def next (s : Scan) (c : Char) : Scan :=
  match s.mode with
  | .between => s.nextBetween c
  | .word [] l => (s.emit l).nextBetween c
  | .word [r] l => if c = r then s.emit l else s.fail none
  | .word (r :: rest) l => if c = r then { s with mode := .word rest l } else s.fail none
  | .numeral n =>
    match n.next c with
    | .goOn n => { s with mode := .numeral n }
    | .bad => s.fail none
    | .ended =>
      match n.finish? with
      | some v => (s.emit (.number v)).nextBetween c
      | none => s.fail none
  | .string part written units => s.nextInString part written units c
  | .stopped => s

/-- The lexemes of the whole text, once its last character has been read. -/
def finish (s : Scan) : List Lexeme :=
  let final : Scan :=
    match s.mode with
    | .between | .stopped => s
    | .word _ _ => s.fail none
    | .numeral n =>
      match n.finish? with
      | some v => s.emit (.number v)
      | none => s.fail none
    | .string _ written _ => s.fail (some written.reverse)
  final.found.reverse

end Scan

/-- The lexemes of a text, in order. -/
def lexemes (text : List Char) : List Lexeme := (text.foldl Scan.next Scan.start).finish

end ClassSchema.Json
