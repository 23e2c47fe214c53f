import ClassSchema.Yaml.Cursor

/-
# Scalars

A scalar is plain, or quoted in one of two ways, or a block of lines.  Within plain and quoted
scalars a single line break folds into a blank and further ones stand for themselves; a block
keeps its lines, or folds those whose neighbours begin at the block's own column.

The scans below build texts in reverse.  They take at most as many steps as there are characters
to read; the number `fuel` allows for that.
-/

namespace ClassSchema.Yaml

/-- How a scalar is written. -/
inductive Style where
  | plain
  | quoted
  | block
deriving DecidableEq, Repr, Inhabited

/-! ### Gaps -/

/-- Blanks and line breaks between two pieces of a scalar. -/
structure Gap where
  /-- The blanks before the first line break. -/
  blanks : List Char := []
  /-- Whether there has been a line break. -/
  broken : Bool := false
  /-- The first line break, if it is part of the text. -/
  first : Option Char := none
  /-- The line breaks after the first. -/
  more : List Char := []

/-- What a gap becomes inside the scalar. -/
def Gap.folded (g : Gap) : List Char :=
  if !g.broken then g.blanks
  else match g.first, g.more with
    | some '\n', [] => [' ']
    | some '\n', more => more
    | some c, more => more ++ [c]
    | none, more => more

/-- Reads blanks and line breaks.  After a line break no tab may stand left of `column`. -/
def Gap.scan (column : Option Nat) : (fuel : Nat) → Cursor → Gap → Option (Gap × Cursor)
  | 0, c, g => some (g, c)
  | fuel + 1, c, g =>
    if c.blankAt 0 then
      if !g.broken then scan column fuel c.skip { g with blanks := c.rest.take 1 ++ g.blanks }
      else if c.sees 0 '\t' && column.any fun n => c.column < n then none
      else scan column fuel c.skip g
    else
      match c.takeBreak with
      | none => some (g, c)
      | some (b, c) =>
        if g.broken then scan column fuel c { g with more := b :: g.more }
        else scan column fuel c { g with broken := true, first := some b }

/-! ### Plain scalars -/

/-- The characters with a meaning of their own inside flow collections. -/
def flowPunctuation : List Char := [',', '[', ']', '\x7b', '\x7d']

/-- How many characters of a plain scalar stand here before a gap or its end.  It ends before a
colon with a gap after it and, in a flow collection, before punctuation; there a colon right before
punctuation cannot be read. -/
def plainRun (inFlow : Bool) : List Char → Option Nat
  | [] => some 0
  | x :: rest =>
    let next := rest.head?
    if isBlank x || isBreak x then some 0
    else if inFlow && x == ':' && next.any fun y => y == '?' || y ∈ flowPunctuation then none
    else if x == ':' && next.all fun y => isBlank y || isBreak y then some 0
    else if inFlow && x ∈ flowPunctuation then some 0
    else (plainRun inFlow rest).map (· + 1)

/-- A scalar that has been read. -/
structure Scanned where
  text : List Char
  cursor : Cursor
  /-- Whether a line break stands between the end of the scalar and the cursor. -/
  onNewLine : Bool := false

/-- Reads a plain scalar whose lines may not begin left of `column`; `gap` is what has been passed
since the last character of `text`. -/
def scanPlain (inFlow : Bool) (column : Nat) :
    (fuel : Nat) → Cursor → (text : List Char) → (gap : Gap) → Option Scanned
  | 0, c, text, gap => some ⟨text.reverse, c, gap.broken⟩
  | fuel + 1, c, text, gap =>
    if c.atDocumentMarker || c.sees 0 '#' then some ⟨text.reverse, c, gap.broken⟩
    else
      match plainRun inFlow c.rest with
      | none => none
      | some 0 => some ⟨text.reverse, c, gap.broken⟩
      | some n =>
        let text := (c.rest.take n).reverse ++ gap.folded ++ text
        let c := c.skipN n
        if !c.blankAt 0 && !c.breakAt 0 then some ⟨text.reverse, c, false⟩
        else
          match Gap.scan (some column) c.rest.length c {} with
          | none => none
          | some (gap, c) =>
            if !inFlow && c.column < column then some ⟨text.reverse, c, gap.broken⟩
            else scanPlain inFlow column fuel c text gap

/-! ### Quoted scalars -/

/-- The value of a hexadecimal digit of either case. -/
def hexDigit? (c : Char) : Option Nat :=
  if '0' ≤ c ∧ c ≤ '9' then some (c.toNat - 48)
  else if 'a' ≤ c ∧ c ≤ 'f' then some (c.toNat - 87)
  else if 'A' ≤ c ∧ c ≤ 'F' then some (c.toNat - 55)
  else none

/-- The number that some hexadecimal digits write. -/
def hexNumber? (cs : List Char) : Option Nat :=
  cs.foldlM (fun n c => (hexDigit? c).map (16 * n + ·)) 0

/-- The character that a one-letter escape stands for. -/
def shortEscape? : Char → Option Char
  | '0' => some '\x00'
  | 'a' => some '\x07'
  | 'b' => some '\x08'
  | 't' => some '\t'
  | '\t' => some '\t'
  | 'n' => some '\n'
  | 'v' => some '\x0b'
  | 'f' => some '\x0c'
  | 'r' => some '\r'
  | 'e' => some '\x1b'
  | ' ' => some ' '
  | '"' => some '"'
  | '/' => some '/'
  | '\\' => some '\\'
  | 'N' => some '\x85'
  | '_' => some '\xa0'
  | 'L' => some '\u2028'
  | 'P' => some '\u2029'
  | _ => none

/-- How many hexadecimal digits an escape with this letter has. -/
def hexEscapeLength? : Char → Option Nat
  | 'x' => some 2
  | 'u' => some 4
  | 'U' => some 8
  | _ => none

/-- The character of an escape, with the backslash at the cursor, and the place after it. -/
def scanEscape (c : Cursor) : Option (Char × Cursor) := do
  let letter ← c.look 1
  match shortEscape? letter, hexEscapeLength? letter with
  | some x, _ => some (x, c.skipN 2)
  | none, some n => do
    let digits := (c.rest.drop 2).take n
    let code ← if digits.length = n then hexNumber? digits else none
    if code.isValidChar then some (Char.ofNat code, c.skipN (2 + n)) else none
  | none, none => none

/-- Reads the characters of a quoted scalar up to a gap or its closing quote, and tells whether the
last of them was an escaped line break. -/
def quotedRun (double : Bool) :
    (fuel : Nat) → Cursor → (text : List Char) → Option (List Char × Cursor × Bool)
  | 0, c, text => some (text, c, false)
  | fuel + 1, c, text =>
    match c.look 0 with
    | none => some (text, c, false)
    | some x =>
      if isBlank x || isBreak x then some (text, c, false)
      else if !double && x == '\'' && c.sees 1 '\'' then quotedRun double fuel (c.skipN 2) ('\'' :: text)
      else if x == (if double then '"' else '\'') then some (text, c, false)
      else if double && x == '\\' then
        if c.breakAt 1 then some (text, c.skip.skipBreak, true)
        else match scanEscape c with
          | none => none
          | some (y, c) => quotedRun double fuel c (y :: text)
      else quotedRun double fuel c.skip (x :: text)

/-- Reads a quoted scalar from behind its opening quote. -/
def scanQuoted (double : Bool) : (fuel : Nat) → Cursor → (text : List Char) → Option Scanned
  | 0, _, _ => none
  | fuel + 1, c, text =>
    if c.atDocumentMarker || c.atEnd then none
    else
      match quotedRun double c.rest.length c text with
      | none => none
      | some (text, c, escapedBreak) =>
        if c.sees 0 (if double then '"' else '\'') then some ⟨text.reverse, c.skip, false⟩
        else
          match Gap.scan none c.rest.length c { broken := escapedBreak } with
          | none => none
          | some (gap, c) => scanQuoted double fuel c (gap.folded ++ text)

/-! ### Block scalars -/

/-- What is done with the line breaks at the end of a block. -/
inductive Chomping where
  | strip
  | clip
  | keep
deriving DecidableEq, Repr

/-- The indicators after the one that opens a block: its chomping and the indentation that it
states, in either order. -/
def scanBlockHeader (c : Cursor) : Option (Chomping × Option Nat × Cursor) :=
  let chomping (c : Cursor) : Option Chomping :=
    if c.sees 0 '+' then some .keep else if c.sees 0 '-' then some .strip else none
  let digit (c : Cursor) : Option Nat :=
    (c.look 0).bind fun x => if x.isDigit then some (x.toNat - 48) else none
  let (chomp, indentation, c) :=
    match chomping c with
    | some k =>
      match digit c.skip with
      | some n => (k, some n, c.skipN 2)
      | none => (k, none, c.skip)
    | none =>
      match digit c with
      | some n =>
        match chomping c.skip with
        | some k => (k, some n, c.skipN 2)
        | none => (.clip, some n, c.skip)
      | none => (.clip, none, c)
  if indentation = some 0 then none else
  let c := c.skipWhile isBlank
  let c := if c.sees 0 '#' then c.skipLine else c
  if c.lineEndsAt 0 then some (chomp, indentation, c.skipBreak) else none

/-- Reads the indentation of lines and the empty lines before the next line of a block.  While the
block's indentation is not known, `widest` is the largest one seen. -/
def scanBlockBreaks (indentation : Option Nat) :
    (fuel : Nat) → Cursor → (widest : Nat) → (breaks : List Char) →
      Option (Nat × List Char × Cursor)
  | 0, c, widest, breaks => some (widest, breaks, c)
  | fuel + 1, c, widest, breaks =>
    let spaces := (c.rest.takeWhile (· == ' ')).length
    let c := c.skipN (match indentation with
      | some n => min spaces (n - c.column)
      | none => spaces)
    let widest := max widest c.column
    if c.sees 0 '\t' && indentation.all fun n => c.column < n then none
    else match c.takeBreak with
      | none => some (widest, breaks, c)
      | some (b, c) => scanBlockBreaks indentation fuel c widest (b :: breaks)

/-- The lines of a block that have been read. -/
structure BlockLines where
  text : List Char := []
  /-- The break at the end of the last line. -/
  lastBreak : List Char := []
  /-- The breaks of the empty lines after it. -/
  breaks : List Char := []
  /-- Whether the last line began with a blank. -/
  wasBlank : Bool := false

/-- Reads the lines of a block that begin at column `indentation`. -/
def scanBlockLines (fold : Bool) (indentation : Nat) :
    (fuel : Nat) → Cursor → BlockLines → Option (BlockLines × Cursor)
  | 0, c, b => some (b, c)
  | fuel + 1, c, b =>
    if c.column ≠ indentation || c.atEnd then some (b, c)
    else
      let isBlank := c.blankAt 0
      let joint :=
        if fold && b.lastBreak == ['\n'] && !b.wasBlank && !isBlank then
          if b.breaks.isEmpty then [' '] else []
        else b.lastBreak
      let (line, c) := c.takeWhile fun x => !isBreak x
      let text := line.reverse ++ b.breaks ++ joint ++ b.text
      let (lastBreak, c) := match c.takeBreak with
        | some (x, c) => ([x], c)
        | none => ([], c)
      match scanBlockBreaks (some indentation) (c.rest.length + 1) c 0 [] with
      | none => none
      | some (_, breaks, c) => scanBlockLines fold indentation fuel c ⟨text, lastBreak, breaks, isBlank⟩

/-- Reads a block scalar from behind its indicator.  `outer` is the column of the collection that
it stands in, if it stands in one. -/
def scanBlock (fold : Bool) (outer : Option Nat) (c : Cursor) : Option Scanned := do
  let (chomping, stated, c) ← scanBlockHeader c
  let known := stated.map fun n => (outer.getD 0) + n
  let (widest, breaks, c) ← scanBlockBreaks known (c.rest.length + 1) c 0 []
  let least := match outer with
    | some n => n + 1
    | none => 1
  let indentation := known.getD (max widest least)
  let (b, c) ← scanBlockLines fold indentation (c.rest.length + 1) c { breaks }
  let tail := match chomping with
    | .strip => []
    | .clip => b.lastBreak
    | .keep => b.breaks ++ b.lastBreak
  some ⟨(tail ++ b.text).reverse, c, true⟩

end ClassSchema.Yaml
