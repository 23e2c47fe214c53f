import ClassSchema.Yaml.Scalar

/-
# Tokens

The scanner cuts a stream into tokens.  Collections that are laid out in columns get tokens for
their beginning and their end.  A scalar becomes a key only when the colon after it is met, so the
place of a scalar that may still become one is kept, and its `key` token is put in front of it
later.  Where the stream cannot be scanned any further, the tokens end; those that might still have
become part of a key do not count then.
-/

namespace ClassSchema.Yaml

inductive Token where
  | version (major minor : Nat)
  | tagDirective (handle expansion : List Char)
  | documentStart
  | documentEnd
  | blockSequenceStart
  | blockMappingStart
  | blockEnd
  | flowSequenceStart
  | flowSequenceEnd
  | flowMappingStart
  | flowMappingEnd
  | blockEntry
  | flowEntry
  | key
  | value
  | alias (name : List Char)
  | anchor (name : List Char)
  | tag (handle suffix : List Char)
  | scalar (text : List Char) (style : Style)
  | streamEnd
deriving DecidableEq, Repr, Inhabited

/-- A place where a key may have begun: the number of tokens before it and the cursor there. -/
structure KeyPlace where
  before : Nat
  index : Nat
  line : Nat
  column : Nat
  /-- Whether the layout leaves no other reading. -/
  required : Bool
deriving Repr

structure Scanner where
  cursor : Cursor
  /-- The tokens, the last one first. -/
  tokens : List Token := []
  /-- How many tokens there are. -/
  count : Nat := 0
  /-- The key that may have begun in each open flow collection and, last, outside of all. -/
  keys : List (Option KeyPlace) := [none]
  keyAllowed : Bool := true
  /-- The columns of the open block collections, innermost first. -/
  columns : List Nat := []

namespace Scanner

/-- A step of the scanner; one that fails leaves the scanner where it failed. -/
abbrev Step := Scanner → Except Scanner Scanner

def inFlow (s : Scanner) : Bool := 1 < s.keys.length

def push (s : Scanner) (t : Token) : Scanner :=
  { s with tokens := t :: s.tokens, count := s.count + 1 }

/-- Puts a token behind the first `before` tokens. -/
def insert (s : Scanner) (before : Nat) (t : Token) : Scanner :=
  let after := s.count - before
  { s with tokens := s.tokens.take after ++ t :: s.tokens.drop after, count := s.count + 1 }

/-- The place of the innermost key. -/
def key? (s : Scanner) : Option KeyPlace := s.keys.head?.join

def setKey (s : Scanner) (k : Option KeyPlace) : Scanner := { s with keys := k :: s.keys.tail }

/-- Gives up the innermost key. -/
def dropKey : Step := fun s =>
  if s.key?.any (·.required) then .error s else .ok (s.setKey none)

/-- Notes that a key may begin here. -/
def saveKey : Step := fun s =>
  if s.keyAllowed then do
    let required := !s.inFlow && s.columns.head? == some s.cursor.column
    let s ← s.dropKey
    let c := s.cursor
    .ok (s.setKey (some ⟨s.count, c.index, c.line, c.column, required⟩))
  else .ok s

/-- A key stands on one line and within 1024 characters; gives up those that have become longer. -/
def dropLongKeys : Step := fun s =>
  let isLong (k : KeyPlace) : Bool := k.line < s.cursor.line || k.index + 1024 < s.cursor.index
  if s.keys.any fun k => k.any fun k => isLong k && k.required then .error s
  else .ok { s with keys := s.keys.map fun k => k.filter fun k => !isLong k }

/-- Opens a block collection, unless one is open at this column or further right. -/
def openBlock (column : Nat) (before : Nat) (t : Token) (s : Scanner) : Scanner :=
  if s.inFlow then s
  else if s.columns.head?.all fun n => n < column then
    { s.insert before t with columns := column :: s.columns }
  else s

/-- Closes the block collections that begin right of `column`; without a column, all of them. -/
def closeBlocks (column : Option Nat) (s : Scanner) : Scanner :=
  if s.inFlow then s
  else
    let closed := s.columns.takeWhile fun n => column.all fun m => m < n
    let s := { s with columns := s.columns.drop closed.length }
    closed.foldl (fun s _ => s.push .blockEnd) s

/-- Passes `n` characters and adds a token. -/
def indicator (n : Nat) (t : Token) (s : Scanner) : Scanner :=
  { s with cursor := s.cursor.skipN n }.push t

def allowKey (allowed : Bool) (s : Scanner) : Scanner := { s with keyAllowed := allowed }

/-- Passes blanks, comments and line breaks.  Outside of flow collections a new line may begin with
a key, and where a key may begin, a tab is no blank. -/
def passGaps : (fuel : Nat) → Scanner → Scanner
  | 0, s => s
  | fuel + 1, s =>
    let c := s.cursor
    let c := if c.column == 0 && c.sees 0 '\ufeff' then c.skip else c
    let tabs := s.inFlow || !s.keyAllowed
    let c := c.skipWhile fun x => x == ' ' || (tabs && x == '\t')
    let c := if c.sees 0 '#' then c.skipLine else c
    match c.takeBreak with
    | some (_, c) => passGaps fuel { s with cursor := c, keyAllowed := s.keyAllowed || !s.inFlow }
    | none => { s with cursor := c }

/-! ### Directives -/

/-- Reads a version number. -/
def scanVersion (c : Cursor) : Option (Nat × Cursor) :=
  let (ds, c) := c.takeWhile Char.isDigit
  if ds.isEmpty || 9 < ds.length then none
  else some (ds.foldl (fun n d => 10 * n + (d.toNat - 48)) 0, c)

/-- Reads a tag handle: `!`, letters, and `!` again, which may only be missing outside of
directives or from the handle `!`. -/
def scanHandle (inDirective : Bool) (c : Cursor) : Option (List Char × Cursor) :=
  if !c.sees 0 '!' then none
  else
    let (word, c) := c.skip.takeWhile isWordChar
    if c.sees 0 '!' then some ('!' :: word ++ ['!'], c.skip)
    else if inDirective && !word.isEmpty then none
    else some ('!' :: word, c)

/-- Characters of a tag; a comma and brackets only where `wide`. -/
def isTagChar (wide : Bool) (c : Char) : Bool :=
  isWordChar c || c ∈ [';', '/', '?', ':', '@', '&', '=', '+', '$', '.', '%', '!', '~', '*', '\'',
    '(', ')'] || (wide && c ∈ [',', '[', ']'])

/-- The bytes that a text in UTF-8 begins with after a byte that begins a character. -/
def continuationCount (byte : Nat) : Option Nat :=
  if byte < 0x80 then some 0
  else if 0xC0 ≤ byte && byte < 0xE0 then some 1
  else if 0xE0 ≤ byte && byte < 0xF0 then some 2
  else if 0xF0 ≤ byte && byte < 0xF8 then some 3
  else none

/-- The byte of an escape of a percent sign and two digits at the head of a text. -/
def percentByte : List Char → Option (Nat × List Char)
  | '%' :: a :: b :: rest => do
    let n ← hexNumber? [a, b]
    some (n, rest)
  | _ => none

/-- The further bytes of a character that is escaped byte by byte. -/
def percentTail : Nat → List Char → Nat → Option (Nat × List Char)
  | 0, cs, code => some (code, cs)
  | n + 1, cs, code => do
    let (byte, cs) ← percentByte cs
    if byte / 64 = 2 then percentTail n cs (64 * code + byte % 64) else none

/-- The character that escapes at the head of a text stand for. -/
def percentChar (cs : List Char) : Option (Char × List Char) := do
  let (byte, cs) ← percentByte cs
  let n ← continuationCount byte
  let lead := if n = 0 then byte else byte % (64 >>> n)
  let (code, cs) ← percentTail n cs lead
  some (Char.ofNat code, cs)

/-- Reads the characters of a tag and resolves its escapes. -/
def scanTagChars (wide : Bool) : (fuel : Nat) → Cursor → (text : List Char) →
    Option (List Char × Cursor)
  | 0, c, text => some (text.reverse, c)
  | fuel + 1, c, text =>
    match c.look 0 with
    | some '%' => do
      let (x, rest) ← percentChar c.rest
      scanTagChars wide fuel (c.skipN (c.rest.length - rest.length)) (x :: text)
    | some x => if isTagChar wide x then scanTagChars wide fuel c.skip (x :: text)
      else some (text.reverse, c)
    | none => some (text.reverse, c)

/-- Reads at least one character of a tag. -/
def scanTagText (wide : Bool) (c : Cursor) : Option (List Char × Cursor) := do
  let (text, c) ← scanTagChars wide c.rest.length c []
  if text.isEmpty then none else some (text, c)

/-- Reads what follows the name of a directive. -/
def scanDirectiveValue (name : List Char) (c : Cursor) : Option (Token × Cursor) := do
  if name = ['Y', 'A', 'M', 'L'] then
    let (major, c) ← scanVersion (c.skipWhile isBlank)
    if !c.sees 0 '.' then none
    let (minor, c) ← scanVersion c.skip
    some (.version major minor, c)
  else if name = ['T', 'A', 'G'] then
    let (handle, c) ← scanHandle true (c.skipWhile isBlank)
    if !c.blankAt 0 then none
    let (expansion, c) ← scanTagText true (c.skipWhile isBlank)
    if !c.gapAt 0 then none
    some (.tagDirective handle expansion, c)
  else none

/-- Reads a directive with its line. -/
def scanDirective (c : Cursor) : Option (Token × Cursor) := do
  let (name, c) := c.skip.takeWhile isWordChar
  if name.isEmpty || !c.gapAt 0 then none
  let (t, c) ← scanDirectiveValue name c
  let c := c.skipWhile isBlank
  let c := if c.sees 0 '#' then c.skipLine else c
  if c.lineEndsAt 0 then some (t, c.skipBreak) else none

/-! ### Properties of nodes -/

/-- Reads the name of an anchor or an alias from behind its indicator. -/
def scanAnchorName (c : Cursor) : Option (List Char × Cursor) :=
  let (name, c) := c.skip.takeWhile isWordChar
  let ends := c.gapAt 0 || (c.look 0).any fun x => x ∈ ['?', ':', ',', ']', '\x7d', '%', '@', '\x60']
  if name.isEmpty || !ends then none else some (name, c)

/-- Reads a tag: in angle brackets, with a handle, or with the handle `!` and a suffix. -/
def scanTag (inFlow : Bool) (c : Cursor) : Option (Token × Cursor) := do
  let (t, c) ←
    if c.sees 1 '<' then do
      let (text, c) ← scanTagText true (c.skipN 2)
      if c.sees 0 '>' then some (Token.tag [] text, c.skip) else none
    else do
      let (handle, c) ← scanHandle false c
      if 1 < handle.length && handle.getLast? == some '!' then do
        let (suffix, c) ← scanTagText false c
        some (Token.tag handle suffix, c)
      else do
        let (rest, c) ← scanTagChars false c.rest.length c []
        let suffix := handle.drop 1 ++ rest
        if suffix.isEmpty then some (Token.tag [] ['!'], c) else some (Token.tag ['!'] suffix, c)
  if c.gapAt 0 || (inFlow && c.sees 0 ',') then some (t, c) else none

/-! ### The next token -/

/-- Adds what has been scanned, or fails. -/
def take (s : Scanner) (found : Option (Token × Cursor)) : Except Scanner Scanner :=
  match found with
  | some (t, c) => .ok ({ s with cursor := c }.push t)
  | none => .error s

/-- Adds a scalar, or fails. -/
def takeScalar (s : Scanner) (style : Style) (found : Option Scanned) : Except Scanner Scanner :=
  match found with
  | some x =>
    .ok ({ s with cursor := x.cursor, keyAllowed := s.keyAllowed || x.onNewLine }.push
      (.scalar x.text style))
  | none => .error s

/-- Ends the stream. -/
def endStream : Step := fun s => do
  let s ← (s.closeBlocks none).dropKey
  .ok (s.push .streamEnd)

/-- A directive, or a marker of a document, which ends all block collections. -/
def atTop (s : Scanner) : Except Scanner Scanner := do
  let s ← (s.closeBlocks none).dropKey
  .ok (s.allowKey false)

def openFlow (t : Token) : Step := fun s => do
  let s ← s.saveKey
  .ok (({ s with keys := none :: s.keys }.allowKey true).indicator 1 t)

def closeFlow (t : Token) : Step := fun s => do
  let s ← s.dropKey
  let s := if s.inFlow then { s with keys := s.keys.tail } else s
  .ok ((s.allowKey false).indicator 1 t)

def flowEntry : Step := fun s => do
  let s ← s.dropKey
  .ok ((s.allowKey true).indicator 1 .flowEntry)

def blockEntry : Step := fun s => do
  if !s.inFlow && !s.keyAllowed then .error s
  let s := s.openBlock s.cursor.column s.count .blockSequenceStart
  let s ← s.dropKey
  .ok ((s.allowKey true).indicator 1 .blockEntry)

def explicitKey : Step := fun s => do
  if !s.inFlow && !s.keyAllowed then .error s
  let s := s.openBlock s.cursor.column s.count .blockMappingStart
  let s ← s.dropKey
  .ok ((s.allowKey !s.inFlow).indicator 1 .key)

def value : Step := fun s =>
  match s.key? with
  | some k =>
    let s := (s.insert k.before .key).openBlock k.column k.before .blockMappingStart
    .ok (((s.setKey none).allowKey false).indicator 1 .value)
  | none => do
    if !s.inFlow && !s.keyAllowed then .error s
    let s := s.openBlock s.cursor.column s.count .blockMappingStart
    .ok ((s.allowKey !s.inFlow).indicator 1 .value)

/-- A plain scalar may begin with any character that is no indicator, and with some indicators if
they are attached to what follows. -/
def beginsPlain (s : Scanner) : Bool :=
  match s.cursor.look 0 with
  | none => false
  | some x =>
    !(s.cursor.gapAt 0 || x ∈ ['-', '?', ':', ',', '[', ']', '\x7b', '\x7d', '#', '&', '*', '!', '|',
      '>', '\'', '"', '%', '@', '\x60'])
    || (x == '-' && !s.cursor.blankAt 1)
    || (!s.inFlow && (x == '?' || x == ':') && !s.cursor.gapAt 1)

/-- A node that may be a key begins here. -/
def node (s : Scanner) : Except Scanner Scanner := do
  let s ← s.saveKey
  .ok (s.allowKey false)

/-- Scans the token at the cursor. -/
def scanToken : Step := fun s =>
  let c := s.cursor
  let steps := c.rest.length + 1
  match c.look 0 with
  | none => s.endStream
  | some x => do
    if c.column == 0 && x == '%' then take (← s.atTop) (scanDirective c)
    else if c.atMarker '-' then .ok ((← s.atTop).indicator 3 .documentStart)
    else if c.atMarker '.' then .ok ((← s.atTop).indicator 3 .documentEnd)
    else if x == '[' then s.openFlow .flowSequenceStart
    else if x == '\x7b' then s.openFlow .flowMappingStart
    else if x == ']' then s.closeFlow .flowSequenceEnd
    else if x == '\x7d' then s.closeFlow .flowMappingEnd
    else if x == ',' then s.flowEntry
    else if x == '-' && c.gapAt 1 then s.blockEntry
    else if x == '?' && (s.inFlow || c.gapAt 1) then s.explicitKey
    else if x == ':' && (s.inFlow || c.gapAt 1) then s.value
    else if x == '*' then take (← s.node) ((scanAnchorName c).map fun (n, c) => (.alias n, c))
    else if x == '&' then take (← s.node) ((scanAnchorName c).map fun (n, c) => (.anchor n, c))
    else if x == '!' then take (← s.node) (scanTag s.inFlow c)
    else if (x == '|' || x == '>') && !s.inFlow then
      takeScalar ((← s.dropKey).allowKey true) .block (scanBlock (x == '>') s.columns.head? c.skip)
    else if x == '\'' || x == '"' then
      takeScalar (← s.node) .quoted (scanQuoted (x == '"') steps c.skip [])
    else if s.beginsPlain then
      let column := match s.columns.head? with
        | some n => n + 1
        | none => 0
      takeScalar (← s.node) .plain (scanPlain s.inFlow column steps c [] {})
    else .error s

/-- Passes to the next token and scans it. -/
def next : Step := fun s => do
  let s := s.passGaps (s.cursor.rest.length + 1)
  let s ← s.dropLongKeys
  (s.closeBlocks (if s.cursor.atEnd then none else some s.cursor.column)).scanToken

/-- The tokens that cannot become part of a key any more. -/
def settled (s : Scanner) : List Token :=
  let befores := s.keys.filterMap fun k => k.map (·.before)
  s.tokens.reverse.take (befores.foldl min s.count)

/-- Scans up to the end of the stream, or as far as it can be scanned. -/
def run : (fuel : Nat) → Scanner → List Token
  | 0, s => s.settled
  | fuel + 1, s =>
    match s.next with
    | .error s => s.settled
    | .ok s => if s.tokens.head? == some .streamEnd then s.tokens.reverse else run fuel s

end Scanner

/-- The tokens of a stream, from behind its byte order mark.  The last one is `streamEnd` if the
stream can be scanned as a whole. -/
def tokens (text : List Char) : List Token :=
  let text := if text.head? == some '\ufeff' then text.tail else text
  if text.all isAllowed then Scanner.run (text.length + 1) { cursor := { rest := text } } else []

end ClassSchema.Yaml
