import ClassSchema.Json.Value
import ClassSchema.OrderedMap

/-
# Decoders

A decoder reads a tree as a value of a type.  It goes through the tree in the order of the text
and reports the first problem that it meets.  `list`, `optional`, `variant`, `mapOf` and
`record` build decoders for containers from decoders for what they hold; `Fields` describes the
members of a record, in their order of declaration.
-/

namespace ClassSchema.Json

/-- How a tree is read: for how many levels there is room, and whether the whole text of the value
has been read before, so that it is known to be intact. -/
structure Source where
  room : Nat
  buffered : Bool
deriving DecidableEq, Repr

/-- The source one level further in. -/
def Source.inner (src : Source) : Source := { src with room := src.room - 1 }

/-- Reads a tree as a value of `α`, or says what is wrong first. -/
abbrev Decoder (α : Type) := Source → Tree → Except Fault α

/-- What a tree is, for a message. -/
def Tree.found : Tree → Except Fault Found
  | .null => .ok .null
  | .bool b => .ok (.bool b)
  | .number n => n.value.map fun
    | .integer i => .integer i
    | .float negative x => .float (writtenFloat negative x)
    | _ => .null
  | .string s => s.value.map .string
  | .array _ _ => .ok .sequence
  | .object _ _ => .ok .map
  | .missing => .error .malformed

/-- What a lexeme begins, for a message. -/
def Lexeme.found (l : Lexeme) : Except Fault Found :=
  match l with
  | .null => Tree.found .null
  | .bool b => Tree.found (.bool b)
  | .number n => Tree.found (.number n)
  | .openBracket => .ok .sequence
  | .openBrace => .ok .map
  | _ => .error .malformed

/-- Reports that a tree is not what was wanted. -/
def Tree.mismatch {α : Type} (t : Tree) (wanted : String) : Except Fault α := do
  let found ← t.found
  .error (.wrongType found wanted)

/-- Passes over a value that nobody looks at. -/
def Tree.skip (t : Tree) : Except Fault Unit :=
  if t.intact then .ok () else .error .malformed

namespace Decoder

variable {α β : Type}

/-- A text. -/
def textAs (wanted : String) : Decoder String := fun _ t =>
  match t with
  | .string s => s.value
  | t => t.mismatch wanted

def text : Decoder String := textAs "a string"

/-- A natural number of 32 bits. -/
def group : Decoder UInt32 := fun _ t =>
  match t with
  | .number n => do
    match ← n.value with
    | .integer i =>
      if 0 ≤ i ∧ i < UInt32.size then .ok (UInt32.ofNat i.toNat)
      else .error (.wrongValue (.integer i) "u32")
    | _ => t.mismatch "u32"
  | t => t.mismatch "u32"

/-- A value, or `null` for none. -/
def optional (d : Decoder α) : Decoder (Option α) := fun src t =>
  match t with
  | .null => .ok none
  | t => (d src t).map some

/-- Any value. -/
def anything : Decoder Value := fun src t => t.value src.room

/-- The items of an array, each read by `d`. -/
def items (d : Decoder α) (src : Source) : List Tree → Except Fault (List α)
  | [] => .ok []
  | t :: rest => do
    let x ← d src t
    let xs ← items d src rest
    .ok (x :: xs)

/-- A list. -/
def list (d : Decoder α) : Decoder (List α) := fun src t =>
  match t with
  | .array ts ending => do
    let xs ← items d src.inner ts
    ending.check
    .ok xs
  | t => t.mismatch "a sequence"

/-- The variant called `name`. -/
def named (variants : List (String × α)) (name : String) : Except Fault α :=
  match variants.lookup name with
  | some x => .ok x
  | none => .error (.unknownVariant name (variants.map (·.1)))

/-- Nothing: `null`, or an empty map once the text has been read. -/
def nothing : Decoder Unit := fun src t =>
  match src.buffered, t with
  | _, .null => .ok ()
  | true, .object [] _ => .ok ()
  | _, t => t.mismatch "unit"

/-- One of a number of names: a text, or an object with that name for its only key and nothing
under it. -/
def variant (variants : List (String × α)) : Decoder α := fun src t =>
  match src.buffered, t with
  | _, .string s => do named variants (← s.value)
  | false, .object [] (.broken stray) => do
    let found ← stray.found
    .error (.wrongType found "variant identifier")
  | _, .object [(key, under)] ending => do
    let x ← named variants (← key.value)
    nothing src.inner under
    ending.check
    .ok x
  | false, .object ((key, under) :: _) _ => do
    let _ ← named variants (← key.value)
    nothing src.inner under
    .error .malformed
  | true, .object _ _ => .error .notOneEntry
  | true, t => t.mismatch "string or map"
  | false, _ => .error .malformed

/-- The number that a key is, read from its text as it is written.  Nothing may follow the number
but the closing quote. -/
def groupKey (key : Key) : Except Fault UInt32 :=
  if key.written.head?.any fun c => c = '-' ∨ (digit? c).isSome then
    match lexemes key.written with
    | .number n :: rest => do
      let x ← group ⟨0, false⟩ (.number n)
      if rest.isEmpty ∧ key.complete ∧ ' ' ∉ key.written then .ok x else .error .malformed
    | _ => .error .malformed
  else .error .keyNotNumeric

/-- The entries of a map, keys read by `readKey` and values by `d`; of two entries with one key
the later one counts. -/
def entries {κ : Type} [Ord κ] [Std.TransOrd κ] (readKey : Key → Except Fault κ) (d : Decoder α)
    (src : Source) : List (Key × Tree) → OrderedMap κ α → Except Fault (OrderedMap κ α)
  | [], m => .ok m
  | (key, under) :: rest, m => do
    let k ← readKey key
    let x ← d src under
    entries readKey d src rest (m.insert k x)

/-- A map from the keys that `readKey` reads to what `d` reads. -/
def mapOf {κ : Type} [Ord κ] [Std.TransOrd κ] (readKey : Key → Except Fault κ) (d : Decoder α) :
    Decoder (OrderedMap κ α) := fun src t =>
  match t with
  | .object members ending => do
    let m ← entries readKey d src.inner members .empty
    ending.check
    .ok m
  | t => t.mismatch "a map"

end Decoder

/-- The members of a record, in their order of declaration: how each is called and read, and what
stands for it when it is absent, if it may be. -/
inductive Fields : List Type → Type 1 where
  | nil : Fields []
  | cons {τ : Type} {τs : List Type} (name : String) (read : Decoder τ) (absent : Option τ)
      (rest : Fields τs) : Fields (τ :: τs)

/-- The members of a record that have been read. -/
def Slots : List Type → Type
  | [] => Unit
  | τ :: τs => Option τ × Slots τs

/-- The members of a record. -/
def Row : List Type → Type
  | [] => Unit
  | τ :: τs => τ × Row τs

namespace Fields

/-- Nothing has been read. -/
def noSlots : {τs : List Type} → Fields τs → Slots τs
  | _, nil => ()
  | _, cons _ _ _ rest => (none, rest.noSlots)

/-- Reads the member called `name`; a name of no field is passed over. -/
def member (src : Source) (name : String) (t : Tree) :
    {τs : List Type} → Fields τs → Slots τs → Except Fault (Slots τs)
  | _, nil, () => do
    t.skip
    .ok ()
  | _, cons field read _ rest, (slot, slots) =>
    if name = field then
      if slot.isSome then .error (.duplicateField name)
      else do
        let x ← read src t
        .ok (some x, slots)
    else do
      let slots ← rest.member src name t slots
      .ok (slot, slots)

/-- Reads the members of an object one after the other. -/
def members (src : Source) {τs : List Type} (fs : Fields τs) :
    List (Key × Tree) → Slots τs → Except Fault (Slots τs)
  | [], slots => .ok slots
  | (key, t) :: rest, slots => do
    let name ← key.value
    let slots ← fs.member src name t slots
    fs.members src rest slots

/-- The record, once the object has ended. -/
def complete : {τs : List Type} → Fields τs → Slots τs → Except Fault (Row τs)
  | _, nil, () => .ok ()
  | _, cons field _ absent rest, (slot, slots) => do
    let x ← match slot, absent with
      | some x, _ => .ok x
      | none, some x => .ok x
      | none, none => .error (.missingField field)
    let row ← rest.complete slots
    .ok (x, row)

/-- Reads the fields from the items of an array, of which `seen` have been read, and returns the
items that are left. -/
def positional (src : Source) (wanted : String) (ending : Ending) (seen : Nat) :
    {τs : List Type} → Fields τs → List Tree → Except Fault (Row τs × List Tree)
  | _, nil, ts => .ok ((), ts)
  | _, cons _ read _ rest, t :: ts => do
    let x ← read src t
    let (row, ts) ← rest.positional src wanted ending (seen + 1) ts
    .ok ((x, row), ts)
  | _, cons _ _ absent rest, [] => do
    ending.check
    match absent with
    | none => .error (.wrongLength seen wanted)
    | some x => do
      let (row, ts) ← rest.positional src wanted ending (seen + 1) []
      .ok ((x, row), ts)

/-- How many fields there are. -/
def count : {τs : List Type} → Fields τs → Nat
  | _, nil => 0
  | _, cons _ _ _ rest => rest.count + 1

end Fields

/-- A number of things. -/
def counted (n : Nat) (thing : String) : String :=
  toString n ++ " " ++ thing ++ if n = 1 then "" else "s"

namespace Decoder

/-- A record: an object with the fields as members in any order, or an array of the fields in
order.  `what` names the record in messages. -/
def record {α : Type} {τs : List Type} (what : String) (fs : Fields τs) (make : Row τs → α) :
    Decoder α := fun src t =>
  match t with
  | .object members ending => do
    let slots ← fs.members src.inner members fs.noSlots
    ending.check
    let row ← fs.complete slots
    .ok (make row)
  | .array ts ending => do
    let wanted := what ++ " with " ++ counted fs.count "element"
    let (row, extra) ← fs.positional src.inner wanted ending 0 ts
    match extra with
    | [] => do
      ending.check
      .ok (make row)
    | _ =>
      if src.buffered then .error (.wrongLength ts.length (counted fs.count "element" ++ " in sequence"))
      else .error .malformed
  | t => t.mismatch what

/-- The form of a tagged union whose tag has the value `tag`: it reads the other members. -/
abbrev Forms (α : Type) := List (String × Decoder α)

/-- Reads the tag of a union. -/
def tagOf {α : Type} (forms : Forms α) (t : Tree) : Except Fault (Decoder α) :=
  match t with
  | .string s => do named forms (← s.value)
  | t => t.mismatch "variant identifier"

/-- Reads the members of a tagged union: the form that the tag names, and the other members. -/
def tagged {α : Type} (src : Source) (tag : String) (forms : Forms α) :
    List (Key × Tree) → Option (Decoder α) → Except Fault (Option (Decoder α) × List (Key × Tree))
  | [], form => .ok (form, [])
  | (key, t) :: rest, form => do
    let name ← key.value
    if name = tag then
      if form.isSome then .error (.duplicateField tag)
      else do
        let d ← tagOf forms t
        tagged src tag forms rest (some d)
    else do
      let _ ← t.value src.room
      let (form, others) ← tagged src tag forms rest form
      .ok (form, (key, t) :: others)

/-- A union of forms told apart by the member `tag`: an object with the tag among its members, or
an array with the tag first.  The whole value is read before its form is looked at. -/
def union {α : Type} (what tag : String) (forms : Forms α) : Decoder α := fun src t =>
  match t with
  | .object members ending => do
    let (form, others) ← tagged src.inner tag forms members none
    ending.check
    match form with
    | none => .error (.missingField tag)
    | some d => d { src with buffered := true } (.object others .closed)
  | .array [] ending => do
    ending.check
    .error (.missingField tag)
  | .array (t :: ts) ending => do
    let d ← tagOf forms t
    let _ ← Tree.values src.inner.room ts
    ending.check
    d { src with buffered := true } (.array ts .closed)
  | t => t.mismatch what

/-- The empty record: whatever members there are do not count, but an array must be empty. -/
def unit {α : Type} (x : α) : Decoder α := fun _ t =>
  match t with
  | .array (t :: ts) _ => .error (.wrongLength (t :: ts).length "0 elements in sequence")
  | _ => .ok x

/-- Reads a whole text. -/
def document {α : Type} (d : Decoder α) (text : String) : Except Fault α := do
  let doc := Document.ofText text
  let x ← d ⟨128, false⟩ doc.root
  if doc.alone then .ok x else .error .malformed

end Decoder

end ClassSchema.Json
