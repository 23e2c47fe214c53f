import ClassSchema.OrderedMap
import ClassSchema.Yaml.Document
import ClassSchema.Yaml.Plain

/-
# Mappings from texts to names

A document is read as a mapping whose keys are texts and whose values are names from a list.  How a
scalar is quoted does not matter, and neither does what it looks like.  The nodes are taken in the
order of the document, so the first bad entry is reported, before any fault in the text behind it.
-/

namespace ClassSchema.Yaml

/-- Why a document is no such mapping. -/
inductive MappingFault where
  /-- The text is no document. -/
  | malformed
  /-- The value under a key, or the document itself if `key` is absent, is bad. -/
  | bad (key : Option String) (fault : Fault)
deriving DecidableEq, Repr

/-- The wording of a fault; a text that is no document has none.  A key in front of the wording
tells the place, unless it is a mere point. -/
def MappingFault.message : MappingFault → Option String
  | .malformed => none
  | .bad key fault =>
    let place := match key with
      | none | some "." => ""
      | some key => key ++ ": "
    fault.message.map (place ++ ·)

/-- The nodes that anchors name, the last one first. -/
abbrev Anchors := List (List Char × Node)

def Anchors.note (as : Anchors) (n : Node) : Anchors :=
  match n.anchor with
  | some a => (a, n) :: as
  | none => as

/-- The node that stands for `n`: the anchored one, if `n` is an alias. -/
def Anchors.resolve (as : Anchors) (n : Node) : Option Node :=
  match n.content with
  | .alias name => as.lookup name
  | _ => some n

/-- A tag of the core schema. -/
def coreTag (name : String) : List Char := ("tag:yaml.org,2002:" ++ name).toList

/-- The name that a tag of one's own is. -/
def ownTag? (tag : Option (List Char)) : Option String :=
  match tag with
  | some ['!'] => some "!"
  | some ('!' :: name) => some (String.ofList name)
  | _ => none

/-- What a node is, for a message, or what is wrong with it by itself. -/
def Node.found (n : Node) : Except Fault Found :=
  match n.content with
  | .sequence => .ok .sequence
  | .mapping _ => .ok .map
  | .alias _ => .error .malformed
  | .scalar text style =>
    let s := String.ofList text
    let orWrong (ok : Option Found) (wanted : String) : Except Fault Found :=
      match ok with
      | some f => .ok f
      | none => .error (.wrongValue (.string s) wanted)
    match n.tag with
    | none => .ok (if style = .plain then plainFound s else .string s)
    | some tag =>
      if tag = coreTag "bool" then orWrong ((truth? s).map .bool) "a boolean"
      else if tag = coreTag "int" then orWrong ((integer? text).bind integerFound?) "an integer"
      else if tag = coreTag "float" then orWrong ((float? text).map .float) "a float"
      else if tag = coreTag "null" then
        orWrong (if isNull s then some (.other "unit value") else none) "null"
      else if tag.head? == some '!' ∧ style = .plain then .ok (plainFound s)
      else .ok (.string s)

/-- Reports that a node is not what was wanted. -/
def Node.mismatch {α : Type} (n : Node) (wanted : String) : Except Fault α := do
  .error (.wrongType (← n.found) wanted)

/-- A key must be a scalar. -/
def Node.keyText (n : Node) : Except Fault String :=
  match n.content with
  | .scalar text _ => .ok (String.ofList text)
  | _ => n.mismatch "a string"

section

variable {α : Type}

/-- The variant called `name`. -/
def named (variants : List (String × α)) (name : String) : Except Fault α :=
  match variants.lookup name with
  | some x => .ok x
  | none => .error (.unknownVariant name (variants.map (·.1)))

/-- Under a tag that names a variant there must be nothing. -/
def Node.checkEmpty (n : Node) : Except Fault Unit :=
  match n.content with
  | .scalar text style =>
    let s := String.ofList text
    if style = .plain ∧ (text = [] ∨ isNull s) then .ok () else .error (.wrongValue (.string s) "null")
  | _ => n.mismatch "unit"

/-- The name that a scalar is; the line break at the end of a block is no part of it. -/
def nameOf (text : List Char) (style : Style) : String :=
  String.ofList (if style = .block ∧ text.getLast? = some '\n' then text.dropLast else text)

/-- The variant that a value names, by its text or by its tag. -/
def Node.variant (variants : List (String × α)) (key : String) (n : Node) :
    Except MappingFault α :=
  match ownTag? n.tag, n.content with
  | some name, _ => do
    let x ← (named variants name).mapError (.bad none)
    n.checkEmpty.mapError (.bad (some key))
    .ok x
  | none, .scalar text style => (named variants (nameOf text style)).mapError (.bad (some key))
  | none, .sequence => .error (.bad (some key) (.wrongType .sequence "a YAML tag starting with '!'"))
  | none, .mapping _ => .error (.bad (some key) (.wrongType .map "a YAML tag starting with '!'"))
  | none, .alias _ => .error .malformed

/-- Reads keys and values in turn; the later of two entries with one key counts.  A value that is
missing at the end is a fault in the text. -/
def readEntries (variants : List (String × α)) :
    List Node → Anchors → OrderedMap String α → Except MappingFault (OrderedMap String α)
  | key :: value :: rest, as, m =>
    match as.resolve key with
    | none => .error .malformed
    | some k => do
      let text ← k.keyText.mapError (.bad none)
      let as := as.note key
      match as.resolve value with
      | none => .error .malformed
      | some v =>
        -- the key of an alias is not shown
        let shown := match key.content with
          | .alias _ => "?"
          | _ => text
        let x ← v.variant variants shown
        readEntries variants rest (as.note value) (m.insert text x)
  | [key], as, m =>
    match as.resolve key with
    | none => .error .malformed
    | some k => do
      let _ ← k.keyText.mapError (.bad none)
      .ok m
  | [], _, m => .ok m

/-- Whether a root counts as no value at all. -/
def Node.isAbsent (n : Node) : Except Fault Bool :=
  match n.tag, n.content with
  | none, .scalar text .plain => .ok (text = [] || isNull (String.ofList text))
  | some tag, .scalar text .plain =>
    let s := String.ofList text
    if tag = coreTag "null" then
      if isNull s then .ok true else .error (.wrongValue (.string s) "null")
    else .ok false
  | _, _ => .ok false

/-- The root of a document as a mapping. -/
def readRoot (variants : List (String × α)) (root : Node) (entries : List Node) :
    Except MappingFault (OrderedMap String α) := do
  let absent ← root.isAbsent.mapError (.bad none)
  if absent then .ok .empty
  else
    match root.content with
    | .mapping _ => readEntries variants entries (Anchors.note [] root) .empty
    | .scalar [] _ => .ok .empty
    | .alias _ => .error .malformed
    | _ => (root.mismatch "a map").mapError (.bad none)

/-- A document as a mapping; without a document there are no entries. -/
def Document.toMapping (variants : List (String × α)) (d : Document) :
    Except MappingFault (OrderedMap String α) := do
  let m ← match d.root with
    | none => .ok .empty
    | some root => readRoot variants root d.entries
  if d.sound then .ok m else .error .malformed

end

end ClassSchema.Yaml
