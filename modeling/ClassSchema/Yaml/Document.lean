import ClassSchema.Yaml.Token

/-
# Documents

A document is read as far as a mapping of scalars goes: its root and, if the root is a mapping, the
keys and values in turn.  What is inside a collection that is a key or a value is not read, for
whoever wants scalars has no use for it.  Reading never fails: a document that breaks off has the
nodes before the fault and is not `sound`.
-/

namespace ClassSchema.Yaml

/-- What a node holds. -/
inductive Content where
  | scalar (text : List Char) (style : Style)
  | alias (name : List Char)
  | sequence
  | mapping (inBraces : Bool)
deriving DecidableEq, Repr, Inhabited

structure Node where
  anchor : Option (List Char)
  tag : Option (List Char)
  content : Content
deriving DecidableEq, Repr, Inhabited

structure Document where
  /-- Nothing, if the stream holds no document. -/
  root : Option Node
  /-- The keys and values of a mapping, in turn. -/
  entries : List Node
  /-- Whether the stream is read to its end and holds no other document. -/
  sound : Bool
deriving Repr, Inhabited

/-- The node of a place where nothing is written. -/
def Node.blank : Node := ⟨none, none, .scalar [] .plain⟩

/-- What tag handles stand for. -/
abbrev Handles := List (List Char × List Char)

def Handles.standard : Handles :=
  [(['!'], ['!']), (['!', '!'], "tag:yaml.org,2002:".toList)]

/-- The tag that a handle and a suffix make up; `none` for a handle that is not known. -/
def Handles.resolve (hs : Handles) (handle suffix : List Char) : Option (List Char) :=
  if handle.isEmpty then some suffix else (hs.lookup handle).map (· ++ suffix)

/-- The anchor and the tag in front of a node, in either order. -/
def properties (hs : Handles) (ts : List Token) :
    Option (Option (List Char) × Option (List Char) × List Token) :=
  match ts with
  | .anchor a :: .tag h x :: rest | .tag h x :: .anchor a :: rest =>
    (hs.resolve h x).map fun t => (some a, some t, rest)
  | .anchor a :: rest => some (some a, none, rest)
  | .tag h x :: rest => (hs.resolve h x).map fun t => (none, some t, rest)
  | rest => some (none, none, rest)

/-- Where a node may stand. -/
inductive Place where
  | inFlow
  | inBlock
  /-- Where a sequence may stand at the column of the mapping around it. -/
  | inBlockMapping
deriving DecidableEq, Repr

/-- Reads a node.  Of a collection only its beginning is read. -/
def node (hs : Handles) (place : Place) (ts : List Token) : Option (Node × List Token) :=
  match ts with
  | .alias name :: rest => some (⟨none, none, .alias name⟩, rest)
  | ts =>
    match properties hs ts with
    | none => none
    | some (anchor, tag, ts) =>
      let found (content : Content) (rest : List Token) := some (⟨anchor, tag, content⟩, rest)
      match ts with
      | [] => none
      | .scalar text style :: rest => found (.scalar text style) rest
      | .flowSequenceStart :: rest => found .sequence rest
      | .flowMappingStart :: rest => found (.mapping true) rest
      | t :: rest =>
        if t = .blockEntry ∧ place = .inBlockMapping then found .sequence (t :: rest)
        else if t = .blockSequenceStart ∧ place ≠ .inFlow then found .sequence rest
        else if t = .blockMappingStart ∧ place ≠ .inFlow then found (.mapping false) rest
        else if anchor.isSome ∨ tag.isSome then found (.scalar [] .plain) (t :: rest)
        else none

/-- Reads a node, or a blank if one of the tokens `ends` stands here. -/
def nodeOrBlank (hs : Handles) (place : Place) (ends : List Token) (ts : List Token) :
    Option (Node × List Token) :=
  match ts with
  | [] => none
  | t :: rest => if t ∈ ends then some (.blank, t :: rest) else node hs place (t :: rest)

/-- What a mapping waits for. -/
inductive Turn where
  | firstKey
  | key
  | value
  /-- A value that is not written. -/
  | noValue
deriving DecidableEq, Repr

/-- Whether a node is a collection. -/
def Node.isCollection (n : Node) : Bool :=
  match n.content with
  | .sequence | .mapping _ => true
  | .scalar _ _ | .alias _ => false

/-- One step through a mapping laid out in columns: the next node and the next turn, or the end. -/
def blockStep (hs : Handles) (turn : Turn) (ts : List Token) :
    Option (Option (Node × Turn) × List Token) :=
  let ends := [Token.key, .value, .blockEnd]
  match turn, ts with
  | _, [] => none
  | .firstKey, .key :: rest | .key, .key :: rest =>
    (nodeOrBlank hs .inBlockMapping ends rest).map fun (n, ts) => (some (n, .value), ts)
  | .firstKey, .blockEnd :: rest | .key, .blockEnd :: rest => some (none, rest)
  | .firstKey, _ | .key, _ => none
  | .value, .value :: rest =>
    (nodeOrBlank hs .inBlockMapping ends rest).map fun (n, ts) => (some (n, .key), ts)
  | .value, ts | .noValue, ts => some (some (.blank, .key), ts)

/-- One step through a mapping in braces: the next node and the next turn, or the end. -/
def flowStep (hs : Handles) (turn : Turn) (ts : List Token) :
    Option (Option (Node × Turn) × List Token) :=
  let keyAt (ts : List Token) : Option (Option (Node × Turn) × List Token) :=
    match ts with
    | [] => none
    | .flowMappingEnd :: rest => some (none, rest)
    | .key :: rest =>
      (nodeOrBlank hs .inFlow [.value, .flowEntry, .flowMappingEnd] rest).map fun (n, ts) =>
        (some (n, .value), ts)
    | ts => (node hs .inFlow ts).map fun (n, ts) => (some (n, .noValue), ts)
  match turn, ts with
  | _, [] => none
  | .firstKey, ts => keyAt ts
  | .key, .flowMappingEnd :: rest => some (none, rest)
  | .key, .flowEntry :: rest => keyAt rest
  | .key, _ => none
  | .value, .value :: rest =>
    (nodeOrBlank hs .inFlow [.flowEntry, .flowMappingEnd] rest).map fun (n, ts) =>
      (some (n, .key), ts)
  | .value, ts | .noValue, ts => some (some (.blank, .key), ts)

/-- The keys and values of a mapping in turn, and the tokens behind it if it ends. -/
def entries (step : Turn → List Token → Option (Option (Node × Turn) × List Token)) :
    (fuel : Nat) → Turn → List Token → List Node × Option (List Token)
  | 0, _, _ => ([], none)
  | fuel + 1, turn, ts =>
    match step turn ts with
    | none => ([], none)
    | some (none, rest) => ([], some rest)
    | some (some (n, turn), rest) =>
      if n.isCollection then ([n], none)
      else
        let (nodes, rest) := entries step fuel turn rest
        (n :: nodes, rest)

/-- Whether nothing but the end of the stream follows a document. -/
def endsStream : List Token → Bool
  | .documentEnd :: rest => endsStream rest
  | .streamEnd :: _ => true
  | _ => false

/-- Reads the directives of a document: at most one version, which must be 1.1 or 1.2, and each
handle at most once. -/
def directives (seenVersion : Bool) (declared : Handles) :
    List Token → Option (Handles × List Token)
  | .version major minor :: rest =>
    if seenVersion || major ≠ 1 || (minor ≠ 1 && minor ≠ 2) then none
    else directives true declared rest
  | .tagDirective handle expansion :: rest =>
    if (declared.lookup handle).isSome then none
    else directives seenVersion ((handle, expansion) :: declared) rest
  | rest => some (declared ++ .standard, rest)

/-- Reads the root of a document and what follows it. -/
def rootAndRest (hs : Handles) (ts : List Token) : Document :=
  match node hs .inBlock ts with
  | none => ⟨none, [], false⟩
  | some (root, rest) =>
    match root.content with
    | .mapping inBraces =>
      let step := if inBraces then flowStep hs else blockStep hs
      let (nodes, rest) := entries step (2 * rest.length + 2) .firstKey rest
      ⟨some root, nodes, rest.any endsStream⟩
    | _ => ⟨some root, [], endsStream rest⟩

/-- The first document of a stream. -/
def Document.ofTokens (ts : List Token) : Document :=
  match directives false [] ts with
  | none => ⟨none, [], false⟩
  | some (hs, rest) =>
    match rest with
    | .documentStart :: rest =>
      match rest with
      | [] => ⟨none, [], false⟩
      | .version _ _ :: _ | .tagDirective _ _ :: _ | .documentStart :: _ | .documentEnd :: _
      | .streamEnd :: _ => ⟨some .blank, [], endsStream rest⟩
      | rest => rootAndRest hs rest
    | .streamEnd :: _ => ⟨none, [], rest.length = ts.length⟩
    | rest => if rest.length = ts.length then rootAndRest hs rest else ⟨none, [], false⟩

/-- The first document of a text. -/
def Document.ofText (text : String) : Document := .ofTokens (tokens text.toList)

end ClassSchema.Yaml
