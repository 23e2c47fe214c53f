import ClassSchema.Fault
import ClassSchema.Json.Tree

/-
# Values of JSON text

A value is what an intact tree denotes.  A tree denotes none when it is broken, when it holds a
string that spells no text or a number beyond the largest double, or when its containers are
nested deeper than there is room for.  `Tree.intact` is the weaker test for a value that nobody
looks at: only the grammar counts there.
-/

namespace ClassSchema.Json

inductive Value where
  | null
  | bool (b : Bool)
  | integer (i : Int)
  | float (negative : Bool) (magnitude : Binary64)
  | string (s : String)
  | array (items : List Value)
  /-- The members in the order of the text; names may repeat. -/
  | object (members : List (String × Value))
deriving Repr, Inhabited

/-- A number that is no integer, as it is written. -/
def writtenFloat (negative : Bool) (x : Binary64) : String :=
  (if negative then "-" else "") ++ x.shortest.balanced

namespace Value

/-- The member called `name`, the last one if there are several. -/
def member? (v : Value) (name : String) : Option Value :=
  match v with
  | .object members => (members.reverse.find? fun m => m.1 == name).map (·.2)
  | _ => none

def string? : Value → Option String
  | .string s => some s
  | _ => none

end Value

/-- The number that a literal denotes.  Literals without fraction and exponent are integers as
far as 64 bits hold them; all others are doubles. -/
def Numeral.value (n : Numeral) : Except Fault Value :=
  if n.whole ∧ ¬ n.negative ∧ n.digits < UInt64.size then .ok (.integer n.digits)
  else if n.whole ∧ n.negative ∧ n.digits ≠ 0 ∧ 2 * n.digits ≤ UInt64.size then
    .ok (.integer (-n.digits))
  else match Binary64.approximate n.magnitude with
    | some x => .ok (.float n.negative x)
    | none => .error .malformed

/-- The text that a literal spells. -/
def Literal.value (s : Literal) : Except Fault String :=
  match s.text with
  | some t => .ok t
  | none => .error .malformed

/-- The text of a key. -/
def Key.value (k : Key) : Except Fault String :=
  match k.text with
  | some t => .ok t
  | none => .error .malformed

/-- A container must end at its bracket. -/
def Ending.check : Ending → Except Fault Unit
  | .closed => .ok ()
  | .broken _ => .error .malformed

mutual

/-- The value of a tree, with room for `room` levels less one. -/
def Tree.value (room : Nat) : Tree → Except Fault Value
  | .null => .ok .null
  | .bool b => .ok (.bool b)
  | .number n => n.value
  | .string s => s.value.map .string
  | .array items ending =>
    if room ≤ 1 then .error .malformed else do
      let vs ← Tree.values (room - 1) items
      ending.check
      .ok (.array vs)
  | .object members ending =>
    if room ≤ 1 then .error .malformed else do
      let ms ← Tree.memberValues (room - 1) members
      ending.check
      .ok (.object ms)
  | .missing => .error .malformed

def Tree.values (room : Nat) : List Tree → Except Fault (List Value)
  | [] => .ok []
  | t :: rest => do
    let v ← Tree.value room t
    let vs ← Tree.values room rest
    .ok (v :: vs)

def Tree.memberValues (room : Nat) : List (Key × Tree) → Except Fault (List (String × Value))
  | [] => .ok []
  | (k, t) :: rest => do
    let name ← k.value
    let v ← Tree.value room t
    let ms ← Tree.memberValues room rest
    .ok ((name, v) :: ms)

end

mutual

/-- Whether the text of a tree keeps to the grammar throughout. -/
def Tree.intact : Tree → Bool
  | .null | .bool _ | .number _ | .string _ => true
  | .array items ending => Tree.allIntact items && ending == .closed
  | .object members ending => Tree.membersIntact members && ending == .closed
  | .missing => false

def Tree.allIntact : List Tree → Bool
  | [] => true
  | t :: rest => t.intact && Tree.allIntact rest

def Tree.membersIntact : List (Key × Tree) → Bool
  | [] => true
  | (k, t) :: rest => k.complete && t.intact && Tree.membersIntact rest

end

end ClassSchema.Json
