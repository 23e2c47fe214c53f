import ClassSchema.Decimal
import ClassSchema.Fault

/-
# What plain scalars stand for

A scalar without quotes may be a null, a truth value or a number.  In a dictionary every scalar
is a text, so this matters only where a message has to say what stands in the place of one.
-/

namespace ClassSchema.Yaml

def isNull (s : String) : Bool := s ∈ ["null", "Null", "NULL", "~"]

def truth? (s : String) : Option Bool :=
  if s ∈ ["true", "True", "TRUE"] then some true
  else if s ∈ ["false", "False", "FALSE"] then some false
  else none

/-- The value of a digit in a base of at most 16. -/
def digitIn? (base : Nat) (c : Char) : Option Nat :=
  let n :=
    if c.isDigit then some (c.toNat - 48)
    else if 'a' ≤ c ∧ c ≤ 'f' then some (c.toNat - 87)
    else if 'A' ≤ c ∧ c ≤ 'F' then some (c.toNat - 55)
    else none
  n.filter (· < base)

/-- The number that nonempty digits write in a base. -/
def natural? (base : Nat) (cs : List Char) : Option Nat :=
  if cs.isEmpty then none
  else cs.foldlM (fun n c => (digitIn? base c).map (base * n + ·)) 0

/-- The number that digits write, in the base that a letter after a leading zero states. -/
def basedNatural? : List Char → Option Nat
  | '0' :: 'x' :: cs => natural? 16 cs
  | '0' :: 'o' :: cs => natural? 8 cs
  | '0' :: 'b' :: cs => natural? 2 cs
  | cs => natural? 10 cs

/-- Whether digits after a leading zero make a scalar a text. -/
def hasLeadingZero (cs : List Char) : Bool :=
  let cs := match cs with
    | '-' :: rest | '+' :: rest => rest
    | cs => cs
  1 < cs.length && cs.head? == some '0' && cs.all Char.isDigit

/-- The integer that a scalar writes. -/
def integer? (cs : List Char) : Option Int :=
  if hasLeadingZero cs then none
  else match cs with
    | '-' :: rest => (basedNatural? rest).map fun n => -(n : Int)
    | '+' :: rest => (basedNatural? rest).map Int.ofNat
    | cs => (basedNatural? cs).map Int.ofNat

/-- How messages name an integer; those beyond 64 bits are marked, those beyond 128 are none. -/
def integerFound? (i : Int) : Option Found :=
  let size : Int := UInt64.size
  if -size ≤ 2 * i ∧ i < size then some (.integer i)
  else if 0 ≤ i ∧ i < size * size then some (.other s!"integer `{i}` as u128")
  else if -(size * size) ≤ 2 * i ∧ i < 0 then some (.other s!"integer `{i}` as i128")
  else none

/-- The decimal that digits with a point and a power of ten write. -/
def decimal? (cs : List Char) : Option Decimal := do
  let whole := cs.takeWhile Char.isDigit
  let cs := cs.drop whole.length
  let (places, cs) := match cs with
    | '.' :: rest => (rest.takeWhile Char.isDigit, rest.dropWhile Char.isDigit)
    | cs => ([], cs)
  let digits ← natural? 10 (whole ++ places)
  match cs with
  | [] => some ⟨digits, -places.length⟩
  | e :: rest =>
    if e != 'e' && e != 'E' then none
    else
      let power ← match rest with
        | '-' :: rest => (natural? 10 rest).map fun n => -(n : Int)
        | '+' :: rest => (natural? 10 rest).map Int.ofNat
        | rest => (natural? 10 rest).map Int.ofNat
      some ⟨digits, power - places.length⟩

/-- The number that is no integer, as messages write it. -/
def float? (cs : List Char) : Option String :=
  let (negative, unsigned) := match cs with
    | '-' :: rest => (true, rest)
    | '+' :: rest => (false, rest)
    | rest => (false, rest)
  let sign := if negative then "-" else ""
  let s := String.ofList unsigned
  if s ∈ [".inf", ".Inf", ".INF"] then some (sign ++ "inf")
  else if String.ofList cs ∈ [".nan", ".NaN", ".NAN"] then some "NaN"
  else do
    let x ← Binary64.nearest (← decimal? unsigned)
    some (sign ++ x.shortest.positional)

/-- What a plain scalar stands for. -/
def plainFound (s : String) : Found :=
  if s == "" || isNull s then .other "unit value"
  else match truth? s with
    | some b => .bool b
    | none =>
      match (integer? s.toList).bind integerFound? with
      | some f => f
      | none =>
        match if hasLeadingZero s.toList then none else float? s.toList with
        | some x => .float x
        | none => .string s

end ClassSchema.Yaml
