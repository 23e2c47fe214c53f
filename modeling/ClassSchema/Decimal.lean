/-
# Decimal numerals and binary floating point

A decimal is a natural number times a power of ten, a double-precision number a natural number
times a power of two.  `Binary64.nearest` goes from the first to the second, to the nearest
double with ties to an even significand.  `Binary64.shortest` goes back: of the decimals that
are nearest to no other double it takes one with the fewest digits, and of those the closest.
`Binary64.approximate` is the way from decimals to doubles that rounds at each step of a
computation with doubles.  All arithmetic is exact arithmetic on natural numbers.
-/

namespace ClassSchema

/-- The number `digits * 10 ^ exponent`. -/
structure Decimal where
  digits : Nat
  exponent : Int
deriving DecidableEq, Repr, Inhabited

/-- The double-precision number `significand * 2 ^ exponent`. -/
structure Binary64 where
  significand : Nat
  exponent : Int
deriving DecidableEq, Repr, Inhabited

/-- `num / den` rounded to a natural number, a half going to the even neighbour. -/
def roundHalfEven (num den : Nat) : Nat :=
  let q := num / den
  let r := num % den
  if 2 * r < den then q
  else if den < 2 * r then q + 1
  else if q % 2 = 0 then q else q + 1

/-- The fraction `x * b ^ e` as numerator and denominator. -/
def scaled (b x : Nat) (e : Int) : Nat × Nat :=
  if 0 ≤ e then (x * Nat.pow b e.toNat, 1) else (x, Nat.pow b (-e).toNat)

/-- How many decimal digits `n` has; zero has one. -/
def digitCount (n : Nat) : Nat := (Nat.toDigits 10 n).length

namespace Binary64

/-- The exponent of the subnormal numbers and of the smallest normal ones. -/
def minExponent : Int := -1074

/-- The exponent of the largest numbers. -/
def maxExponent : Int := 971

/-- The least number of 53 bits. -/
def leastNormal : Nat := 0x10000000000000

/-- The exponent at which `num / den` has a significand of 53 bits, or the least one. -/
def gridOf (num den : Nat) : Int :=
  let e := max minExponent ((num.log2 : Int) - den.log2 - 53)
  let (a, b) := scaled 2 num (-e)
  if 2 * leastNormal ≤ a / (b * den) then e + 1 else e

/-- The double nearest to `num / den`; `none` beyond the largest one. -/
def nearestFraction (num den : Nat) : Option Binary64 :=
  if num = 0 then some ⟨0, minExponent⟩ else
  let e := gridOf num den
  let (a, b) := scaled 2 num (-e)
  let m := roundHalfEven a (b * den)
  let x : Binary64 := if m = 2 * leastNormal then ⟨leastNormal, e + 1⟩ else ⟨m, e⟩
  if x.exponent ≤ maxExponent then some x else none

/-- The double nearest to a decimal; `none` beyond the largest one.  A decimal whose leading
digit stands far outside the range is settled without computing its power of ten. -/
def nearest (d : Decimal) : Option Binary64 :=
  if d.digits = 0 then some ⟨0, minExponent⟩ else
  let lead := d.exponent + digitCount d.digits
  if 400 < lead then none
  else if lead < -400 then some ⟨0, minExponent⟩
  else
    let (num, den) := scaled 10 d.digits d.exponent
    nearestFraction num den

/-- The product of two doubles; `none` beyond the largest one. -/
def mul (x y : Binary64) : Option Binary64 :=
  let (a, b) := scaled 2 (x.significand * y.significand) (x.exponent + y.exponent)
  nearestFraction a b

/-- The quotient of two doubles, of which the second is not zero. -/
def div (x y : Binary64) : Option Binary64 :=
  let (a, b) := scaled 2 x.significand (x.exponent - y.exponent)
  nearestFraction a (b * y.significand)

/-- The largest power of ten that is a double. -/
def largestPower : Nat := 308

/-- Multiplies by a power of ten, one that is no double in several steps. -/
def timesPower : (steps : Nat) → Binary64 → (exponent : Int) → Option Binary64
  | 0, x, _ => some x
  | steps + 1, x, e => do
    if x.significand = 0 then some x
    else if e.natAbs ≤ largestPower then
      let power ← nearest ⟨1, e.natAbs⟩
      if 0 ≤ e then x.mul power else x.div power
    else if 0 ≤ e then none
    else timesPower steps (← x.div (← nearest ⟨1, largestPower⟩)) (e + largestPower)

/-- A number without the last digits that keep it from fitting into 64 bits, and how many they
are. -/
def leadingDigits (n : Nat) : Nat × Nat :=
  if n < UInt64.size then (n, 0)
  else
    let (m, dropped) := leadingDigits (n / 10)
    (m, dropped + 1)
termination_by n
decreasing_by
  have : n ≠ 0 := by
    rintro rfl
    simp_all [UInt64.size]
  omega

/-- A double beside a decimal: the leading digits as a double, times the power of ten.  Three steps
take any number of 64 bits to zero. -/
def approximate (d : Decimal) : Option Binary64 := do
  let (digits, dropped) := leadingDigits d.digits
  timesPower 4 (← nearestFraction digits 1) (d.exponent + dropped)

/-- Whether `num / den` is nearer to `x` than to its neighbours, or a tie that goes to `x`. -/
def rounds (x : Binary64) (num den : Nat) : Bool :=
  -- in quarters of the unit in the last place of `x`
  let low := if x.significand = leastNormal ∧ minExponent < x.exponent then 1 else 2
  let (a, b) := scaled 2 1 x.exponent
  let value := 4 * num * b
  let unit := a * den
  let lower := (4 * x.significand - low) * unit
  let upper := (4 * x.significand + 2) * unit
  if x.significand % 2 = 0 then lower ≤ value && value ≤ upper
  else lower < value && value < upper

/-- The exponent of the leading decimal digit of `num / den`, for `num` above zero. -/
def leadingExponent (num den : Nat) : Int :=
  let e : Int := (digitCount num : Int) - digitCount den
  let (a, b) := scaled 10 den e
  if a ≤ num * b then e else e - 1

/-- The decimal of `n` digits next to `num / den` that rounds to `x`, if one does. -/
def onGrid? (x : Binary64) (num den n : Nat) : Option Decimal :=
  let k := leadingExponent num den - n + 1
  let (a, b) := scaled 10 1 k
  let q := num * b / (den * a)
  let r := num * b % (den * a)
  let hits (c : Nat) : Bool := let (y, z) := scaled 10 c k; x.rounds y z
  match hits q, hits (q + 1) with
  | true, true => some ⟨if 2 * r ≤ den * a then q else q + 1, k⟩
  | true, false => some ⟨q, k⟩
  | false, true => some ⟨q + 1, k⟩
  | false, false => none

/-- Drops final zeros, at most `fuel` of them. -/
def dropZeros : Nat → Decimal → Decimal
  | 0, d => d
  | fuel + 1, d =>
    if d.digits ≠ 0 ∧ d.digits % 10 = 0 then dropZeros fuel ⟨d.digits / 10, d.exponent + 1⟩ else d

/-- The closest of the decimals with the fewest digits that round to `x`. -/
def shortest (x : Binary64) : Decimal :=
  if x.significand = 0 then ⟨0, 0⟩ else
  let (num, den) := scaled 2 x.significand x.exponent
  let grids := (List.range 17).map (· + 1)
  dropZeros 17 ((grids.findSome? (x.onGrid? num den)).getD ⟨num, 0⟩)

end Binary64

namespace Decimal

/-- `n` zeros. -/
def zeros (n : Int) : String := String.ofList (List.replicate n.toNat '0')

/-- The digits of a decimal that is a natural number, without a point. -/
def natural (d : Decimal) : String :=
  if d.digits = 0 then "0" else toString d.digits ++ zeros d.exponent

/-- Positional writing, with at least one digit on either side of the point. -/
def positional (d : Decimal) : String :=
  let ds := toString d.digits
  let lead := d.exponent + ds.length
  if 0 ≤ d.exponent then d.natural ++ ".0"
  else if 0 < lead then
    String.ofList (ds.toList.take lead.toNat) ++ "." ++ String.ofList (ds.toList.drop lead.toNat)
  else "0." ++ zeros (-lead) ++ ds

/-- One digit, a point if more follow, and a power of ten. -/
def scientific (d : Decimal) : String :=
  let ds := toString d.digits
  let power := toString (d.exponent + ds.length - 1)
  match ds.toList with
  | c :: (c' :: rest) => String.ofList (c :: '.' :: c' :: rest) ++ "e" ++ power
  | cs => String.ofList cs ++ "e" ++ power

/-- Positional writing for numbers from `10 ^ -5` up to, not including, `10 ^ 16`, scientific
writing outside. -/
def balanced (d : Decimal) : String :=
  let lead := d.exponent + digitCount d.digits
  if d.digits = 0 ∨ (-5 < lead ∧ lead ≤ 16) then d.positional else d.scientific

end Decimal

end ClassSchema
