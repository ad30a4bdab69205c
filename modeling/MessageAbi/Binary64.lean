/-!
This module contains rounding to binary numbers with 53 significant bits, and the shortest decimal
digits that such a number is read back from.
-/

namespace MessageAbi.Binary64

def divideToNearest (num den : Nat) : Nat :=
  let quotient := num / den
  let remainder := num % den
  if 2 * remainder > den ∨ (2 * remainder = den ∧ quotient % 2 = 1) then quotient + 1 else quotient

def roundNat (n : Nat) : Nat :=
  let unit := Nat.pow 2 (n.log2 - 52)
  divideToNearest n unit * unit

def overflowBound : Nat :=
  Nat.pow 2 1024 - Nat.pow 2 970

/--
A number `significand * 2^exponent`, with a significand below `2^53` that is at least `2^52` unless
the exponent is the least one.
-/
structure Magnitude where
  significand : Nat
  exponent : Int
  deriving DecidableEq, Repr

def minExponent : Int := -1074

def scale (num den : Nat) (exponent : Int) : Nat × Nat :=
  let factor := Nat.pow 2 exponent.natAbs
  if exponent < 0 then (num * factor, den) else (num, den * factor)

/--
The number nearest to `num / den`, if it is not too large.
-/
def nearest? (num den : Nat) : Option Magnitude :=
  if num = 0 then some ⟨0, minExponent⟩
  else if num ≥ overflowBound * den then none
  else
    let guess := max ((num.log2 : Int) - den.log2 - 52) minExponent
    let (n, d) := scale num den guess
    let exponent := if n / d < Nat.pow 2 52 ∧ guess > minExponent then guess - 1 else guess
    let (n, d) := scale num den exponent
    let significand := divideToNearest n d
    if significand = Nat.pow 2 53 then some ⟨Nat.pow 2 52, exponent + 1⟩
    else some ⟨significand, exponent⟩

def ofDecimal? (digits : Nat) (power : Int) : Option Magnitude :=
  if digits = 0 then some ⟨0, minExponent⟩
  else if power > 310 then none
  else if power < 0 then nearest? digits (Nat.pow 10 power.natAbs)
  else nearest? (digits * Nat.pow 10 power.natAbs) 1

structure Decimal where
  digits : Nat
  exponent : Int
  deriving DecidableEq, Repr

namespace Magnitude

/--
Whether `digits * 10^exponent` is read as the number: it lies between the halfway points to the two
neighbours, which count if the significand is even.
-/
def isReadFrom (x : Magnitude) (decimal : Decimal) : Bool :=
  -- everything in quarters of a unit of the last place
  let (n, d) := scale (4 * decimal.digits) 1 x.exponent
  let n := if decimal.exponent < 0 then n else n * Nat.pow 10 decimal.exponent.natAbs
  let d := if decimal.exponent < 0 then d * Nat.pow 10 decimal.exponent.natAbs else d
  let isPowerOfTwo := x.significand = Nat.pow 2 52 ∧ x.exponent > minExponent
  let low := 4 * x.significand - (if isPowerOfTwo then 1 else 2)
  let high := 4 * x.significand + 2
  if x.significand % 2 = 0 then low * d ≤ n ∧ n ≤ high * d else low * d < n ∧ n < high * d

def neighbours (x : Magnitude) (exponent : Int) : List Decimal :=
  let num := if x.exponent < 0 then x.significand else x.significand * Nat.pow 2 x.exponent.natAbs
  let den := if x.exponent < 0 then Nat.pow 2 x.exponent.natAbs else 1
  let num := if exponent < 0 then num * Nat.pow 10 exponent.natAbs else num
  let den := if exponent < 0 then den else den * Nat.pow 10 exponent.natAbs
  let below : Decimal := ⟨num / den, exponent⟩
  let above : Decimal := ⟨num / den + 1, exponent⟩
  if 2 * (num % den) < den then [below, above] else [above, below]

def leadingPlace (x : Magnitude) : Int :=
  ((x.significand.log2 : Int) + x.exponent) * 30103 / 100000 + 1

/--
The fewest digits that are read back as the number, and of those the nearest ones: each grid is ten
times finer than the one before, and the first that has a neighbour to read back wins.
-/
def shortest (x : Magnitude) : Decimal :=
  if x.significand = 0 then ⟨0, 0⟩ else go 20 (leadingPlace x)
where
  go : Nat → Int → Decimal
  | 0, exponent => (neighbours x exponent).headD ⟨0, 0⟩
  | fuel + 1, exponent =>
    let isFound (decimal : Decimal) := decimal.digits ≠ 0 && x.isReadFrom decimal
    match (neighbours x exponent).find? isFound with
    | some decimal => decimal
    | none => go fuel (exponent - 1)

end Magnitude

namespace Decimal

def text (decimal : Decimal) : String :=
  let digits := (toString decimal.digits).toList
  if decimal.exponent ≥ 0 then
    String.ofList (digits ++ List.replicate decimal.exponent.natAbs '0' ++ ['.', '0'])
  else
    let places := decimal.exponent.natAbs
    let digits := List.replicate (places + 1 - digits.length) '0' ++ digits
    let split := digits.length - places
    String.ofList (digits.take split ++ ['.'] ++ digits.drop split)

end Decimal

end MessageAbi.Binary64
