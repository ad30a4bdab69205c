import MessageAbi.Word

/-!
This module contains signed 256-bit integers, kept as two's complement words. They are read, printed
and compared through the magnitude of the word.
-/

namespace MessageAbi

/--
A signed integer in `[-2^255, 2^255)`.
-/
structure Int256 where
  raw : Word
  deriving DecidableEq

namespace Int256

def isNegative (x : Int256) : Bool :=
  x.raw.msb

def toInt (x : Int256) : Int :=
  x.raw.toInt

def ofInt (n : Int) : Int256 :=
  let magnitude := Word.ofNat n.natAbs
  if n < 0 then ⟨magnitude.negate⟩ else ⟨magnitude⟩

/--
Whether the value lies in `[-2^(bits-1), 2^(bits-1))`: apart from the sign, fewer than `bits` bits
are in use.
-/
def fits (x : Int256) (bits : Nat) : Bool :=
  let magnitude := if x.isNegative then ~~~x.raw else x.raw
  magnitude.bitLength < bits

def lowHalf (word : Word) : Nat :=
  word.toNat % Nat.pow 2 128

/--
The value as a 128-bit integer, if it is one. Negating wraps in 128 bits, and `-2^127` is its own
negation.
-/
def toInt128? (x : Int256) : Option Int :=
  if !x.fits 128 then
    none
  else if x.isNegative then
    some (-BitVec.ofNat 128 (lowHalf x.raw.negate)).toInt
  else
    some (BitVec.ofNat 128 (lowHalf x.raw)).toInt

/--
Reads an optional minus sign and decimal digits. The sign has to survive the conversion, so a
magnitude that reaches the sign bit is refused; only `-2^255` may use it.
-/
def ofDecimal? (text : String) : Option Int256 :=
  match text.toList with
  | '-' :: digits => go true digits
  | digits => go false digits
where
  go (negative : Bool) (digits : List Char) : Option Int256 :=
    (Word.ofDigits? digits).bind fun magnitude =>
      let value : Int256 := ⟨if negative then magnitude.negate else magnitude⟩
      if magnitude ≠ 0 ∧ value.isNegative ≠ negative then none else some value

def toDecimal (x : Int256) : String :=
  if x.isNegative then "-" ++ x.raw.negate.toDecimal else x.raw.toDecimal

end Int256

end MessageAbi
