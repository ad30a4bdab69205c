import Mathlib
import MessageAbi.Proofs.Digits

/-!
This module contains that signed 256-bit integers stand for the integers that their two's complement
words denote: in the test for a width, in the conversions from and to 128 bits, and in decimal.
-/

namespace MessageAbi.Int256

/--
The integer, if it can be written with the given number of bits in two's complement.
-/
def signed? (bits : Nat) (n : Int) : Option Int :=
  if -2 ^ (bits - 1) ≤ n ∧ n < 2 ^ (bits - 1) then some n else none

theorem signed?_eq_some_iff (bits : Nat) (n m : Int) :
    signed? bits n = some m ↔ n = m ∧ -2 ^ (bits - 1) ≤ m ∧ m < 2 ^ (bits - 1) := by
  unfold signed?
  split
  next hrange =>
    rw [Option.some.injEq]
    constructor
    . rintro rfl
      exact ⟨rfl, hrange⟩
    . exact And.left
  next hrange =>
    simp only [reduceCtorEq, false_iff]
    rintro ⟨rfl, hrange'⟩
    exact hrange hrange'

theorem exists_toInt_eq_iff (n : Int) :
    (∃ x : Int256, x.toInt = n) ↔ -2 ^ 255 ≤ n ∧ n < 2 ^ 255 := by
  constructor
  . rintro ⟨x, rfl⟩
    exact ⟨BitVec.le_toInt x.raw, BitVec.toInt_lt⟩
  . rintro ⟨hlower, hupper⟩
    exact ⟨ofInt n, toInt_ofInt hlower hupper⟩

theorem map_toInt_eq_signed? {x? : Option Int256} {n : Int}
    (h : ∀ x, x? = some x ↔ x.toInt = n) : x?.map toInt = signed? 256 n := by
  ext m
  rw [signed?_eq_some_iff, Option.map_eq_some_iff]
  constructor
  . rintro ⟨x, hx, rfl⟩
    exact ⟨((h x).mp hx).symm, (exists_toInt_eq_iff _).mp ⟨x, rfl⟩⟩
  . rintro ⟨rfl, hrange⟩
    rcases (exists_toInt_eq_iff n).mpr hrange with ⟨x, hx⟩
    exact ⟨x, (h x).mpr hx, hx⟩

theorem toInt128?_eq_signed? (x : Int256) : x.toInt128? = signed? 128 x.toInt := by
  ext n
  rw [toInt128?_eq_some_iff, signed?_eq_some_iff]

theorem toDecimal_eq_toString (x : Int256) : x.toDecimal = toString x.toInt := by
  have hlt := x.raw.isLt
  rw [toDecimal, toInt_eq, Int.toString_eq_repr, Int.repr_eq_if]
  cases h : x.isNegative with
  | true =>
    have hmagnitude : (-(x.raw.toNat - 2 ^ 256 : Int)).toNat = x.raw.negate.toNat := by
      have := x.isNegative_iff.mp h
      rw [Word.toNat_negate]
      omega
    simp only [if_true]
    rw [if_neg (by omega), hmagnitude]
    rfl
  | false =>
    simp only [Bool.false_eq_true, if_false]
    rw [if_pos (by omega), Int.toNat_natCast]
    rfl

section Digits

variable {digits : List Char} (hdigits : ∀ c ∈ digits, c.isDigit = true)

include hdigits

theorem decimal?_of_isDigit : decimal? digits = some (Nat.ofDigitChars 10 digits 0) := by
  rw [← ofDigits?_eq_decimal?, ofDigits?, if_pos (List.all_eq_true.mpr hdigits),
    Nat.ofDigitChars_eq_foldl]
  simp only [Nat.mul_comm]

theorem map_toInt_ofDecimal? :
    (ofDecimal? (String.ofList digits)).map toInt = signed? 256 (Nat.ofDigitChars 10 digits 0) := by
  apply map_toInt_eq_signed?
  intro x
  rw [ofDecimal?_eq_some_iff, String.toList_ofList, decimal?_of_isDigit hdigits]
  rw [or_iff_left]
  . simp
  . -- A minus sign is no digit.
    rintro ⟨rest, _, rfl, _⟩
    exact absurd (hdigits '-' List.mem_cons_self) (by decide)

theorem map_toInt_ofDecimal?_minus :
    (ofDecimal? (String.ofList ('-' :: digits))).map toInt
      = signed? 256 (-(Nat.ofDigitChars 10 digits 0 : Int)) := by
  have hminus : decimal? ('-' :: digits) = none :=
    numeral?_eq_none_of_mem List.mem_cons_self rfl
  apply map_toInt_eq_signed?
  intro x
  rw [ofDecimal?_eq_some_iff, String.toList_ofList, hminus]
  simp only [reduceCtorEq, false_and, exists_false, false_or, List.cons.injEq, true_and,
    exists_and_left, exists_eq_left', decimal?_of_isDigit hdigits, Option.some.injEq]

end Digits

theorem int256_denotes (x : Int256) :
    (∀ bits : Nat, x.fits bits = true
      ↔ 1 ≤ bits ∧ -2 ^ (bits - 1) ≤ x.toInt ∧ x.toInt < 2 ^ (bits - 1))
    ∧ (∀ n : BitVec 128, (ofInt n.toInt).toInt = n.toInt)
    ∧ x.toInt128? = signed? 128 x.toInt
    ∧ x.toDecimal = toString x.toInt
    ∧ (∀ digits : List Char, (∀ c ∈ digits, c.isDigit = true) →
      (ofDecimal? (String.ofList digits)).map toInt = signed? 256 (Nat.ofDigitChars 10 digits 0)
      ∧ (ofDecimal? (String.ofList ('-' :: digits))).map toInt
        = signed? 256 (-(Nat.ofDigitChars 10 digits 0 : Int)))
    ∧ ofDecimal? x.toDecimal = some x := by
  refine ⟨x.fits_iff, ?_, x.toInt128?_eq_signed?, x.toDecimal_eq_toString, ?_,
    x.ofDecimal?_toDecimal⟩
  . intro n
    have hlower := n.le_toInt
    have hupper := n.toInt_lt
    exact toInt_ofInt (by omega) (by omega)
  . intro digits hdigits
    exact ⟨map_toInt_ofDecimal? hdigits, map_toInt_ofDecimal?_minus hdigits⟩

-- The least integer has no negation, and a zero may be written with a sign.
theorem int256_denotes_minimum :
    fits ⟨2 ^ 255⟩ 256 = true ∧ fits ⟨2 ^ 255⟩ 255 = false
      ∧ toInt128? ⟨2 ^ 255⟩ = none ∧ toInt128? (ofInt (-2 ^ 127)) = some (-2 ^ 127)
      ∧ ofDecimal? (toDecimal ⟨2 ^ 255⟩) = some ⟨2 ^ 255⟩
      ∧ (∀ c ∈ ['0'], c.isDigit = true)
      ∧ (ofDecimal? (String.ofList ['-', '0'])).map toInt = some 0 := by
  have hvalue : toInt ⟨2 ^ 255⟩ = -2 ^ 255 := by decide +kernel
  have hsmall : (BitVec.intMin 128).toInt = -2 ^ 127 := by decide +kernel
  have hzero : ∀ c ∈ ['0'], c.isDigit = true := by simp
  rcases int256_denotes ⟨2 ^ 255⟩ with ⟨hfits, hofInt, hint128, _, hdigits, hdecimal⟩
  rw [hvalue] at hfits hint128
  have hofInt := hofInt (BitVec.intMin 128)
  rw [hsmall] at hofInt
  refine ⟨?_, ?_, ?_, ?_, hdecimal, hzero, ?_⟩
  . rw [hfits 256]
    norm_num
  . rw [Bool.eq_false_iff, ne_eq, hfits 255]
    norm_num
  . rw [hint128]
    norm_num [signed?]
  . rw [(int256_denotes (ofInt (-2 ^ 127))).2.2.1, hofInt]
    norm_num [signed?]
  . rw [(hdigits ['0'] hzero).2]
    rfl

end MessageAbi.Int256
