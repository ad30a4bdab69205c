import Mathlib
import MessageAbi.Proofs.Word

/-!
This module contains what the operations on signed 256-bit integers do to the integers they denote.
-/

namespace MessageAbi

theorem Word.toNat_negate (word : Word) : word.negate.toNat = (2 ^ 256 - word.toNat) % 2 ^ 256 := by
  have hneg : word.negate = -word := (BitVec.neg_eq_not_add word).symm
  rw [hneg, BitVec.toNat_neg]

@[simp]
theorem Word.negate_negate (word : Word) : word.negate.negate = word := by
  have := word.isLt
  apply BitVec.eq_of_toNat_eq
  rw [Word.toNat_negate, Word.toNat_negate]
  omega

namespace Int256

theorem isNegative_iff (x : Int256) : x.isNegative = true ↔ 2 ^ 255 ≤ x.raw.toNat := by
  rw [isNegative, BitVec.msb_eq_decide, decide_eq_true_iff]

theorem toInt_eq_natCast_iff (x : Int256) (n : Nat) :
    x.toInt = n ↔ x.isNegative = false ∧ x.raw.toNat = n := by
  have hlt := x.raw.isLt
  rw [toInt_eq]
  cases h : x.isNegative with
  | true =>
    simp only [if_true, reduceCtorEq, false_and, iff_false]
    omega
  | false => simp

theorem toInt_eq_neg_natCast_iff (x : Int256) (n : Nat) :
    x.toInt = -(n : Int) ↔ (n ≠ 0 → x.isNegative = true) ∧ x.raw.negate.toNat = n := by
  have hlt := x.raw.isLt
  have hnegative := x.isNegative_iff
  rw [toInt_eq, Word.toNat_negate]
  cases h : x.isNegative with
  | true =>
    have hle := hnegative.mp h
    simp only [if_true, implies_true, true_and]
    omega
  | false =>
    simp only [Bool.false_eq_true, if_false, imp_false, not_not]
    omega

@[simp]
theorem ofInt_toInt (x : Int256) : ofInt x.toInt = x := by
  rcases x with ⟨raw⟩
  have hlt := raw.isLt
  have hnegative := isNegative_iff ⟨raw⟩
  rw [ofInt, toInt_eq]
  split
  next h =>
    have hle : 2 ^ 255 ≤ raw.toNat := hnegative.mp h
    have hmagnitude : (raw.toNat - 2 ^ 256 : Int).natAbs = 2 ^ 256 - raw.toNat := by omega
    rw [if_pos (by omega), hmagnitude]
    congr 1
    apply BitVec.eq_of_toNat_eq
    rw [Word.toNat_negate, Word.ofNat, BitVec.toNat_ofNat]
    omega
  next h =>
    rw [if_neg (by omega), Int.natAbs_natCast]
    congr 1
    apply BitVec.eq_of_toNat_eq
    rw [Word.ofNat, BitVec.toNat_ofNat]
    exact Nat.mod_eq_of_lt hlt

theorem toInt_lowHalf {word : Word} (h : word.toNat < 2 ^ 127) :
    (BitVec.ofNat 128 (lowHalf word)).toInt = word.toNat := by
  rw [lowHalf, BitVec.toInt_eq_toNat_cond, BitVec.toNat_ofNat, Nat.pow_eq]
  omega

theorem toInt_neg_lowHalf {word : Word} (h : word.toNat ≤ 2 ^ 127) :
    (-BitVec.ofNat 128 (lowHalf word)).toInt = -(word.toNat : Int) := by
  rw [lowHalf, BitVec.toInt_eq_toNat_cond, BitVec.toNat_neg, BitVec.toNat_ofNat, Nat.pow_eq]
  omega

theorem toInt128?_eq_some_iff (x : Int256) (n : Int) :
    x.toInt128? = some n ↔ x.toInt = n ∧ -2 ^ 127 ≤ n ∧ n < 2 ^ 127 := by
  have hlt := x.raw.isLt
  have hfits := fits_iff x 128
  have hint := x.toInt_eq
  unfold toInt128?
  cases h : x.fits 128 with
  | false =>
    rw [h] at hfits
    simp at hfits ⊢
    omega
  | true =>
    rcases hfits.mp h with ⟨_, hlower, hupper⟩
    simp only [Nat.add_one_sub_one] at hlower hupper
    split at hint
    next hnegative =>
      have hle : x.raw.negate.toNat ≤ 2 ^ 127 := by
        rw [Word.toNat_negate]
        omega
      simp only [Bool.not_true, Bool.false_eq_true, hnegative, if_true, if_false,
        toInt_neg_lowHalf hle, Option.some.injEq, Word.toNat_negate]
      omega
    next hnegative =>
      have hlow : x.raw.toNat < 2 ^ 127 := by omega
      simp only [Bool.not_true, Bool.false_eq_true, hnegative, if_false, toInt_lowHalf hlow,
        Option.some.injEq]
      omega

theorem toInt_ofInt {n : Int} (hlower : -2 ^ 255 ≤ n) (hupper : n < 2 ^ 255) :
    (ofInt n).toInt = n := by
  unfold ofInt
  split
  . rw [toInt, BitVec.toInt_eq_toNat_cond, Word.toNat_negate, Word.ofNat, BitVec.toNat_ofNat]
    omega
  . rw [toInt, BitVec.toInt_eq_toNat_cond, Word.ofNat, BitVec.toNat_ofNat]
    omega

end Int256

end MessageAbi
