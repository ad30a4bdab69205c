import Mathlib
import MessageAbi.Codec.Call

/-!
This module contains the laws of big-endian numerals, and of what words, signed integers, addresses,
selectors and texts in UTF-8 denote.
-/

namespace MessageAbi

theorem ofBigEndian_append_singleton (bytes : Bytes) (byte : UInt8) :
    ofBigEndian (bytes ++ [byte]) = ofBigEndian bytes * 256 + byte.toNat := by
  simp [ofBigEndian]

theorem ofBigEndian_append (bytes others : Bytes) :
    ofBigEndian (bytes ++ others)
      = ofBigEndian bytes * 256 ^ others.length + ofBigEndian others := by
  induction others using List.reverseRecOn with
  | nil => simp [ofBigEndian]
  | append_singleton others byte ih =>
    rw [← List.append_assoc, ofBigEndian_append_singleton, ih, ofBigEndian_append_singleton]
    rw [List.length_append, List.length_singleton]
    ring

theorem ofBigEndian_lt (bytes : Bytes) : ofBigEndian bytes < 256 ^ bytes.length := by
  induction bytes using List.reverseRecOn with
  | nil => simp [ofBigEndian]
  | append_singleton bytes byte ih =>
    have := byte.toNat_lt
    rw [ofBigEndian_append_singleton, List.length_append, List.length_singleton, pow_succ]
    omega

theorem ofBigEndian_eq_zero_iff (bytes : Bytes) :
    ofBigEndian bytes = 0 ↔ bytes.any (· ≠ 0) = false := by
  induction bytes using List.reverseRecOn with
  | nil => simp [ofBigEndian]
  | append_singleton bytes byte ih =>
    rw [ofBigEndian_append_singleton, List.any_append, Bool.or_eq_false_iff, ← ih]
    simp [← UInt8.toNat_inj]

theorem ofBigEndian_of_take {bytes : Bytes} {count : Nat}
    (h : (bytes.take count).any (· ≠ 0) = false) : ofBigEndian bytes = ofBigEndian (bytes.drop count) := by
  have happend := ofBigEndian_append (bytes.take count) (bytes.drop count)
  rw [← ofBigEndian_eq_zero_iff] at h
  rw [List.take_append_drop, h] at happend
  omega

theorem ofBigEndian_lt_iff_take (bytes : Bytes) (count : Nat) :
    ofBigEndian bytes < 256 ^ (bytes.length - count)
      ↔ (bytes.take count).any (· ≠ 0) = false := by
  have hdrop := ofBigEndian_lt (bytes.drop count)
  rw [List.length_drop] at hdrop
  constructor
  . intro h
    have happend := ofBigEndian_append (bytes.take count) (bytes.drop count)
    rw [List.take_append_drop, List.length_drop] at happend
    rw [← ofBigEndian_eq_zero_iff]
    by_contra hne
    have := Nat.le_mul_of_pos_left (256 ^ (bytes.length - count)) (Nat.pos_of_ne_zero hne)
    omega
  . intro h
    rwa [ofBigEndian_of_take h]

theorem toBigEndian_succ (width n : Nat) :
    toBigEndian (width + 1) n = toBigEndian width (n / 256) ++ [UInt8.ofNat n] := by
  induction width with
  | zero => simp [toBigEndian]
  | succ width ih =>
    rw [toBigEndian, ih]
    rw [toBigEndian, List.cons_append]
    rw [Nat.div_div_eq_div_mul]
    rw [Nat.pow_eq, Nat.pow_eq, pow_succ']

@[simp]
theorem ofBigEndian_toBigEndian (width n : Nat) :
    ofBigEndian (toBigEndian width n) = n % 256 ^ width := by
  induction width generalizing n with
  | zero => simp [toBigEndian, ofBigEndian, Nat.mod_one]
  | succ width ih =>
    rw [toBigEndian_succ]
    rw [ofBigEndian_append_singleton]
    rw [ih, pow_succ', Nat.mod_mul]
    simp only [UInt8.toNat_ofNat']
    omega

theorem toBigEndian_ofBigEndian (bytes : Bytes) :
    toBigEndian bytes.length (ofBigEndian bytes) = bytes := by
  induction bytes using List.reverseRecOn with
  | nil => rfl
  | append_singleton bytes byte ih =>
    have hlt := byte.toNat_lt
    have hfront : (ofBigEndian bytes * 256 + byte.toNat) / 256 = ofBigEndian bytes := by omega
    have hlast : UInt8.ofNat (ofBigEndian bytes * 256 + byte.toNat) = byte := by
      apply UInt8.toNat_inj.mp
      rw [UInt8.toNat_ofNat']
      omega
    rw [List.length_append, List.length_singleton, toBigEndian_succ, ofBigEndian_append_singleton]
    rw [hfront, hlast, ih]

theorem toBigEndian_mod (width n : Nat) :
    toBigEndian width (n % 256 ^ width) = toBigEndian width n := by
  induction width generalizing n with
  | zero => rfl
  | succ width ih =>
    have hlow : UInt8.ofNat (n % 256 ^ (width + 1)) = UInt8.ofNat n := by
      apply UInt8.toNat_inj.mp
      rw [UInt8.toNat_ofNat', UInt8.toNat_ofNat']
      exact Nat.mod_mod_of_dvd n (Dvd.intro_left (256 ^ width) rfl)
    rw [toBigEndian_succ, toBigEndian_succ, hlow, pow_succ']
    rw [Nat.mod_mul_right_div_self, ih]

theorem toBigEndian_add_of_lt {width n : Nat} (h : n < 256 ^ width) (extra : Nat) :
    toBigEndian (extra + width) n = List.replicate extra 0 ++ toBigEndian width n := by
  induction extra with
  | zero => simp
  | succ extra ih =>
    have hlt : n < 256 ^ (extra + width) :=
      Nat.lt_of_lt_of_le h (Nat.pow_le_pow_right (by decide) (Nat.le_add_left width extra))
    have hzero : n / Nat.pow 256 (extra + width) = 0 := Nat.div_eq_of_lt hlt
    rw [Nat.add_right_comm, toBigEndian, hzero, ih, List.replicate_succ, List.cons_append]
    rfl

theorem Word.toBytes_ofNat (n : Nat) : (Word.ofNat n).toBytes = toBigEndian Word.size n := by
  rw [Word.toBytes, Word.ofNat, BitVec.toNat_ofNat, ← toBigEndian_mod Word.size n]
  rfl

@[simp]
theorem Word.ofBytes_toBytes (word : Word) : Word.ofBytes word.toBytes = word := by
  apply BitVec.eq_of_toNat_eq
  have := word.isLt
  simp only [Word.ofBytes, Word.ofNat, Word.toBytes, ofBigEndian_toBigEndian, BitVec.toNat_ofNat,
    Word.size]
  omega

theorem Word.toNat_ofBytes {bytes : Bytes} (h : bytes.length ≤ Word.size) :
    (Word.ofBytes bytes).toNat = ofBigEndian bytes := by
  have hlt := ofBigEndian_lt bytes
  have hpow : 256 ^ bytes.length ≤ 256 ^ Word.size := Nat.pow_le_pow_right (by decide) h
  rw [Word.ofBytes, Word.ofNat, BitVec.toNat_ofNat]
  exact Nat.mod_eq_of_lt (hlt.trans_le hpow)

theorem Word.toBytes_ofBytes {bytes : Bytes} (h : bytes.length = Word.size) :
    (Word.ofBytes bytes).toBytes = bytes := by
  rw [Word.ofBytes, Word.toBytes_ofNat, ← h, toBigEndian_ofBigEndian]

@[simp]
theorem Address.ofBytes_toBytes (address : Address) :
    Address.ofBytes address.toBytes = address := by
  apply BitVec.eq_of_toNat_eq
  have := address.isLt
  simp only [Address.ofBytes, Address.toBytes, ofBigEndian_toBigEndian, BitVec.toNat_ofNat,
    Address.size]
  omega

theorem Address.toBytes_ofBytes {bytes : Bytes} (h : bytes.length = Address.size) :
    (Address.ofBytes bytes).toBytes = bytes := by
  have hmod : ofBigEndian bytes % 2 ^ 160 = ofBigEndian bytes % 256 ^ Address.size := rfl
  rw [Address.ofBytes, Address.toBytes, BitVec.toNat_ofNat, hmod, toBigEndian_mod, ← h,
    toBigEndian_ofBigEndian]

@[simp]
theorem Selector.ofBytes_toBytes (selector : Selector) :
    Selector.ofBytes selector.toBytes = selector := by
  rcases selector with ⟨code⟩
  have := code.isLt
  simp only [Selector.ofBytes, Selector.toBytes, ofBigEndian_toBigEndian, Selector.size]
  congr 1
  apply BitVec.eq_of_toNat_eq
  simp only [BitVec.toNat_ofNat]
  omega

theorem Selector.toBytes_ofBytes {bytes : Bytes} (h : bytes.length = Selector.size) :
    (Selector.ofBytes bytes).toBytes = bytes := by
  have hmod : ofBigEndian bytes % 2 ^ 32 = ofBigEndian bytes % 256 ^ Selector.size := rfl
  rw [Selector.ofBytes, Selector.toBytes, BitVec.toNat_ofNat, hmod, toBigEndian_mod, ← h,
    toBigEndian_ofBigEndian]

theorem Codec.ofBigEndian_numberWord {n : Nat} (h : n < 2 ^ 64) :
    ofBigEndian (numberWord n) = n := by
  simp only [numberWord, Word.toBytes, Word.ofNat, ofBigEndian_toBigEndian, BitVec.toNat_ofNat,
    Word.size]
  omega

theorem Int256.toInt_eq (x : Int256) :
    x.toInt = if x.isNegative then (x.raw.toNat - 2 ^ 256 : Int) else (x.raw.toNat : Int) := by
  simp only [Int256.toInt, Int256.isNegative]
  rw [BitVec.toInt_eq_msb_cond]
  norm_num

theorem Int256.toNat_raw (x : Int256) : x.raw.toNat = (x.toInt % 2 ^ 256).toNat := by
  have := x.raw.isLt
  rw [Int256.toInt_eq]
  split
  . omega
  . omega

theorem Int256.fits_iff (x : Int256) (bits : Nat) :
    x.fits bits = true
      ↔ 0 < bits ∧ -2 ^ (bits - 1) ≤ x.toInt ∧ x.toInt < 2 ^ (bits - 1) := by
  cases bits with
  | zero => simp [Int256.fits]
  | succ bits =>
    have hraw := x.raw.isLt
    have hcast : ((2 ^ bits : Nat) : Int) = 2 ^ bits := by simp
    have hpos : 0 < 2 ^ bits := Nat.two_pow_pos bits
    simp only [Int256.fits, decide_eq_true_eq, Nat.lt_succ_iff, Word.bitLength_le_iff, Nat.pow_eq,
      Nat.add_sub_cancel, Int256.toInt_eq]
    split
    . rw [BitVec.toNat_not]
      omega
    . omega

theorem fromUTF8?_toUTF8 (s : String) : String.fromUTF8? ⟨s.toUTF8.data.toList.toArray⟩ = some s := by
  unfold String.fromUTF8?
  exact dif_pos s.isValidUTF8

end MessageAbi
