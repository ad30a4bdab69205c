import Mathlib
import MessageAbi.Proofs.Int256
import MessageAbi.Text.Hex

/-!
This module contains that reading undoes writing for decimal numerals, of words and of signed integers,
and for hexadecimal text.
-/

namespace MessageAbi

theorem ofDigits?_toDigits (n : Nat) : ofDigits? (Nat.toDigits 10 n) = some n := by
  have hdigits : (Nat.toDigits 10 n).all Char.isDigit = true := by
    rw [List.all_eq_true]
    intro c hc
    exact Nat.isDigit_of_mem_toDigits (by decide) (by decide) hc
  have hvalue : Nat.ofDigitChars 10 (Nat.toDigits 10 n) 0 = n :=
    Nat.ofDigitChars_toDigits (by decide) (by decide)
  rw [Nat.ofDigitChars_eq_foldl] at hvalue
  rw [ofDigits?, if_pos hdigits]
  simpa [Nat.mul_comm] using hvalue

namespace Word

theorem toList_toDecimal (word : Word) : word.toDecimal.toList = Nat.toDigits 10 word.toNat :=
  Nat.toList_repr

theorem isDigit_of_mem_toDecimal {word : Word} {c : Char} (h : c ∈ word.toDecimal.toList) :
    c.isDigit = true := by
  rw [toList_toDecimal] at h
  exact Nat.isDigit_of_mem_toDigits (by decide) (by decide) h

theorem ofDigits?_toDecimal (word : Word) : ofDigits? word.toDecimal.toList = some word := by
  rw [ofDigits?, toList_toDecimal, ofDigits?_toDigits, Option.bind_some, if_pos word.isLt, ofNat,
    BitVec.ofNat_toNat, BitVec.setWidth_eq]

end Word

namespace Int256

theorem ofDecimal?_toDecimal (x : Int256) : ofDecimal? x.toDecimal = some x := by
  have hlt := x.raw.isLt
  have hnegative := x.isNegative_iff
  cases h : x.isNegative with
  | true =>
    have hminus : x.toDecimal.toList = '-' :: x.raw.negate.toDecimal.toList := by
      rw [toDecimal, if_pos h, String.toList_append]
      rfl
    simp [ofDecimal?, hminus, ofDecimal?.go, Word.ofDigits?_toDecimal, h]
  | false =>
    have hdigits : x.toDecimal.toList = x.raw.toDecimal.toList := by
      simp [toDecimal, h]
    have hplain : ∀ digits, x.raw.toDecimal.toList ≠ '-' :: digits := by
      intro digits heq
      have hminus : '-' ∈ x.raw.toDecimal.toList := by simp [heq]
      exact absurd (Word.isDigit_of_mem_toDecimal hminus) (by decide)
    unfold ofDecimal?
    rw [hdigits]
    split
    next digits heq => exact absurd heq (hplain digits)
    next => simp [ofDecimal?.go, Word.ofDigits?_toDecimal, h]

end Int256

namespace Hex

theorem utf8EncodeChar_digit (n : Nat) : String.utf8EncodeChar (digit n) = [(digit n).toUInt8] := by
  have hlt : n % 16 < 16 := Nat.mod_lt n (by decide)
  unfold digit
  interval_cases n % 16 <;> rfl

theorem digitValue?_digit (n : Nat) :
    digitValue? (digit n).toUInt8 = some (UInt8.ofNat (n % 16)) := by
  have hlt : n % 16 < 16 := Nat.mod_lt n (by decide)
  unfold digit
  interval_cases n % 16 <;> rfl

def digitBytes (byte : UInt8) : Bytes :=
  [(digit (byte.toNat / 16)).toUInt8, (digit byte.toNat).toUInt8]

theorem toList_toUTF8 (text : String) :
    text.toUTF8.data.toList = text.toList.flatMap String.utf8EncodeChar := by
  conv => lhs; rw [← String.ofList_toList (s := text)]
  rw [String.toUTF8, String.toByteArray_ofList, List.utf8Encode, List.toList_data_toByteArray]

theorem toUTF8_encode (bytes : Bytes) :
    (encode bytes).toUTF8.data.toList = bytes.flatMap digitBytes := by
  rw [toList_toUTF8, encode, String.toList_ofList, List.flatMap_assoc]
  apply List.flatMap_congr
  intro byte _
  simp [utf8EncodeChar_digit, digitBytes]

theorem go_flatMap_digitBytes (index : Nat) (bytes : Bytes) :
    decode.go index (bytes.flatMap digitBytes) = .ok bytes := by
  induction bytes generalizing index with
  | nil => rfl
  | cons byte bytes ih =>
    have hbyte : UInt8.ofNat (byte.toNat / 16 % 16) * 16 + UInt8.ofNat (byte.toNat % 16) = byte := by
      have := byte.toNat_lt
      apply UInt8.toNat_inj.mp
      simp only [UInt8.toNat_add, UInt8.toNat_mul, UInt8.toNat_ofNat', UInt8.reduceToNat]
      omega
    rw [List.flatMap_cons, digitBytes, List.cons_append, List.cons_append, List.nil_append]
    simp [decode.go, decode.value, digitValue?_digit, ih, hbyte, bind, Except.bind, pure, Except.pure]

theorem decode_encode (bytes : Bytes) : decode (encode bytes) = .ok bytes := by
  have hlength : (bytes.flatMap digitBytes).length % 2 = 0 := by
    simp [digitBytes, List.length_flatMap]
  rw [decode]
  simp only [toUTF8_encode, hlength, go_flatMap_digitBytes]
  rfl

end Hex

end MessageAbi
