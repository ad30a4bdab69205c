import Mathlib
import MessageAbi.Json.Reader
import MessageAbi.Proofs.Digits

/-!
This module contains which bytes a hexadecimal text is read as. The text is looked at byte by byte, so
the digits are first followed from the characters of the text to its bytes; what the bytes denote is what
the digits denote.
-/

namespace MessageAbi.Hex

def nibble? (byte : UInt8) : Option Nat :=
  (digitValue? byte).map UInt8.toNat

theorem nibble?_eq_none {byte : UInt8} (h : 128 ≤ byte.toNat) : nibble? byte = none := by
  have hbelow (limit : UInt8) (hlimit : limit.toNat < 128) : ¬ byte ≤ limit := by
    rw [UInt8.le_iff_toNat_le, not_le]
    exact lt_of_lt_of_le hlimit h
  have hnine := hbelow '9'.toUInt8 (by decide)
  have hf := hbelow 'f'.toUInt8 (by decide)
  have hF := hbelow 'F'.toUInt8 (by decide)
  simp [nibble?, digitValue?, hnine, hf, hF]

theorem nibble?_ascii : ∀ n : Fin 128, nibble? (UInt8.ofNat n) = Json.Reader.hexValue? (Char.ofNat n) := by
  decide

theorem hexValue?_eq_none {c : Char} (h : 128 ≤ c.toNat) : Json.Reader.hexValue? c = none := by
  have hbelow (limit : Char) (hlimit : limit.toNat < 128) : ¬ c ≤ limit := by
    rw [Char.le_def, UInt32.le_iff_toNat_le, not_le]
    exact lt_of_lt_of_le hlimit h
  have hdigit : c.isDigit = false := by
    rw [Char.isDigit, Bool.and_eq_false_iff]
    exact .inr (decide_eq_false (hbelow '9' (by decide)))
  have hf := hbelow 'f' (by decide)
  have hF := hbelow 'F' (by decide)
  simp [Json.Reader.hexValue?, hdigit, hf, hF]

theorem exists_utf8EncodeChar_eq {c : Char} (h : 128 ≤ c.toNat) :
    ∃ first rest, String.utf8EncodeChar c = first :: rest ∧ 128 ≤ first.toNat := by
  have hascii : ¬ c.val.toNat ≤ 127 := by
    change ¬ c.toNat ≤ 127
    omega
  have hbyte (n : Nat) (hle : 128 ≤ n) (hlt : n < 256) : 128 ≤ (UInt8.ofNat n).toNat := by
    rw [UInt8.toNat_ofNat', Nat.mod_eq_of_lt hlt]
    exact hle
  rw [String.utf8EncodeChar]
  simp only [if_neg hascii]
  split
  . exact ⟨_, _, rfl, hbyte _ (by omega) (by omega)⟩
  . split
    . exact ⟨_, _, rfl, hbyte _ (by omega) (by omega)⟩
    . exact ⟨_, _, rfl, hbyte _ (by omega) (by omega)⟩

theorem mapM_utf8EncodeChar (c : Char) :
    (String.utf8EncodeChar c).mapM nibble? = (Json.Reader.hexValue? c).map fun digit => [digit] := by
  by_cases h : c.toNat < 128
  . have hbytes : String.utf8EncodeChar c = [UInt8.ofNat c.toNat] := by
      rw [String.utf8EncodeChar]
      simp only [if_pos (show c.val.toNat ≤ 127 from Nat.le_of_lt_succ h)]
      rfl
    have hdigit := nibble?_ascii ⟨c.toNat, h⟩
    rw [Char.ofNat_toNat] at hdigit
    rw [hbytes, List.mapM_cons, hdigit]
    cases Json.Reader.hexValue? c with
    | none => rfl
    | some digit => rfl
  . rcases exists_utf8EncodeChar_eq (not_lt.mp h) with ⟨first, rest, hbytes, hfirst⟩
    rw [hbytes, List.mapM_cons, nibble?_eq_none hfirst, hexValue?_eq_none (not_lt.mp h)]
    rfl

theorem mapM_flatMap_utf8EncodeChar (text : List Char) :
    (text.flatMap String.utf8EncodeChar).mapM nibble? = text.mapM Json.Reader.hexValue? := by
  induction text with
  | nil => rfl
  | cons c text ih =>
    rw [List.flatMap_cons, List.mapM_append, mapM_utf8EncodeChar, ih, List.mapM_cons]
    cases Json.Reader.hexValue? c with
    | none => rfl
    | some digit => rfl

theorem lt_of_nibble? {byte : UInt8} {digit : Nat} (h : nibble? byte = some digit) : digit < 16 := by
  by_cases hascii : byte.toNat < 128
  . have hall : ∀ n : Fin 128, ∀ digit ∈ nibble? (UInt8.ofNat n), digit < 16 := by decide
    have := hall ⟨byte.toNat, hascii⟩ digit
    rw [UInt8.ofNat_toNat] at this
    exact this h
  . rw [nibble?_eq_none (not_lt.mp hascii)] at h
    contradiction

def joinPairs : List Nat → Bytes
  | [] => []
  | [_] => []
  | high :: low :: digits => UInt8.ofNat (high * 16 + low) :: joinPairs digits

theorem length_joinPairs (digits : List Nat) : (joinPairs digits).length = digits.length / 2 := by
  fun_induction joinPairs digits with
  | case1 => rfl
  | case2 => simp
  | case3 high low digits ih =>
    simp only [List.length_cons, ih]
    omega

theorem foldl_joinPairs {digits : List Nat} (heven : digits.length % 2 = 0)
    (hdigits : ∀ digit ∈ digits, digit < 16) (n : Nat) :
    (joinPairs digits).foldl (fun n byte => n * 256 + byte.toNat) n
      = digits.foldl (fun n digit => n * 16 + digit) n := by
  fun_induction joinPairs digits generalizing n with
  | case1 => rfl
  | case2 => contradiction
  | case3 high low digits ih =>
    simp only [List.forall_mem_cons] at hdigits
    rcases hdigits with ⟨hhigh, hlow, hdigits⟩
    have hbyte : (UInt8.ofNat (high * 16 + low)).toNat = high * 16 + low := by
      rw [UInt8.toNat_ofNat', Nat.mod_eq_of_lt (by omega)]
    have hnext : n * 256 + (high * 16 + low) = (n * 16 + high) * 16 + low := by ring
    simp only [List.length_cons] at heven
    rw [List.foldl_cons, List.foldl_cons, List.foldl_cons, ih (by omega) hdigits, hbyte, hnext]

theorem ofBigEndian_joinPairs {digits : List Nat} (heven : digits.length % 2 = 0)
    (hdigits : ∀ digit ∈ digits, digit < 16) :
    ofBigEndian (joinPairs digits) = Nat.ofDigits 16 digits.reverse := by
  rw [ofBigEndian, ofDigits_reverse_eq_foldl, foldl_joinPairs heven hdigits]

theorem toOption_value (index : Nat) (byte : UInt8) :
    (decode.value index byte).toOption = digitValue? byte := by
  rw [decode.value]
  cases digitValue? byte with
  | none => rfl
  | some n => rfl

theorem toOption_go (index : Nat) {bytes : Bytes} (heven : bytes.length % 2 = 0) :
    (decode.go index bytes).toOption = (bytes.mapM nibble?).map joinPairs := by
  fun_induction decode.go index bytes with
  | case1 index high low rest ih =>
    simp only [List.length_cons] at heven
    simp only [toOption_bind, toOption_value, ih (by omega), List.mapM_cons, nibble?]
    cases digitValue? high with
    | none => rfl
    | some h =>
      cases digitValue? low with
      | none => rfl
      | some l =>
        cases rest.mapM nibble? with
        | none => rfl
        | some digits =>
          have hbyte : h * 16 + l = UInt8.ofNat (h.toNat * 16 + l.toNat) := by
            apply UInt8.toNat_inj.mp
            simp
          change some (_ :: _) = some (joinPairs _)
          rw [joinPairs, hbyte]
  | case2 bytes index hshort =>
    match bytes, heven, hshort with
    | [], _, _ => rfl
    | high :: low :: rest, _, hshort => exact absurd rfl (hshort high low rest)

theorem mapM_toUTF8 (text : String) :
    text.toUTF8.data.toList.mapM nibble? = text.toList.mapM Json.Reader.hexValue? := by
  rw [toList_toUTF8, mapM_flatMap_utf8EncodeChar]

theorem utf8ByteSize_eq_of_mapM {text : String} {digits : List Nat}
    (h : text.toList.mapM Json.Reader.hexValue? = some digits) : text.utf8ByteSize = text.toList.length := by
  rw [← length_of_mapM h]
  rw [← mapM_toUTF8] at h
  exact (length_of_mapM h).symm

theorem lt_of_mapM_hexValue? {text : List Char} {digits : List Nat}
    (h : text.mapM Json.Reader.hexValue? = some digits) {digit : Nat} (hdigit : digit ∈ digits) :
    digit < 16 := by
  rw [← mapM_flatMap_utf8EncodeChar, mapM_eq_some_iff] at h
  rcases exists_mem_of_forall₂ h hdigit with ⟨byte, _, hbyte⟩
  exact lt_of_nibble? hbyte

section Even

variable {text : String} (heven : text.utf8ByteSize % 2 = 0)

include heven

theorem decode_eq_ok_iff (bytes : Bytes) :
    decode text = .ok bytes
      ↔ ∃ digits, text.toList.mapM Json.Reader.hexValue? = some digits ∧ joinPairs digits = bytes := by
  have hlength : text.toUTF8.data.toList.length % 2 = 0 := heven
  rw [← toOption_eq_some_iff, decode]
  simp only [hlength]
  rw [if_neg (by decide), toOption_go 0 hlength, mapM_toUTF8, Option.map_eq_some_iff]

theorem length_of_decode {bytes : Bytes} (h : decode text = .ok bytes) :
    text.toList.length = 2 * bytes.length := by
  rcases (decode_eq_ok_iff heven bytes).mp h with ⟨digits, hdigits, rfl⟩
  have hlength := length_of_mapM hdigits
  have hsize := utf8ByteSize_eq_of_mapM hdigits
  rw [length_joinPairs]
  omega

theorem hexadecimal?_eq_some_iff (n : Nat) :
    hexadecimal? text.toList = some n ↔ ∃ bytes, decode text = .ok bytes ∧ ofBigEndian bytes = n := by
  have hvalue {digits : List Nat} (hdigits : text.toList.mapM Json.Reader.hexValue? = some digits) :
      ofBigEndian (joinPairs digits) = Nat.ofDigits 16 digits.reverse := by
    have hlength := length_of_mapM hdigits
    have hsize := utf8ByteSize_eq_of_mapM hdigits
    apply ofBigEndian_joinPairs
    . omega
    . intro digit
      exact lt_of_mapM_hexValue? hdigits
  rw [hexadecimal?, numeral?_eq_some_iff]
  constructor
  . rintro ⟨digits, hdigits, hn⟩
    exact ⟨_, (decode_eq_ok_iff heven _).mpr ⟨digits, hdigits, rfl⟩, (hvalue hdigits).trans hn⟩
  . rintro ⟨bytes, hbytes, hn⟩
    rcases (decode_eq_ok_iff heven bytes).mp hbytes with ⟨digits, hdigits, rfl⟩
    exact ⟨digits, hdigits, (hvalue hdigits).symm.trans hn⟩

end Even

end MessageAbi.Hex
