import Mathlib
import MessageAbi.Proofs.Hex
import MessageAbi.Proofs.JsonArguments.Reading

/-!
This module contains which strings are read as integers: the integer literals whose numbers are in the
range of the type. Besides these, a string that ends where its first digit should stand is read as zero.
-/

namespace MessageAbi.JsonArguments

inductive UnsignedLiteral : List Char → Nat → Prop where
  | decimal {digits : List Char} {n : Nat} : digits ≠ [] → decimal? digits = some n →
    UnsignedLiteral digits n
  | hexadecimal {digits : List Char} {n : Nat} : digits ≠ [] → digits.length ≤ 64 →
    hexadecimal? digits = some n → UnsignedLiteral ('0' :: 'x' :: digits) n

/--
The texts that denote a signed number. Hexadecimal digits have no sign and stay below the sign bit.
-/
inductive SignedLiteral : List Char → Int → Prop where
  | decimal {digits : List Char} {n : Nat} : digits ≠ [] → decimal? digits = some n →
    SignedLiteral digits n
  | negative {digits : List Char} {n : Nat} : digits ≠ [] → decimal? digits = some n →
    SignedLiteral ('-' :: digits) (-(n : Int))
  | hexadecimal {digits : List Char} {n : Nat} : digits ≠ [] → digits.length ≤ 64 →
    hexadecimal? digits = some n → n < 2 ^ 255 → SignedLiteral ('0' :: 'x' :: digits) n

variable {path : JsonPath}

theorem decimal?_hexadecimal (digits : List Char) : decimal? ('0' :: 'x' :: digits) = none :=
  numeral?_eq_none_of_mem (List.mem_cons_of_mem _ List.mem_cons_self) rfl

theorem readHexWord_of_even {digits : String} (heven : digits.utf8ByteSize % 2 = 0) (word : Word) :
    readHexWord path digits = .ok word
      ↔ digits.toList.length ≤ 64 ∧ hexadecimal? digits.toList = some word.toNat := by
  rw [readHexWord, Hex.hexadecimal?_eq_some_iff heven]
  simp only [heven, Nat.zero_ne_one, if_false]
  cases hdecode : Hex.decode digits with
  | error error => simp [invalid]
  | ok bytes =>
    have hlength := Hex.length_of_decode heven hdecode
    simp only [Except.ok.injEq, exists_eq_left']
    split
    next hgt =>
      have hlong : ¬ digits.toList.length ≤ 64 := by
        rw [Word.size] at hgt
        omega
      simp [invalid, hlong]
    next hle =>
      have hshort : digits.toList.length ≤ 64 := by
        rw [Word.size] at hle
        omega
      rw [Except.ok.injEq, ← BitVec.toNat_inj, Word.toNat_ofBytes (not_lt.mp hle)]
      rw [and_iff_right hshort]

theorem readHexWord_eq_ok_iff (digits : String) (word : Word) :
    readHexWord path digits = .ok word
      ↔ digits.toList.length ≤ 64 ∧ hexadecimal? digits.toList = some word.toNat := by
  rcases Nat.mod_two_eq_zero_or_one digits.utf8ByteSize with heven | hodd
  . exact readHexWord_of_even heven word
  . have hsize : ("0" ++ digits).utf8ByteSize = digits.utf8ByteSize + 1 := by
      rw [String.utf8ByteSize_append, Nat.add_comm]
      rfl
    have hlist : ("0" ++ digits).toList = '0' :: digits.toList := by
      rw [String.toList_append]
      rfl
    have heven : ("0" ++ digits).utf8ByteSize % 2 = 0 := by omega
    have hpadded : readHexWord path digits = readHexWord path ("0" ++ digits) := by
      rw [readHexWord, readHexWord]
      simp only [hodd, heven]
      rfl
    have hzero : hexadecimal? ('0' :: digits.toList) = hexadecimal? digits.toList := by
      apply numeral?_zero_cons
      rfl
    rw [hpadded, readHexWord_of_even heven, hlist, hzero, List.length_cons]
    apply and_congr_left
    intro hdigits
    rcases (numeral?_eq_some_iff _ _).mp hdigits with ⟨values, hvalues, _⟩
    have := Hex.utf8ByteSize_eq_of_mapM hvalues
    omega

theorem readWord_string_eq_ok_iff (text : String) (word : Word) :
    readWord path (.string text) = .ok word
      ↔ decimal? text.toList = some word.toNat ∨ ∃ digits, text.toList = '0' :: 'x' :: digits
        ∧ digits.length ≤ 64 ∧ hexadecimal? digits = some word.toNat := by
  rw [readWord]
  split
  next digits hdigits =>
    rw [hexDigits?_eq_some_iff] at hdigits
    rw [readHexWord_eq_ok_iff, hdigits, decimal?_hexadecimal]
    simp
  next hnone =>
    rw [or_iff_left, ← Word.ofDigits?_eq_some_iff]
    . cases Word.ofDigits? text.toList with
      | none => simp [invalid]
      | some n => simp
    . rintro ⟨digits, hdigits, _⟩
      exact (hexDigits?_eq_none_iff text).mp hnone digits hdigits

theorem readInt256_string_eq_ok_iff (text : String) (n : Int256) :
    readInt256 path (.string text) = .ok n
      ↔ Int256.ofDecimal? text = some n ∨ ∃ digits, ∃ magnitude : Nat,
        text.toList = '0' :: 'x' :: digits ∧ digits.length ≤ 64
          ∧ hexadecimal? digits = some magnitude ∧ n.toInt = magnitude := by
  rw [readInt256]
  split
  next digits hdigits =>
    rw [hexDigits?_eq_some_iff] at hdigits
    have hdecimal : Int256.ofDecimal? text ≠ some n := by
      rw [ne_eq, Int256.ofDecimal?_eq_some_iff, hdigits, decimal?_hexadecimal]
      simp
    rw [or_iff_right hdecimal, bind_eq_ok_iff]
    simp only [readHexWord_eq_ok_iff, hdigits, List.cons.injEq, true_and]
    constructor
    . rintro ⟨word, ⟨hlength, hword⟩, hn⟩
      split at hn
      . contradiction
      next hsign =>
        injection hn with hn
        refine ⟨_, word.toNat, rfl, hlength, hword, ?_⟩
        rw [Int256.toInt_eq_natCast_iff, ← hn]
        exact ⟨Bool.eq_false_iff.mpr hsign, rfl⟩
    . rintro ⟨_, magnitude, rfl, hlength, hmagnitude, hn⟩
      rcases (Int256.toInt_eq_natCast_iff n magnitude).mp hn with ⟨hsign, rfl⟩
      refine ⟨n.raw, ⟨hlength, hmagnitude⟩, ?_⟩
      rw [Int256.isNegative] at hsign
      rw [hsign]
      rfl
  next hnone =>
    rw [or_iff_left]
    . cases Int256.ofDecimal? text with
      | none => simp [invalid]
      | some n => simp
    . rintro ⟨digits, _, hdigits, _⟩
      exact (hexDigits?_eq_none_iff text).mp hnone digits hdigits

theorem unsignedLiteral_or_iff (text : List Char) (n : Nat) :
    (UnsignedLiteral text n ∨ text ∈ [[], ['0', 'x']] ∧ n = 0)
      ↔ decimal? text = some n ∨ ∃ digits, text = '0' :: 'x' :: digits
        ∧ digits.length ≤ 64 ∧ hexadecimal? digits = some n := by
  constructor
  . rintro (hliteral | ⟨hmem, rfl⟩)
    . cases hliteral with
      | decimal _ hdecimal => exact .inl hdecimal
      | hexadecimal _ hlength hhexadecimal => exact .inr ⟨_, rfl, hlength, hhexadecimal⟩
    . rw [List.mem_pair] at hmem
      rcases hmem with rfl | rfl
      . exact .inl rfl
      . exact .inr ⟨[], rfl, by decide, rfl⟩
  . rintro (hdecimal | ⟨digits, rfl, hlength, hhexadecimal⟩)
    . rcases ne_nil_or_zero_of_numeral? hdecimal with hne | ⟨rfl, rfl⟩
      . exact .inl (.decimal hne hdecimal)
      . exact .inr ⟨by decide, rfl⟩
    . rcases ne_nil_or_zero_of_numeral? hhexadecimal with hne | ⟨rfl, rfl⟩
      . exact .inl (.hexadecimal hne hlength hhexadecimal)
      . exact .inr ⟨by decide, rfl⟩

theorem signedLiteral_or_iff (text : List Char) (n : Int) (hn : n < 2 ^ 255) :
    (SignedLiteral text n ∨ text ∈ [[], ['-'], ['0', 'x']] ∧ n = 0)
      ↔ ((∃ magnitude : Nat, decimal? text = some magnitude ∧ n = magnitude)
          ∨ ∃ digits, ∃ magnitude : Nat, text = '-' :: digits ∧ decimal? digits = some magnitude
            ∧ n = -(magnitude : Int))
        ∨ ∃ digits, ∃ magnitude : Nat, text = '0' :: 'x' :: digits ∧ digits.length ≤ 64
          ∧ hexadecimal? digits = some magnitude ∧ n = magnitude := by
  constructor
  . rintro (hliteral | ⟨hmem, rfl⟩)
    . cases hliteral with
      | decimal _ hdecimal => exact .inl (.inl ⟨_, hdecimal, rfl⟩)
      | negative _ hdecimal => exact .inl (.inr ⟨_, _, rfl, hdecimal, rfl⟩)
      | hexadecimal _ hlength hhexadecimal _ => exact .inr ⟨_, _, rfl, hlength, hhexadecimal, rfl⟩
    . simp only [List.mem_cons, List.not_mem_nil, or_false] at hmem
      rcases hmem with rfl | rfl | rfl
      . exact .inl (.inl ⟨0, rfl, rfl⟩)
      . exact .inl (.inr ⟨[], 0, rfl, rfl, rfl⟩)
      . exact .inr ⟨[], 0, rfl, by decide, rfl, rfl⟩
  . rintro ((⟨magnitude, hdecimal, rfl⟩ | ⟨digits, magnitude, rfl, hdecimal, rfl⟩)
      | ⟨digits, magnitude, rfl, hlength, hhexadecimal, rfl⟩)
    . rcases ne_nil_or_zero_of_numeral? hdecimal with hne | ⟨rfl, rfl⟩
      . exact .inl (.decimal hne hdecimal)
      . exact .inr ⟨by decide, rfl⟩
    . rcases ne_nil_or_zero_of_numeral? hdecimal with hne | ⟨rfl, rfl⟩
      . exact .inl (.negative hne hdecimal)
      . exact .inr ⟨by decide, rfl⟩
    . rcases ne_nil_or_zero_of_numeral? hhexadecimal with hne | ⟨rfl, rfl⟩
      . exact .inl (.hexadecimal hne hlength hhexadecimal (by omega))
      . exact .inr ⟨by decide, rfl⟩

theorem toList_mem_map_iff (text : String) (texts : List String) :
    text.toList ∈ texts.map String.toList ↔ text ∈ texts :=
  List.mem_map_of_injective fun _ _ => String.toList_injective

theorem read_integer_literals (bits : Nat) (text : String) :
    (∀ n : Word, readValue (.uint bits) (.string text) = .ok (.uint n)
      ↔ (UnsignedLiteral text.toList n.toNat ∨ text ∈ ["", "0x"] ∧ n.toNat = 0) ∧ n.toNat < 2 ^ bits)
    ∧ ∀ n : Int256, readValue (.int bits) (.string text) = .ok (.int n)
      ↔ (SignedLiteral text.toList n.toInt ∨ text ∈ ["", "-", "0x"] ∧ n.toInt = 0)
        ∧ 0 < bits ∧ -2 ^ (bits - 1) ≤ n.toInt ∧ n.toInt < 2 ^ (bits - 1) := by
  constructor
  . intro n
    have hread : readWord [] (.string text) = .ok n
        ↔ UnsignedLiteral text.toList n.toNat ∨ text ∈ ["", "0x"] ∧ n.toNat = 0 := by
      rw [readWord_string_eq_ok_iff, ← unsignedLiteral_or_iff, ← toList_mem_map_iff]
      rfl
    rw [readValue, readAt_uint_eq_ok_iff, ← hread]
    simp
  . intro n
    have hread : readInt256 [] (.string text) = .ok n
        ↔ SignedLiteral text.toList n.toInt ∨ text ∈ ["", "-", "0x"] ∧ n.toInt = 0 := by
      rw [readInt256_string_eq_ok_iff, Int256.ofDecimal?_eq_some_iff, ← signedLiteral_or_iff,
        ← toList_mem_map_iff]
      . rfl
      . exact BitVec.toInt_lt
    rw [readValue, readAt_int_eq_ok_iff, ← hread, ← Int256.fits_iff]
    simp

theorem read_digitless_as_zero :
    (readValue (.uint 256) (.string "") = .ok (.uint 0) ∧ ¬ UnsignedLiteral "".toList 0)
    ∧ (readValue (.uint 256) (.string "0x") = .ok (.uint 0) ∧ ¬ UnsignedLiteral "0x".toList 0)
    ∧ readValue (.int 8) (.string "-") = .ok (.int ⟨0⟩) ∧ ¬ SignedLiteral "-".toList 0 := by
  have hempty : readWord [] (.string "") = .ok 0 := by decide
  have hprefix : readWord [] (.string "0x") = .ok 0 := by decide
  have hsign : readInt256 [] (.string "-") = .ok ⟨0⟩ := by decide
  refine ⟨⟨(readAt_uint_eq_ok_iff 256).mpr ⟨0, hempty, by decide, rfl⟩, ?_⟩,
    ⟨(readAt_uint_eq_ok_iff 256).mpr ⟨0, hprefix, by decide, rfl⟩, ?_⟩,
    (readAt_int_eq_ok_iff 8).mpr ⟨⟨0⟩, hsign, by decide, rfl⟩, ?_⟩
  . intro h
    rw [String.toList_empty] at h
    cases h with
    | decimal hne _ => exact hne rfl
  . intro h
    have hdigits : "0x".toList = ['0', 'x'] := rfl
    rw [hdigits] at h
    cases h with
    | decimal _ hdecimal => simp [decimal?_hexadecimal] at hdecimal
    | hexadecimal hne _ _ => exact hne rfl
  . intro h
    have hdigits : "-".toList = ['-'] := rfl
    rw [hdigits] at h
    generalize (0 : Int) = n at h
    cases h with
    | decimal _ hdecimal => contradiction
    | negative hne _ => exact hne rfl

end MessageAbi.JsonArguments
