import Mathlib
import MessageAbi.Json.Reader
import MessageAbi.Proofs.Except
import MessageAbi.Proofs.List
import MessageAbi.Proofs.Numeral

/-!
This module contains which texts are numerals, of decimal or of hexadecimal digits, the numbers that they
denote, and that words and signed integers are read from exactly the decimal ones that are in range. The
text without a digit counts as a numeral of zero here.
-/

namespace MessageAbi

/--
The number that symbols denote in a base, the most significant first, if all of them are digits.
-/
def numeral? {α : Type} (base : Nat) (digit? : α → Option Nat) (symbols : List α) : Option Nat :=
  (symbols.mapM digit?).map fun digits => Nat.ofDigits base digits.reverse

def decimalDigit? (c : Char) : Option Nat :=
  if c.isDigit then some (c.toNat - '0'.toNat) else none

def decimal? (digits : List Char) : Option Nat :=
  numeral? 10 decimalDigit? digits

def hexadecimal? (digits : List Char) : Option Nat :=
  numeral? 16 Json.Reader.hexValue? digits

variable {α : Type} {base : Nat} {digit? : α → Option Nat}

theorem numeral?_eq_some_iff (symbols : List α) (n : Nat) :
    numeral? base digit? symbols = some n
      ↔ ∃ digits, symbols.mapM digit? = some digits ∧ Nat.ofDigits base digits.reverse = n := by
  rw [numeral?, Option.map_eq_some_iff]

@[simp]
theorem numeral?_nil : numeral? base digit? [] = some 0 := by
  rfl

theorem ne_nil_or_zero_of_numeral? {symbols : List α} {n : Nat}
    (h : numeral? base digit? symbols = some n) : symbols ≠ [] ∨ symbols = [] ∧ n = 0 := by
  cases symbols with
  | nil =>
    injection h with hn
    exact .inr ⟨rfl, hn.symm⟩
  | cons symbol symbols => exact .inl (List.cons_ne_nil symbol symbols)

theorem numeral?_append_singleton (symbols : List α) (symbol : α) :
    numeral? base digit? (symbols ++ [symbol])
      = (numeral? base digit? symbols).bind fun n => (digit? symbol).map (n * base + ·) := by
  simp only [numeral?, List.mapM_append, List.mapM_cons, List.mapM_nil]
  cases symbols.mapM digit? with
  | none => rfl
  | some digits =>
    cases digit? symbol with
    | none => rfl
    | some digit =>
      simp [Nat.ofDigits_cons]
      ring

theorem numeral?_eq_none_of_mem {symbols : List α} {symbol : α} (hmem : symbol ∈ symbols)
    (h : digit? symbol = none) : numeral? base digit? symbols = none := by
  rw [Option.eq_none_iff_forall_ne_some]
  intro n hn
  rw [numeral?_eq_some_iff] at hn
  rcases hn with ⟨digits, hdigits, _⟩
  rw [mapM_eq_some_iff] at hdigits
  rcases exists_mem_of_forall₂ hdigits.flip hmem with ⟨digit, _, hdigit⟩
  rw [h] at hdigit
  contradiction

theorem numeral?_zero_cons {zero : α} (hzero : digit? zero = some 0) (symbols : List α) :
    numeral? base digit? (zero :: symbols) = numeral? base digit? symbols := by
  simp only [numeral?, List.mapM_cons, hzero]
  cases symbols.mapM digit? with
  | none => rfl
  | some digits => simp [Nat.ofDigits_append]

theorem ofDigits_reverse_eq_foldl (base : Nat) (digits : List Nat) :
    Nat.ofDigits base digits.reverse = digits.foldl (fun n digit => n * base + digit) 0 := by
  rw [Nat.ofDigits_eq_foldr, List.foldr_reverse]
  simp only [Nat.cast_id, Nat.add_comm, Nat.mul_comm]

theorem ofDigits?_eq_decimal? (digits : List Char) : ofDigits? digits = decimal? digits := by
  induction digits using List.reverseRecOn with
  | nil => rfl
  | append_singleton digits c ih =>
    rw [decimal?, numeral?_append_singleton, ← decimal?, ← ih]
    cases hdigit : c.isDigit with
    | false => simp [ofDigits?, decimalDigit?, hdigit]
    | true =>
      cases hdigits : digits.all Char.isDigit with
      | false => simp [ofDigits?, decimalDigit?, hdigit, hdigits]
      | true => simp [ofDigits?, decimalDigit?, hdigit, hdigits]

theorem Word.ofDigits?_eq_some_iff (digits : List Char) (word : Word) :
    Word.ofDigits? digits = some word ↔ decimal? digits = some word.toNat := by
  rw [Word.ofDigits?, ofDigits?_eq_decimal?, Option.bind_eq_some_iff]
  constructor
  . rintro ⟨n, hn, hword⟩
    split at hword
    . next hlt =>
      injection hword with hword
      rw [hn, ← hword, Word.ofNat, BitVec.toNat_ofNat, Nat.mod_eq_of_lt hlt]
    . contradiction
  . intro hdigits
    refine ⟨word.toNat, hdigits, ?_⟩
    rw [if_pos word.isLt, Word.ofNat, BitVec.ofNat_toNat, BitVec.setWidth_eq]

namespace Int256

theorem go_eq_some_iff (negative : Bool) (digits : List Char) (x : Int256) :
    ofDecimal?.go negative digits = some x
      ↔ ∃ magnitude : Word, decimal? digits = some magnitude.toNat
        ∧ x = ⟨if negative then magnitude.negate else magnitude⟩
        ∧ (magnitude ≠ 0 → x.isNegative = negative) := by
  simp only [ofDecimal?.go, Option.bind_eq_some_iff, Word.ofDigits?_eq_some_iff]
  apply exists_congr
  intro magnitude
  apply and_congr_right
  intro _
  by_cases h : magnitude ≠ 0 ∧ (⟨if negative then magnitude.negate else magnitude⟩ : Int256).isNegative
      ≠ negative
  . rw [if_pos h]
    simp only [reduceCtorEq, false_iff, not_and]
    rintro rfl hsign
    exact h.2 (hsign h.1)
  . rw [if_neg h, Option.some.injEq, eq_comm]
    constructor
    . rintro rfl
      exact ⟨rfl, fun hne => of_not_not fun hsign => h ⟨hne, hsign⟩⟩
    . exact And.left

theorem go_false_eq_some_iff (digits : List Char) (x : Int256) :
    ofDecimal?.go false digits = some x ↔ ∃ n : Nat, decimal? digits = some n ∧ x.toInt = n := by
  rw [go_eq_some_iff]
  simp only [Bool.false_eq_true, if_false]
  constructor
  . rintro ⟨magnitude, hmagnitude, rfl, hsign⟩
    refine ⟨magnitude.toNat, hmagnitude, ?_⟩
    rw [toInt_eq_natCast_iff]
    refine ⟨?_, rfl⟩
    by_cases hzero : magnitude = 0
    . simp [hzero, isNegative]
    . exact hsign hzero
  . rintro ⟨n, hn, hx⟩
    rcases (toInt_eq_natCast_iff x n).mp hx with ⟨hsign, rfl⟩
    exact ⟨x.raw, hn, rfl, fun _ => hsign⟩

theorem go_true_eq_some_iff (digits : List Char) (x : Int256) :
    ofDecimal?.go true digits = some x
      ↔ ∃ n : Nat, decimal? digits = some n ∧ x.toInt = -(n : Int) := by
  rw [go_eq_some_iff]
  constructor
  . rintro ⟨magnitude, hmagnitude, rfl, hsign⟩
    refine ⟨magnitude.toNat, hmagnitude, ?_⟩
    rw [toInt_eq_neg_natCast_iff]
    refine ⟨?_, by simp⟩
    intro hne
    apply hsign
    rintro rfl
    exact hne rfl
  . rintro ⟨n, hn, hx⟩
    rcases (toInt_eq_neg_natCast_iff x n).mp hx with ⟨hsign, rfl⟩
    refine ⟨x.raw.negate, hn, by simp, ?_⟩
    intro hne
    apply hsign
    intro hzero
    exact hne (BitVec.eq_of_toNat_eq hzero)

theorem ofDecimal?_eq_some_iff (text : String) (x : Int256) :
    ofDecimal? text = some x
      ↔ (∃ n : Nat, decimal? text.toList = some n ∧ x.toInt = n)
        ∨ ∃ digits, ∃ n : Nat, text.toList = '-' :: digits ∧ decimal? digits = some n
          ∧ x.toInt = -(n : Int) := by
  unfold ofDecimal?
  split
  next digits heq =>
    have hnone : decimal? text.toList = none := by
      rw [heq]
      exact numeral?_eq_none_of_mem List.mem_cons_self rfl
    rw [go_true_eq_some_iff, hnone, heq]
    simp
  next hminus =>
    rw [go_false_eq_some_iff]
    rw [or_iff_left]
    rintro ⟨digits, _, heq, _⟩
    exact absurd heq (hminus digits)

end Int256

end MessageAbi
