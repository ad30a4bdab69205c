import Mathlib
import MessageAbi.Json.Writer
import MessageAbi.Proofs.Digits

/-!
This module contains the grammar of JSON numbers, which is that of the reader, and that the reader takes
the decimal numeral of an integer of 64 bits back to the integer.
-/

namespace MessageAbi.Json.Reader

def IsDigits (digits : List Char) : Prop :=
  digits ≠ [] ∧ ∀ c ∈ digits, c.isDigit = true

inductive FractionText : Option (List Char) → List Char → Prop where
  | none : FractionText none []
  | some {digits : List Char} : IsDigits digits → FractionText (some digits) ('.' :: digits)

inductive ExponentText : Option Int → List Char → Prop where
  | none : ExponentText none []
  | unsigned {mark : Char} {digits : List Char} : mark = 'e' ∨ mark = 'E' → IsDigits digits →
      ExponentText (some (digitsValue digits)) (mark :: digits)
  | plus {mark : Char} {digits : List Char} : mark = 'e' ∨ mark = 'E' → IsDigits digits →
      ExponentText (some (digitsValue digits)) (mark :: '+' :: digits)
  | minus {mark : Char} {digits : List Char} : mark = 'e' ∨ mark = 'E' → IsDigits digits →
      ExponentText (some (-digitsValue digits)) (mark :: '-' :: digits)

inductive MagnitudeText (whole : List Char) (fraction : Option (List Char)) (exponent : Option Int) :
    List Char → Prop where
  | intro {fractionText exponentText : List Char} : IsDigits whole →
      ¬ (whole.head? = some '0' ∧ whole.length > 1) → FractionText fraction fractionText →
      ExponentText exponent exponentText →
      MagnitudeText whole fraction exponent (whole ++ (fractionText ++ exponentText))

inductive LiteralText : Literal → List Char → Prop where
  | unsigned {whole text : List Char} {fraction : Option (List Char)} {exponent : Option Int} :
      MagnitudeText whole fraction exponent text → LiteralText ⟨false, whole, fraction, exponent⟩ text
  | minus {whole text : List Char} {fraction : Option (List Char)} {exponent : Option Int} :
      MagnitudeText whole fraction exponent text →
      LiteralText ⟨true, whole, fraction, exponent⟩ ('-' :: text)

/--
Whether a number that stands in front of a text does not go on in it.
-/
def EndsNumber (rest : List Char) : Prop :=
  ∀ c ∈ rest.head?, c.isDigit = false ∧ c ≠ '.' ∧ c ≠ 'e' ∧ c ≠ 'E'

theorem digits?_append {digits rest : List Char} (h : IsDigits digits)
    (hrest : ∀ c ∈ rest.head?, c.isDigit = false) : digits? (digits ++ rest) = some (digits, rest) := by
  have htake : (digits ++ rest).takeWhile Char.isDigit = digits := by
    rw [List.takeWhile_append_of_pos h.2]
    cases rest with
    | nil => simp
    | cons c rest => simp [hrest c rfl]
  have hdrop : (digits ++ rest).dropWhile Char.isDigit = rest := by
    rw [List.dropWhile_append_of_pos h.2]
    cases rest with
    | nil => rfl
    | cons c rest => simp [hrest c rfl]
  simp [digits?, htake, hdrop, h.1]

theorem isDigits_of_digits? {text digits rest : List Char} (h : digits? text = some (digits, rest)) :
    text = digits ++ rest ∧ IsDigits digits := by
  simp only [digits?, Option.ite_none_left_eq_some, Option.some.injEq, Prod.mk.injEq] at h
  rcases h with ⟨hempty, rfl, rfl⟩
  refine ⟨(List.takeWhile_append_dropWhile ..).symm, by simpa using hempty, ?_⟩
  intro c hc
  exact List.mem_takeWhile_imp hc

theorem append_ne_cons_of_isDigits {digits : List Char} (h : IsDigits digits) {c : Char}
    (hc : c.isDigit = false) (rest text : List Char) : digits ++ rest ≠ c :: text := by
  intro heq
  cases digits with
  | nil => exact h.1 rfl
  | cons digit digits =>
    injection heq with hdigit _
    have hdigit' := h.2 digit List.mem_cons_self
    rw [hdigit, hc] at hdigit'
    contradiction

theorem fraction?_append {fraction : Option (List Char)} {text rest : List Char}
    (h : FractionText fraction text) (hrest : ∀ c ∈ rest.head?, c.isDigit = false ∧ c ≠ '.') :
    fraction? (text ++ rest) = some (fraction, rest) := by
  cases h with
  | none =>
    rw [List.nil_append]
    unfold fraction?
    split
    . exact absurd rfl (hrest '.' rfl).2
    . rfl
  | some hdigits => simp [fraction?, digits?_append hdigits fun c hc => (hrest c hc).1]

theorem exponent?_append {digits rest : List Char} (h : IsDigits digits)
    (hrest : ∀ c ∈ rest.head?, c.isDigit = false) :
    exponent? (digits ++ rest) = some ((digitsValue digits : Int), rest)
      ∧ exponent? ('+' :: (digits ++ rest)) = some ((digitsValue digits : Int), rest)
      ∧ exponent? ('-' :: (digits ++ rest)) = some (-(digitsValue digits : Int), rest) := by
  have hread := digits?_append h hrest
  refine ⟨?_, by simp [exponent?, hread], by simp [exponent?, hread]⟩
  unfold exponent?
  split
  next text heq => exact absurd heq (append_ne_cons_of_isDigits h rfl rest text)
  next text heq => exact absurd heq (append_ne_cons_of_isDigits h rfl rest text)
  next => simp [hread]

theorem power?_append {exponent : Option Int} {text rest : List Char}
    (h : ExponentText exponent text) (hrest : EndsNumber rest) :
    power? (text ++ rest) = some (exponent, rest) := by
  cases h with
  | none =>
    rw [List.nil_append]
    unfold power?
    split
    . exact absurd rfl (hrest 'e' rfl).2.2.1
    . exact absurd rfl (hrest 'E' rfl).2.2.2
    . rfl
  | unsigned hmark hdigits =>
    have hread := (exponent?_append hdigits fun c hc => (hrest c hc).1).1
    rcases hmark with rfl | rfl <;> simp [power?, hread]
  | plus hmark hdigits =>
    have hread := (exponent?_append hdigits fun c hc => (hrest c hc).1).2.1
    rcases hmark with rfl | rfl <;> simp [power?, hread]
  | minus hmark hdigits =>
    have hread := (exponent?_append hdigits fun c hc => (hrest c hc).1).2.2
    rcases hmark with rfl | rfl <;> simp [power?, hread]

theorem head?_exponentText {exponent : Option Int} {text rest : List Char}
    (h : ExponentText exponent text) (hrest : EndsNumber rest) :
    ∀ c ∈ (text ++ rest).head?, c.isDigit = false ∧ c ≠ '.' := by
  intro c hc
  cases h with
  | none => exact ⟨(hrest c hc).1, (hrest c hc).2.1⟩
  | unsigned hmark _ | plus hmark _ | minus hmark _ =>
    obtain rfl : _ = c := Option.some.inj hc
    rcases hmark with rfl | rfl <;> decide

theorem magnitude?_append {whole : List Char} {fraction : Option (List Char)} {exponent : Option Int}
    {text rest : List Char} (isNegative : Bool) (h : MagnitudeText whole fraction exponent text)
    (hrest : EndsNumber rest) :
    magnitude? isNegative (text ++ rest) = some (⟨isNegative, whole, fraction, exponent⟩, rest) := by
  rcases h with ⟨hwhole, hzero, hfraction, hexponent⟩
  next fractionText exponentText =>
  have hbehind := head?_exponentText hexponent hrest
  have hdigits : digits? (whole ++ (fractionText ++ (exponentText ++ rest)))
      = some (whole, fractionText ++ (exponentText ++ rest)) := by
    apply digits?_append hwhole
    cases hfraction with
    | none => exact fun c hc => (hbehind c hc).1
    | some _ =>
      intro c hc
      obtain rfl : '.' = c := Option.some.inj hc
      rfl
  rw [List.append_assoc, List.append_assoc]
  simp [magnitude?, hdigits, hzero, fraction?_append hfraction hbehind, power?_append hexponent hrest]

theorem literal?_append {literal : Literal} {text rest : List Char} (h : LiteralText literal text)
    (hrest : EndsNumber rest) : literal? (text ++ rest) = some (literal, rest) := by
  cases h with
  | unsigned htext =>
    have hread := magnitude?_append false htext hrest
    rcases htext with ⟨hwhole, _, _, _⟩
    unfold literal?
    split
    next text heq =>
      rw [List.append_assoc] at heq
      exact absurd heq (append_ne_cons_of_isDigits hwhole rfl _ text)
    next => exact hread
  | minus htext => exact magnitude?_append true htext hrest

theorem fractionText_of_fraction? {fraction : Option (List Char)} {text rest : List Char}
    (h : fraction? text = some (fraction, rest)) :
    ∃ front, text = front ++ rest ∧ FractionText fraction front := by
  unfold fraction? at h
  split at h
  . simp only [Option.map_eq_some_iff, Prod.exists, Prod.mk.injEq] at h
    rcases h with ⟨digits, rest', hread, rfl, rfl⟩
    rcases isDigits_of_digits? hread with ⟨rfl, hdigits⟩
    exact ⟨'.' :: digits, rfl, .some hdigits⟩
  . simp only [Option.some.injEq, Prod.mk.injEq] at h
    rcases h with ⟨rfl, rfl⟩
    exact ⟨[], rfl, .none⟩

theorem exponentText_of_exponent? {mark : Char} (hmark : mark = 'e' ∨ mark = 'E')
    {exponent : Int} {text rest : List Char} (h : exponent? text = some (exponent, rest)) :
    ∃ front, text = front ++ rest ∧ ExponentText (some exponent) (mark :: front) := by
  unfold exponent? at h
  split at h
  all_goals
    simp only [Option.map_eq_some_iff, Prod.exists, Prod.mk.injEq] at h
    rcases h with ⟨digits, rest', hread, rfl, rfl⟩
    rcases isDigits_of_digits? hread with ⟨rfl, hdigits⟩
  . exact ⟨'-' :: digits, rfl, .minus hmark hdigits⟩
  . exact ⟨'+' :: digits, rfl, .plus hmark hdigits⟩
  . exact ⟨digits, rfl, .unsigned hmark hdigits⟩

theorem exponentText_of_power? {exponent : Option Int} {text rest : List Char}
    (h : power? text = some (exponent, rest)) :
    ∃ front, text = front ++ rest ∧ ExponentText exponent front := by
  unfold power? at h
  split at h
  . simp only [Option.map_eq_some_iff, Prod.exists, Prod.mk.injEq] at h
    rcases h with ⟨n, rest', hread, rfl, rfl⟩
    rcases exponentText_of_exponent? (.inl rfl) hread with ⟨front, rfl, hfront⟩
    exact ⟨'e' :: front, rfl, hfront⟩
  . simp only [Option.map_eq_some_iff, Prod.exists, Prod.mk.injEq] at h
    rcases h with ⟨n, rest', hread, rfl, rfl⟩
    rcases exponentText_of_exponent? (.inr rfl) hread with ⟨front, rfl, hfront⟩
    exact ⟨'E' :: front, rfl, hfront⟩
  . simp only [Option.some.injEq, Prod.mk.injEq] at h
    rcases h with ⟨rfl, rfl⟩
    exact ⟨[], rfl, .none⟩

theorem magnitudeText_of_magnitude? {isNegative : Bool} {literal : Literal} {text rest : List Char}
    (h : magnitude? isNegative text = some (literal, rest)) :
    literal.isNegative = isNegative ∧ ∃ front, text = front ++ rest
      ∧ MagnitudeText literal.whole literal.fraction literal.exponent front := by
  simp only [magnitude?, bind, Option.bind_eq_some_iff, Prod.exists, pure,
    Option.ite_none_left_eq_some, Option.some.injEq, Prod.mk.injEq] at h
  rcases h with ⟨whole, _, hdigits, hzero, fraction, _, hpoint, exponent, _, hmark, rfl, rfl⟩
  rcases isDigits_of_digits? hdigits with ⟨rfl, hwhole⟩
  rcases fractionText_of_fraction? hpoint with ⟨fractionText, rfl, hfraction⟩
  rcases exponentText_of_power? hmark with ⟨exponentText, rfl, hexponent⟩
  refine ⟨rfl, whole ++ (fractionText ++ exponentText), by simp, ?_⟩
  exact .intro hwhole hzero hfraction hexponent

theorem literalText_of_literal? {literal : Literal} {text rest : List Char}
    (h : literal? text = some (literal, rest)) :
    ∃ front, text = front ++ rest ∧ LiteralText literal front := by
  rcases literal with ⟨isNegative, whole, fraction, exponent⟩
  unfold literal? at h
  split at h
  . rcases magnitudeText_of_magnitude? h with ⟨rfl, front, rfl, hfront⟩
    exact ⟨'-' :: front, rfl, .minus hfront⟩
  . rcases magnitudeText_of_magnitude? h with ⟨rfl, front, rfl, hfront⟩
    exact ⟨front, rfl, .unsigned hfront⟩

inductive NumberText : Number → List Char → Prop where
  | intro {literal : Literal} {number : Number} {text : List Char} : LiteralText literal text →
      literal.number? text = some number → NumberText number text

theorem number?_append {number : Number} {text rest : List Char} (h : NumberText number text)
    (hrest : EndsNumber rest) : number? (text ++ rest) = some (number, rest) := by
  rcases h with ⟨htext, hnumber⟩
  simp [number?, literal?_append htext hrest, hnumber]

theorem numberText_of_number? {number : Number} {text rest : List Char}
    (h : number? text = some (number, rest)) :
    ∃ front, text = front ++ rest ∧ NumberText number front := by
  simp only [number?, bind, Option.bind_eq_some_iff, Prod.exists, pure, Option.some.injEq,
    Prod.mk.injEq] at h
  rcases h with ⟨literal, rest', hliteral, _, hnumber, rfl, rfl⟩
  rcases literalText_of_literal? hliteral with ⟨front, rfl, htext⟩
  have htake : (front ++ rest').length - rest'.length = front.length := by
    rw [List.length_append, Nat.add_sub_cancel_right]
  rw [htake, List.take_left] at hnumber
  exact ⟨front, rfl, .intro htext hnumber⟩

theorem head?_toDigits_ne_zero {n : Nat} (h : 0 < n) : (Nat.toDigits 10 n).head? ≠ some '0' := by
  induction n using Nat.strongRecOn with
  | ind n ih =>
    by_cases hlt : n < 10
    . rw [Nat.toDigits_of_lt_base hlt]
      interval_cases n <;> decide
    . rw [Nat.toDigits_of_base_le (by decide) (by omega),
        List.head?_append_of_ne_nil _ Nat.toDigits_ne_nil]
      exact ih (n / 10) (by omega) (by omega)

theorem magnitudeText_toDigits (n : Nat) :
    MagnitudeText (Nat.toDigits 10 n) none none (Nat.toDigits 10 n) := by
  have hdigits : IsDigits (Nat.toDigits 10 n) :=
    ⟨Nat.toDigits_ne_nil, fun c => Nat.isDigit_of_mem_toDigits (by decide) (by decide)⟩
  have hzero : ¬ ((Nat.toDigits 10 n).head? = some '0' ∧ (Nat.toDigits 10 n).length > 1) := by
    rintro ⟨hhead, hlength⟩
    rcases Nat.eq_zero_or_pos n with rfl | hpos
    . simp at hlength
    . exact head?_toDigits_ne_zero hpos hhead
  simpa using MagnitudeText.intro hdigits hzero .none .none

theorem digitsValue_toDigits (n : Nat) : digitsValue (Nat.toDigits 10 n) = n := by
  have hvalue : Nat.ofDigitChars 10 (Nat.toDigits 10 n) 0 = n :=
    Nat.ofDigitChars_toDigits (by decide) (by decide)
  rw [Nat.ofDigitChars_eq_foldl] at hvalue
  simpa [digitsValue, Nat.mul_comm] using hvalue

theorem numberText_natCast {n : Nat} (h : n < 2 ^ 64) :
    NumberText (.integer n) (Nat.toDigits 10 n) := by
  apply NumberText.intro (.unsigned (magnitudeText_toDigits n))
  have hrange : n < Nat.pow 2 64 := h
  simp [Literal.number?, digitsValue_toDigits, hrange]

theorem numberText_neg {n : Nat} (hpos : 0 < n) (h : n ≤ 2 ^ 63) :
    NumberText (.integer (-n)) ('-' :: Nat.toDigits 10 n) := by
  apply NumberText.intro (.minus (magnitudeText_toDigits n))
  have hrange : n ≤ Nat.pow 2 63 := h
  simp [Literal.number?, digitsValue_toDigits, hrange, hpos]

theorem numberText_text_integer {n : Int} (hmin : -2 ^ 63 ≤ n) (hlt : n < 2 ^ 64) :
    NumberText (.integer n) (Number.integer n).text.toList := by
  rw [Number.text, Int.toString_eq_repr, Int.repr_eq_if]
  split
  . obtain ⟨m, rfl⟩ : ∃ m : Nat, n = m := ⟨n.toNat, by omega⟩
    rw [Nat.toList_repr]
    exact numberText_natCast (by exact_mod_cast hlt)
  . obtain ⟨m, rfl⟩ : ∃ m : Nat, n = -m := ⟨(-n).toNat, by omega⟩
    rw [String.toList_append, Nat.toList_repr, Int.neg_neg, Int.toNat_natCast]
    exact numberText_neg (by omega) (by omega)

end MessageAbi.Json.Reader
