import Mathlib
import MessageAbi.Json.Writer
import MessageAbi.Proofs.Digits

/-!
This module contains the grammar of JSON strings: which characters a text between quotes stands for. The
reader of strings accepts exactly this grammar, and what the writer puts between quotes is part of it.
-/

namespace MessageAbi.Json.Reader

def shortEscapes : List (Char × Char) :=
  [('"', '"'), ('\\', '\\'), ('/', '/'), ('b', '\x08'), ('f', '\x0c'), ('n', '\n'), ('r', '\r'),
    ('t', '\t')]

structure IsCodeUnit (digits : List Char) (unit : Nat) : Prop where
  length_eq : digits.length = 4
  value_eq : hexadecimal? digits = some unit

/--
The character that code units stand for: one outside the surrogates, or a high and a low surrogate.
-/
inductive UnicodeText : List Char → Char → Prop where
  | unit {digits : List Char} {unit : Nat} : IsCodeUnit digits unit → unit < 0xd800 ∨ 0xe000 ≤ unit →
      UnicodeText digits (Char.ofNat unit)
  | surrogates {high low : List Char} {a b : Nat} : IsCodeUnit high (0xd800 + a) → a < 0x400 →
      IsCodeUnit low (0xdc00 + b) → b < 0x400 →
      UnicodeText (high ++ '\\' :: 'u' :: low) (Char.ofNat (0x10000 + a * 0x400 + b))

inductive StringText : List Char → List Char → Prop where
  | nil : StringText [] []
  | plain {c : Char} {text cs : List Char} : 0x20 ≤ c.toNat → c ≠ '"' → c ≠ '\\' →
      StringText text cs → StringText (c :: text) (c :: cs)
  | short {name c : Char} {text cs : List Char} : (name, c) ∈ shortEscapes →
      StringText text cs → StringText ('\\' :: name :: text) (c :: cs)
  | unicode {c : Char} {escape text cs : List Char} : UnicodeText escape c →
      StringText text cs → StringText ('\\' :: 'u' :: (escape ++ text)) (c :: cs)

theorem codeUnit?_eq_some_iff (text : List Char) (unit : Nat) (rest : List Char) :
    codeUnit? text = some (unit, rest)
      ↔ ∃ digits, text = digits ++ rest ∧ IsCodeUnit digits unit := by
  constructor
  . intro h
    unfold codeUnit? at h
    split at h
    . next a b c d rest' =>
      simp only [bind, Option.bind_eq_some_iff, pure, Option.some.injEq, Prod.mk.injEq] at h
      rcases h with ⟨a', ha, b', hb, c', hc, d', hd, hunit, rfl⟩
      refine ⟨[a, b, c, d], rfl, rfl, ?_⟩
      rw [hexadecimal?, numeral?_eq_some_iff]
      refine ⟨[a', b', c', d'], by simp [ha, hb, hc, hd], ?_⟩
      rw [ofDigits_reverse_eq_foldl, ← hunit]
      simp
    . contradiction
  . rintro ⟨digits, rfl, hlength, hvalue⟩
    match digits, hlength with
    | [a, b, c, d], _ =>
      rw [hexadecimal?, numeral?_eq_some_iff] at hvalue
      rcases hvalue with ⟨values, hvalues, rfl⟩
      rw [mapM_eq_some_iff] at hvalues
      rcases hvalues with _ | ⟨ha, _ | ⟨hb, _ | ⟨hc, _ | ⟨hd, _ | _⟩⟩⟩⟩
      rw [ofDigits_reverse_eq_foldl]
      simp [codeUnit?, ha, hb, hc, hd]

theorem unicodeEscape?_of_unicodeText {escape : List Char} {c : Char} (h : UnicodeText escape c)
    (rest : List Char) : unicodeEscape? (escape ++ rest) = some (c, rest) := by
  cases h with
  | @unit digits unit hunit hrange =>
    have hread := (codeUnit?_eq_some_iff (escape ++ rest) _ _).mpr ⟨escape, rfl, hunit⟩
    have hlow : ¬ (0xdc00 ≤ unit ∧ unit < 0xe000) := by omega
    have hhigh : ¬ (0xd800 ≤ unit ∧ unit < 0xdc00) := by omega
    simp [unicodeEscape?, hread, hlow, hhigh]
  | @surrogates high low a b ha halt hb hblt =>
    have hread := (codeUnit?_eq_some_iff (high ++ '\\' :: 'u' :: (low ++ rest)) _ _).mpr
      ⟨high, rfl, ha⟩
    have hnext := (codeUnit?_eq_some_iff (low ++ rest) _ _).mpr ⟨low, rfl, hb⟩
    have hlow : ¬ (0xdc00 ≤ 0xd800 + a ∧ 0xd800 + a < 0xe000) := by omega
    have hhigh : 0xd800 ≤ 0xd800 + a ∧ 0xd800 + a < 0xdc00 := by omega
    have hrange : 0xdc00 ≤ 0xdc00 + b ∧ 0xdc00 + b < 0xe000 := by omega
    simp [unicodeEscape?, hread, hnext, hlow, hhigh, hrange]

theorem unicodeText_of_unicodeEscape? {text rest : List Char} {c : Char}
    (h : unicodeEscape? text = some (c, rest)) :
    ∃ escape, text = escape ++ rest ∧ UnicodeText escape c := by
  simp only [unicodeEscape?, bind, Option.bind_eq_some_iff, Prod.exists] at h
  rcases h with ⟨unit, behind, hunit, h⟩
  rcases (codeUnit?_eq_some_iff _ _ _).mp hunit with ⟨high, rfl, hhigh⟩
  split at h
  . contradiction
  . next hnotLow =>
    split at h
    . next hrange =>
      split at h
      . next behind =>
        simp only [Option.bind_eq_some_iff, Prod.exists] at h
        rcases h with ⟨low, rest', hlow, h⟩
        rcases (codeUnit?_eq_some_iff _ _ _).mp hlow with ⟨digits, rfl, hdigits⟩
        split at h
        . next hlowRange =>
          simp only [pure, Option.some.injEq, Prod.mk.injEq] at h
          rcases h with ⟨rfl, rfl⟩
          obtain ⟨a, rfl⟩ : ∃ a, unit = 0xd800 + a := ⟨unit - 0xd800, by omega⟩
          obtain ⟨b, rfl⟩ : ∃ b, low = 0xdc00 + b := ⟨low - 0xdc00, by omega⟩
          refine ⟨high ++ '\\' :: 'u' :: digits, by simp, ?_⟩
          rw [Nat.add_sub_cancel_left, Nat.add_sub_cancel_left]
          exact .surrogates hhigh (by omega) hdigits (by omega)
        . contradiction
      . contradiction
    . next hnotHigh =>
      simp only [pure, Option.some.injEq, Prod.mk.injEq] at h
      rcases h with ⟨rfl, rfl⟩
      exact ⟨high, rfl, .unit hhigh (by omega)⟩

theorem string?_of_stringText {text cs : List Char} (h : StringText text cs) (rest : List Char) :
    ∀ {fuel : Nat}, text.length < fuel → string? fuel (text ++ '"' :: rest) = some (cs, rest) := by
  induction h with
  | nil =>
    intro fuel hfuel
    cases fuel with
    | zero => contradiction
    | succ fuel => rfl
  | @plain c text cs hprint hquote hbackslash _ ih =>
    intro fuel hfuel
    cases fuel with
    | zero => contradiction
    | succ fuel =>
      have hmore : string? fuel (text ++ '"' :: rest) = some (cs, rest) := ih (by simpa using hfuel)
      simp [string?, hbackslash, hmore, Nat.not_lt.mpr hprint]
  | @short name c text cs hname _ ih =>
    intro fuel hfuel
    cases fuel with
    | zero => contradiction
    | succ fuel =>
      have hmore : string? fuel (text ++ '"' :: rest) = some (cs, rest) :=
        ih (by simp at hfuel; omega)
      simp only [shortEscapes, List.mem_cons, Prod.mk.injEq, List.not_mem_nil, or_false] at hname
      rcases hname with ⟨rfl, rfl⟩ | ⟨rfl, rfl⟩ | ⟨rfl, rfl⟩ | ⟨rfl, rfl⟩ | ⟨rfl, rfl⟩ | ⟨rfl, rfl⟩
        | ⟨rfl, rfl⟩ | ⟨rfl, rfl⟩ <;> simp [string?, hmore]
  | @unicode c escape text cs hescape _ ih =>
    intro fuel hfuel
    cases fuel with
    | zero => contradiction
    | succ fuel =>
      have hmore : string? fuel (text ++ '"' :: rest) = some (cs, rest) :=
        ih (by simp at hfuel; omega)
      have hread := unicodeEscape?_of_unicodeText hescape (text ++ '"' :: rest)
      simp [string?, hread, hmore]

theorem stringText_of_string? {fuel : Nat} {text cs rest : List Char}
    (h : string? fuel text = some (cs, rest)) :
    ∃ front, text = front ++ '"' :: rest ∧ StringText front cs := by
  induction fuel generalizing text cs with
  | zero => contradiction
  | succ fuel ih =>
    unfold string? at h
    split at h
    . next rest' =>
      injection h with h
      rw [Prod.mk.injEq] at h
      rcases h with ⟨rfl, rfl⟩
      exact ⟨[], rfl, .nil⟩
    . next rest' =>
      simp only [bind, Option.bind_eq_some_iff, Prod.exists, pure, Option.some.injEq,
        Prod.mk.injEq] at h
      rcases h with ⟨c, behind, hescape, cs', rest'', hmore, rfl, rfl⟩
      rcases unicodeText_of_unicodeEscape? hescape with ⟨escape, rfl, htext⟩
      rcases ih hmore with ⟨front, rfl, hfront⟩
      exact ⟨'\\' :: 'u' :: (escape ++ front), by simp, .unicode htext hfront⟩
    . next name rest' _ =>
      obtain ⟨c, hname, cs', hmore, rfl⟩ : ∃ c, (name, c) ∈ shortEscapes
          ∧ ∃ cs', string? fuel rest' = some (cs', rest) ∧ c :: cs' = cs := by
        dsimp only at h
        split at h <;> simp_all [shortEscapes, Option.bind_eq_some_iff]
      rcases ih hmore with ⟨front, rfl, hfront⟩
      exact ⟨'\\' :: name :: front, rfl, .short hname hfront⟩
    . next c rest' hquote _ hbackslash =>
      split at h
      . contradiction
      . next hplain =>
        simp only [bind, Option.bind_eq_some_iff, Prod.exists, pure, Option.some.injEq,
          Prod.mk.injEq] at h
        rcases h with ⟨cs', rest'', hmore, rfl, rfl⟩
        rcases ih hmore with ⟨front, rfl, hfront⟩
        rw [not_or, Nat.not_lt] at hplain
        exact ⟨c :: front, rfl, .plain hplain.1 hquote hplain.2 hfront⟩
    . contradiction

theorem string?_eq_some_iff (text cs rest : List Char) :
    string? (text.length + 1) text = some (cs, rest)
      ↔ ∃ front, text = front ++ '"' :: rest ∧ StringText front cs := by
  constructor
  . exact stringText_of_string?
  . rintro ⟨front, rfl, hfront⟩
    apply string?_of_stringText hfront
    rw [List.length_append]
    omega

theorem unicodeText_of_lt : ∀ n < 0x20,
    UnicodeText ['0', '0', Nat.digitChar (n / 16), Nat.digitChar (n % 16)] (Char.ofNat n) := by
  intro n hlt
  refine .unit ⟨rfl, ?_⟩ (by omega)
  revert n
  decide

theorem stringText_escape_append (c : Char) {text cs : List Char} (h : StringText text cs) :
    StringText (escape c ++ text) (c :: cs) := by
  unfold escape
  split_ifs with hself hb hf hn hr ht hcontrol
  . rcases hself with rfl | rfl
    . exact .short (by decide) h
    . exact .short (by decide) h
  . exact .short (by rw [hb]; decide) h
  . exact .short (by rw [hf]; decide) h
  . exact .short (by rw [hn]; decide) h
  . exact .short (by rw [hr]; decide) h
  . exact .short (by rw [ht]; decide) h
  . have hcode := unicodeText_of_lt c.toNat hcontrol
    rw [c.ofNat_toNat] at hcode
    exact .unicode hcode h
  . rw [not_or] at hself
    exact .plain (Nat.not_lt.mp hcontrol) hself.1 hself.2 h

theorem stringText_flatMap_escape (cs : List Char) : StringText (cs.flatMap escape) cs := by
  induction cs with
  | nil => exact .nil
  | cons c cs ih => exact stringText_escape_append c ih

end MessageAbi.Json.Reader
