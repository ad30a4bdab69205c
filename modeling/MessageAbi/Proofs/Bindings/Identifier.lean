import Mathlib
import MessageAbi.Bindings.Identifier
import MessageAbi.Proofs.Schema.Identifier
import MessageAbi.Proofs.Text.CaseWords

/-!
This module contains that every name of a schema has identifiers, for a type and for a field or a
method, and that names with one method have one type.
-/

namespace MessageAbi.Bindings

structure Plain (text : List Char) : Prop where
  head : ∃ c rest, text = c :: rest ∧ c.isAlpha = true
  chars : ∀ c ∈ text, c.isAlphanum = true ∨ c = '_'
  last : text.getLast? ≠ some '_'

theorem Plain.isIdentifier {text : List Char} (h : Plain text) : Text.isIdentifier text = true := by
  have hascii : ∀ c ∈ text, c.toNat < 0x80 := by
    intro c hc
    cases h.chars c hc with
    | inl halphanum => exact Text.lt_of_isAlphanum halphanum
    | inr heq => rw [heq]; decide
  rcases h.head with ⟨c, rest, rfl, hc⟩
  simp only [Text.isIdentifier, Bool.and_eq_true, List.all_eq_true]
  constructor
  . rw [Text.isIdentifierStart, if_pos (hascii c List.mem_cons_self), hc, Bool.true_or]
  . intro d hd
    rw [Text.isIdentifierContinue, if_pos (hascii d (List.mem_cons_of_mem _ hd)), Bool.or_eq_true,
      beq_iff_eq]
    exact h.chars d (List.mem_cons_of_mem _ hd)

/--
The name that an identifier was made from.
-/
def unescape (text : List Char) : List Char :=
  if '#' ∈ text then text.drop 2
  else if text.getLast? = some '_' then text.dropLast
  else text

section Escaping

variable {name other ident : String}

theorem exists_toIdentifier (h : Plain name.toList) : ∃ ident, toIdentifier name = .ok ident := by
  unfold toIdentifier
  split
  . exact ⟨_, rfl⟩
  . split
    . exact ⟨_, rfl⟩
    . rw [if_pos h.isIdentifier]
      exact ⟨_, rfl⟩

theorem unescape_toIdentifier (h : Plain name.toList) (hident : toIdentifier name = .ok ident) :
    unescape ident.toList = name.toList := by
  have hnotMem : '#' ∉ name.toList := by
    intro hmem
    have := h.chars _ hmem
    simp at this
  unfold toIdentifier at hident
  split at hident
  next =>
    injection hident with hident
    rw [← hident, unescape, String.toList_append]
    simp [hnotMem]
  next =>
    split at hident
    next =>
      injection hident with hident
      rw [← hident, unescape, String.toList_append]
      simp
    next =>
      rw [if_pos h.isIdentifier] at hident
      injection hident with hident
      rw [← hident, unescape, if_neg hnotMem, if_neg h.last]

theorem eq_of_toIdentifier_eq (h : Plain name.toList) (hother : Plain other.toList)
    (heq : toIdentifier name = toIdentifier other) : name = other := by
  rcases exists_toIdentifier h with ⟨ident, hident⟩
  rw [← String.toList_inj, ← unescape_toIdentifier h hident]
  exact unescape_toIdentifier hother (heq ▸ hident)

end Escaping

section Cases

variable {name other : String} (h : Schema.checkIdentifier name = .ok ())

theorem plain_intercalate {words : List (List Char)} (hne : words ≠ [])
    (hwords : ∀ word ∈ words, word ≠ [] ∧ ∀ c ∈ word, c.isAlphanum = true) :
    (∀ c ∈ List.intercalate ['_'] words, c.isAlphanum = true ∨ c = '_')
      ∧ ∃ c, (List.intercalate ['_'] words).getLast? = some c ∧ c.isAlphanum = true := by
  induction words with
  | nil => contradiction
  | cons word words ih =>
    rcases List.forall_mem_cons.mp hwords with ⟨⟨hword, hchars⟩, hrest⟩
    cases words with
    | nil =>
      rw [List.intercalate_singleton]
      refine ⟨fun c hc => .inl (hchars c hc), word.getLast hword, ?_, ?_⟩
      . exact List.getLast?_eq_some_getLast hword
      . exact hchars _ (List.getLast_mem hword)
    | cons next rest =>
      rcases ih (by simp) hrest with ⟨hall, c, hlast, hc⟩
      rw [List.intercalate_cons_cons]
      refine ⟨?_, c, ?_, hc⟩
      . intro d hd
        simp only [List.mem_append, List.mem_singleton] at hd
        rcases hd with (hd | rfl) | hd
        . exact .inl (hchars d hd)
        . exact .inr rfl
        . exact hall d hd
      . rw [List.getLast?_append, hlast]
        rfl

include h

theorem ne_nil_of_checkIdentifier : name.toList ≠ [] := by
  rcases (Schema.checkIdentifier_eq_ok_iff name).mp h with ⟨_, _, htext, _⟩
  rw [htext]
  exact List.cons_ne_nil _ _

theorem exists_lowerWords_eq : ∃ c word words, Text.lowerWords name = (c :: word) :: words
    ∧ c.isAlpha = true := by
  rcases (Schema.checkIdentifier_eq_ok_iff name).mp h with ⟨first, rest, htext, hfirst, _⟩
  have hflatten := Text.flatten_caseWords (Schema.isAlphanum_of_checkIdentifier h)
  have hne := Text.ne_nil_of_mem_caseWords name
  rw [htext] at hflatten
  unfold Text.lowerWords
  cases hwords : Text.caseWords name with
  | nil =>
    rw [hwords] at hflatten
    contradiction
  | cons word words =>
    rw [hwords] at hflatten hne
    cases word with
    | nil => exact absurd rfl (hne [] List.mem_cons_self)
    | cons c word =>
      injection hflatten with hc _
      exact ⟨c.toLower, _, _, rfl, (Text.isAlpha_changeCase (hc ▸ hfirst)).1⟩

theorem plain_snakeCase : Plain (Text.snakeCase name).toList := by
  have hname := Schema.isAlphanum_of_checkIdentifier h
  rcases exists_lowerWords_eq h with ⟨c, word, words, hwords, hc⟩
  have hne : Text.lowerWords name ≠ [] := by
    rw [hwords]
    exact List.cons_ne_nil _ _
  rcases plain_intercalate hne fun word hword => ⟨Text.ne_nil_of_mem_lowerWords name word hword,
    Text.isAlphanum_of_mem_lowerWords hname word hword⟩ with ⟨hchars, d, hlast, hd⟩
  rw [Text.toList_snakeCase hname]
  refine ⟨?_, hchars, ?_⟩
  . rw [hwords]
    cases words with
    | nil => exact ⟨c, word, List.intercalate_singleton, hc⟩
    | cons next rest =>
      rw [List.intercalate_cons_cons]
      exact ⟨c, _, rfl, hc⟩
  . rw [hlast]
    rintro ⟨⟩
    contradiction

theorem plain_pascalCase : Plain (Text.pascalCase name).toList := by
  have hname := Schema.isAlphanum_of_checkIdentifier h
  have hchars : ∀ c ∈ (Text.pascalCase name).toList, c.isAlphanum = true := by
    intro c hc
    rw [Text.toList_pascalCase hname] at hc
    rcases List.mem_flatMap.mp hc with ⟨word, hword, hc⟩
    have hall := Text.isAlphanum_of_mem_lowerWords hname word hword
    cases word with
    | nil => contradiction
    | cons first rest =>
      rcases List.forall_mem_cons.mp hall with ⟨hfirst, hrest⟩
      cases List.mem_cons.mp hc with
      | inl heq => exact heq ▸ (Text.isAlphanum_changeCase hfirst).2
      | inr hmem => exact hrest c hmem
  refine ⟨?_, fun c hc => .inl (hchars c hc), ?_⟩
  . rcases exists_lowerWords_eq h with ⟨c, word, words, hwords, hc⟩
    rw [Text.toList_pascalCase hname, hwords]
    exact ⟨c.toUpper, _, rfl, (Text.isAlpha_changeCase hc).2⟩
  . intro hlast
    have := hchars '_' (List.mem_of_getLast? hlast)
    contradiction

theorem pascalCase_eq_of_toIdentifier_snakeCase_eq
    (hother : Schema.checkIdentifier other = .ok ())
    (heq : toIdentifier (Text.snakeCase name) = toIdentifier (Text.snakeCase other)) :
    Text.pascalCase name = Text.pascalCase other := by
  apply Text.pascalCase_eq_of_snakeCase_eq (Schema.isAlphanum_of_checkIdentifier h)
    (Schema.isAlphanum_of_checkIdentifier hother) (ne_nil_of_checkIdentifier h)
    (ne_nil_of_checkIdentifier hother)
  exact eq_of_toIdentifier_eq (plain_snakeCase h) (plain_snakeCase hother) heq

end Cases

end MessageAbi.Bindings
