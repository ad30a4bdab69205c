import Mathlib
import MessageAbi.Proofs.Schema.Identifier
import MessageAbi.Proofs.Text.CaseWords
import MessageAbi.Text.Blank

/-!
This module contains the grammar of type expressions: a text is read exactly if it is a word, or a word and
one array suffix, and a type expression is read back from its text.
-/

namespace MessageAbi.Schema

def IsLetter (c : Char) : Prop :=
  'A' ≤ c ∧ c ≤ 'Z' ∨ 'a' ≤ c ∧ c ≤ 'z'

def IsDigit (c : Char) : Prop :=
  '0' ≤ c ∧ c ≤ '9'

/--
A letter with letters and digits behind it that is no reserved word.
-/
structure IsWord (text : String) : Prop where
  letters : ∃ first rest, text.toList = first :: rest ∧ IsLetter first
    ∧ ∀ c ∈ rest, IsLetter c ∨ IsDigit c
  free : text ∉ reservedWords

theorem isAlpha_eq_true_iff (c : Char) : c.isAlpha = true ↔ IsLetter c := by
  simp only [Char.isAlpha, Char.isUpper, Char.isLower, Bool.or_eq_true, decide_eq_true_eq, IsLetter,
    Char.le_def, ge_iff_le, Bool.and_eq_true]

theorem isAlphanum_eq_true_iff (c : Char) : c.isAlphanum = true ↔ IsLetter c ∨ IsDigit c := by
  rw [Char.isAlphanum, Bool.or_eq_true, isAlpha_eq_true_iff]
  simp only [Char.isDigit, IsDigit, Char.le_def, ge_iff_le, Bool.and_eq_true, decide_eq_true_eq]

theorem isWord_iff (text : String) : IsWord text ↔ checkIdentifier text = .ok () := by
  rw [checkIdentifier_eq_ok_iff]
  simp only [isAlpha_eq_true_iff, isAlphanum_eq_true_iff, isReserved]
  constructor
  . rintro ⟨⟨first, rest, htext, hfirst, hrest⟩, hfree⟩
    exact ⟨first, rest, htext, hfirst, hrest, by simpa using hfree⟩
  . rintro ⟨first, rest, htext, hfirst, hrest, hfree⟩
    exact ⟨⟨first, rest, htext, hfirst, hrest⟩, by simpa using hfree⟩

namespace TypeExpr

theorem stripArraySuffix?_eq_some_iff (text base : List Char) :
    stripArraySuffix? text = some base ↔ text = base ++ ['[', ']'] := by
  have hsuffix : text = base ++ ['[', ']'] ↔ text.reverse = ']' :: '[' :: base.reverse := by
    rw [List.reverse_eq_iff]
    simp
  rw [hsuffix, stripArraySuffix?]
  split
  next base' heq =>
    rw [heq]
    simp [List.reverse_eq_iff]
  next hprefix => simpa using hprefix base.reverse

theorem toList_text (type : TypeExpr) :
    type.text.toList = type.base.toList ++ if type.isArray then ['[', ']'] else [] := by
  rw [text, String.toList_append]
  split
  . rfl
  . rfl

def split (text : String) : TypeExpr :=
  match stripArraySuffix? text.toList with
  | some base => ⟨String.ofList base, true⟩
  | none => ⟨text, false⟩

theorem parse_eq (source : String) :
    parse source = match checkIdentifier (split source).base with
      | .ok _ => .ok (split source)
      | .error error => .error ⟨source, error⟩ :=
  rfl

theorem text_split (source : String) : (split source).text = source := by
  rw [← String.toList_inj, toList_text, split]
  split
  next base heq =>
    rw [(stripArraySuffix?_eq_some_iff _ _).mp heq, String.toList_ofList]
    rfl
  next => exact List.append_nil _

theorem notMem_brackets_of_isWord {word : String} (h : IsWord word) :
    '[' ∉ word.toList ∧ ']' ∉ word.toList := by
  have halphanum := isAlphanum_of_checkIdentifier ((isWord_iff word).mp h)
  constructor
  . intro hmem
    exact absurd (halphanum _ hmem) (by decide)
  . intro hmem
    exact absurd (halphanum _ hmem) (by decide)

-- Without a bracket in the base, only the suffix can be taken off.
theorem split_text {type : TypeExpr} (h : IsWord type.base) : split type.text = type := by
  rcases type with ⟨base, isArray⟩
  cases isArray with
  | true =>
    have hstrip : stripArraySuffix? (text ⟨base, true⟩).toList = some base.toList := by
      rw [stripArraySuffix?_eq_some_iff, toList_text]
      rfl
    rw [split, hstrip]
    simp only [String.ofList_toList]
  | false =>
    have hstrip : stripArraySuffix? base.toList = none := by
      rw [Option.eq_none_iff_forall_ne_some]
      intro stripped hsome
      rw [stripArraySuffix?_eq_some_iff] at hsome
      apply (notMem_brackets_of_isWord h).2
      rw [hsome]
      simp
    have htext : text ⟨base, false⟩ = base := by
      rw [← String.toList_inj, toList_text]
      exact List.append_nil _
    rw [htext, split, hstrip]

theorem parse_eq_ok_iff (source : String) (type : TypeExpr) :
    parse source = .ok type ↔ IsWord type.base ∧ type.text = source := by
  rw [parse_eq, isWord_iff]
  constructor
  . intro h
    split at h
    next hbase =>
      injection h with h
      rw [← h]
      exact ⟨hbase, text_split source⟩
    next => contradiction
  . rintro ⟨hbase, rfl⟩
    rw [split_text ((isWord_iff _).mpr hbase), hbase]

theorem mem_base_of_toList_text {type : TypeExpr} {front back : List Char} {c : Char}
    (h : type.text.toList = front ++ c :: back) (hback : 2 ≤ back.length) :
    c ∈ type.base.toList := by
  have hsuffix : (if type.isArray then ['[', ']'] else []).length ≤ 2 := by
    split
    . exact le_rfl
    . exact Nat.zero_le 2
  rw [toList_text, List.append_eq_append_iff] at h
  rcases h with ⟨rest, rfl, hrest⟩ | ⟨rest, hbase, hrest⟩
  . rw [hrest] at hsuffix
    simp at hsuffix
    omega
  . cases rest with
    | nil =>
      rw [List.nil_append] at hrest
      rw [← hrest, List.length_cons] at hsuffix
      omega
    | cons d rest =>
      injection hrest with hc _
      rw [hbase, hc]
      simp

theorem isBlank_of_isAlphanum {c : Char} (h : c.isAlphanum = true) : Text.isBlank c = false := by
  have hascii : ∀ n < 0x80, (Char.ofNat n).isAlphanum = true → Text.isBlank (Char.ofNat n) = false := by
    decide +kernel
  rcases Text.exists_ofNat_of_isAlphanum h with ⟨n, hn, rfl⟩
  exact hascii n hn h

theorem ascii_of_parse {source : String} {type : TypeExpr} (h : parse source = .ok type) :
    ∀ c ∈ source.toList, Text.isBlank c = false ∧ c.toNat < 0x80 := by
  rcases (parse_eq_ok_iff _ _).mp h with ⟨hword, rfl⟩
  intro c hc
  rw [toList_text, List.mem_append] at hc
  cases hc with
  | inl hbase =>
    have halphanum := isAlphanum_of_checkIdentifier ((isWord_iff _).mp hword) c hbase
    exact ⟨isBlank_of_isAlphanum halphanum, Text.lt_of_isAlphanum halphanum⟩
  | inr hsuffix =>
    split at hsuffix
    . rcases List.mem_pair.mp hsuffix with rfl | rfl
      . decide
      . decide
    . exact absurd hsuffix List.not_mem_nil

def Writes (word source : String) : Prop :=
  IsWord word ∧ (source = word ∨ source = word ++ "[]")

theorem writes_iff (word source : String) :
    Writes word source ↔ ∃ isArray, parse source = .ok ⟨word, isArray⟩ := by
  simp only [parse_eq_ok_iff, text, Writes, Bool.exists_bool, if_true, Bool.false_eq_true, if_false,
    String.append_empty, @eq_comm _ source, and_or_left]

theorem isArray_iff_of_parse {source : String} {type : TypeExpr} (h : parse source = .ok type) :
    type.isArray = true ↔ source = type.base ++ "[]" := by
  rw [← ((parse_eq_ok_iff _ _).mp h).2, ← String.toList_inj, toList_text, String.toList_append,
    List.append_right_inj]
  cases type.isArray with
  | true => simp
  | false => simp

theorem type_expression_grammar :
    (∀ source, (∃ type, parse source = .ok type) ↔ ∃ word, Writes word source)
    ∧ (∀ source type, parse source = .ok type → type.text = source
      ∧ (∀ word, Writes word source ↔ word = type.base)
      ∧ (type.isArray = true ↔ source = type.base ++ "[]"))
    ∧ (∀ type : TypeExpr, checkIdentifier type.base = .ok () → parse type.text = .ok type)
    ∧ (∀ (source : String) (front back : List Char) (c : Char),
      source.toList = front ++ c :: back → c = '[' ∨ c = ']' → 2 ≤ back.length →
        ¬ ∃ type, parse source = .ok type)
    ∧ ∀ source : String, (∃ c ∈ source.toList, Text.isBlank c = true ∨ 0x80 ≤ c.toNat) →
        ¬ ∃ type, parse source = .ok type := by
  refine ⟨?_, ?_, ?_, ?_, ?_⟩
  . intro source
    simp only [writes_iff]
    constructor
    . rintro ⟨⟨word, isArray⟩, h⟩
      exact ⟨word, isArray, h⟩
    . rintro ⟨word, isArray, h⟩
      exact ⟨_, h⟩
  . intro source type h
    refine ⟨((parse_eq_ok_iff _ _).mp h).2, ?_, isArray_iff_of_parse h⟩
    intro word
    rw [writes_iff, h]
    constructor
    . rintro ⟨isArray, heq⟩
      injection heq with heq
      rw [heq]
    . rintro rfl
      exact ⟨type.isArray, rfl⟩
  . intro type hbase
    exact (parse_eq_ok_iff _ _).mpr ⟨(isWord_iff _).mpr hbase, rfl⟩
  . rintro source front back c hsource hc hback ⟨type, h⟩
    rcases (parse_eq_ok_iff _ _).mp h with ⟨hword, rfl⟩
    have hmem := mem_base_of_toList_text hsource hback
    rcases hc with rfl | rfl
    . exact (notMem_brackets_of_isWord hword).1 hmem
    . exact (notMem_brackets_of_isWord hword).2 hmem
  . rintro source ⟨c, hc, hbad⟩ ⟨type, h⟩
    rcases ascii_of_parse h c hc with ⟨hblank, hlt⟩
    cases hbad with
    | inl hbad =>
      rw [hblank] at hbad
      contradiction
    | inr hbad => omega

theorem type_expression_grammar_chapters :
    (parse "Chapter[]" = .ok ⟨"Chapter", true⟩ ∧ text ⟨"Chapter", true⟩ = "Chapter[]"
      ∧ (∀ word, Writes word "Chapter[]" ↔ word = "Chapter")
      ∧ parse (text ⟨"Chapter", true⟩) = .ok ⟨"Chapter", true⟩)
    ∧ (¬ ∃ type, parse "uint8[][]" = .ok type)
    ∧ ¬ ∃ type, parse "héllo" = .ok type := by
  have hbase : checkIdentifier "Chapter" = .ok () := by decide
  have hparse : parse "Chapter[]" = .ok ⟨"Chapter", true⟩ := by decide
  have hread := type_expression_grammar.2.1 _ _ hparse
  refine ⟨⟨hparse, hread.1, hread.2.1, type_expression_grammar.2.2.1 ⟨"Chapter", true⟩ hbase⟩,
    ?_, ?_⟩
  . exact type_expression_grammar.2.2.2.1 "uint8[][]" "uint8".toList [']', '[', ']'] '[' rfl
      (.inl rfl) (by decide)
  . exact type_expression_grammar.2.2.2.2 "héllo" ⟨'é', by decide, by decide⟩

end TypeExpr

end MessageAbi.Schema
