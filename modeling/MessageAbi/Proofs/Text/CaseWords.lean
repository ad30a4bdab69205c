import Mathlib
import MessageAbi.Text.CaseWords

/-!
This module contains how a name of ASCII letters and digits is split into words, and that the name in
snake case determines the one in pascal case.
-/

namespace MessageAbi.Text

theorem lt_of_isAlphanum {c : Char} (h : c.isAlphanum = true) : c.toNat < 0x80 := by
  simp only [Char.isAlphanum, Char.isAlpha, Char.isUpper, Char.isLower, Char.isDigit,
    Bool.or_eq_true, Bool.and_eq_true, decide_eq_true_eq, ge_iff_le, UInt32.le_iff_toNat_le] at h
  have : c.toNat = c.val.toNat := rfl
  have : 'Z'.val.toNat = 90 := rfl
  have : 'z'.val.toNat = 122 := rfl
  have : '9'.val.toNat = 57 := rfl
  omega

theorem exists_ofNat_of_isAlphanum {c : Char} (h : c.isAlphanum = true) :
    ∃ n < 0x80, Char.ofNat n = c :=
  ⟨c.toNat, lt_of_isAlphanum h, c.ofNat_toNat⟩

theorem isAlphanum_changeCase {c : Char} (h : c.isAlphanum = true) :
    c.toLower.isAlphanum = true ∧ c.toUpper.isAlphanum = true := by
  have hall : ∀ n < 0x80, (Char.ofNat n).isAlphanum = true →
      (Char.ofNat n).toLower.isAlphanum = true ∧ (Char.ofNat n).toUpper.isAlphanum = true := by
    decide +kernel
  rcases exists_ofNat_of_isAlphanum h with ⟨n, hn, rfl⟩
  exact hall n hn h

theorem isAlpha_changeCase {c : Char} (h : c.isAlpha = true) :
    c.toLower.isAlpha = true ∧ c.toUpper.isAlpha = true := by
  have hall : ∀ n < 0x80, (Char.ofNat n).isAlpha = true →
      (Char.ofNat n).toLower.isAlpha = true ∧ (Char.ofNat n).toUpper.isAlpha = true := by
    decide +kernel
  have halphanum : c.isAlphanum = true := by
    rw [Char.isAlphanum, h, Bool.true_or]
  rcases exists_ofNat_of_isAlphanum halphanum with ⟨n, hn, rfl⟩
  exact hall n hn h

theorem toUpper_toLower {c : Char} (h : c.isAlphanum = true) : c.toLower.toUpper = c.toUpper := by
  have hall : ∀ n < 0x80, (Char.ofNat n).toLower.toUpper = (Char.ofNat n).toUpper := by
    decide +kernel
  rcases exists_ofNat_of_isAlphanum h with ⟨n, hn, rfl⟩
  exact hall n hn

section Words

theorem flatten_splitRun (mode : WordMode) (current : List Char) {text : List Char}
    (h : text ≠ []) : (splitRun mode current text).flatten = current.reverse ++ text := by
  induction mode, current, text using splitRun.induct with
  | case1 => contradiction
  | case2 mode current c => simp [splitRun]
  | case3 mode current c next rest nextMode hsplit ih =>
    rw [splitRun, if_pos hsplit, List.flatten_cons, ih (by simp)]
    simp
  | case4 mode current c next rest nextMode hnot hsplit ih =>
    rw [splitRun, if_neg hnot, if_pos hsplit, List.flatten_cons, ih (by simp)]
    simp
  | case5 mode current c next rest nextMode hnot hnot' ih =>
    rw [splitRun, if_neg hnot, if_neg hnot', ih (by simp)]
    simp

theorem ne_nil_of_mem_splitRun {mode : WordMode} {current : List Char} (text : List Char)
    (h : mode = .upper → current ≠ []) : ∀ word ∈ splitRun mode current text, word ≠ [] := by
  induction mode, current, text using splitRun.induct with
  | case1 => simp [splitRun]
  | case2 mode current c => simp [splitRun]
  | case3 mode current c next rest nextMode hsplit ih =>
    rw [splitRun, if_pos hsplit, List.forall_mem_cons]
    exact ⟨by simp, ih (by simp)⟩
  | case4 mode current c next rest nextMode hnot hsplit ih =>
    -- The word that ends here was begun by an upper-case letter.
    rw [splitRun, if_neg hnot, if_pos hsplit, List.forall_mem_cons]
    exact ⟨by simpa using h hsplit.1, ih (by simp)⟩
  | case5 mode current c next rest nextMode hnot hnot' ih =>
    rw [splitRun, if_neg hnot, if_neg hnot']
    exact ih (by simp)

theorem ne_nil_of_mem_caseWords (name : String) : ∀ word ∈ caseWords name, word ≠ [] := by
  intro word hword
  rcases List.mem_flatMap.mp hword with ⟨run, _, hword⟩
  exact ne_nil_of_mem_splitRun run (by simp) word hword

variable {name : String} (hname : ∀ c ∈ name.toList, c.isAlphanum = true)

include hname

theorem flatten_caseWords : (caseWords name).flatten = name.toList := by
  have hruns : name.toList.splitOnP (!isAlphanumeric ·) = [name.toList] := by
    apply List.splitOnP_eq_singleton
    intro c hc
    rw [isAlphanumeric_of_isAlphanum (lt_of_isAlphanum (hname c hc)) (hname c hc)]
    rfl
  rw [caseWords, hruns, List.flatMap_singleton]
  cases htext : name.toList with
  | nil => rfl
  | cons c rest => exact flatten_splitRun .boundary [] (by simp)

theorem isAlphanum_of_mem_caseWords : ∀ word ∈ caseWords name, ∀ c ∈ word, c.isAlphanum = true := by
  intro word hword c hc
  apply hname c
  rw [← flatten_caseWords hname]
  exact List.mem_flatten.mpr ⟨word, hword, hc⟩

end Words

section Cases

variable {word : List Char} (hword : ∀ c ∈ word, c.isAlphanum = true)

include hword

theorem lowerWord_eq_map : lowerWord word = word.map Char.toLower := by
  induction word using lowerWord.induct with
  | case1 => rfl
  | case2 => exact absurd (hword 'Σ' (by simp)) (by decide)
  | case3 c rest hne ih =>
    rcases List.forall_mem_cons.mp hword with ⟨hc, hrest⟩
    rw [lowerWord, ih hrest, toLower, if_pos (lt_of_isAlphanum hc)]
    . rfl
    . exact hne

theorem capitalWord_eq : capitalWord word = (word.map Char.toLower).modifyHead Char.toUpper := by
  cases word with
  | nil => rfl
  | cons c rest =>
    rcases List.forall_mem_cons.mp hword with ⟨hc, hrest⟩
    rw [capitalWord, lowerWord_eq_map hrest, toUpper, if_pos (lt_of_isAlphanum hc), List.map_cons,
      List.modifyHead_cons, toUpper_toLower hc]
    rfl

end Cases

variable {name other : String} (hname : ∀ c ∈ name.toList, c.isAlphanum = true)

def lowerWords (name : String) : List (List Char) :=
  (caseWords name).map (·.map Char.toLower)

theorem ne_nil_of_mem_lowerWords (name : String) : ∀ word ∈ lowerWords name, word ≠ [] := by
  intro word hword
  rcases List.mem_map.mp hword with ⟨source, hsource, rfl⟩
  rw [ne_eq, List.map_eq_nil_iff]
  exact ne_nil_of_mem_caseWords name source hsource

include hname

theorem isAlphanum_of_mem_lowerWords :
    ∀ word ∈ lowerWords name, ∀ c ∈ word, c.isAlphanum = true := by
  intro word hword c hc
  rcases List.mem_map.mp hword with ⟨source, hsource, rfl⟩
  rcases List.mem_map.mp hc with ⟨d, hd, rfl⟩
  exact (isAlphanum_changeCase (isAlphanum_of_mem_caseWords hname source hsource d hd)).1

theorem toList_snakeCase : (snakeCase name).toList = List.intercalate ['_'] (lowerWords name) := by
  rw [snakeCase, String.toList_ofList, lowerWords]
  congr 1
  apply List.map_congr_left
  intro word hword
  exact lowerWord_eq_map (isAlphanum_of_mem_caseWords hname word hword)

theorem toList_pascalCase :
    (pascalCase name).toList = (lowerWords name).flatMap (·.modifyHead Char.toUpper) := by
  rw [pascalCase, String.toList_ofList, lowerWords, List.flatMap_map]
  apply List.flatMap_congr
  intro word hword
  exact capitalWord_eq (isAlphanum_of_mem_caseWords hname word hword)

theorem splitOn_snakeCase (hne : name.toList ≠ []) :
    (snakeCase name).toList.splitOn '_' = lowerWords name := by
  rw [toList_snakeCase hname]
  apply List.splitOn_intercalate
  . intro word hword hmem
    have := isAlphanum_of_mem_lowerWords hname word hword '_' hmem
    contradiction
  . intro hnil
    rw [lowerWords, List.map_eq_nil_iff] at hnil
    apply hne
    rw [← flatten_caseWords hname, hnil, List.flatten_nil]

theorem pascalCase_eq_of_snakeCase_eq (hother : ∀ c ∈ other.toList, c.isAlphanum = true)
    (hne : name.toList ≠ []) (hneOther : other.toList ≠ [])
    (h : snakeCase name = snakeCase other) : pascalCase name = pascalCase other := by
  have hwords : lowerWords name = lowerWords other := by
    rw [← splitOn_snakeCase hname hne, ← splitOn_snakeCase hother hneOther, h]
  rw [← String.toList_inj, toList_pascalCase hname, toList_pascalCase hother, hwords]

end MessageAbi.Text
