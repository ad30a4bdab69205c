import Mathlib
import MessageAbi.CommandLine.Command

/-!
This module contains which arguments are words, and that the value of an option may be attached to its
name or be the next argument.
-/

namespace MessageAbi.CommandLine

variable {options : List OptionSpec} {reader : ArgumentReader} {argument name value : String}
variable {words : List String}

/--
Whether an argument is a word even in front of `--`.
-/
def IsWord (argument : String) : Prop :=
  ∀ c rest, argument.toList ≠ '-' :: c :: rest

namespace ArgumentReader

theorem read?_escaped (h : reader.isEscaped = true) :
    reader.read? options argument = some (reader.addWord argument) := by
  rw [read?, if_pos h]

theorem read?_word (hescaped : reader.isEscaped = false) (hawaiting : reader.awaiting = none)
    (h : IsWord argument) : reader.read? options argument = some (reader.addWord argument) := by
  rw [read?, if_neg (by simp [hescaped]), hawaiting]
  split
  . next heq => exact absurd heq (h _ _)
  . next heq => exact absurd heq (h _ _)
  . next heq => exact absurd heq (h _ _)
  . rfl
  . contradiction
  . contradiction

theorem foldlM_read?_escaped (h : reader.isEscaped = true) :
    words.foldlM (read? options) reader = some { reader with words := reader.words ++ words } := by
  induction words generalizing reader with
  | nil => simp
  | cons word words ih =>
    have hmore : words.foldlM (read? options) (reader.addWord word)
        = some { reader.addWord word with words := (reader.addWord word).words ++ words } := ih h
    rw [List.foldlM_cons, read?_escaped h, Option.bind_eq_bind, Option.bind_some, hmore]
    simp [addWord]

theorem foldlM_read?_words (hescaped : reader.isEscaped = false) (hawaiting : reader.awaiting = none)
    (h : ∀ word ∈ words, IsWord word) :
    words.foldlM (read? options) reader = some { reader with words := reader.words ++ words } := by
  induction words generalizing reader with
  | nil => simp
  | cons word words ih =>
    rw [List.forall_mem_cons] at h
    have hmore : words.foldlM (read? options) (reader.addWord word)
        = some { reader.addWord word with words := (reader.addWord word).words ++ words } :=
      ih hescaped hawaiting h.2
    rw [List.foldlM_cons, read?_word hescaped hawaiting h.1, Option.bind_eq_bind, Option.bind_some,
      hmore]
    simp [addWord]

theorem read?_long {text : List Char} (hescaped : reader.isEscaped = false)
    (hawaiting : reader.awaiting = none) (h : argument.toList = '-' :: '-' :: text) (hne : text ≠ []) :
    reader.read? options argument = reader.addLong? options text := by
  rw [read?, if_neg (by simp [hescaped]), hawaiting, h]
  split
  . next heq => simp_all
  . next heq => simp_all
  . next hnot _ heq =>
    rcases List.cons.inj heq with ⟨_, heq⟩
    exact absurd (List.cons.inj heq).1.symm hnot
  . simp_all
  . contradiction
  . contradiction

theorem read?_value {option : OptionSpec} (hescaped : reader.isEscaped = false)
    (h : IsWord value) :
    { reader with awaiting := some option }.read? options value
      = { reader with awaiting := none }.addSetting? ⟨option.name, some value⟩ := by
  rw [read?, if_neg (by simp [hescaped])]
  split <;> simp_all [IsWord]

theorem read?_attached {option : OptionSpec} (hescaped : reader.isEscaped = false)
    (hawaiting : reader.awaiting = none) (hfind : options.find? (·.name == name) = some option)
    (htakes : option.takesValue = true) (hne : name ≠ "") (hname : '=' ∉ name.toList)
    (hvalue : IsWord value) :
    reader.read? options ("--" ++ name ++ "=" ++ value)
      = (reader.read? options ("--" ++ name)).bind (·.read? options value) := by
  have htext : name.toList ≠ [] := by simpa using hne
  have hchars : ∀ c ∈ name.toList, (c != '=') = true := by
    intro c hc
    rw [bne_iff_ne]
    rintro rfl
    exact hname hc
  have hlong : reader.read? options ("--" ++ name) = some { reader with awaiting := some option } := by
    rw [read?_long hescaped hawaiting (show _ = '-' :: '-' :: name.toList by simp) htext, addLong?,
      List.takeWhile_eq_self_iff.mpr hchars]
    simp [hfind, addOption?, htakes]
  have hattached : reader.read? options ("--" ++ name ++ "=" ++ value)
      = reader.addSetting? ⟨option.name, some value⟩ := by
    rw [read?_long hescaped hawaiting
      (show _ = '-' :: '-' :: (name.toList ++ '=' :: value.toList) by simp) (by simp),
      addLong?, List.takeWhile_append_of_pos hchars]
    simp [hfind, addOption?, htakes]
  rw [hlong, hattached, Option.bind_some, read?_value hescaped hvalue]
  rw [← hawaiting]

end ArgumentReader

namespace Arguments

theorem read?_words (options : List OptionSpec) (h : ∀ word ∈ words, IsWord word) :
    Arguments.read? options words = some ⟨[], words⟩ := by
  rw [Arguments.read?, ArgumentReader.foldlM_read?_words rfl rfl h]
  simp [ArgumentReader.start]

theorem read?_escaped (options : List OptionSpec) (words : List String) :
    Arguments.read? options ("--" :: words) = some ⟨[], words⟩ := by
  have hdashes : ArgumentReader.start.read? options "--"
      = some { ArgumentReader.start with isEscaped := true } := by
    rfl
  rw [Arguments.read?, List.foldlM_cons, hdashes]
  simp [ArgumentReader.foldlM_read?_escaped, ArgumentReader.start]

end Arguments

namespace Command

theorem ofArguments?_escaped {name : String} (hname : isOption name = false) (source : String)
    (words : List String) {action : Action}
    (haction : action? name ⟨[], source :: words⟩ words = some action) :
    ofArguments? (name :: "--" :: source :: words) = some ⟨source, .deny, action⟩ := by
  rw [ofArguments?, List.takeWhile_cons_of_neg (by simp [hname])]
  have hleading : Arguments.read? [verboseOption] [] = some ⟨[], []⟩ := by
    rfl
  simp [hleading, Arguments.read?_escaped, Arguments.value?, haction]
  rfl

end Command

end MessageAbi.CommandLine
