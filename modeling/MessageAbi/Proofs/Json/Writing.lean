import Mathlib
import MessageAbi.Proofs.Json.Grammar
import MessageAbi.Proofs.Json.Members

/-!
This module contains that both written forms of JSON are read back as the JSON itself. That takes numbers
the reader knows, different names in each object, and no deeper nesting than it allows; whatever it has
read is of this kind.
-/

namespace MessageAbi.Json

open Reader

/--
JSON that has a text of at most the given nesting.
-/
inductive Readable : (depth : Nat) → Json → Prop where
  | null {depth : Nat} : Readable depth .null
  | bool {depth : Nat} (b : Bool) : Readable depth (.bool b)
  | number {depth : Nat} {number : Number} : NumberText number number.text.toList →
      Readable depth (.number number)
  | string {depth : Nat} (s : String) : Readable depth (.string s)
  | array {depth : Nat} {items : List Json} : (∀ item ∈ items, Readable depth item) →
      Readable (depth + 1) (.array items)
  | object {depth : Nat} {members : List (String × Json)} : (members.map (·.1)).Nodup →
      (∀ member ∈ members, Readable depth member.2) → Readable (depth + 1) (.object members)

theorem text_of_numberText {number : Number} {text : List Char} (h : NumberText number text) :
    NumberText number number.text.toList := by
  rcases h with ⟨htext, hnumber⟩
  next literal =>
  have hread := hnumber
  simp only [Literal.number?, Bool.and_eq_true, decide_eq_true_eq] at hnumber
  split_ifs at hnumber with hpos hneg
  . obtain rfl := Option.some.inj hnumber
    have hlt : digitsValue literal.whole < 2 ^ 64 := hpos.2
    exact numberText_text_integer (by omega) (by exact_mod_cast hlt)
  . obtain rfl := Option.some.inj hnumber
    have hle : digitsValue literal.whole ≤ 2 ^ 63 := hneg.2
    exact numberText_text_integer (by omega) (by omega)
  . obtain rfl := Option.some.inj hnumber
    rw [Number.text, String.toList_ofList]
    exact .intro htext hread

section Reading

variable {depth : Nat} {json : Json} {text : List Char}

theorem Reader.AtomText.readable (h : AtomText json text) : Readable depth json := by
  cases h with
  | null => exact .null
  | true => exact .bool _
  | false => exact .bool _
  | number htext => exact .number (text_of_numberText htext)
  | string _ => exact .string _

theorem exists_text_of_separatedText {α : Type} {IsText : α → List Char → Prop} {as : List α}
    (h : SeparatedText IsText as text) : ∀ a ∈ as, ∃ text, IsText a text := by
  induction h with
  | last htext _ =>
    intro a ha
    obtain rfl := List.mem_singleton.mp ha
    exact ⟨_, htext⟩
  | more htext _ _ _ ih =>
    intro a ha
    rcases List.mem_cons.mp ha with rfl | ha
    . exact ⟨_, htext⟩
    . exact ih a ha

theorem Reader.ValueText.readable (h : ValueText depth json text) : Readable depth json := by
  induction depth generalizing json text with
  | zero => exact AtomText.readable h
  | succ depth ih =>
    rcases h with h | h
    . exact h.readable
    cases h with
    | emptyArray _ => exact .array nofun
    | emptyObject _ => exact .object List.nodup_nil nofun
    | array _ hitems =>
      apply Readable.array
      intro item hitem
      rcases exists_text_of_separatedText hitems item hitem with ⟨text, htext⟩
      exact ih htext
    | @object members _ _ _ hmembers =>
      rcases exists_ofMembers members with ⟨kept, hkept, hnodup, hmem⟩
      rw [hkept]
      apply Readable.object hnodup
      intro member hmember
      rcases exists_text_of_separatedText hmembers member (hmem member hmember) with ⟨text, htext⟩
      cases htext with
      | intro _ _ _ htext => exact ih htext

end Reading

section Writing

variable {depth : Nat} {next last : List Char}

theorem valueText_quote (depth : Nat) (s : String) : ValueText depth (.string s) (quote s).toList := by
  have htext := AtomText.string (stringText_flatMap_escape s.toList)
  rw [String.ofList_toList] at htext
  rw [quote, String.toList_ofList]
  exact htext.valueText depth

theorem separatedText_intercalate {α : Type} {IsText : α → List Char → Prop} (hnext : IsGap next)
    (hlast : IsGap last) {as : List α} {texts : List (List Char)} (h : List.Forall₂ IsText as texts)
    (hne : as ≠ []) : SeparatedText IsText as ((',' :: next).intercalate texts ++ last) := by
  induction h with
  | nil => contradiction
  | @cons a text as texts htext h ih =>
    cases h with
    | nil =>
      rw [List.intercalate_singleton]
      exact .last htext hlast
    | cons _ _ =>
      have hmore := SeparatedText.more htext isGap_nil hnext (ih (by simp))
      rw [List.intercalate_cons_cons]
      simpa using hmore

theorem memberText_quote {IsText : Json → List Char → Prop} (name : String) {value : Json}
    {behind text : List Char} (hbehind : IsGap behind) (htext : IsText value text) :
    MemberText IsText (name, value) ((quote name).toList ++ ':' :: (behind ++ text)) := by
  have hname := stringText_flatMap_escape name.toList
  have hmember := MemberText.intro hname isGap_nil hbehind htext
  rw [String.ofList_toList] at hmember
  rw [quote, String.toList_ofList]
  simpa using hmember

theorem compactItems_eq_map (items : List Json) : compactItems items = items.map compact := by
  induction items with
  | nil => rfl
  | cons item items ih => rw [compactItems, ih, List.map_cons]

theorem compactMembers_eq_map (members : List (String × Json)) :
    compactMembers members = members.map fun (name, value) => quote name ++ ":" ++ value.compact := by
  induction members with
  | nil => rfl
  | cons member members ih => rw [compactMembers, ih, List.map_cons]

theorem prettyItems_eq_map (level : Nat) (items : List Json) :
    prettyItems level items = items.map (prettyAt level) := by
  induction items with
  | nil => rfl
  | cons item items ih => rw [prettyItems, ih, List.map_cons]

theorem prettyMembers_eq_map (level : Nat) (members : List (String × Json)) :
    prettyMembers level members
      = members.map fun (name, value) => quote name ++ ": " ++ value.prettyAt level := by
  induction members with
  | nil => rfl
  | cons member members ih => rw [prettyMembers, ih, List.map_cons]

theorem forall₂_map {α : Type} {IsText : α → List Char → Prop} {f : α → List Char} {as : List α}
    (h : ∀ a ∈ as, IsText a (f a)) : List.Forall₂ IsText as (as.map f) := by
  rw [List.forall₂_map_right_iff, List.forall₂_same]
  exact h

variable {first behind : List Char} {f : Json → String}

theorem valueText_array (hfirst : IsGap first) (hnext : IsGap next) (hlast : IsGap last)
    {items : List Json} (hne : items ≠ [])
    (h : ∀ item ∈ items, ValueText depth item (f item).toList) :
    ValueText (depth + 1) (.array items)
      ('[' :: (first ++ ((',' :: next).intercalate (items.map fun item => (f item).toList) ++ last
        ++ [']']))) :=
  (CollectionText.array hfirst (separatedText_intercalate hnext hlast (forall₂_map h) hne)).valueText

theorem valueText_object (hfirst : IsGap first) (hnext : IsGap next) (hlast : IsGap last)
    (hbehind : IsGap behind) {members : List (String × Json)} (hne : members ≠ [])
    (hnodup : (members.map (·.1)).Nodup)
    (h : ∀ member ∈ members, ValueText depth member.2 (f member.2).toList) :
    ValueText (depth + 1) (.object members)
      ('\x7b' :: (first ++ ((',' :: next).intercalate (members.map fun (name, value) =>
        (quote name).toList ++ ':' :: (behind ++ (f value).toList)) ++ last ++ ['\x7d']))) := by
  have hmembers : ∀ member ∈ members, MemberText (ValueText depth) member
      ((quote member.1).toList ++ ':' :: (behind ++ (f member.2).toList)) :=
    fun member hmember => memberText_quote member.1 hbehind (h member hmember)
  have htext := (CollectionText.object hfirst
    (separatedText_intercalate hnext hlast (forall₂_map hmembers) hne)).valueText
  rw [ofMembers_of_nodup hnodup] at htext
  exact htext

theorem valueText_emptyArray (depth : Nat) : ValueText (depth + 1) (.array []) ['[', ']'] :=
  (CollectionText.emptyArray isGap_nil).valueText

theorem valueText_emptyObject (depth : Nat) :
    ValueText (depth + 1) (.object []) ['\x7b', '\x7d'] :=
  (CollectionText.emptyObject isGap_nil).valueText

theorem valueText_compact {json : Json} (h : Readable depth json) :
    ValueText depth json json.compact.toList := by
  induction h with
  | null => exact AtomText.null.valueText _
  | bool b =>
    cases b with
    | true => exact AtomText.true.valueText _
    | false => exact AtomText.false.valueText _
  | number htext => exact (AtomText.number htext).valueText _
  | string s => exact valueText_quote _ s
  | @array depth items _ ih =>
    rcases eq_or_ne items [] with rfl | hne
    . exact valueText_emptyArray depth
    have htext := valueText_array isGap_nil isGap_nil isGap_nil hne ih
    rw [compact, compactItems_eq_map, String.toList_append, String.toList_append,
      String.toList_intercalate, List.map_map]
    simpa [Function.comp_def] using htext
  | @object depth members hnodup _ ih =>
    rcases eq_or_ne members [] with rfl | hne
    . exact valueText_emptyObject depth
    have htext := valueText_object isGap_nil isGap_nil isGap_nil isGap_nil hne hnodup ih
    rw [compact, compactMembers_eq_map, String.toList_append, String.toList_append,
      String.toList_intercalate, List.map_map]
    simpa [Function.comp_def] using htext

/-!
In the form with one part on each line, the white space is a line break and the indentation.
-/

def newline (level : Nat) : List Char :=
  '\n' :: (indentation level).toList

theorem isGap_newline (level : Nat) : IsGap (newline level) := by
  intro c hc
  rw [newline, indentation, String.toList_ofList, List.mem_cons] at hc
  rcases hc with rfl | hc
  . rfl
  . rw [List.eq_of_mem_replicate hc]
    rfl

theorem intercalate_map_append {α : Type} (separator front : List α) {parts : List (List α)}
    (h : parts ≠ []) :
    separator.intercalate (parts.map (front ++ ·)) = front ++ (separator ++ front).intercalate parts := by
  induction parts with
  | nil => contradiction
  | cons part parts ih =>
    cases parts with
    | nil => simp
    | cons other parts =>
      rw [List.map_cons, List.map_cons, List.intercalate_cons_cons, ← List.map_cons, ih (by simp),
        List.intercalate_cons_cons]
      simp

theorem toList_block (level : Nat) (opening closing : String) {parts : List String} (h : parts ≠ []) :
    (block level opening closing parts).toList
      = opening.toList ++ (newline (level + 1) ++ ((',' :: newline (level + 1)).intercalate
        (parts.map String.toList) ++ newline level ++ closing.toList)) := by
  have hparts : parts.map String.toList ≠ [] := by simpa using h
  have hlines := intercalate_map_append [',', '\n'] (indentation (level + 1)).toList hparts
  rw [List.map_map] at hlines
  rw [block, if_neg (by simpa using h)]
  simp only [String.toList_append, String.toList_intercalate, List.map_map, Function.comp_def] at hlines ⊢
  rw [show ",\n".toList = [',', '\n'] from rfl, show "\n".toList = ['\n'] from rfl, hlines]
  simp [newline]

theorem isGap_space : IsGap [' '] := by
  simp [IsGap, isSpace]

theorem valueText_prettyAt {json : Json} (h : Readable depth json) (level : Nat) :
    ValueText depth json (json.prettyAt level).toList := by
  induction h generalizing level with
  | null =>
    rw [prettyAt]
    exact AtomText.null.valueText _
  | bool b =>
    rw [prettyAt]
    cases b with
    | true => exact AtomText.true.valueText _
    | false => exact AtomText.false.valueText _
  | number htext =>
    rw [prettyAt]
    exact (AtomText.number htext).valueText _
  | string s =>
    rw [prettyAt]
    exact valueText_quote _ s
  | @array depth items _ ih =>
    rw [prettyAt, prettyItems_eq_map]
    rcases eq_or_ne items [] with rfl | hne
    . simpa [block] using valueText_emptyArray depth
    have htext := valueText_array (isGap_newline (level + 1)) (isGap_newline (level + 1))
      (isGap_newline level) hne fun item hitem => ih item hitem (level + 1)
    rw [toList_block _ _ _ (by simpa using hne), List.map_map]
    exact htext
  | @object depth members hnodup _ ih =>
    rw [prettyAt, prettyMembers_eq_map]
    rcases eq_or_ne members [] with rfl | hne
    . simpa [block] using valueText_emptyObject depth
    have htext := valueText_object (isGap_newline (level + 1)) (isGap_newline (level + 1))
      (isGap_newline level) isGap_space hne hnodup fun member hmember => ih member hmember (level + 1)
    rw [toList_block _ _ _ (by simpa using hne), List.map_map]
    simpa [Function.comp_def] using htext

end Writing

theorem parse?_of_valueText {json : Json} {text behind : String} (hbehind : IsGap behind.toList)
    (h : ValueText maxDepth json text.toList) : parse? (text ++ behind) = some json :=
  (parse?_eq_some_iff (text ++ behind) json).mpr
    ⟨[], text.toList, behind.toList, by simp, isGap_nil, hbehind, h⟩

theorem parse?_compact {json : Json} (h : Readable maxDepth json) :
    parse? json.compact = some json := by
  rw [← String.append_empty (s := json.compact)]
  exact parse?_of_valueText isGap_nil (valueText_compact h)

theorem parse?_pretty {json : Json} (h : Readable maxDepth json) {behind : String}
    (hbehind : IsGap behind.toList) : parse? (json.pretty ++ behind) = some json :=
  parse?_of_valueText hbehind (valueText_prettyAt h 0)

theorem readable_of_parse? {text : String} {json : Json} (h : parse? text = some json) :
    Readable maxDepth json := by
  rcases (parse?_eq_some_iff text json).mp h with ⟨_, _, _, _, _, _, htext⟩
  exact htext.readable

end MessageAbi.Json
