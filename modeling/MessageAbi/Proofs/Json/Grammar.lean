import Mathlib
import MessageAbi.Proofs.Json.NumberText
import MessageAbi.Proofs.Json.StringText

/-!
This module contains the grammar of JSON text, without reference to the reader, and that the reader
accepts exactly the texts of the grammar, each as the value that it stands for.
-/

namespace MessageAbi.Json.Reader

def IsGap (text : List Char) : Prop :=
  ∀ c ∈ text, isSpace c = true

theorem isGap_nil : IsGap [] :=
  nofun

inductive SeparatedText {α : Type} (IsText : α → List Char → Prop) : List α → List Char → Prop where
  | last {a : α} {text gap : List Char} : IsText a text → IsGap gap →
      SeparatedText IsText [a] (text ++ gap)
  | more {a : α} {as : List α} {text gap next rest : List Char} : IsText a text → IsGap gap →
      IsGap next → SeparatedText IsText as rest →
      SeparatedText IsText (a :: as) (text ++ (gap ++ ',' :: (next ++ rest)))

inductive MemberText (IsText : Json → List Char → Prop) : String × Json → List Char → Prop where
  | intro {value : Json} {name cs before behind text : List Char} : StringText name cs →
      IsGap before → IsGap behind → IsText value text →
      MemberText IsText (String.ofList cs, value)
        ('"' :: (name ++ '"' :: (before ++ ':' :: (behind ++ text))))

inductive AtomText : Json → List Char → Prop where
  | null : AtomText .null ['n', 'u', 'l', 'l']
  | true : AtomText (.bool true) ['t', 'r', 'u', 'e']
  | false : AtomText (.bool false) ['f', 'a', 'l', 's', 'e']
  | number {number : Number} {text : List Char} : NumberText number text →
      AtomText (.number number) text
  | string {text cs : List Char} : StringText text cs →
      AtomText (.string (String.ofList cs)) ('"' :: (text ++ ['"']))

inductive CollectionText (IsText : Json → List Char → Prop) : Json → List Char → Prop where
  | emptyArray {gap : List Char} : IsGap gap →
      CollectionText IsText (.array []) ('[' :: (gap ++ [']']))
  | array {items : List Json} {gap text : List Char} : IsGap gap →
      SeparatedText IsText items text →
      CollectionText IsText (.array items) ('[' :: (gap ++ (text ++ [']'])))
  | emptyObject {gap : List Char} : IsGap gap →
      CollectionText IsText (.object []) ('\x7b' :: (gap ++ ['\x7d']))
  | object {members : List (String × Json)} {gap text : List Char} : IsGap gap →
      SeparatedText (MemberText IsText) members text →
      CollectionText IsText (.ofMembers members) ('\x7b' :: (gap ++ (text ++ ['\x7d'])))

/--
The texts of values that nest no deeper than `depth` arrays and objects.
-/
def ValueText : (depth : Nat) → Json → List Char → Prop
  | 0, json, text => AtomText json text
  | depth + 1, json, text => AtomText json text ∨ CollectionText (ValueText depth) json text

theorem AtomText.valueText {json : Json} {text : List Char} (h : AtomText json text) (depth : Nat) :
    ValueText depth json text := by
  cases depth with
  | zero => exact h
  | succ depth => exact .inl h

theorem CollectionText.valueText {depth : Nat} {json : Json} {text : List Char}
    (h : CollectionText (ValueText depth) json text) : ValueText (depth + 1) json text :=
  .inr h

theorem ValueText.atom_or_collection {depth : Nat} {json : Json} {text : List Char}
    (h : ValueText depth json text) :
    AtomText json text ∨ ∃ below, depth = below + 1 ∧ CollectionText (ValueText below) json text := by
  cases depth with
  | zero => exact .inl h
  | succ depth =>
    rcases h with h | h
    . exact .inl h
    . exact .inr ⟨depth, rfl, h⟩

section Gap

variable {gap rest : List Char}

theorem skipSpaces_append_cons (h : IsGap gap) {c : Char} (hc : isSpace c = false) :
    skipSpaces (gap ++ c :: rest) = c :: rest := by
  rw [skipSpaces, List.dropWhile_append_of_pos h, List.dropWhile_cons_of_neg (by simp [hc])]

theorem exists_gap (text : List Char) : ∃ gap, IsGap gap ∧ text = gap ++ skipSpaces text :=
  ⟨text.takeWhile isSpace, fun _ hc => List.mem_takeWhile_imp hc,
    (List.takeWhile_append_dropWhile ..).symm⟩

theorem endsNumber_cons {c : Char} (hc : c ∈ [',', ']', '\x7d']) : EndsNumber (c :: rest) := by
  intro c' hc'
  obtain rfl : c = c' := Option.some.inj hc'
  simp only [List.mem_cons, List.not_mem_nil, or_false] at hc
  rcases hc with rfl | rfl | rfl <;> decide

theorem endsNumber_gap_append (h : IsGap gap) (hrest : EndsNumber rest) : EndsNumber (gap ++ rest) := by
  cases gap with
  | nil => exact hrest
  | cons c gap =>
    intro c' hc
    obtain rfl : c = c' := Option.some.inj hc
    have hspace := h c List.mem_cons_self
    simp only [isSpace, Bool.or_eq_true, decide_eq_true_eq] at hspace
    rcases hspace with ((rfl | rfl) | rfl) | rfl <;> decide

end Gap

section Heads

variable {depth : Nat} {text : List Char}

def StartsValue (c : Char) : Prop :=
  c ∈ ['n', 't', 'f', '"', '[', '\x7b', '-'] ∨ c.isDigit = true

theorem exists_cons_of_numberText {number : Number} (h : NumberText number text) :
    ∃ c tail, text = c :: tail ∧ (c = '-' ∨ c.isDigit = true) := by
  rcases h with ⟨h, _⟩
  cases h with
  | minus => exact ⟨'-', _, rfl, .inl rfl⟩
  | unsigned h =>
    rcases h with ⟨⟨hne, hdigits⟩, _, _, _⟩
    rcases List.exists_cons_of_ne_nil hne with ⟨c, digits, rfl⟩
    exact ⟨c, _, rfl, .inr (hdigits c List.mem_cons_self)⟩

theorem exists_cons_of_valueText {json : Json} (h : ValueText depth json text) :
    ∃ c tail, text = c :: tail ∧ StartsValue c := by
  rcases h.atom_or_collection with h | ⟨_, _, h⟩
  . cases h with
    | number h =>
      rcases exists_cons_of_numberText h with ⟨c, tail, rfl, rfl | hdigit⟩
      . exact ⟨'-', tail, rfl, .inl (by decide)⟩
      . exact ⟨c, tail, rfl, .inr hdigit⟩
    | _ => exact ⟨_, _, rfl, .inl (by decide)⟩
  . cases h <;> exact ⟨_, _, rfl, .inl (by decide)⟩

theorem StartsValue.not_closes {c : Char} (h : StartsValue c) :
    isSpace c = false ∧ c ≠ ']' ∧ c ≠ '\x7d' := by
  rcases h with h | h
  . simp only [List.mem_cons, List.not_mem_nil, or_false] at h
    rcases h with rfl | rfl | rfl | rfl | rfl | rfl | rfl <;> decide
  . rw [Bool.eq_false_iff]
    refine ⟨?_, ?_, ?_⟩
    . intro hspace
      simp only [isSpace, Bool.or_eq_true, decide_eq_true_eq] at hspace
      rcases hspace with ((rfl | rfl) | rfl) | rfl <;> contradiction
    . rintro rfl
      contradiction
    . rintro rfl
      contradiction

theorem exists_cons_of_separatedText {α : Type} {IsText : α → List Char → Prop} {P : Char → Prop}
    (hhead : ∀ {a text}, IsText a text → ∃ c tail, text = c :: tail ∧ P c) {as : List α}
    (h : SeparatedText IsText as text) : ∃ c tail, text = c :: tail ∧ P c := by
  cases h with
  | last h _ | more h _ _ _ =>
    rcases hhead h with ⟨c, tail, htext, hc⟩
    exact ⟨c, _, by rw [htext]; rfl, hc⟩

theorem exists_cons_of_items {items : List Json} (h : SeparatedText (ValueText depth) items text) :
    ∃ c tail, text = c :: tail ∧ StartsValue c :=
  exists_cons_of_separatedText exists_cons_of_valueText h

theorem exists_cons_of_members {members : List (String × Json)}
    (h : SeparatedText (MemberText (ValueText depth)) members text) :
    ∃ c tail, text = c :: tail ∧ StartsValue c := by
  apply exists_cons_of_separatedText ?_ h
  rintro _ _ ⟨_, _, _, _⟩
  exact ⟨'"', _, rfl, .inl (by decide)⟩

variable {gap : List Char}

theorem skipSpaces_append_value (hgap : IsGap gap)
    (h : ∃ c tail, text = c :: tail ∧ StartsValue c) (rest : List Char) :
    skipSpaces (gap ++ (text ++ rest)) = text ++ rest := by
  rcases h with ⟨c, tail, rfl, hc⟩
  exact skipSpaces_append_cons hgap hc.not_closes.1

end Heads

section Names

theorem name?_append {name cs before behind rest : List Char} (hname : StringText name cs)
    (hbefore : IsGap before) :
    name? ('"' :: (name ++ '"' :: (before ++ ':' :: (behind ++ rest))))
      = some (String.ofList cs, skipSpaces (behind ++ rest)) := by
  have hread := (string?_eq_some_iff (name ++ '"' :: (before ++ ':' :: (behind ++ rest))) _ _).mpr
    ⟨name, rfl, hname⟩
  have hskip : skipSpaces (before ++ ':' :: (behind ++ rest)) = ':' :: (behind ++ rest) :=
    skipSpaces_append_cons hbefore rfl
  rw [name?, hread]
  simp [hskip]

theorem exists_of_name? {text rest : List Char} {name : String} (h : name? text = some (name, rest)) :
    ∃ inner cs before behind, name = String.ofList cs
      ∧ text = '"' :: (inner ++ '"' :: (before ++ ':' :: (behind ++ rest)))
      ∧ StringText inner cs ∧ IsGap before ∧ IsGap behind := by
  unfold name? at h
  split at h
  . next text =>
    simp only [bind, Option.bind_eq_some_iff, Prod.exists] at h
    rcases h with ⟨cs, rest', hstring, h⟩
    rcases stringText_of_string? hstring with ⟨inner, rfl, hinner⟩
    rcases exists_gap rest' with ⟨before, hbefore, hbefore'⟩
    split at h
    . next rest'' hcolon =>
      simp only [pure, Option.some.injEq, Prod.mk.injEq] at h
      rcases h with ⟨rfl, rfl⟩
      rcases exists_gap rest'' with ⟨behind, hbehind, hbehind'⟩
      refine ⟨inner, cs, before, behind, rfl, ?_, hinner, hbefore, hbehind⟩
      rw [← hbehind', ← hcolon, ← hbefore']
    . contradiction
  . contradiction

end Names

section Reading

/-!
The fuel that a text needs is twice its length: one for the value itself, one for the items in it.
-/

variable {fuel : Nat}

def ReadsValues (fuel : Nat) : Prop :=
  ∀ {depth json text}, ValueText depth json text → 2 * text.length ≤ fuel →
    ∀ rest, EndsNumber rest → value? fuel depth (text ++ rest) = some (json, rest)

def ReadsItems (fuel : Nat) : Prop :=
  ∀ {depth items text}, SeparatedText (ValueText depth) items text → 2 * text.length < fuel →
    ∀ rest, items? fuel depth (text ++ ']' :: rest) = some (items, rest)

def ReadsMembers (fuel : Nat) : Prop :=
  ∀ {depth members text}, SeparatedText (MemberText (ValueText depth)) members text →
    2 * text.length < fuel → ∀ rest, members? fuel depth (text ++ '\x7d' :: rest) = some (members, rest)

theorem value?_cons_of_number {depth : Nat} {c : Char} {text : List Char}
    (hc : c = '-' ∨ c.isDigit = true) :
    value? (fuel + 1) depth (c :: text)
      = (number? (c :: text)).map fun (n, rest) => (.number n, rest) := by
  unfold value?
  split
  case h_7 =>
    cases number? (c :: text) with
    | none => rfl
    | some read => rfl
  all_goals
    next heq =>
    rcases List.cons.inj heq with ⟨rfl, _⟩
    exact absurd hc (by decide)

theorem readsItems_succ (hvalues : ReadsValues fuel) (hitems : ReadsItems fuel) :
    ReadsItems (fuel + 1) := by
  intro depth items text h hfuel rest
  cases h with
  | @last item text gap htext hgap =>
    rw [List.length_append] at hfuel
    have hread := hvalues htext (by omega) (gap ++ ']' :: rest)
      (endsNumber_gap_append hgap (endsNumber_cons (by decide)))
    have hskip : skipSpaces (gap ++ ']' :: rest) = ']' :: rest := skipSpaces_append_cons hgap rfl
    rw [List.append_assoc, items?, hread]
    simp [hskip]
  | @more item items text gap next more htext hgap hnext hmore =>
    simp only [List.length_append, List.length_cons] at hfuel
    have hread := hvalues htext (by omega) (gap ++ ',' :: (next ++ (more ++ ']' :: rest)))
      (endsNumber_gap_append hgap (endsNumber_cons (by decide)))
    have hskip : skipSpaces (gap ++ ',' :: (next ++ (more ++ ']' :: rest)))
        = ',' :: (next ++ (more ++ ']' :: rest)) := skipSpaces_append_cons hgap rfl
    have hread' := hitems hmore (by omega) rest
    rw [items?]
    simp [hread, hskip, skipSpaces_append_value hnext (exists_cons_of_items hmore), hread']

theorem readsMembers_succ (hvalues : ReadsValues fuel) (hmembers : ReadsMembers fuel) :
    ReadsMembers (fuel + 1) := by
  intro depth members text h hfuel rest
  cases h with
  | @last _ _ gap htext hgap =>
    rcases htext with ⟨hname, hbefore, hbehind, hvalue⟩
    next value name cs before behind text =>
    simp only [List.length_append, List.length_cons] at hfuel
    have hread := hvalues hvalue (by omega) (gap ++ '\x7d' :: rest)
      (endsNumber_gap_append hgap (endsNumber_cons (by decide)))
    have hskip : skipSpaces (gap ++ '\x7d' :: rest) = '\x7d' :: rest := skipSpaces_append_cons hgap rfl
    simp only [List.cons_append, List.append_assoc]
    rw [members?, name?_append hname hbefore]
    simp [skipSpaces_append_value hbehind (exists_cons_of_valueText hvalue), hread, hskip]
  | @more _ members _ gap next more htext hgap hnext hmore =>
    rcases htext with ⟨hname, hbefore, hbehind, hvalue⟩
    next value name cs before behind text =>
    simp only [List.length_append, List.length_cons] at hfuel
    have hread := hvalues hvalue (by omega) (gap ++ ',' :: (next ++ (more ++ '\x7d' :: rest)))
      (endsNumber_gap_append hgap (endsNumber_cons (by decide)))
    have hskip : skipSpaces (gap ++ ',' :: (next ++ (more ++ '\x7d' :: rest)))
        = ',' :: (next ++ (more ++ '\x7d' :: rest)) := skipSpaces_append_cons hgap rfl
    have hread' := hmembers hmore (by omega) rest
    simp only [List.cons_append, List.append_assoc]
    rw [members?, name?_append hname hbefore]
    simp [skipSpaces_append_value hbehind (exists_cons_of_valueText hvalue), hread, hskip,
      skipSpaces_append_value hnext (exists_cons_of_members hmore), hread']

theorem value?_append_atom {depth : Nat} {json : Json} {text rest : List Char}
    (h : AtomText json text) (hrest : EndsNumber rest) :
    value? (fuel + 1) depth (text ++ rest) = some (json, rest) := by
  cases h with
  | null => simp [value?]
  | true => simp [value?]
  | false => simp [value?]
  | number htext =>
    have hread := number?_append htext hrest
    rcases exists_cons_of_numberText htext with ⟨c, tail, rfl, hc⟩
    rw [List.cons_append] at hread ⊢
    rw [value?_cons_of_number hc, hread]
    rfl
  | @string text cs htext =>
    have hread := (string?_eq_some_iff (text ++ '"' :: rest) cs rest).mpr ⟨text, rfl, htext⟩
    simp only [List.cons_append, List.append_assoc, List.nil_append]
    rw [value?]
    simp only [hread]
    simp

theorem readsValues_succ (hitems : ReadsItems fuel) (hmembers : ReadsMembers fuel) :
    ReadsValues (fuel + 1) := by
  intro depth json text h hfuel rest hrest
  rcases h.atom_or_collection with hatom | ⟨depth, rfl, hcollection⟩
  . exact value?_append_atom hatom hrest
  cases hcollection with
  | emptyArray hgap => simp [value?, skipSpaces_append_cons hgap (c := ']') rfl]
  | emptyObject hgap => simp [value?, skipSpaces_append_cons hgap (c := '\x7d') rfl]
  | @array items gap text hgap htext =>
    simp only [List.length_append, List.length_cons] at hfuel
    have hread := hitems htext (by omega) rest
    have hskip := skipSpaces_append_value hgap (exists_cons_of_items htext) (']' :: rest)
    rcases exists_cons_of_items htext with ⟨c, tail, rfl, hc⟩
    simp only [List.cons_append, List.append_assoc, List.nil_append] at hskip hread ⊢
    rw [value?]
    simp [hskip, hread, hc.not_closes.2.1]
  | @object members gap text hgap htext =>
    simp only [List.length_append, List.length_cons] at hfuel
    have hread := hmembers htext (by omega) rest
    have hskip := skipSpaces_append_value hgap (exists_cons_of_members htext) ('\x7d' :: rest)
    rcases exists_cons_of_members htext with ⟨c, tail, rfl, hc⟩
    simp only [List.cons_append, List.append_assoc, List.nil_append] at hskip hread ⊢
    rw [value?]
    simp [hskip, hread, hc.not_closes.2.2]

theorem reads_text (fuel : Nat) : ReadsValues fuel ∧ ReadsItems fuel ∧ ReadsMembers fuel := by
  induction fuel with
  | zero =>
    refine ⟨?_, fun _ hfuel => by omega, fun _ hfuel => by omega⟩
    intro depth json text h hfuel
    rcases exists_cons_of_valueText h with ⟨c, tail, rfl, _⟩
    simp at hfuel
  | succ fuel ih =>
    rcases ih with ⟨hvalues, hitems, hmembers⟩
    exact ⟨readsValues_succ hitems hmembers, readsItems_succ hvalues hitems,
      readsMembers_succ hvalues hmembers⟩

end Reading

section Acceptance

variable {fuel : Nat}

def AcceptsValues (fuel : Nat) : Prop :=
  ∀ {depth text json rest}, value? fuel depth text = some (json, rest) →
    ∃ front, text = front ++ rest ∧ ValueText depth json front

def AcceptsItems (fuel : Nat) : Prop :=
  ∀ {depth text items rest}, items? fuel depth text = some (items, rest) →
    ∃ front, text = front ++ ']' :: rest ∧ SeparatedText (ValueText depth) items front

def AcceptsMembers (fuel : Nat) : Prop :=
  ∀ {depth text members rest}, members? fuel depth text = some (members, rest) →
    ∃ front, text = front ++ '\x7d' :: rest ∧ SeparatedText (MemberText (ValueText depth)) members front

theorem acceptsItems_succ (hvalues : AcceptsValues fuel) (hitems : AcceptsItems fuel) :
    AcceptsItems (fuel + 1) := by
  intro depth text items rest h
  simp only [items?, bind, Option.bind_eq_some_iff, Prod.exists] at h
  rcases h with ⟨item, behind, hread, h⟩
  rcases hvalues hread with ⟨front, rfl, hfront⟩
  rcases exists_gap behind with ⟨gap, hgap, hgap'⟩
  split at h
  . next behind' hcomma =>
    simp only [Option.bind_eq_some_iff, Prod.exists, pure, Option.some.injEq, Prod.mk.injEq] at h
    rcases h with ⟨items, rest', hmore, rfl, rfl⟩
    rcases hitems hmore with ⟨more, hmore', hmore⟩
    rcases exists_gap behind' with ⟨next, hnext, hnext'⟩
    refine ⟨front ++ (gap ++ ',' :: (next ++ more)), ?_, .more hfront hgap hnext hmore⟩
    rw [hgap', hcomma, hnext', hmore']
    simp
  . next behind' hend =>
    simp only [pure, Option.some.injEq, Prod.mk.injEq] at h
    rcases h with ⟨rfl, rfl⟩
    refine ⟨front ++ gap, ?_, .last hfront hgap⟩
    rw [hgap', hend, List.append_assoc]
  . contradiction

theorem acceptsMembers_succ (hvalues : AcceptsValues fuel) (hmembers : AcceptsMembers fuel) :
    AcceptsMembers (fuel + 1) := by
  intro depth text members rest h
  simp only [members?, bind, Option.bind_eq_some_iff, Prod.exists] at h
  rcases h with ⟨name, behind, hname, value, behind', hread, h⟩
  rcases exists_of_name? hname with ⟨inner, cs, before, colon, rfl, rfl, hinner, hbefore, hcolon⟩
  rcases hvalues hread with ⟨front, rfl, hfront⟩
  rcases exists_gap behind' with ⟨gap, hgap, hgap'⟩
  have hmember : MemberText (ValueText depth) (String.ofList cs, value)
      ('"' :: (inner ++ '"' :: (before ++ ':' :: (colon ++ front)))) :=
    .intro hinner hbefore hcolon hfront
  split at h
  . next behind' hcomma =>
    simp only [Option.bind_eq_some_iff, Prod.exists, pure, Option.some.injEq, Prod.mk.injEq] at h
    rcases h with ⟨members, rest', hmore, rfl, rfl⟩
    rcases hmembers hmore with ⟨more, hmore', hmore⟩
    rcases exists_gap behind' with ⟨next, hnext, hnext'⟩
    refine ⟨_, ?_, .more hmember hgap hnext hmore⟩
    rw [hgap', hcomma, hnext', hmore']
    simp
  . next behind' hend =>
    simp only [pure, Option.some.injEq, Prod.mk.injEq] at h
    rcases h with ⟨rfl, rfl⟩
    refine ⟨_, ?_, .last hmember hgap⟩
    rw [hgap', hend]
    simp
  . contradiction

theorem acceptsValues_succ (hitems : AcceptsItems fuel) (hmembers : AcceptsMembers fuel) :
    AcceptsValues (fuel + 1) := by
  intro depth text json rest h
  unfold value? at h
  split at h
  . simp only [Option.some.injEq, Prod.mk.injEq] at h
    rcases h with ⟨rfl, rfl⟩
    exact ⟨_, rfl, AtomText.null.valueText _⟩
  . simp only [Option.some.injEq, Prod.mk.injEq] at h
    rcases h with ⟨rfl, rfl⟩
    exact ⟨_, rfl, AtomText.true.valueText _⟩
  . simp only [Option.some.injEq, Prod.mk.injEq] at h
    rcases h with ⟨rfl, rfl⟩
    exact ⟨_, rfl, AtomText.false.valueText _⟩
  . simp only [bind, Option.bind_eq_some_iff, Prod.exists, pure, Option.some.injEq,
      Prod.mk.injEq] at h
    rcases h with ⟨cs, rest', hstring, rfl, rfl⟩
    rcases stringText_of_string? hstring with ⟨inner, rfl, hinner⟩
    exact ⟨_, by simp, (AtomText.string hinner).valueText _⟩
  . next text =>
    rcases exists_gap text with ⟨gap, hgap, hgap'⟩
    split at h
    . contradiction
    . next depth =>
      split at h
      . next behind hend =>
        simp only [Option.some.injEq, Prod.mk.injEq] at h
        rcases h with ⟨rfl, rfl⟩
        refine ⟨_, ?_, (CollectionText.emptyArray hgap).valueText⟩
        rw [hgap', hend]
        simp
      . simp only [bind, Option.bind_eq_some_iff, Prod.exists, pure, Option.some.injEq,
          Prod.mk.injEq] at h
        rcases h with ⟨items, rest', hread, rfl, rfl⟩
        rcases hitems hread with ⟨front, hfront', hfront⟩
        refine ⟨_, ?_, (CollectionText.array hgap hfront).valueText⟩
        rw [hgap', hfront']
        simp
  . next text =>
    rcases exists_gap text with ⟨gap, hgap, hgap'⟩
    split at h
    . contradiction
    . next depth =>
      split at h
      . next behind hend =>
        simp only [Option.some.injEq, Prod.mk.injEq] at h
        rcases h with ⟨rfl, rfl⟩
        refine ⟨_, ?_, (CollectionText.emptyObject hgap).valueText⟩
        rw [hgap', hend]
        simp
      . simp only [bind, Option.bind_eq_some_iff, Prod.exists, pure, Option.some.injEq,
          Prod.mk.injEq] at h
        rcases h with ⟨members, rest', hread, rfl, rfl⟩
        rcases hmembers hread with ⟨front, hfront', hfront⟩
        refine ⟨_, ?_, (CollectionText.object hgap hfront).valueText⟩
        rw [hgap', hfront']
        simp
  . simp only [bind, Option.bind_eq_some_iff, Prod.exists, pure, Option.some.injEq,
      Prod.mk.injEq] at h
    rcases h with ⟨number, rest', hnumber, rfl, rfl⟩
    rcases numberText_of_number? hnumber with ⟨front, rfl, hfront⟩
    exact ⟨front, rfl, (AtomText.number hfront).valueText _⟩

theorem accepts_text (fuel : Nat) :
    AcceptsValues fuel ∧ AcceptsItems fuel ∧ AcceptsMembers fuel := by
  induction fuel with
  | zero => exact ⟨nofun, nofun, nofun⟩
  | succ fuel ih =>
    rcases ih with ⟨hvalues, hitems, hmembers⟩
    exact ⟨acceptsValues_succ hitems hmembers, acceptsItems_succ hvalues hitems,
      acceptsMembers_succ hvalues hmembers⟩

end Acceptance

end Reader

open Reader

theorem parse?_eq_some_iff (text : String) (json : Json) :
    parse? text = some json
      ↔ ∃ before body behind, text.toList = before ++ (body ++ behind) ∧ IsGap before ∧ IsGap behind
        ∧ ValueText maxDepth json body := by
  constructor
  . intro h
    simp only [parse?, bind, Option.bind_eq_some_iff, Prod.exists, Option.ite_none_right_eq_some,
      Option.some.injEq] at h
    rcases h with ⟨json, rest, hread, hend, rfl⟩
    rcases (accepts_text _).1 hread with ⟨body, hbody, hvalue⟩
    rcases exists_gap text.toList with ⟨before, hbefore, hbefore'⟩
    rcases exists_gap rest with ⟨behind, hbehind, hbehind'⟩
    rw [List.isEmpty_iff] at hend
    rw [hend, List.append_nil] at hbehind'
    refine ⟨before, body, behind, ?_, hbefore, hbehind, hvalue⟩
    rw [hbefore', hbody, hbehind']
  . rintro ⟨before, body, behind, htext, hbefore, hbehind, hvalue⟩
    have hend : skipSpaces behind = [] := by
      rw [skipSpaces, List.dropWhile_eq_nil_iff]
      exact hbehind
    have hnil : EndsNumber [] := nofun
    have hrest : EndsNumber behind := by
      simpa using endsNumber_gap_append hbehind hnil
    have hread := (reads_text (2 * (body ++ behind).length + 2)).1 hvalue
      (by rw [List.length_append]; omega) behind hrest
    have hskip := skipSpaces_append_value hbefore (exists_cons_of_valueText hvalue) behind
    simp [parse?, htext, hskip, -List.length_append, hread, hend]

end MessageAbi.Json
