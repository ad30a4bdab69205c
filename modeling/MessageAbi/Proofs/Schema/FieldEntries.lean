import Mathlib
import MessageAbi.Proofs.Schema.DocumentShape

/-!
This module contains which entries the mapping of a field may have, and that a document which is read gives
one field for each of them.
-/

namespace MessageAbi.Schema.Document

open Yaml

variable {path : Path}

def scalarOf? : Tree → Option ScalarValue
  | .scalar s => if (localTag? s.tag).isSome then none else ScalarValue.ofScalar? s
  | _ => none

section Fields

def stringOf? (tree : Tree) : Option String :=
  match scalarOf? tree with
  | some (.string s) => some s
  | _ => none

/--
Whether a tree in a field means the name (`false`) or the type (`true`) as a key of the full form.
-/
def componentOf? (tree : Tree) : Option Bool :=
  (scalarOf? tree).bind fun value => (Content.scalar value).fieldKey?

theorem fullShape?_go_cons_eq_some_iff {name type : Option String} {shape : FieldShape}
    (content : Content × Content) (contents : List (Content × Content)) :
    fullShape?.go name type (content :: contents) = some shape
      ↔ ∃ text, content.2.string? = some text
        ∧ (content.1.fieldKey? = some false ∧ name = none
            ∧ fullShape?.go (some text) type contents = some shape
          ∨ content.1.fieldKey? = some true ∧ type = none
            ∧ fullShape?.go name (some text) contents = some shape) := by
  rcases content with ⟨key, value⟩
  rw [fullShape?.go]
  cases value.string? with
  | none => simp
  | some text =>
    cases key.fieldKey? with
    | none => simp
    | some isType =>
      cases isType with
      | false => cases name <;> simp
      | true => cases type <;> simp

theorem fullShape?_go_complete_iff (name type : String) (shape : FieldShape)
    (contents : List (Content × Content)) :
    fullShape?.go (some name) (some type) contents = some shape
      ↔ contents = [] ∧ shape = .full name type := by
  cases contents with
  | nil => simp [fullShape?.go, eq_comm]
  | cons content contents => simp [fullShape?_go_cons_eq_some_iff]

/--
What an entry contributes to the full form: which key it has, and a string.
-/
def Content.component (content : Content × Content) : Option Bool × Option String :=
  (content.1.fieldKey?, content.2.string?)

theorem fullShape?_go_named_iff (name : String) (shape : FieldShape)
    (contents : List (Content × Content)) :
    fullShape?.go (some name) none contents = some shape
      ↔ ∃ type, contents.map Content.component = [(some true, some type)]
        ∧ shape = .full name type := by
  cases contents with
  | nil => simp [fullShape?.go]
  | cons content contents =>
    simp only [fullShape?_go_cons_eq_some_iff, fullShape?_go_complete_iff, Content.component,
      List.map_cons, List.cons.injEq, List.map_eq_nil_iff, Prod.mk.injEq, reduceCtorEq, false_and,
      and_false, false_or, true_and]
    apply exists_congr
    intro text
    tauto

theorem fullShape?_go_typed_iff (type : String) (shape : FieldShape)
    (contents : List (Content × Content)) :
    fullShape?.go none (some type) contents = some shape
      ↔ ∃ name, contents.map Content.component = [(some false, some name)]
        ∧ shape = .full name type := by
  cases contents with
  | nil => simp [fullShape?.go]
  | cons content contents =>
    simp only [fullShape?_go_cons_eq_some_iff, fullShape?_go_complete_iff, Content.component,
      List.map_cons, List.cons.injEq, List.map_eq_nil_iff, Prod.mk.injEq, reduceCtorEq, false_and,
      and_false, or_false, true_and]
    apply exists_congr
    intro text
    tauto

theorem fullShape?_eq_some_iff (contents : List (Content × Content)) (shape : FieldShape) :
    fullShape? contents = some shape
      ↔ ∃ name type, (contents.map Content.component).Perm
          [(some false, some name), (some true, some type)] ∧ shape = .full name type := by
  rw [fullShape?]
  cases contents with
  | nil => simp [fullShape?.go]
  | cons content contents =>
    simp only [fullShape?_go_cons_eq_some_iff, fullShape?_go_named_iff, fullShape?_go_typed_iff,
      true_and, List.perm_pair, List.map_cons, List.cons.injEq]
    constructor
    . rintro ⟨text, htext, ⟨hkey, type, hrest, hshape⟩ | ⟨hkey, name, hrest, hshape⟩⟩
      . exact ⟨text, type, .inl ⟨by rw [Content.component, hkey, htext], hrest⟩, hshape⟩
      . exact ⟨name, text, .inr ⟨by rw [Content.component, hkey, htext], hrest⟩, hshape⟩
    . rintro ⟨name, type, ⟨hcontent, hrest⟩ | ⟨hcontent, hrest⟩, hshape⟩
      . injection hcontent with hkey htext
        exact ⟨name, htext, .inl ⟨hkey, type, hrest, hshape⟩⟩
      . injection hcontent with hkey htext
        exact ⟨type, htext, .inr ⟨hkey, name, hrest, hshape⟩⟩

def Content.strings (content : Content × Content) : Option String × Option String :=
  (content.1.string?, content.2.string?)

theorem shortShape?_eq_some_iff (contents : List (Content × Content)) (shape : FieldShape) :
    shortShape? contents = some shape
      ↔ ∃ entries : List (String × String), contents.map Content.strings
          = entries.map (fun entry => (some entry.1, some entry.2)) ∧ shape = .short entries := by
  have hentry (content : Content × Content) (entry : String × String) :
      (do return (← content.1.string?, ← content.2.string?)) = some entry
        ↔ Content.strings content = (some entry.1, some entry.2) := by
    unfold Content.strings
    cases content.1.string? <;> cases content.2.string? <;> simp [Prod.ext_iff]
  rw [shortShape?, Option.map_eq_some_iff]
  apply exists_congr
  intro entries
  rw [mapM_eq_some_iff, ← List.forall₂_eq_eq_eq, List.forall₂_map_left_iff,
    List.forall₂_map_right_iff, @eq_comm _ shape]
  simp only [hentry]

theorem collapse_append_singleton (entries : List (String × String)) (entry : String × String) :
    collapse (entries ++ [entry]) = (collapse entries).filter (·.1 != entry.1) ++ [entry] := by
  rw [collapse, List.foldl_append]
  rfl

theorem exists_mem_collapse_iff (entries : List (String × String)) (key : String) :
    (∃ entry ∈ collapse entries, entry.1 = key) ↔ ∃ entry ∈ entries, entry.1 = key := by
  induction entries using List.reverseRecOn with
  | nil => rfl
  | append_singleton entries last ih =>
    simp only [collapse_append_singleton, List.mem_append, or_and_right, exists_or, ← ih]
    by_cases heq : last.1 = key
    . simp [heq]
    . apply or_congr_left
      simp only [List.mem_filter, bne_iff_ne]
      constructor
      . rintro ⟨entry, ⟨hmem, _⟩, hkey⟩
        exact ⟨entry, hmem, hkey⟩
      . rintro ⟨entry, hmem, rfl⟩
        exact ⟨entry, ⟨hmem, Ne.symm heq⟩, rfl⟩

theorem forall_mem_collapse_iff (entries : List (String × String)) (key : String) :
    (∀ entry ∈ collapse entries, entry.1 = key) ↔ ∀ entry ∈ entries, entry.1 = key := by
  constructor
  . intro h entry hmem
    rcases (exists_mem_collapse_iff entries entry.1).mpr ⟨entry, hmem, rfl⟩ with ⟨kept, hkept, heq⟩
    rw [← heq]
    exact h kept hkept
  . intro h entry hmem
    rcases (exists_mem_collapse_iff entries entry.1).mp ⟨entry, hmem, rfl⟩ with ⟨given, hgiven, heq⟩
    rw [← heq]
    exact h given hgiven

-- The last entry is always kept, so one entry is left exactly if all others have its key.
theorem collapse_eq_singleton_iff (entries : List (String × String)) (entry : String × String) :
    collapse entries = [entry]
      ↔ (∀ other ∈ entries, other.1 = entry.1) ∧ entries.getLast? = some entry := by
  induction entries using List.reverseRecOn with
  | nil => simp [collapse]
  | append_singleton entries last _ =>
    have hfilter : (collapse entries).filter (·.1 != last.1) = []
        ↔ ∀ other ∈ entries, other.1 = last.1 := by
      rw [List.filter_eq_nil_iff, ← forall_mem_collapse_iff]
      simp only [bne_iff_ne, ne_eq, not_not]
    rw [collapse_append_singleton, List.append_eq_singleton_iff, hfilter, List.getLast?_concat]
    constructor
    . rintro (⟨h, heq⟩ | ⟨_, hnil⟩)
      . injection heq with heq _
        rw [← heq]
        exact ⟨List.forall_mem_append.mpr ⟨h, by simp⟩, rfl⟩
      . contradiction
    . rintro ⟨h, heq⟩
      injection heq with heq
      rw [← heq] at h ⊢
      exact .inl ⟨(List.forall_mem_append.mp h).1, rfl⟩

theorem Content.string?_eq_some_iff (content : Content) (text : String) :
    content.string? = some text ↔ content = .scalar (.string text) := by
  unfold Content.string?
  split
  . simp
  next hother =>
    simp only [reduceCtorEq, false_iff]
    exact hother text

-- The two keys of the full form differ, and those of the short form are all one string.
theorem fullShape?_eq_none_of_keys {contents : List (Content × Content)} {name : String}
    (h : ∀ content ∈ contents, content.1.string? = some name) : fullShape? contents = none := by
  rw [Option.eq_none_iff_forall_ne_some]
  intro shape hshape
  rcases (fullShape?_eq_some_iff _ _).mp hshape with ⟨n, type, hperm, _⟩
  have hcomponent (component : Option Bool × Option String)
      (hmem : component ∈ [(some false, some n), (some true, some type)]) :
      component.1 = (Content.scalar (.string name)).fieldKey? := by
    rcases List.mem_map.mp (hperm.mem_iff.mpr hmem) with ⟨content, hcontent, rfl⟩
    rw [← (Content.string?_eq_some_iff _ _).mp (h content hcontent), Content.component]
  have hname := hcomponent _ List.mem_cons_self
  have htype := hcomponent _ (List.mem_cons_of_mem _ List.mem_cons_self)
  simp [← hname] at htype

theorem shortEntry_eq_some_iff (entries : List (String × String)) (name type : String) :
    FieldShape.entry? (.short entries) = some (name, type)
      ↔ ∃ types : List String, entries = types.map (name, ·) ∧ types.getLast? = some type := by
  have hcollapse : FieldShape.entry? (.short entries) = some (name, type)
      ↔ collapse entries = [(name, type)] := by
    unfold FieldShape.entry?
    dsimp only
    split
    next heq => simp [heq]
    next hother =>
      simp only [reduceCtorEq, false_iff]
      exact hother _
  rw [hcollapse, collapse_eq_singleton_iff]
  constructor
  . rintro ⟨hkeys, hlast⟩
    refine ⟨entries.map (·.2), ?_, by simp [hlast]⟩
    rw [List.map_map]
    conv_lhs => rw [← List.map_id entries]
    exact List.map_congr_left fun entry hmem => Prod.ext (hkeys entry hmem) rfl
  . rintro ⟨types, rfl, hlast⟩
    simp [hlast]

theorem exists_fieldShape?_iff (contents : List (Content × Content)) (name type : String) :
    (∃ shape, fieldShape? (.mapping contents) = some shape ∧ shape.entry? = some (name, type))
      ↔ (contents.map Content.component).Perm [(some false, some name), (some true, some type)]
        ∨ ∃ types : List String, contents.map Content.strings
            = types.map (fun text => (some name, some text)) ∧ types.getLast? = some type := by
  simp only [fieldShape?, Option.or_eq_some_iff]
  constructor
  . rintro ⟨shape, hfull | ⟨_, hshort⟩, hentry⟩
    . rcases (fullShape?_eq_some_iff _ _).mp hfull with ⟨n, t, hperm, rfl⟩
      cases hentry
      exact .inl hperm
    . rcases (shortShape?_eq_some_iff _ _).mp hshort with ⟨strings, hstrings, rfl⟩
      rcases (shortEntry_eq_some_iff _ _ _).mp hentry with ⟨types, rfl, hlast⟩
      rw [List.map_map] at hstrings
      exact .inr ⟨types, hstrings, hlast⟩
  . rintro (hperm | ⟨types, hstrings, hlast⟩)
    . exact ⟨_, .inl ((fullShape?_eq_some_iff _ _).mpr ⟨_, _, hperm, rfl⟩), rfl⟩
    . have hkeys : ∀ content ∈ contents, content.1.string? = some name := by
        intro content hmem
        rcases exists_mem_of_map_eq_map hstrings hmem with ⟨_, _, heq⟩
        injection heq with hkey _
        exact hkey.symm
      have hshort : shortShape? contents = some (.short (types.map (name, ·))) := by
        refine (shortShape?_eq_some_iff _ _).mpr ⟨_, ?_, rfl⟩
        rw [List.map_map]
        exact hstrings
      exact ⟨_, .inr ⟨fullShape?_eq_none_of_keys hkeys, hshort⟩,
        (shortEntry_eq_some_iff _ _ _).mpr ⟨types, rfl, hlast⟩⟩

theorem readContent_scalar_eq_ok_iff (s : Scalar) (content : Content) :
    readContent (.scalar s) path = .ok content
      ↔ ∃ value, scalarOf? (.scalar s) = some value ∧ content = .scalar value := by
  rw [readContent, scalarOf?]
  split
  . simp
  . cases ScalarValue.ofScalar? s <;> simp [@eq_comm _ content]

theorem readContent_sequence_eq_ok_iff (tag : Option String) (items : List Tree)
    (content : Content) :
    readContent (.sequence tag items) path = .ok content
      ↔ localTag? tag = none ∧ checkItems items 0 path = .ok () ∧ content = .sequence := by
  rw [readContent]
  cases localTag? tag with
  | none =>
    simp only [Option.isSome_none, Bool.false_eq_true, if_false, bind_eq_ok_iff, pure_eq_ok_iff,
      true_and]
    exact ⟨fun ⟨_, h⟩ => h, fun h => ⟨_, h⟩⟩
  | some name => simp

theorem readContent_mapping_eq_ok_iff (tag : Option String) (entries : List Entry)
    (content : Content) :
    readContent (.mapping tag entries) path = .ok content
      ↔ localTag? tag = none ∧ ∃ contents, readContents entries path = .ok contents
        ∧ content = .mapping contents := by
  rw [readContent]
  cases localTag? tag with
  | none =>
    simp only [Option.isSome_none, Bool.false_eq_true, if_false, bind_eq_ok_iff, pure_eq_ok_iff,
      true_and]
  | some name => simp

theorem readContent_eq_ok_scalar_iff (tree : Tree) (value : ScalarValue) :
    readContent tree path = .ok (.scalar value) ↔ scalarOf? tree = some value := by
  cases tree with
  | scalar s => simp [readContent_scalar_eq_ok_iff]
  | sequence tag items => simp [readContent_sequence_eq_ok_iff, scalarOf?]
  | mapping tag entries => simp [readContent_mapping_eq_ok_iff, scalarOf?]

theorem exists_mapping_of_readContent {tree : Tree} {contents : List (Content × Content)}
    (h : readContent tree path = .ok (.mapping contents)) :
    ∃ tag entries, tree = .mapping tag entries := by
  cases tree with
  | scalar s => simp [readContent_scalar_eq_ok_iff] at h
  | sequence tag items => simp [readContent_sequence_eq_ok_iff] at h
  | mapping tag entries => exact ⟨tag, entries, rfl⟩

def Content.scalar? : Content → Option ScalarValue
  | scalar value => some value
  | _ => none

theorem scalarOf?_of_readContent {tree : Tree} {content : Content}
    (h : readContent tree path = .ok content) : scalarOf? tree = content.scalar? := by
  ext value
  have hvalue : scalarOf? tree = some value ↔ readContent tree path = .ok (.scalar value) :=
    (readContent_eq_ok_scalar_iff tree value).symm
  rw [hvalue, h]
  cases content <;> simp [Content.scalar?]

theorem stringOf?_of_readContent {tree : Tree} {content : Content}
    (h : readContent tree path = .ok content) : stringOf? tree = content.string? := by
  rw [stringOf?, scalarOf?_of_readContent h]
  cases content with
  | scalar value => cases value <;> rfl
  | _ => rfl

theorem componentOf?_of_readContent {tree : Tree} {content : Content}
    (h : readContent tree path = .ok content) : componentOf? tree = content.fieldKey? := by
  rw [componentOf?, scalarOf?_of_readContent h]
  cases content with
  | scalar value => rfl
  | _ => rfl

theorem readContents_eq_ok_iff (entries : List Entry) (contents : List (Content × Content)) :
    readContents entries path = .ok contents
      ↔ List.Forall₂ (fun entry content => readContent entry.key path = .ok content.1
          ∧ readContent entry.value (path ++ [.key entry.label]) = .ok content.2)
        entries contents := by
  induction entries generalizing contents with
  | nil => simp [readContents, eq_comm]
  | cons entry entries ih =>
    rcases entry with ⟨key, label, value⟩
    simp only [readContents, bind_eq_ok_iff, pure_eq_ok_iff, ih, List.forall₂_cons_left_iff]
    constructor
    . rintro ⟨k, hk, v, hv, rest, hrest, rfl⟩
      exact ⟨(k, v), rest, ⟨hk, hv⟩, hrest, rfl⟩
    . rintro ⟨⟨k, v⟩, rest, ⟨hk, hv⟩, hrest, rfl⟩
      exact ⟨k, hk, v, hv, rest, hrest, rfl⟩

/--
The ways in which the entries of a mapping give a name and a type: as the two components of the full form,
or all under one key, of which the last one counts.
-/
inductive FieldEntries (name type : String) (entries : List Entry) : Prop where
  | full :
    (entries.map fun entry => (componentOf? entry.key, stringOf? entry.value)).Perm
      [(some false, some name), (some true, some type)] → FieldEntries name type entries
  | short {types : List String} :
    (entries.map fun entry => (stringOf? entry.key, stringOf? entry.value))
      = types.map (fun text => (some name, some text)) → types.getLast? = some type →
        FieldEntries name type entries

theorem exists_readContents {entries : List Entry}
    (h : ∀ {entry}, entry ∈ entries → ∃ key value, scalarOf? entry.key = some key
      ∧ scalarOf? entry.value = some value) :
    ∃ contents, readContents entries path = .ok contents := by
  simp only [readContents_eq_ok_iff]
  rw [exists_forall₂_iff]
  intro entry hmem
  rcases h hmem with ⟨key, value, hkey, hvalue⟩
  exact ⟨(.scalar key, .scalar value), (readContent_eq_ok_scalar_iff _ _).mpr hkey,
    (readContent_eq_ok_scalar_iff _ _).mpr hvalue⟩

theorem map_strings_of_readContents {entries : List Entry} {contents : List (Content × Content)}
    (h : readContents entries path = .ok contents) :
    entries.map (fun entry => (stringOf? entry.key, stringOf? entry.value))
      = contents.map Content.strings := by
  rw [readContents_eq_ok_iff] at h
  rw [← List.forall₂_eq_eq_eq, List.forall₂_map_left_iff, List.forall₂_map_right_iff]
  refine h.imp fun entry content hread => ?_
  rw [stringOf?_of_readContent hread.1, stringOf?_of_readContent hread.2, Content.strings]

theorem map_component_of_readContents {entries : List Entry} {contents : List (Content × Content)}
    (h : readContents entries path = .ok contents) :
    entries.map (fun entry => (componentOf? entry.key, stringOf? entry.value))
      = contents.map Content.component := by
  rw [readContents_eq_ok_iff] at h
  rw [← List.forall₂_eq_eq_eq, List.forall₂_map_left_iff, List.forall₂_map_right_iff]
  refine h.imp fun entry content hread => ?_
  rw [componentOf?_of_readContent hread.1, stringOf?_of_readContent hread.2, Content.component]

theorem stringOf?_eq_some_iff (tree : Tree) (text : String) :
    stringOf? tree = some text ↔ scalarOf? tree = some (.string text) := by
  unfold stringOf?
  split
  next heq => simp [heq]
  next hother =>
    simp only [reduceCtorEq, false_iff]
    exact hother text

theorem FieldEntries.scalars {name type : String} {entries : List Entry}
    (h : FieldEntries name type entries) {entry : Entry} (hmem : entry ∈ entries) :
    ∃ key value, scalarOf? entry.key = some key ∧ scalarOf? entry.value = some value := by
  cases h with
  | full hperm =>
    have hpair := hperm.subset (List.mem_map_of_mem hmem)
    simp only [List.mem_cons, Prod.mk.injEq, List.not_mem_nil, or_false] at hpair
    rcases hpair with ⟨hkey, hvalue⟩ | ⟨hkey, hvalue⟩
    all_goals
      rcases Option.bind_eq_some_iff.mp hkey with ⟨key, hkey, _⟩
      exact ⟨key, _, hkey, (stringOf?_eq_some_iff _ _).mp hvalue⟩
  | short heq _ =>
    rcases exists_mem_of_map_eq_map heq hmem with ⟨text, _, hstrings⟩
    injection hstrings with hkey hvalue
    exact ⟨_, _, (stringOf?_eq_some_iff _ _).mp hkey.symm, (stringOf?_eq_some_iff _ _).mp hvalue.symm⟩

def IsField (path : Path) (tree : Tree) (name type : String) : Prop :=
  ∃ content, readContent tree path = .ok content
    ∧ ∃ shape, fieldShape? content = some shape ∧ shape.entry? = some (name, type)

theorem isField_mapping_iff (tag : Option String) (entries : List Entry) (name type : String) :
    IsField path (.mapping tag entries) name type
      ↔ localTag? tag = none ∧ FieldEntries name type entries := by
  simp only [IsField, readContent_mapping_eq_ok_iff]
  constructor
  . rintro ⟨_, ⟨htag, contents, hcontents, rfl⟩, hshape⟩
    rw [exists_fieldShape?_iff, ← map_component_of_readContents hcontents,
      ← map_strings_of_readContents hcontents] at hshape
    rcases hshape with hperm | ⟨types, hstrings, hlast⟩
    . exact ⟨htag, .full hperm⟩
    . exact ⟨htag, .short hstrings hlast⟩
  . rintro ⟨htag, hentries⟩
    have hread : ∃ contents, readContents entries path = .ok contents :=
      exists_readContents hentries.scalars
    rcases hread with ⟨contents, hcontents⟩
    refine ⟨.mapping contents, ⟨htag, contents, hcontents, rfl⟩, ?_⟩
    rw [exists_fieldShape?_iff, ← map_component_of_readContents hcontents,
      ← map_strings_of_readContents hcontents]
    cases hentries with
    | full hperm => exact .inl hperm
    | short hstrings hlast => exact .inr ⟨_, hstrings, hlast⟩

end Fields

section Items

def valuesOf (key : String) (tree : Tree) : List Tree :=
  ((entriesOf tree).filter fun entry => textOf? entry.key = some key).map (·.value)

def messageItems (category : Category) (tree : Tree) : List Tree :=
  (valuesOf category.sectionName tree).flatMap itemsOf

def fieldItems (tree : Tree) : List Tree :=
  (Category.struct :: Category.messages).flatMap fun category =>
    (messageItems category tree).flatMap fun message => (valuesOf "fields" message).flatMap itemsOf

def writtenFields (document : Bytes) : List Tree :=
  if isBlank document then []
  else
    match Stream.ofBytes document with
    | .document tree => fieldItems tree
    | _ => []

theorem flatMap_filter_eq_lookup {sections : Sections} (hnodup : (sections.map (·.1)).Nodup)
    (category : Category) :
    (sections.filter (·.1 == category)).flatMap (·.2) = (sections.lookup category).getD [] := by
  induction sections with
  | nil => rfl
  | cons part sections ih =>
    rcases part with ⟨other, messages⟩
    rcases List.nodup_cons.mp hnodup with ⟨hfresh, hrest⟩
    rw [List.filter_cons, List.lookup_cons, BEq.comm]
    cases hbeq : category == other with
    | false => exact ih hrest
    | true =>
      rw [beq_iff_eq] at hbeq
      rw [← hbeq, ← lookup_eq_none_iff_notMem] at hfresh
      simp [ih hrest, hfresh]

theorem forall₂_messageItems_of_readShape {tree : Tree} {shape : Shape}
    (h : readShape tree = .ok shape) (category : Category) :
    List.Forall₂ (fun item message => ∃ place, readMessage item place = .ok message)
      (messageItems category tree) (shape.messages category) := by
  rcases (readShape_mapping_eq_ok_iff _ _ _).mp (readShape_entriesOf h)
    with ⟨sections, hnodup, hsections, rfl⟩
  rw [messageItems, valuesOf, List.flatMap_map, Shape.messages_ofSections,
    ← flatMap_filter_eq_lookup hnodup]
  refine List.rel_flatMap (List.rel_filter ?_ hsections) ?_
  . rintro entry ⟨other, messages⟩ ⟨hname, _⟩
    simp only [hname]
    cases other <;> cases category <;> decide
  . rintro entry ⟨other, messages⟩ ⟨_, hmessages⟩
    exact forall₂_itemsOf_of_readList hmessages

theorem forall₂_fields_of_readMessage {item : Tree} {message : MessageShape}
    (h : readMessage item path = .ok message) :
    List.Forall₂ (fun field shape => ∃ place content, readContent field place = .ok content
        ∧ fieldShape? content = some shape)
      ((valuesOf "fields" item).flatMap itemsOf) message.fields := by
  have hentries := (readMessage_mapping_eq_ok_iff _ _).mp (readMessage_entriesOf h)
  rw [valuesOf]
  generalize entriesOf item = entries at hentries ⊢
  cases hentries with
  | withoutFields hkey _ hfields => simp [hkey, hfields]
  | withFields hperm hname _ hkey hfields =>
    have hvalues := hperm.filter (fun entry => textOf? entry.key = some "fields")
    simp only [List.filter_cons, hname, hkey, Option.some.injEq, String.reduceEq, decide_true,
      decide_false, List.filter_nil, Bool.false_eq_true, if_true, if_false] at hvalues
    rw [List.perm_singleton] at hvalues
    rw [hvalues, List.map_singleton, List.flatMap_singleton]
    refine (forall₂_itemsOf_of_readList hfields).imp ?_
    rintro field shape ⟨place, hshape⟩
    rw [bind_eq_ok_iff] at hshape
    rcases hshape with ⟨content, hcontent, hshape⟩
    split at hshape
    next shape' heq =>
      cases hshape
      exact ⟨place, content, hcontent, heq⟩
    next => contradiction

def declaredFields (schema : Schema) : List Field :=
  (Category.struct :: Category.messages).flatMap fun category =>
    (schema.declarations category).flatMap (·.fields)

inductive GivesField (field : Field) : Tree → Prop where
  | ofEntries {tag : Option String} {entries : List Entry} {type : String} :
    localTag? tag = none → FieldEntries field.name type entries →
      checkIdentifier field.name = .ok () → TypeExpr.parse type = .ok field.type →
      field.resolved = none → GivesField field (.mapping tag entries)

theorem givesField_iff (category : Category) (declaration : String) (field : Field) (item : Tree) :
    GivesField field item
      ↔ ∃ content shape, readContent item path = .ok content ∧ fieldShape? content = some shape
        ∧ toField category declaration shape = .ok field := by
  simp only [toField_eq_ok_iff]
  constructor
  . rintro ⟨htag, hentries, hname, htype, hresolved⟩
    rcases (isField_mapping_iff _ _ _ _).mpr ⟨htag, hentries⟩
      with ⟨content, hcontent, shape, hshape, hentry⟩
    exact ⟨content, shape, hcontent, hshape, _, hentry, hname, htype, hresolved⟩
  . rintro ⟨content, shape, hcontent, hshape, type, hentry, hname, htype, hresolved⟩
    cases content with
    | mapping contents =>
      rcases exists_mapping_of_readContent hcontent with ⟨tag, entries, rfl⟩
      rcases (isField_mapping_iff _ _ _ _).mp ⟨_, hcontent, shape, hshape, hentry⟩
        with ⟨htag, hentries⟩
      exact .ofEntries htag hentries hname htype hresolved
    | _ => contradiction

theorem exists_readFields_of_givesField {items : List Tree} {fields : List Field}
    (h : List.Forall₂ (fun item field => GivesField field item) items fields) (tag : Option String)
    (category : Category) (declaration : String) :
    ∃ shapes, readFields (.sequence tag items) path = .ok shapes
      ∧ List.Forall₂ (fun shape field => toField category declaration shape = .ok field)
        shapes fields := by
  refine exists_readList_of_forall₂ (h.imp fun item field hfield place => ?_) tag
  rcases (givesField_iff category declaration field item).mp hfield
    with ⟨content, shape, hcontent, hshape, hfield⟩
  refine ⟨shape, ?_, hfield⟩
  rw [bind_eq_ok_iff]
  refine ⟨content, hcontent, ?_⟩
  rw [hshape]
  rfl

theorem fieldItems_of_isNull {tree : Tree} (h : isNull tree = .ok true) : fieldItems tree = [] := by
  cases tree with
  | scalar s => rfl
  | _ => simp [isNull] at h

theorem forall₂_givesField_of_toSchema {tree : Tree} {schema : Schema}
    (h : toSchema tree = .ok schema) :
    List.Forall₂ (fun item field => GivesField field item) (fieldItems tree)
      (declaredFields schema) := by
  rcases (toSchema_eq_ok_iff _ _).mp h with ⟨hnull, rfl⟩ | ⟨_, shape, hshape, hschema⟩
  . rw [fieldItems_of_isNull hnull]
    exact .nil
  . refine List.rel_flatMap (R := Eq) (List.forall₂_refl _) ?_
    rintro category _ rfl
    refine List.rel_flatMap (forall₂_comp (forall₂_messageItems_of_readShape hshape category)
      ((Shape.toSchema_eq_ok_iff _ _).mp hschema category)) ?_
    rintro item declaration ⟨message, ⟨place, hmessage⟩, hdeclaration⟩
    have hfields := ((toDeclaration_eq_ok_iff _ _ _).mp hdeclaration).2.2
    refine (forall₂_comp (forall₂_fields_of_readMessage hmessage) hfields).imp ?_
    rintro tree field ⟨shape', ⟨_, content, hcontent, hshape'⟩, hfield⟩
    exact (givesField_iff _ _ _ _).mpr ⟨content, shape', hcontent, hshape', hfield⟩

end Items

section Acceptance

/--
The two shapes of a field: the keys `name` and `type`, each once, or a single entry.
-/
def IsTwoShaped (entries : List Entry) : Prop :=
  (entries.map fun entry => stringOf? entry.key).Perm [some "name", some "type"]
    ∨ entries.length = 1

instance (entries : List Entry) : Decidable (IsTwoShaped entries) :=
  inferInstanceAs (Decidable (_ ∨ _))

def RepeatsOneKey (entries : List Entry) : Prop :=
  1 < entries.length ∧ ∃ key, ∀ entry ∈ entries, stringOf? entry.key = some key

def IsPlace (key : Tree) : Prop :=
  scalarOf? key = some (.integer 0) ∨ scalarOf? key = some (.integer 1)

def NumbersComponents (entries : List Entry) : Prop :=
  (entries.map fun entry => componentOf? entry.key).Perm [some false, some true]
    ∧ ∃ entry ∈ entries, IsPlace entry.key

def componentName (isType : Bool) : String :=
  if isType then "type" else "name"

theorem stringOf?_of_componentOf? {key : Tree} {isType : Bool}
    (hcomponent : componentOf? key = some isType) (hplace : ¬IsPlace key) :
    stringOf? key = some (componentName isType) := by
  rcases Option.bind_eq_some_iff.mp hcomponent with ⟨value, hvalue, hkey⟩
  rw [IsPlace, hvalue] at hplace
  rw [stringOf?_eq_some_iff, hvalue]
  unfold Content.fieldKey? at hkey
  split at hkey <;> simp_all [componentName]

theorem FieldEntries.shape {name type : String} {entries : List Entry}
    (h : FieldEntries name type entries) :
    IsTwoShaped entries ∨ RepeatsOneKey entries ∨ NumbersComponents entries := by
  cases h with
  | full hperm =>
    have hkeys : (entries.map fun entry => componentOf? entry.key).Perm [some false, some true] := by
      simpa [Function.comp_def] using hperm.map Prod.fst
    by_cases hplace : ∃ entry ∈ entries, IsPlace entry.key
    . exact .inr (.inr ⟨hkeys, hplace⟩)
    . have hnames : entries.map (fun entry => stringOf? entry.key)
          = (entries.map fun entry => componentOf? entry.key).map (Option.map componentName) := by
        rw [List.map_map]
        apply List.map_congr_left
        intro entry hmem
        have hcomponent := hkeys.subset (List.mem_map_of_mem hmem)
        rw [Function.comp_apply]
        cases heq : componentOf? entry.key with
        | none => simp [heq] at hcomponent
        | some isType => exact stringOf?_of_componentOf? heq fun h => hplace ⟨entry, hmem, h⟩
      refine .inl (.inl ?_)
      rw [hnames]
      exact hkeys.map _
  | @short types heq hlast =>
    have hlength : entries.length = types.length := by
      simpa using congrArg List.length heq
    have hpos : 0 < types.length := List.length_pos_of_mem (List.mem_of_getLast? hlast)
    by_cases hsingle : entries.length = 1
    . exact .inl (.inr hsingle)
    . refine .inr (.inl ⟨by omega, name, ?_⟩)
      intro entry hmem
      rcases exists_mem_of_map_eq_map heq hmem with ⟨_, _, hstrings⟩
      injection hstrings with hkey _
      exact hkey.symm

theorem IsTwoShaped.not_repeatsOneKey {entries : List Entry} (h : IsTwoShaped entries) :
    ¬RepeatsOneKey entries := by
  rintro ⟨hlength, key, hkeys⟩
  rcases h with hperm | hsingle
  . have hkey (name : String) (hmem : some name ∈ [some "name", some "type"]) : name = key := by
      rcases List.mem_map.mp (hperm.mem_iff.mpr hmem) with ⟨entry, hentry, heq⟩
      rw [hkeys entry hentry, Option.some.injEq] at heq
      exact heq.symm
    have hname := hkey "name" (by simp)
    have htype := hkey "type" (by simp)
    rw [← htype] at hname
    contradiction
  . omega

theorem IsTwoShaped.not_numbersComponents {entries : List Entry} (h : IsTwoShaped entries) :
    ¬NumbersComponents entries := by
  rintro ⟨hcomponents, entry, hmem, hplace⟩
  rcases h with hperm | hsingle
  . have hkey := hperm.subset (List.mem_map_of_mem hmem)
    have hnone : stringOf? entry.key = none := by
      unfold stringOf?
      rcases hplace with hplace | hplace
      . rw [hplace]
      . rw [hplace]
    simp [hnone] at hkey
  . have hlength := hcomponents.length_eq
    simp [hsingle] at hlength

theorem FieldEntries.isTwoShaped_iff {name type : String} {entries : List Entry}
    (h : FieldEntries name type entries) :
    IsTwoShaped entries ↔ ¬RepeatsOneKey entries ∧ ¬NumbersComponents entries := by
  constructor
  . intro htwo
    exact ⟨htwo.not_repeatsOneKey, htwo.not_numbersComponents⟩
  . rintro ⟨hrepeats, hnumbers⟩
    rcases h.shape with htwo | hrepeat | hnumber
    . exact htwo
    . contradiction
    . contradiction

theorem forall₂_givesField_of_parse {document : Bytes} {schema : Schema}
    (h : parse document = .ok schema) :
    List.Forall₂ (fun item field => GivesField field item) (writtenFields document)
      (declaredFields schema) := by
  unfold writtenFields
  rcases (parse_eq_ok_iff _ _).mp h with ⟨hblank | hempty, rfl⟩ | ⟨hblank, tree, htree, hschema⟩
  . rw [if_pos hblank]
    exact .nil
  . rw [hempty, ite_self]
    exact .nil
  . rw [hblank, htree]
    exact forall₂_givesField_of_toSchema hschema

theorem accepted_field_entries (document : Bytes) :
    (∀ schema, parse document = .ok schema →
      List.Forall₂ (fun item field => GivesField field item) (writtenFields document)
          (declaredFields schema)
        ∧ ∀ tag entries, Tree.mapping tag entries ∈ writtenFields document →
          (IsTwoShaped entries ↔ ¬RepeatsOneKey entries ∧ ¬NumbersComponents entries))
    ∧ ∀ item ∈ writtenFields document, ∀ category declaration field place,
      GivesField field item
        ↔ ∃ content shape, readContent item place = .ok content ∧ fieldShape? content = some shape
          ∧ toField category declaration shape = .ok field := by
  constructor
  . intro schema hparse
    have hgives := forall₂_givesField_of_parse hparse
    refine ⟨hgives, ?_⟩
    intro tag entries hmem
    rcases exists_mem_of_forall₂ hgives.flip hmem with ⟨field, _, hfield⟩
    cases hfield with
    | ofEntries _ hentries _ _ _ => exact hentries.isTwoShaped_iff
  . intro item _ category declaration field place
    exact givesField_iff category declaration field item

/--
A report with one field, which is written with two types for one name.
-/
def pairDocument : Bytes :=
  "reports: [{name: Pair, fields: [{a: bool, a: uint8}]}]".toUTF8.data.toList

def pairEntries : List Entry :=
  [⟨.scalar ⟨none, "a", true⟩, some "a", .scalar ⟨none, "bool", true⟩⟩,
    ⟨.scalar ⟨none, "a", true⟩, some "a", .scalar ⟨none, "uint8", true⟩⟩]

def pairField : Field :=
  ⟨"a", ⟨"uint8", false⟩, none⟩

def pairSchema : Schema :=
  ⟨[], [⟨"Pair", [pairField]⟩], [], []⟩

theorem parse_pairDocument : parse pairDocument = .ok pairSchema := by
  decide +kernel

theorem accepted_field_entries_pair :
    parse pairDocument = .ok pairSchema
      ∧ List.Forall₂ (fun item field => GivesField field item) (writtenFields pairDocument)
        (declaredFields pairSchema)
      ∧ (Tree.mapping none pairEntries ∈ writtenFields pairDocument
        ∧ (IsTwoShaped pairEntries ↔ ¬RepeatsOneKey pairEntries ∧ ¬NumbersComponents pairEntries))
      ∧ GivesField pairField (.mapping none pairEntries) := by
  rcases accepted_field_entries pairDocument with ⟨haccepted, hfield⟩
  rcases haccepted pairSchema parse_pairDocument with ⟨hgives, hshapes⟩
  have hmem : Tree.mapping none pairEntries ∈ writtenFields pairDocument := by
    decide +kernel
  refine ⟨parse_pairDocument, hgives, ⟨hmem, hshapes none pairEntries hmem⟩, ?_⟩
  apply (hfield _ hmem .report "Pair" pairField []).mpr
  refine ⟨.mapping [(.scalar (.string "a"), .scalar (.string "bool")),
    (.scalar (.string "a"), .scalar (.string "uint8"))], _, rfl, rfl, ?_⟩
  decide +kernel

theorem accepted_repeated_key :
    parse pairDocument = .ok pairSchema
      ∧ Tree.mapping none pairEntries ∈ writtenFields pairDocument ∧ ¬IsTwoShaped pairEntries := by
  refine ⟨parse_pairDocument, ?_, ?_⟩
  . decide +kernel
  . decide +kernel

end Acceptance

end MessageAbi.Schema.Document
