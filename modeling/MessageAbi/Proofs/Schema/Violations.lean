import Mathlib
import MessageAbi.Proofs.Schema.Analysis

/-!
This module contains what can be wrong with a schema, at which places, and what is wrong where the
resolution of declarations fails.
-/

namespace MessageAbi

def Category.rank : Category → Nat
  | struct => 0
  | report => 1
  | advance => 2
  | inspect => 3

theorem Category.rank_inj {category other : Category} :
    category.rank = other.rank ↔ category = other := by
  cases category <;> cases other <;> simp [rank]

namespace Schema

/--
What is looked at in a declaration: its name next to those of the structs, then what is asked of its
kind only (a struct has fields, a message has a name of its own), then the name and the type of each
field.
-/
inductive Check where
  | name
  | kind
  | fieldName (index : Nat)
  | fieldType (index : Nat)

def Check.rank : Check → Nat
  | name => 0
  | kind => 1
  | fieldName index => 2 * index + 2
  | fieldType index => 2 * index + 3

theorem Check.rank_inj {check other : Check} : check.rank = other.rank ↔ check = other := by
  cases check <;> cases other <;> simp [rank] <;> omega

theorem Check.eq_or_rank_lt_of_lt_fieldType {check : Check} {index : Nat}
    (h : check.rank < (fieldType index).rank) :
    check = fieldName index ∨ check.rank < (fieldName index).rank := by
  cases check <;> simp only [rank, fieldName.injEq, reduceCtorEq, false_or] at h ⊢ <;> omega

/--
What the scan of a schema comes by: each declaration, and at the end the schema as a whole.
-/
inductive Place where
  | declaration (category : Category) (index : Nat) (check : Check)
  | whole

inductive Place.Before : Place → Place → Prop where
  | category {category other : Category} {index otherIndex : Nat} {check otherCheck : Check} :
    category.rank < other.rank →
      Before (.declaration category index check) (.declaration other otherIndex otherCheck)
  | index {category : Category} {index otherIndex : Nat} {check otherCheck : Check} :
    index < otherIndex →
      Before (.declaration category index check) (.declaration category otherIndex otherCheck)
  | check {category : Category} {index : Nat} {check otherCheck : Check} :
    check.rank < otherCheck.rank →
      Before (.declaration category index check) (.declaration category index otherCheck)
  | whole {category : Category} {index : Nat} {check : Check} :
    Before (.declaration category index check) .whole

theorem Place.before_or_eq_or_before (place other : Place) :
    place.Before other ∨ place = other ∨ other.Before place := by
  cases place with
  | whole =>
    cases other with
    | whole => exact .inr (.inl rfl)
    | declaration => exact .inr (.inr .whole)
  | declaration category index check =>
    cases other with
    | whole => exact .inl .whole
    | declaration otherCategory otherIndex otherCheck =>
      rcases Nat.lt_trichotomy category.rank otherCategory.rank with hlt | heq | hgt
      . exact .inl (.category hlt)
      . cases Category.rank_inj.mp heq
        rcases Nat.lt_trichotomy index otherIndex with hlt | rfl | hgt
        . exact .inl (.index hlt)
        . rcases Nat.lt_trichotomy check.rank otherCheck.rank with hlt | heq | hgt
          . exact .inl (.check hlt)
          . cases Check.rank_inj.mp heq
            exact .inr (.inl rfl)
          . exact .inr (.inr (.check hgt))
        . exact .inr (.inr (.index hgt))
      . exact .inr (.inr (.category hgt))

structure Scope where
  structs : List String
  messages : List String

inductive Declaration.Violates (scope : Scope) (declaration : Declaration) :
    Category → Check → SemanticError → Prop where
  | duplicateStruct : declaration.name ∈ scope.structs →
    Violates scope declaration .struct .name (.duplicateStruct declaration.name)
  | emptyStruct : declaration.fields = [] →
    Violates scope declaration .struct .kind (.emptyStruct declaration.name)
  | nameCollision {category : Category} : category ≠ .struct → declaration.name ∈ scope.structs →
    Violates scope declaration category .name (.nameCollision category declaration.name)
  | duplicateMessage {category : Category} : category ≠ .struct →
    declaration.name ∈ scope.messages →
    Violates scope declaration category .kind (.duplicateMessage category declaration.name)
  | duplicateField {category : Category} {index : Nat} {field : Field} :
    declaration.fields[index]? = some field →
    field.name ∈ (declaration.fields.take index).map (·.name) →
    Violates scope declaration category (.fieldName index)
      (.duplicateField category declaration.name field.name)
  | unknownType {category : Category} {index : Nat} {field : Field} :
    declaration.fields[index]? = some field → ¬ IsKnown scope.structs field.type.base →
    Violates scope declaration category (.fieldType index)
      (.unknownType category declaration.name field.name field.type.base)

def messagesBefore (schema : Schema) : Category → List Declaration
  | .struct => []
  | .report => []
  | .advance => schema.reports
  | .inspect => schema.reports ++ schema.advances

/--
The names that the declaration at a place is held against: a struct sees the structs before it, and
a message sees all of them.
-/
def scope (schema : Schema) (category : Category) (index : Nat) : Scope :=
  let before := (schema.declarations category).take index
  if category = .struct then
    ⟨before.map (·.name), []⟩
  else
    ⟨schema.structs.map (·.name), ((schema.messagesBefore category ++ before).map (·.name)).reverse⟩

inductive Violates (schema : Schema) (policy : EmptySchemaPolicy) :
    Place → SemanticError → Prop where
  | declaration {category : Category} {index : Nat} {check : Check} {declaration : Declaration}
    {error : SemanticError} : (schema.declarations category)[index]? = some declaration →
    declaration.Violates (schema.scope category index) category check error →
    Violates schema policy (.declaration category index check) error
  | noMessages : schema.messageCount = 0 → policy = .deny →
    Violates schema policy .whole .noMessages

theorem Declaration.Violates.error_eq {scope : Scope} {declaration : Declaration}
    {category : Category} {check : Check} {error other : SemanticError}
    (h : declaration.Violates scope category check error)
    (hother : declaration.Violates scope category check other) : error = other := by
  cases h with
  | duplicateStruct =>
    cases hother with
    | duplicateStruct => rfl
    | nameCollision hne => contradiction
  | emptyStruct =>
    cases hother with
    | emptyStruct => rfl
    | duplicateMessage hne => contradiction
  | nameCollision hne =>
    cases hother with
    | duplicateStruct => contradiction
    | nameCollision => rfl
  | duplicateMessage hne =>
    cases hother with
    | emptyStruct => contradiction
    | duplicateMessage => rfl
  | duplicateField hfield =>
    cases hother with
    | duplicateField hfieldOther =>
      rw [hfield] at hfieldOther
      cases hfieldOther
      rfl
  | unknownType hfield =>
    cases hother with
    | unknownType hfieldOther =>
      rw [hfield] at hfieldOther
      cases hfieldOther
      rfl

theorem Violates.error_eq {schema : Schema} {policy : EmptySchemaPolicy} {place : Place}
    {error other : SemanticError} (h : schema.Violates policy place error)
    (hother : schema.Violates policy place other) : error = other := by
  cases h with
  | declaration hget hviolates =>
    cases hother with
    | declaration hgetOther hviolatesOther =>
      rw [hget] at hgetOther
      cases hgetOther
      exact hviolates.error_eq hviolatesOther
  | noMessages =>
    cases hother with
    | noMessages => rfl

section Declaration

variable {scope : Scope} {category : Category} {declaration : Declaration}
variable {error : SemanticError} {names seen : List String}

def Declaration.Passes (scope : Scope) (category : Category) (declaration : Declaration)
    (check : Check) : Prop :=
  ∀ error, ¬ declaration.Violates scope category check error

def Declaration.Fails (scope : Scope) (category : Category) (declaration : Declaration)
    (error : SemanticError) : Prop :=
  ∃ check, declaration.Violates scope category check error
    ∧ ∀ earlier : Check, earlier.rank < check.rank → declaration.Passes scope category earlier

namespace Declaration

theorem passes_name (h : declaration.name ∉ scope.structs) :
    declaration.Passes scope category .name := by
  intro error hviolates
  cases hviolates with
  | duplicateStruct hname => exact h hname
  | nameCollision _ hname => exact h hname

theorem passes_kind (hfields : category = .struct → declaration.fields ≠ [])
    (hfresh : category ≠ .struct → declaration.name ∉ scope.messages) :
    declaration.Passes scope category .kind := by
  intro error hviolates
  cases hviolates with
  | emptyStruct hempty => exact hfields rfl hempty
  | duplicateMessage hcategory hname => exact hfresh hcategory hname

theorem passes_fieldName {before rest : List Field} (hfields : declaration.fields = before ++ rest)
    (hnodup : (before.map (·.name)).Nodup) {index : Nat} (hindex : index < before.length) :
    declaration.Passes scope category (.fieldName index) := by
  intro error hviolates
  cases hviolates with
  | duplicateField hfield hmem =>
    rw [hfields, List.getElem?_append_left hindex] at hfield
    rw [hfields, List.take_append_of_le_length hindex.le] at hmem
    exact notMem_map_take_of_nodup hnodup hfield hmem

theorem passes_fieldType {before rest : List Field} (hfields : declaration.fields = before ++ rest)
    (hknown : ∀ field ∈ before, IsKnown scope.structs field.type.base) {index : Nat}
    (hindex : index < before.length) : declaration.Passes scope category (.fieldType index) := by
  intro error hviolates
  cases hviolates with
  | unknownType hfield hunknown =>
    rw [hfields, List.getElem?_append_left hindex] at hfield
    exact hunknown (hknown _ (List.mem_of_getElem? hfield))

theorem passes_before_field {before rest : List Field}
    (hname : declaration.Passes scope category .name)
    (hkind : declaration.Passes scope category .kind)
    (hfields : declaration.fields = before ++ rest)
    (hnodup : (before.map (·.name)).Nodup)
    (hknown : ∀ field ∈ before, IsKnown scope.structs field.type.base) :
    ∀ earlier : Check, earlier.rank < (Check.fieldName before.length).rank →
      declaration.Passes scope category earlier := by
  intro earlier hrank
  cases earlier with
  | name => exact hname
  | kind => exact hkind
  | fieldName index =>
    apply passes_fieldName hfields hnodup
    simp only [Check.rank] at hrank
    omega
  | fieldType index =>
    apply passes_fieldType hfields hknown
    simp only [Check.rank] at hrank
    omega

structure Clean (scope : Scope) (category : Category) (declaration : Declaration) : Prop where
  name : declaration.name ∉ scope.structs
  fields_ne_nil : category = .struct → declaration.fields ≠ []
  fresh : category ≠ .struct → declaration.name ∉ scope.messages
  nodup_fields : (declaration.fields.map (·.name)).Nodup
  known : ∀ field ∈ declaration.fields, IsKnown scope.structs field.type.base

theorem Clean.passes (h : declaration.Clean scope category) (check : Check) :
    declaration.Passes scope category check := by
  intro error hviolates
  cases check with
  | name => exact passes_name h.name error hviolates
  | kind => exact passes_kind h.fields_ne_nil h.fresh error hviolates
  | fieldName index =>
    cases hviolates with
    | duplicateField hfield hmem => exact notMem_map_take_of_nodup h.nodup_fields hfield hmem
  | fieldType index =>
    cases hviolates with
    | unknownType hfield hunknown => exact hunknown (h.known _ (List.mem_of_getElem? hfield))

theorem Fails.of_name (h : declaration.Violates scope category .name error) :
    declaration.Fails scope category error :=
  ⟨.name, h, fun _ hrank => absurd hrank (Nat.not_lt_zero _)⟩

theorem Fails.of_kind (hname : declaration.Passes scope category .name)
    (h : declaration.Violates scope category .kind error) :
    declaration.Fails scope category error := by
  refine ⟨.kind, h, ?_⟩
  intro earlier hrank
  cases earlier with
  | name => exact hname
  | kind | fieldName | fieldType =>
    simp only [Check.rank] at hrank
    omega

end Declaration

namespace Analysis

theorem exists_split_of_resolveFields (hnodup : names.Nodup) {owner : String} {fields : List Field}
    (h : resolveFields category owner names.zipIdx seen fields = .error error) :
    ∃ before field after, fields = before ++ field :: after
      ∧ (∃ resolved, resolveFields category owner names.zipIdx seen before = .ok resolved)
      ∧ ((field.name ∈ (before.map (·.name)).reverse ++ seen
          ∧ error = .duplicateField category owner field.name)
        ∨ (field.name ∉ (before.map (·.name)).reverse ++ seen
          ∧ ¬ IsKnown names field.type.base
          ∧ error = .unknownType category owner field.name field.type.base)) := by
  induction fields generalizing seen with
  | nil => contradiction
  | cons field fields ih =>
    rw [resolveFields, ite_throw_eq_error_iff, List.contains_iff_mem] at h
    rcases h with ⟨hseen, rfl⟩ | ⟨hseen, h⟩
    . exact ⟨[], field, fields, rfl, ⟨[], rfl⟩, .inl ⟨hseen, rfl⟩⟩
    cases htype : resolve? names.zipIdx field.type with
    | none =>
      have hunknown : ¬ IsKnown names field.type.base := by
        rw [← exists_denotes_iff]
        rintro ⟨type, hdenotes⟩
        rw [← resolve?_eq_some_iff hnodup, htype] at hdenotes
        contradiction
      simp only [htype] at h
      cases h
      exact ⟨[], field, fields, rfl, ⟨[], rfl⟩, .inr ⟨hseen, hunknown, rfl⟩⟩
    | some type =>
      simp only [htype, bind_eq_error_iff] at h
      rcases h with h | ⟨_, _, h⟩
      . rcases ih h with ⟨before, other, after, rfl, ⟨resolved, hresolved⟩, hother⟩
        refine ⟨field :: before, other, after, rfl, ?_, ?_⟩
        . exact ⟨_, (resolveFields_cons_eq_ok_iff _ _ _ _ _ _ _).mpr
            ⟨hseen, type, htype, resolved, hresolved, rfl⟩⟩
        . simpa using hother
      . contradiction

theorem fails_of_resolveDeclaration (hnodup : scope.structs.Nodup)
    (hname : declaration.Passes scope category .name)
    (hkind : declaration.Passes scope category .kind)
    (h : resolveDeclaration category scope.structs.zipIdx declaration = .error error) :
    declaration.Fails scope category error := by
  rcases (bind_eq_error_iff _ _ _).mp h with h | ⟨_, _, hreturn⟩
  swap
  . contradiction
  rcases exists_split_of_resolveFields hnodup h with
    ⟨before, field, after, hfields, ⟨resolved, hresolved⟩, hfield⟩
  -- The fields in front of the one that fails were resolved, so nothing is wrong with them.
  rcases (resolveFields_eq_ok_iff hnodup _ _ _ _ _).mp hresolved with ⟨hunique, _, hbefore⟩
  have hknown : ∀ field ∈ before, IsKnown scope.structs field.type.base := by
    intro other hother
    rcases (exists_forall₂_iff _ _).mp ⟨_, hbefore⟩ other hother with ⟨_, type, htype, _⟩
    exact (exists_denotes_iff _ _).mp ⟨type, htype⟩
  have hpasses := Declaration.passes_before_field hname hkind hfields hunique hknown
  have hget : declaration.fields[before.length]? = some field := by
    simp [hfields]
  have htake : declaration.fields.take before.length = before := by
    rw [hfields, List.take_left]
  simp only [List.append_nil, List.mem_reverse] at hfield
  rcases hfield with ⟨hmem, rfl⟩ | ⟨hnotMem, hunknown, rfl⟩
  . exact ⟨.fieldName before.length, .duplicateField hget (by rwa [htake]), hpasses⟩
  . refine ⟨.fieldType before.length, .unknownType hget hunknown, ?_⟩
    intro earlier hrank
    rcases Check.eq_or_rank_lt_of_lt_fieldType hrank with rfl | hlt
    . intro other hother
      cases hother with
      | duplicateField hgetOther hmem =>
        rw [hget] at hgetOther
        rw [htake] at hmem
        cases hgetOther
        exact hnotMem hmem
    . exact hpasses earlier hlt

theorem fails_or_of_resolveDeclaration_bind {α β : Type} {rest : Except SemanticError α}
    {finish : Declaration → α → Except SemanticError β} (hnodup : scope.structs.Nodup)
    (hname : declaration.Passes scope category .name)
    (hkind : declaration.Passes scope category .kind)
    (hfinish : ∀ after result, ∃ output, finish after result = .ok output)
    (h : (do
      let after ← resolveDeclaration category scope.structs.zipIdx declaration
      let result ← rest
      finish after result) = .error error) :
    declaration.Fails scope category error
      ∨ (declaration.fields.map (·.name)).Nodup
        ∧ (∃ after, declaration.ResolvesTo scope.structs after) ∧ rest = .error error := by
  rcases (bind_eq_error_iff _ _ _).mp h with h | ⟨after, hafter, h⟩
  . exact .inl (fails_of_resolveDeclaration hnodup hname hkind h)
  . rcases (resolveDeclaration_eq_ok_iff hnodup _ _ _).mp hafter with ⟨hunique, hresolves⟩
    rcases (bind_eq_error_iff _ _ _).mp h with h | ⟨result, _, h⟩
    . exact .inr ⟨hunique, ⟨after, hresolves⟩, h⟩
    . rcases hfinish after result with ⟨output, houtput⟩
      rw [houtput] at h
      contradiction

theorem resolveStructs_cons_eq_error (hnodup : names.Nodup) {declarations : List Declaration}
    (h : resolveStructs names.zipIdx (declaration :: declarations) = .error error) :
    declaration.Fails ⟨names, []⟩ .struct error
      ∨ declaration.name ∉ names ∧ declaration.fields ≠ []
        ∧ (declaration.fields.map (·.name)).Nodup
        ∧ (∃ after, declaration.ResolvesTo names after)
        ∧ resolveStructs (names ++ [declaration.name]).zipIdx declarations = .error error := by
  rw [resolveStructs, ite_throw_eq_error_iff, ite_throw_eq_error_iff,
    isSome_lookup_zipIdx_iff hnodup, List.isEmpty_iff, zipIdx_append_singleton] at h
  rcases h with ⟨hname, rfl⟩ | ⟨hname, ⟨hempty, rfl⟩ | ⟨hfields, h⟩⟩
  . exact .inl (.of_name (.duplicateStruct hname))
  . exact .inl (.of_kind (Declaration.passes_name hname) (.emptyStruct hempty))
  . have hkind : declaration.Passes ⟨names, []⟩ .struct .kind :=
      Declaration.passes_kind (fun _ => hfields) (fun hne => absurd rfl hne)
    rcases fails_or_of_resolveDeclaration_bind hnodup (Declaration.passes_name hname) hkind
      (fun _ _ => ⟨_, rfl⟩) h with hfails | ⟨hunique, hresolves, hrest⟩
    . exact .inl hfails
    . exact .inr ⟨hname, hfields, hunique, hresolves, hrest⟩

theorem resolveMessages_cons_eq_error (hnodup : names.Nodup) (hcategory : category ≠ .struct)
    {taken : List String} {declarations : List Declaration}
    (h : resolveMessages category names.zipIdx taken (declaration :: declarations) = .error error) :
    declaration.Fails ⟨names, taken⟩ category error
      ∨ declaration.name ∉ names ∧ declaration.name ∉ taken
        ∧ (declaration.fields.map (·.name)).Nodup
        ∧ (∃ after, declaration.ResolvesTo names after)
        ∧ resolveMessages category names.zipIdx (declaration.name :: taken) declarations
          = .error error := by
  rw [resolveMessages, ite_throw_eq_error_iff, ite_throw_eq_error_iff,
    isSome_lookup_zipIdx_iff hnodup, List.contains_iff_mem] at h
  rcases h with ⟨hname, rfl⟩ | ⟨hname, ⟨hmem, rfl⟩ | ⟨hfresh, h⟩⟩
  . exact .inl (.of_name (.nameCollision hcategory hname))
  . exact .inl (.of_kind (Declaration.passes_name hname) (.duplicateMessage hcategory hmem))
  . have hkind : declaration.Passes ⟨names, taken⟩ category .kind :=
      Declaration.passes_kind (fun heq => absurd heq hcategory) (fun _ => hfresh)
    rcases fails_or_of_resolveDeclaration_bind hnodup (Declaration.passes_name hname) hkind
      (fun _ _ => ⟨_, rfl⟩) h with hfails | ⟨hunique, hresolves, hrest⟩
    . exact .inl hfails
    . exact .inr ⟨hname, hfresh, hunique, hresolves, hrest⟩

theorem exists_split_of_resolveStructs (hnodup : names.Nodup) {declarations : List Declaration}
    (h : resolveStructs names.zipIdx declarations = .error error) :
    ∃ before declaration after, declarations = before ++ declaration :: after
      ∧ (∃ resolved table, resolveStructs names.zipIdx before = .ok (resolved, table))
      ∧ declaration.Fails ⟨names ++ before.map (·.name), []⟩ .struct error := by
  induction declarations generalizing names with
  | nil => contradiction
  | cons declaration declarations ih =>
    rcases resolveStructs_cons_eq_error hnodup h with
      hfails | ⟨hname, hfields, hunique, ⟨after, hafter⟩, hrest⟩
    . exact ⟨[], declaration, declarations, rfl, ⟨[], _, rfl⟩, by simpa using hfails⟩
    . have hextended : (names ++ [declaration.name]).Nodup :=
        List.nodup_append_comm.mp (List.nodup_cons.mpr ⟨hname, hnodup⟩)
      rcases ih hextended hrest with ⟨before, other, later, rfl, ⟨resolved, table, hok⟩, hother⟩
      refine ⟨declaration :: before, other, later, rfl, ⟨after :: resolved, table, ?_⟩, ?_⟩
      . rw [resolveStructs_cons_eq_ok_iff hnodup]
        exact ⟨hname, hfields, hunique, after, resolved, hafter, hok, rfl⟩
      . simpa using hother

theorem exists_split_of_resolveMessages (hnodup : names.Nodup) (hcategory : category ≠ .struct)
    {taken : List String} {declarations : List Declaration}
    (h : resolveMessages category names.zipIdx taken declarations = .error error) :
    ∃ before declaration after, declarations = before ++ declaration :: after
      ∧ (∃ resolved taken',
        resolveMessages category names.zipIdx taken before = .ok (resolved, taken'))
      ∧ declaration.Fails ⟨names, (before.map (·.name)).reverse ++ taken⟩ category error := by
  induction declarations generalizing taken with
  | nil => contradiction
  | cons declaration declarations ih =>
    rcases resolveMessages_cons_eq_error hnodup hcategory h with
      hfails | ⟨hname, hfresh, hunique, ⟨after, hafter⟩, hrest⟩
    . exact ⟨[], declaration, declarations, rfl, ⟨[], _, rfl⟩, by simpa using hfails⟩
    . rcases ih hrest with ⟨before, other, later, rfl, ⟨resolved, taken', hok⟩, hother⟩
      refine ⟨declaration :: before, other, later, rfl, ⟨after :: resolved, taken', ?_⟩, ?_⟩
      . rw [resolveMessages_cons_eq_ok_iff hnodup]
        exact ⟨hname, hfresh, hunique, after, resolved, hafter, hok, rfl⟩
      . simpa using hother

end Analysis

end Declaration

end Schema

end MessageAbi
