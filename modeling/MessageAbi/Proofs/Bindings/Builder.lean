import Mathlib
import MessageAbi.Bindings.Basic
import MessageAbi.Proofs.Except

/-!
This module contains what is in the bindings under construction: fields with the terms of their types,
under identifiers that no two structs or messages share.
-/

namespace MessageAbi.Bindings

def FieldBinding.Binds (structs : List StructBinding) (field : Schema.Field)
    (binding : FieldBinding) : Prop :=
  binding.name = field.name
    ∧ ∃ resolved, field.resolved = some resolved ∧ typeTerm? structs resolved = some binding.type
      ∧ nativeType? structs resolved = some binding.native

/--
A message with the signature and the selector of a spec, whose fields refer to the structs given. A
message that is dispatched has a method named after it.
-/
structure MessageBinding.Binds (structs : List StructBinding)
    (message : Category × Schema.Declaration) (spec : MessageSpec) (binding : MessageBinding) :
    Prop where
  category_eq : binding.category = message.1
  name_eq : binding.name = message.2.name
  ident_eq : toIdentifier (Text.pascalCase message.2.name) = .ok binding.ident
  signature_eq : binding.signature = spec.signature
  selector_eq : binding.selector = spec.selector
  method : message.1 = .advance ∨ message.1 = .inspect →
    ∃ method, toIdentifier (Text.snakeCase message.2.name) = .ok method
      ∧ binding.method = some method
  fields : List.Forall₂ (FieldBinding.Binds structs) message.2.fields binding.fields

namespace Builder

variable {builder after : Builder} {declaration : Schema.Declaration}

theorem claimType_eq_ok_iff (builder after : Builder) (name ident : String) :
    builder.claimType name = .ok (ident, after)
      ↔ toIdentifier (Text.pascalCase name) = .ok ident
        ∧ builder.typeNames.lookup ident = none
        ∧ after = { builder with typeNames := (ident, name) :: builder.typeNames } := by
  rw [claimType, bind_eq_ok_iff]
  constructor
  . rintro ⟨other, hother, h⟩
    cases hlookup : builder.typeNames.lookup other with
    | some first =>
      rw [hlookup] at h
      contradiction
    | none =>
      rw [hlookup, pure_eq_ok_iff, Prod.mk.injEq] at h
      rcases h with ⟨rfl, rfl⟩
      exact ⟨hother, hlookup, rfl⟩
  . rintro ⟨hident, hlookup, rfl⟩
    refine ⟨ident, hident, ?_⟩
    rw [hlookup]
    rfl

theorem length_of_fieldIdents {declaration : String} {seen : List (String × String)}
    {fields : List Schema.Field} {idents : List String}
    (h : fieldIdents declaration seen fields = .ok idents) : idents.length = fields.length := by
  induction fields generalizing seen idents with
  | nil =>
    cases h
    rfl
  | cons field fields ih =>
    rw [fieldIdents, bind_eq_ok_iff] at h
    rcases h with ⟨ident, _, h⟩
    cases hlookup : seen.lookup ident with
    | some first =>
      rw [hlookup] at h
      contradiction
    | none =>
      simp only [hlookup, bind_eq_ok_iff, pure_eq_ok_iff] at h
      rcases h with ⟨rest, hrest, rfl⟩
      simp [ih hrest]

theorem binds_of_field {ident : String} {field : Schema.Field} {binding : FieldBinding}
    (h : builder.field ident field = .ok binding) : binding.Binds builder.structs field := by
  unfold Builder.field at h
  cases hresolved : field.resolved with
  | none =>
    rw [hresolved] at h
    contradiction
  | some resolved =>
    rw [hresolved] at h
    cases hnative : nativeType? builder.structs resolved with
    | none =>
      simp only [hnative] at h
      contradiction
    | some native =>
      cases hterm : typeTerm? builder.structs resolved with
      | none =>
        simp only [hnative, hterm] at h
        contradiction
      | some term =>
        simp only [hnative, hterm, pure_eq_ok_iff] at h
        rw [h]
        exact ⟨rfl, resolved, hresolved, hterm, hnative⟩

theorem forall₂_of_fields {bindings : List FieldBinding}
    (h : builder.fields declaration = .ok bindings) :
    List.Forall₂ (FieldBinding.Binds builder.structs) declaration.fields bindings := by
  rw [fields, bind_eq_ok_iff] at h
  rcases h with ⟨idents, hidents, hfields⟩
  rw [mapM_eq_ok_iff] at hfields
  have hlength := length_of_fieldIdents hidents
  rw [← List.map_snd_zip hlength.ge, List.forall₂_map_left_iff]
  exact hfields.imp fun _ _ hfield => binds_of_field hfield

def idents (builder : Builder) : List String :=
  generatedTypes ++ builder.structs.map (·.ident) ++ builder.messages.map (·.ident)

/--
The identifiers that are taken are those of the types, each of which is taken once.
-/
structure Distinct (builder : Builder) : Prop where
  nodup : (builder.typeNames.map (·.1)).Nodup
  perm : (builder.typeNames.map (·.1)).Perm builder.idents

theorem distinct_start : start.Distinct := by
  constructor
  . decide
  . rfl

theorem Distinct.cons {ident name : String} (h : builder.Distinct)
    (hfree : builder.typeNames.lookup ident = none)
    (htypeNames : after.typeNames = (ident, name) :: builder.typeNames)
    (hidents : after.idents.Perm (ident :: builder.idents)) : after.Distinct := by
  have hnotMem : ident ∉ builder.typeNames.map (·.1) := by
    intro hmem
    rcases List.mem_map.mp hmem with ⟨entry, hentry, rfl⟩
    have := List.lookup_eq_none_iff.mp hfree entry hentry
    simp at this
  constructor
  . rw [htypeNames]
    exact List.nodup_cons.mpr ⟨hnotMem, h.nodup⟩
  . rw [htypeNames]
    exact (h.perm.cons ident).trans hidents.symm

theorem Distinct.addStruct (h : builder.Distinct) (hadd : builder.addStruct declaration = .ok after) :
    after.Distinct ∧ ∃ ident fields,
      after.structs = builder.structs ++ [⟨declaration.name, ident, fields⟩]
      ∧ after.messages = builder.messages
      ∧ List.Forall₂ (FieldBinding.Binds builder.structs) declaration.fields fields := by
  simp only [Builder.addStruct, bind_eq_ok_iff, pure_eq_ok_iff, Prod.exists,
    claimType_eq_ok_iff] at hadd
  rcases hadd with ⟨ident, _, ⟨_, hfree, rfl⟩, fields, hfields, rfl⟩
  refine ⟨?_, ident, fields, rfl, rfl, forall₂_of_fields hfields⟩
  apply h.cons hfree rfl
  rw [idents, List.map_append, ← List.append_assoc, List.append_assoc]
  exact List.perm_middle

theorem Distinct.addMessage {category : Category} {spec : MessageSpec} (h : builder.Distinct)
    (hadd : builder.addMessage category declaration spec = .ok after) :
    after.Distinct ∧ ∃ binding, after.structs = builder.structs
      ∧ after.messages = builder.messages ++ [binding]
      ∧ binding.Binds builder.structs (category, declaration) spec := by
  simp only [Builder.addMessage, bind_eq_ok_iff, Prod.exists, claimType_eq_ok_iff] at hadd
  rcases hadd with ⟨ident, _, ⟨hident, hfree, rfl⟩, fields, hfields, hadd⟩
  have hafter : ∃ method, after = ⟨(ident, declaration.name) :: builder.typeNames, builder.structs,
      builder.messages ++ [⟨category, declaration.name, ident, method, spec.signature,
        spec.selector, fields⟩]⟩
      ∧ (category = .advance ∨ category = .inspect →
        ∃ name, toIdentifier (Text.snakeCase declaration.name) = .ok name ∧ method = some name) := by
    cases category <;> rw [bind_eq_ok_iff] at hadd <;> rcases hadd with ⟨method, hmethod, hafter⟩
    case advance | inspect =>
      refine ⟨method, (pure_eq_ok_iff _ _).mp hafter, fun _ => ?_⟩
      rcases (map_eq_ok_iff _ _ _).mp hmethod with ⟨name, hname, rfl⟩
      exact ⟨name, hname, rfl⟩
    all_goals exact ⟨method, (pure_eq_ok_iff _ _).mp hafter, by simp⟩
  rcases hafter with ⟨method, rfl, hmethod⟩
  refine ⟨?_, _, rfl, rfl, rfl, rfl, hident, rfl, rfl, hmethod, forall₂_of_fields hfields⟩
  apply h.cons hfree rfl
  rw [idents, List.map_append, ← List.append_assoc]
  exact List.perm_append_singleton _ _

theorem Distinct.foldlM_addMessage
    {messages : List ((Category × Schema.Declaration) × (Category × MessageSpec))}
    (h : builder.Distinct)
    (hfold : messages.foldlM (fun builder ((category, declaration), (_, spec)) =>
      builder.addMessage category declaration spec) builder = .ok after) :
    after.Distinct ∧ ∃ bindings, after.structs = builder.structs
      ∧ after.messages = builder.messages ++ bindings
      ∧ List.Forall₂ (fun message binding =>
        binding.Binds builder.structs message.1 message.2.2) messages bindings := by
  induction messages generalizing builder with
  | nil =>
    cases hfold
    exact ⟨h, [], rfl, (List.append_nil _).symm, .nil⟩
  | cons message messages ih =>
    rw [List.foldlM_cons, bind_eq_ok_iff] at hfold
    rcases hfold with ⟨middle, hmiddle, hafter⟩
    rcases h.addMessage hmiddle with ⟨hdistinct, binding, hstructs, hmessages, hbinds⟩
    rcases ih hdistinct hafter with ⟨hdistinct', bindings, hstructs', hmessages', hall⟩
    rw [hstructs] at hstructs' hall
    rw [hmessages, List.append_assoc] at hmessages'
    exact ⟨hdistinct', binding :: bindings, hstructs', hmessages', .cons hbinds hall⟩

end Builder

end MessageAbi.Bindings
