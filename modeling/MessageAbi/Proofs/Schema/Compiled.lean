import Mathlib
import MessageAbi.Proofs.Except
import MessageAbi.Proofs.List
import MessageAbi.Proofs.Registry.Consistent
import MessageAbi.Schema.Compiled

/-!
This module contains what a compiled schema holds: a spec for each message, in schema order, and the
registry of exactly these specs.
-/

namespace MessageAbi

namespace Registry

variable {registry after : Registry} {specs : List MessageSpec}

theorem registerAll_append (registry after : Registry) (specs others : List MessageSpec) :
    registry.registerAll (specs ++ others) = .ok after
      ↔ ∃ middle, registry.registerAll specs = .ok middle
        ∧ middle.registerAll others = .ok after := by
  simp only [registerAll, List.foldlM_append, bind_eq_ok_iff]

theorem registerAll_cons (registry after : Registry) (spec : MessageSpec)
    (specs : List MessageSpec) :
    registry.registerAll (spec :: specs) = .ok after
      ↔ ∃ middle, registry.register spec = .ok middle ∧ middle.registerAll specs = .ok after := by
  simp only [registerAll, List.foldlM_cons, bind_eq_ok_iff]

theorem Consistent.registerAll (h : registry.Consistent)
    (hregister : registry.registerAll specs = .ok after) :
    after.Consistent ∧ ∀ spec, spec ∈ after.toList ↔ spec ∈ specs ∨ spec ∈ registry.toList := by
  induction specs generalizing registry with
  | nil =>
    cases hregister
    exact ⟨h, by simp⟩
  | cons spec specs ih =>
    rcases (registerAll_cons _ _ _ _).mp hregister with ⟨middle, hmiddle, hafter⟩
    rcases ih (h.register hmiddle) hafter with ⟨hconsistent, hmem⟩
    refine ⟨hconsistent, ?_⟩
    intro other
    rw [hmem, h.mem_toList_register hmiddle, List.mem_cons]
    tauto

theorem consistent_of_registerAll (h : empty.registerAll specs = .ok registry) :
    registry.Consistent ∧ ∀ spec, spec ∈ registry.toList ↔ spec ∈ specs := by
  rcases consistent_empty.registerAll h with ⟨hconsistent, hmem⟩
  refine ⟨hconsistent, ?_⟩
  intro spec
  rw [hmem]
  simp [empty, toList]

theorem Consistent.ne_of_register (h : registry.Consistent) {spec : MessageSpec}
    (hregister : registry.register spec = .ok after) :
    ∀ other ∈ registry.toList, other.name ≠ spec.name ∧ other.selector ≠ spec.selector := by
  rcases (register_eq_ok_iff _ _ _).mp hregister with ⟨hname, hget, _⟩
  intro other hother
  constructor
  . intro heq
    have hbyName := (h.byName?_eq_some_iff spec.name other).mpr ⟨hother, heq⟩
    simp [byName?, hname] at hbyName
  . intro heq
    have hgetOther := (h.get?_eq_some_iff spec.selector other).mpr ⟨hother, heq⟩
    simp [hget] at hgetOther

theorem Consistent.pairwise_of_registerAll (h : registry.Consistent)
    (hregister : registry.registerAll specs = .ok after) :
    specs.Pairwise (fun left right => left.name ≠ right.name ∧ left.selector ≠ right.selector)
      ∧ ∀ spec ∈ specs, ∀ other ∈ registry.toList,
        other.name ≠ spec.name ∧ other.selector ≠ spec.selector := by
  induction specs generalizing registry with
  | nil => simp
  | cons spec specs ih =>
    rcases (registerAll_cons _ _ _ _).mp hregister with ⟨middle, hmiddle, hafter⟩
    rcases ih (h.register hmiddle) hafter with ⟨hpairwise, hfresh⟩
    constructor
    . rw [List.pairwise_cons]
      refine ⟨?_, hpairwise⟩
      intro other hother
      exact hfresh other hother spec ((h.mem_toList_register hmiddle spec).mpr (.inl rfl))
    . intro added hadded other hother
      cases List.mem_cons.mp hadded with
      | inl heq => exact heq ▸ h.ne_of_register hmiddle other hother
      | inr hmem =>
        exact hfresh added hmem other ((h.mem_toList_register hmiddle other).mpr (.inr hother))

end Registry

namespace Schema

structure Declaration.CompilesTo (structTypes : List AbiType) (declaration : Declaration)
    (spec : MessageSpec) : Prop where
  name_eq : spec.name = declaration.name
  params_eq : declaration.params? structTypes = some spec.params

theorem Declaration.map_name_of_params? {types : List AbiType} {declaration : Declaration}
    {params : List Param} (h : declaration.params? types = some params) :
    params.map (·.name) = declaration.fields.map (·.name) := by
  rw [← List.forall₂_eq_eq_eq, List.forall₂_map_left_iff, List.forall₂_map_right_iff]
  apply ((mapM_eq_some_iff _ _ _).mp h).flip.imp
  intro param field hparam
  simp only [Option.bind_eq_bind, Option.bind_eq_some_iff] at hparam
  rcases hparam with ⟨_, _, _, _, hparam⟩
  cases hparam
  rfl

namespace Compiled

/--
Messages with their specs registered in order, as compilation leaves them.
-/
structure Covers (structTypes : List AbiType) (messages : List (Category × Declaration))
    (compiled : Compiled) : Prop where
  structTypes_eq : compiled.structTypes = structTypes
  messages : List.Forall₂ (fun message entry =>
    entry.1 = message.1 ∧ message.2.CompilesTo structTypes entry.2) messages compiled.messages
  registerAll_eq : Registry.empty.registerAll (compiled.messages.map (·.2)) = .ok compiled.registry

variable {structTypes : List AbiType} {messages : List (Category × Declaration)}
variable {compiled after : Compiled}

theorem addMessage_eq_ok_iff (compiled after : Compiled) (category : Category)
    (declaration : Declaration) :
    compiled.addMessage category declaration = .ok after
      ↔ ∃ spec registry, declaration.CompilesTo compiled.structTypes spec
        ∧ compiled.registry.register spec = .ok registry
        ∧ after = ⟨compiled.structTypes, compiled.messages ++ [(category, spec)], registry⟩ := by
  unfold addMessage
  cases hparams : declaration.params? compiled.structTypes with
  | none =>
    constructor
    . intro h
      contradiction
    . rintro ⟨spec, _, hspec, _⟩
      have := hspec.params_eq
      rw [hparams] at this
      contradiction
  | some params =>
    have hspec : ∀ spec, declaration.CompilesTo compiled.structTypes spec
        ↔ spec = ⟨declaration.name, params⟩ := by
      intro spec
      constructor
      . rintro ⟨hname, hspec⟩
        rw [hparams] at hspec
        cases spec
        simp_all
      . rintro rfl
        exact ⟨rfl, hparams⟩
    simp only [hspec, exists_and_left, exists_eq_left]
    cases compiled.registry.register ⟨declaration.name, params⟩ with
    | error error => simp
    | ok registry => simp [pure_eq_ok_iff]

theorem Covers.addMessage {category : Category} {declaration : Declaration}
    (h : Covers structTypes messages compiled)
    (hadd : compiled.addMessage category declaration = .ok after) :
    Covers structTypes (messages ++ [(category, declaration)]) after := by
  rcases (addMessage_eq_ok_iff _ _ _ _).mp hadd with ⟨spec, registry, hspec, hregister, rfl⟩
  rw [h.structTypes_eq] at hspec
  refine ⟨h.structTypes_eq, ?_, ?_⟩
  . exact List.rel_append h.messages (.cons ⟨rfl, hspec⟩ .nil)
  . rw [List.map_append, Registry.registerAll_append]
    refine ⟨compiled.registry, h.registerAll_eq, ?_⟩
    rw [List.map_singleton, Registry.registerAll_cons]
    exact ⟨registry, hregister, rfl⟩

theorem Covers.foldlM {rest : List (Category × Declaration)}
    (h : Covers structTypes messages compiled)
    (hfold : rest.foldlM (fun compiled (category, declaration) =>
      compiled.addMessage category declaration) compiled = .ok after) :
    Covers structTypes (messages ++ rest) after := by
  induction rest generalizing messages compiled with
  | nil =>
    cases hfold
    rwa [List.append_nil]
  | cons message rest ih =>
    rw [List.foldlM_cons, bind_eq_ok_iff] at hfold
    rcases hfold with ⟨middle, hmiddle, hafter⟩
    rw [List.append_cons]
    exact ih (h.addMessage hmiddle) hafter

theorem covers_of_compile {schema : Schema} (h : schema.compile = .ok compiled) :
    structTypes? schema.structs = some compiled.structTypes
      ∧ Covers compiled.structTypes schema.messages compiled := by
  unfold compile at h
  cases htypes : structTypes? schema.structs with
  | none =>
    rw [htypes] at h
    contradiction
  | some structTypes =>
    rw [htypes] at h
    have hstart : Covers structTypes [] ⟨structTypes, [], Registry.empty⟩ := ⟨rfl, .nil, rfl⟩
    have hcovers := hstart.foldlM h
    rw [List.nil_append] at hcovers
    exact ⟨by rw [hcovers.structTypes_eq], by rwa [hcovers.structTypes_eq]⟩

theorem Covers.forall₂_byName? (h : Covers structTypes messages compiled) :
    List.Forall₂ (fun message entry => entry.1 = message.1
      ∧ message.2.CompilesTo structTypes entry.2
      ∧ compiled.registry.byName? message.2.name = some entry.2) messages compiled.messages := by
  rcases Registry.consistent_of_registerAll h.registerAll_eq with ⟨hconsistent, hregistered⟩
  apply forall₂_imp_of_mem h.messages
  rintro message _ entry hentry ⟨hcategory, hcompiles⟩
  refine ⟨hcategory, hcompiles, ?_⟩
  rw [hconsistent.byName?_eq_some_iff, hregistered]
  exact ⟨List.mem_map_of_mem hentry, hcompiles.name_eq⟩

theorem consistent_registry {schema : Schema} {compiled : Compiled}
    (h : schema.compile = .ok compiled) :
    compiled.registry.Consistent
      ∧ ∀ spec, spec ∈ compiled.registry.toList ↔ spec ∈ compiled.messages.map (·.2) := by
  rcases covers_of_compile h with ⟨_, hcovers⟩
  exact Registry.consistent_of_registerAll hcovers.registerAll_eq

theorem exists_byName?_of_mem {schema : Schema} {compiled : Compiled}
    (h : schema.compile = .ok compiled) {message : Category × Declaration}
    (hmem : message ∈ schema.messages) :
    ∃ spec ∈ compiled.registry.toList, compiled.registry.byName? message.2.name = some spec := by
  rcases covers_of_compile h with ⟨_, hcovers⟩
  rcases consistent_registry h with ⟨hconsistent, _⟩
  rcases exists_mem_of_forall₂ hcovers.forall₂_byName?.flip hmem with ⟨⟨_, spec⟩, _, _, _, hname⟩
  exact ⟨spec, ((hconsistent.byName?_eq_some_iff _ _).mp hname).1, hname⟩

end Compiled

end Schema

end MessageAbi
