import Mathlib
import MessageAbi.Proofs.AbiType
import MessageAbi.Proofs.Schema.Analysis
import MessageAbi.Proofs.Schema.Compiled

/-!
This module contains what analysis makes sure of about the types that a schema is compiled to: every
tuple in them has components, with names of their own.
-/

namespace MessageAbi

structure AbiType.WellFormed (type : AbiType) : Prop where
  tuplesNonempty : type.tuplesNonempty = true
  namesDistinct : type.namesDistinct = true

theorem AbiType.wellFormed_tuple_iff (name : String) (components : List Param) :
    (tuple name components).WellFormed
      ↔ components ≠ [] ∧ (components.map (·.name)).Nodup
        ∧ ∀ param ∈ components, param.type.WellFormed := by
  constructor
  . rintro ⟨hnonempty, hdistinct⟩
    rw [tuplesNonempty_tuple_iff] at hnonempty
    rw [namesDistinct_tuple_iff] at hdistinct
    refine ⟨hnonempty.1, hdistinct.1, ?_⟩
    intro param hparam
    exact ⟨hnonempty.2 param hparam, hdistinct.2 param hparam⟩
  . rintro ⟨hne, hnodup, hall⟩
    constructor
    . rw [tuplesNonempty_tuple_iff]
      exact ⟨hne, fun param hparam => (hall param hparam).tuplesNonempty⟩
    . rw [namesDistinct_tuple_iff]
      exact ⟨hnodup, fun param hparam => (hall param hparam).namesDistinct⟩

structure WellFormedParams (params : List Param) : Prop where
  nodup : (params.map (·.name)).Nodup
  types : ∀ param ∈ params, param.type.WellFormed

namespace Schema

section Compilation

variable {types : List AbiType} (htypes : ∀ type ∈ types, type.WellFormed)

include htypes

theorem ResolvedType.wellFormed_of_abiType? {resolved : ResolvedType} {type : AbiType}
    (h : resolved.abiType? types = some type) : type.WellFormed := by
  induction resolved generalizing type with
  | array element ih =>
    rcases Option.map_eq_some_iff.mp h with ⟨inner, hinner, rfl⟩
    exact ⟨(ih hinner).tuplesNonempty, (ih hinner).namesDistinct⟩
  | struct index => exact htypes type (List.mem_of_getElem? h)
  | _ =>
    cases h
    exact ⟨rfl, rfl⟩

theorem Declaration.wellFormed_of_params? {declaration : Declaration} {params : List Param}
    (hnodup : (declaration.fields.map (·.name)).Nodup)
    (h : declaration.params? types = some params) : WellFormedParams params := by
  have hparams : List.Forall₂ (fun (_ : Field) (param : Param) => param.type.WellFormed)
      declaration.fields params := by
    apply ((mapM_eq_some_iff _ _ _).mp h).imp
    intro field param hparam
    simp only [Option.bind_eq_bind, Option.bind_eq_some_iff] at hparam
    rcases hparam with ⟨resolved, _, type, htype, hparam⟩
    cases hparam
    exact resolved.wellFormed_of_abiType? htypes htype
  constructor
  . rwa [Declaration.map_name_of_params? h]
  . intro param hparam
    rcases exists_mem_of_forall₂ hparams hparam with ⟨_, _, htype⟩
    exact htype

theorem wellFormed_of_foldlM {declarations : List Declaration} {final : List AbiType}
    (hfields : ∀ declaration ∈ declarations, declaration.fields ≠ []
      ∧ (declaration.fields.map (·.name)).Nodup)
    (h : declarations.foldlM (fun types declaration => do
      let components ← declaration.params? types
      return types ++ [.tuple declaration.name components]) types = some final) :
    ∀ type ∈ final, type.WellFormed := by
  induction declarations generalizing types with
  | nil =>
    cases h
    exact htypes
  | cons declaration declarations ih =>
    rcases List.forall_mem_cons.mp hfields with ⟨⟨hne, hnodup⟩, hrest⟩
    simp only [List.foldlM_cons, Option.bind_eq_bind, Option.bind_eq_some_iff] at h
    rcases h with ⟨_, ⟨components, hcomponents, hmiddle⟩, hfinal⟩
    cases hmiddle
    apply ih ?_ hrest hfinal
    have hparams := declaration.wellFormed_of_params? htypes hnodup hcomponents
    have hne' : components ≠ [] := by
      rintro rfl
      have := ((mapM_eq_some_iff _ _ _).mp hcomponents).length_eq
      exact hne (List.eq_nil_of_length_eq_zero this)
    have hstruct := (AbiType.wellFormed_tuple_iff declaration.name components).mpr
      ⟨hne', hparams.nodup, hparams.types⟩
    intro type htype
    cases List.mem_append.mp htype with
    | inl hmem => exact htypes type hmem
    | inr hmem => exact List.mem_singleton.mp hmem ▸ hstruct

end Compilation

theorem Declaration.map_name_unresolved (declaration : Declaration) :
    declaration.unresolved.fields.map (·.name) = declaration.fields.map (·.name) := by
  simp [Declaration.unresolved, Function.comp_def]

theorem declarations_unresolved (schema : Schema) (category : Category) :
    schema.unresolved.declarations category
      = (schema.declarations category).map (·.unresolved) := by
  cases category <;> rfl

section Analyzed

variable {schema analyzed : Schema} {policy : EmptySchemaPolicy} {compiled : Compiled}

theorem exists_declaration_of_analyze (h : schema.analyze policy = .ok analyzed) {category : Category}
    {declaration : Declaration} (hmem : declaration ∈ analyzed.declarations category) :
    ∃ source ∈ schema.declarations category,
      source.fields.map (·.name) = declaration.fields.map (·.name) := by
  have hunresolved := ((analyze_eq_ok_iff _ _ _).mp h).2.2.unresolved_eq
  have hall := congrArg (·.declarations category) hunresolved
  simp only [declarations_unresolved] at hall
  have hmap := List.mem_map_of_mem (f := Declaration.unresolved) hmem
  rw [hall] at hmap
  rcases List.mem_map.mp hmap with ⟨source, hsource, heq⟩
  refine ⟨source, hsource, ?_⟩
  rw [← source.map_name_unresolved, heq, declaration.map_name_unresolved]

theorem nodup_fields_of_analyze (h : schema.analyze policy = .ok analyzed) (category : Category) :
    ∀ declaration ∈ analyzed.declarations category, (declaration.fields.map (·.name)).Nodup := by
  intro declaration hmem
  rcases exists_declaration_of_analyze h hmem with ⟨source, hsource, hnames⟩
  rw [← hnames]
  exact ((analyze_eq_ok_iff _ _ _).mp h).1.nodup_fields category source hsource

theorem fields_ne_nil_of_analyze (h : schema.analyze policy = .ok analyzed) :
    ∀ struct ∈ analyzed.structs, struct.fields ≠ [] := by
  intro struct hmem hnil
  have hmem' : struct ∈ analyzed.declarations .struct := hmem
  rcases exists_declaration_of_analyze h hmem' with ⟨source, hsource, hnames⟩
  rw [hnil, List.map_nil, List.map_eq_nil_iff] at hnames
  exact ((analyze_eq_ok_iff _ _ _).mp h).1.fields_ne_nil source hsource hnames

theorem wellFormedParams_of_compile (h : schema.analyze policy = .ok analyzed)
    (hcompile : analyzed.compile = .ok compiled) :
    ∀ entry ∈ compiled.messages, WellFormedParams entry.2.params := by
  rcases Compiled.covers_of_compile hcompile with ⟨htypes, hcovers⟩
  have hwf : ∀ type ∈ compiled.structTypes, type.WellFormed := by
    apply wellFormed_of_foldlM (by simp) ?_ htypes
    intro struct hstruct
    exact ⟨fields_ne_nil_of_analyze h struct hstruct,
      nodup_fields_of_analyze h .struct struct hstruct⟩
  intro entry hentry
  rcases exists_mem_of_forall₂ hcovers.messages hentry with ⟨⟨_, declaration⟩, hmem, _, hcompiles⟩
  rcases List.mem_flatMap.mp hmem with ⟨category, _, hmem⟩
  rcases List.mem_map.mp hmem with ⟨_, hdeclaration, heq⟩
  injection heq with _ heq
  subst heq
  exact Declaration.wellFormed_of_params? hwf
    (nodup_fields_of_analyze h category _ hdeclaration) hcompiles.params_eq

end Analyzed

end Schema

end MessageAbi
