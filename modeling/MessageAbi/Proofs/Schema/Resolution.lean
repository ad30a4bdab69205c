import Mathlib
import MessageAbi.Proofs.Except
import MessageAbi.Proofs.List
import MessageAbi.Schema.Analysis

/-!
This module contains what type expressions stand for where the names of some structs may be used, and
that fields resolve exactly to that.
-/

namespace MessageAbi.Schema

inductive BasicType : String → ResolvedType → Prop where
  | bool : BasicType "bool" .bool
  | address : BasicType "address" .address
  | bytes : BasicType "bytes" .bytes
  | string : BasicType "string" .string
  | int : BasicType "int" (.int 256)
  | uint : BasicType "uint" (.uint 256)
  | sizedInt (bits : Nat) : 0 < bits → bits ≤ 256 → 8 ∣ bits →
    BasicType s!"int{bits}" (.int bits)
  | sizedUint (bits : Nat) : 0 < bits → bits ≤ 256 → 8 ∣ bits →
    BasicType s!"uint{bits}" (.uint bits)

theorem mem_integerWidths_iff (bits : Nat) :
    bits ∈ integerWidths ↔ 0 < bits ∧ bits ≤ 256 ∧ 8 ∣ bits := by
  simp only [integerWidths, List.mem_map, List.mem_range]
  constructor
  . rintro ⟨n, hn, rfl⟩
    omega
  . rintro ⟨hpos, hle, n, rfl⟩
    exact ⟨n - 1, by omega, by omega⟩

theorem mem_builtinTypes_iff (name : String) (type : ResolvedType) :
    (name, type) ∈ builtinTypes ↔ BasicType name type := by
  simp only [builtinTypes, List.mem_append, List.mem_cons, List.not_mem_nil, or_false,
    Prod.mk.injEq, List.mem_map, mem_integerWidths_iff]
  constructor
  . rintro (((⟨rfl, rfl⟩ | ⟨rfl, rfl⟩ | ⟨rfl, rfl⟩ | ⟨rfl, rfl⟩ | ⟨rfl, rfl⟩ | ⟨rfl, rfl⟩)
      | ⟨bits, ⟨hpos, hle, hdvd⟩, rfl, rfl⟩) | ⟨bits, ⟨hpos, hle, hdvd⟩, rfl, rfl⟩)
    . exact .bool
    . exact .address
    . exact .bytes
    . exact .string
    . exact .int
    . exact .uint
    . exact .sizedInt bits hpos hle hdvd
    . exact .sizedUint bits hpos hle hdvd
  . intro h
    cases h with
    | sizedInt bits hpos hle hdvd => exact .inl (.inr ⟨bits, ⟨hpos, hle, hdvd⟩, rfl, rfl⟩)
    | sizedUint bits hpos hle hdvd => exact .inr ⟨bits, ⟨hpos, hle, hdvd⟩, rfl, rfl⟩
    | _ => simp

theorem nodup_builtinTypes : (builtinTypes.map (·.1)).Nodup := by
  decide +kernel

theorem builtin?_eq_some_iff (name : String) (type : ResolvedType) :
    builtin? name = some type ↔ BasicType name type := by
  rw [builtin?, lookup_eq_some_iff_mem_of_nodup nodup_builtinTypes, mem_builtinTypes_iff]

variable {structs : List String}

theorem lookup_zipIdx_eq_some_iff (hnodup : structs.Nodup) (name : String) (index : Nat) :
    structs.zipIdx.lookup name = some index ↔ structs[index]? = some name := by
  rw [lookup_eq_some_iff_mem_of_nodup (by simpa using hnodup), List.mem_zipIdx_iff_getElem?]

theorem isSome_lookup_zipIdx_iff (hnodup : structs.Nodup) (name : String) :
    (structs.zipIdx.lookup name).isSome = true ↔ name ∈ structs := by
  rw [Option.isSome_iff_exists, List.mem_iff_getElem?]
  simp only [lookup_zipIdx_eq_some_iff hnodup]

/--
What the name of a type stands for, where the structs with the given names may be used.
-/
inductive NameDenotes (structs : List String) (name : String) : ResolvedType → Prop where
  | basic (type : ResolvedType) : BasicType name type → NameDenotes structs name type
  | struct (index : Nat) : (∀ type, ¬ BasicType name type) → structs[index]? = some name →
    NameDenotes structs name (.struct index)

def TypeExpr.Denotes (structs : List String) (type : TypeExpr) (resolved : ResolvedType) : Prop :=
  ∃ element, NameDenotes structs type.base element
    ∧ resolved = if type.isArray then .array element else element

def IsKnown (structs : List String) (name : String) : Prop :=
  (∃ type, BasicType name type) ∨ name ∈ structs

theorem exists_denotes_iff (structs : List String) (type : TypeExpr) :
    (∃ resolved, type.Denotes structs resolved) ↔ IsKnown structs type.base := by
  constructor
  . rintro ⟨_, element, hname, _⟩
    cases hname with
    | basic _ hbasic => exact .inl ⟨_, hbasic⟩
    | struct index _ hindex => exact .inr (List.mem_of_getElem? hindex)
  . intro hknown
    by_cases hbasic : ∃ element, BasicType type.base element
    . rcases hbasic with ⟨element, hbasic⟩
      exact ⟨_, element, .basic _ hbasic, rfl⟩
    . rcases List.getElem?_of_mem (hknown.resolve_left hbasic) with ⟨index, hindex⟩
      exact ⟨_, .struct index, .struct index (not_exists.mp hbasic) hindex, rfl⟩

namespace Analysis

theorem resolve?_eq_some_iff (hnodup : structs.Nodup) (type : TypeExpr) (resolved : ResolvedType) :
    resolve? structs.zipIdx type = some resolved ↔ type.Denotes structs resolved := by
  rw [resolve?]
  simp only [Option.map_eq_some_iff, TypeExpr.Denotes, eq_comm (b := resolved)]
  apply exists_congr
  intro element
  apply and_congr_left
  intro _
  cases hbuiltin : builtin? type.base with
  | some basic =>
    have hbasic := (builtin?_eq_some_iff _ _).mp hbuiltin
    constructor
    . rintro ⟨⟩
      exact .basic _ hbasic
    . intro hname
      cases hname with
      | basic _ hother => rw [← (builtin?_eq_some_iff _ _).mpr hother, hbuiltin]
      | struct index hnone _ => exact absurd hbasic (hnone basic)
  | none =>
    have hnone : ∀ other, ¬ BasicType type.base other := by
      intro other
      rw [← builtin?_eq_some_iff, hbuiltin]
      simp
    simp only [Option.map_eq_some_iff, lookup_zipIdx_eq_some_iff hnodup]
    constructor
    . rintro ⟨index, hindex, rfl⟩
      exact .struct index hnone hindex
    . intro hname
      cases hname with
      | basic _ hother => exact absurd hother (hnone element)
      | struct index _ hindex => exact ⟨index, hindex, rfl⟩

end Analysis

def Field.ResolvesTo (structs : List String) (field resolved : Field) : Prop :=
  ∃ type, field.type.Denotes structs type ∧ resolved = { field with resolved := some type }

structure Declaration.ResolvesTo (structs : List String) (declaration resolved : Declaration) :
    Prop where
  name_eq : resolved.name = declaration.name
  fields : List.Forall₂ (Field.ResolvesTo structs) declaration.fields resolved.fields

namespace Analysis

theorem resolveFields_cons_eq_ok_iff (category : Category) (declaration : String)
    (table : StructTable) (seen : List String) (field : Field) (fields resolved : List Field) :
    resolveFields category declaration table seen (field :: fields) = .ok resolved
      ↔ field.name ∉ seen ∧ ∃ type, resolve? table field.type = some type
        ∧ ∃ rest, resolveFields category declaration table (field.name :: seen) fields = .ok rest
          ∧ resolved = { field with resolved := some type } :: rest := by
  rw [resolveFields, ite_throw_eq_ok_iff, List.contains_iff_mem]
  cases resolve? table field.type with
  | none => simp
  | some type =>
    simp only [Option.some.injEq, exists_eq_left', bind_eq_ok_iff, pure_eq_ok_iff]

theorem resolveFields_eq_ok_iff (hnodup : structs.Nodup) (category : Category)
    (declaration : String) (seen : List String) (fields resolved : List Field) :
    resolveFields category declaration structs.zipIdx seen fields = .ok resolved
      ↔ (fields.map (·.name)).Nodup ∧ (∀ field ∈ fields, field.name ∉ seen)
        ∧ List.Forall₂ (Field.ResolvesTo structs) fields resolved := by
  induction fields generalizing seen resolved with
  | nil => simp [resolveFields, eq_comm]
  | cons field fields ih =>
    simp only [resolveFields_cons_eq_ok_iff, resolve?_eq_some_iff hnodup, ih, List.map_cons,
      List.nodup_cons, List.forall_mem_cons]
    constructor
    . rintro ⟨hseen, type, htype, rest, ⟨hrest, hfresh, hresolved⟩, rfl⟩
      have hname : field.name ∉ fields.map (·.name) := by
        intro hmem
        rcases List.mem_map.mp hmem with ⟨other, hother, heq⟩
        exact hfresh other hother (heq ▸ List.mem_cons_self)
      refine ⟨⟨hname, hrest⟩, ⟨hseen, ?_⟩, .cons ⟨type, htype, rfl⟩ hresolved⟩
      intro other hother hmem
      exact hfresh other hother (List.mem_cons_of_mem _ hmem)
    . rintro ⟨⟨hname, hrest⟩, ⟨hseen, hfresh⟩, hresolved⟩
      cases hresolved with
      | cons hfield hresolved =>
        rcases hfield with ⟨type, htype, rfl⟩
        refine ⟨hseen, type, htype, _, ⟨hrest, ?_, hresolved⟩, rfl⟩
        intro other hother hmem
        cases List.mem_cons.mp hmem with
        | inl heq => exact hname (List.mem_map.mpr ⟨other, hother, heq⟩)
        | inr hmem => exact hfresh other hother hmem

theorem resolveDeclaration_eq_ok_iff (hnodup : structs.Nodup) (category : Category)
    (declaration resolved : Declaration) :
    resolveDeclaration category structs.zipIdx declaration = .ok resolved
      ↔ (declaration.fields.map (·.name)).Nodup ∧ declaration.ResolvesTo structs resolved := by
  simp only [resolveDeclaration, bind_eq_ok_iff, pure_eq_ok_iff,
    resolveFields_eq_ok_iff hnodup, List.not_mem_nil, not_false_eq_true, implies_true, true_and]
  constructor
  . rintro ⟨fields, ⟨hfields, hresolved⟩, rfl⟩
    exact ⟨hfields, rfl, hresolved⟩
  . rintro ⟨hfields, hname, hresolved⟩
    refine ⟨resolved.fields, ⟨hfields, hresolved⟩, ?_⟩
    rw [← hname]

end Analysis

theorem exists_resolvesTo_iff (structs : List String) (declaration : Declaration) :
    (∃ resolved, declaration.ResolvesTo structs resolved)
      ↔ ∀ field ∈ declaration.fields, IsKnown structs field.type.base := by
  simp only [← exists_denotes_iff]
  constructor
  . rintro ⟨resolved, _, hfields⟩ field hfield
    rcases (exists_forall₂_iff _ _).mp ⟨_, hfields⟩ field hfield with ⟨_, type, htype, _⟩
    exact ⟨type, htype⟩
  . intro hknown
    have hexists : ∀ field ∈ declaration.fields, ∃ after, field.ResolvesTo structs after := by
      intro field hfield
      rcases hknown field hfield with ⟨type, htype⟩
      exact ⟨_, type, htype, rfl⟩
    rcases (exists_forall₂_iff _ _).mpr hexists with ⟨fields, hfields⟩
    exact ⟨⟨declaration.name, fields⟩, rfl, hfields⟩

end MessageAbi.Schema
