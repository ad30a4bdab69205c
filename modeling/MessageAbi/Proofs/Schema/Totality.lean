import Mathlib
import MessageAbi.AbiDocument
import MessageAbi.Proofs.Registry.Session
import MessageAbi.Proofs.Schema.Identifier
import MessageAbi.Proofs.Signature.Unambiguous

/-!
This module contains that an analyzed schema can be compiled unless two of its messages have one
selector: every type in it can be expanded, and every message can be registered under its name.
-/

namespace MessageAbi

namespace Registry

theorem Consistent.perm_registerAll {registry after : Registry} {specs : List MessageSpec}
    (h : registry.Consistent) (hregister : registry.registerAll specs = .ok after) :
    after.toList.Perm (specs ++ registry.toList) := by
  induction specs generalizing registry with
  | nil =>
    cases hregister
    exact .refl _
  | cons spec specs ih =>
    rcases (registerAll_cons _ _ _ _).mp hregister with ⟨middle, hmiddle, hafter⟩
    apply (ih (h.register hmiddle) hafter).trans
    apply ((h.perm_toList_register hmiddle).append_left specs).trans
    exact List.perm_middle

end Registry

namespace Schema

def Declaration.Bounded (bound : Nat) (declaration : Declaration) : Prop :=
  ∀ field ∈ declaration.fields, ∃ type, field.resolved = some type
    ∧ ∀ index ∈ type.structs, index < bound

/--
Structs behind `bound` other ones, each of which refers to those before it only.
-/
def Backward : (bound : Nat) → List Declaration → Prop
  | _, [] => True
  | bound, declaration :: declarations =>
    declaration.Bounded bound ∧ Backward (bound + 1) declarations

/--
What the stages behind the analysis of a schema rely on.
-/
structure Sound (schema : Schema) : Prop where
  structs : Backward 0 schema.structs
  messages : ∀ message ∈ schema.messages, message.2.Bounded schema.structs.length
  nodup : (schema.messages.map (·.2.name)).Nodup

section Analyzed

variable {names : List String}

theorem Declaration.ResolvesTo.bounded {declaration after : Declaration}
    (h : declaration.ResolvesTo names after) : after.Bounded names.length := by
  intro field hfield
  rcases h.exists_denotes field hfield with ⟨type, hresolved, _, hindices⟩
  exact ⟨type, hresolved, hindices⟩

theorem StructsResolveTo.backward {structs resolved : List Declaration}
    (h : StructsResolveTo names structs resolved) : Backward names.length resolved := by
  induction structs generalizing names resolved with
  | nil =>
    rw [(StructsResolveTo.nil_iff resolved).mp h]
    trivial
  | cons declaration declarations ih =>
    rcases (StructsResolveTo.cons_iff resolved).mp h with ⟨after, rest, hafter, hrest, rfl⟩
    refine ⟨hafter.bounded, ?_⟩
    simpa using ih hrest

theorem map_name_messages_unresolved (schema : Schema) :
    schema.unresolved.messages.map (·.2.name) = schema.messages.map (·.2.name) := by
  simp [map_name_messages, unresolved, Declaration.unresolved, Function.comp_def]

theorem mem_declarations_of_mem_messages {schema : Schema} {message : Category × Declaration}
    (h : message ∈ schema.messages) :
    message.1 ∈ Category.messages ∧ message.2 ∈ schema.declarations message.1 := by
  rcases List.mem_flatMap.mp h with ⟨category, hcategory, hmem⟩
  rcases List.mem_map.mp hmem with ⟨declaration, hdeclaration, rfl⟩
  exact ⟨hcategory, hdeclaration⟩

theorem sound_of_analyze {schema analyzed : Schema} {policy : EmptySchemaPolicy}
    (h : schema.analyze policy = .ok analyzed) : analyzed.Sound := by
  rcases (analyze_eq_ok_iff _ _ _).mp h with ⟨hwf, _, hresolved⟩
  constructor
  . exact hresolved.structs.backward
  . intro message hmessage
    rcases mem_declarations_of_mem_messages hmessage with ⟨hcategory, hmem⟩
    rcases exists_mem_of_forall₂ (hresolved.messages _ hcategory) hmem with ⟨_, _, hafter⟩
    simpa only [List.length_map, hresolved.structs.length_eq] using hafter.bounded
  . rw [← map_name_messages_unresolved, hresolved.unresolved_eq, map_name_messages_unresolved]
    exact hwf.nodup_messages

end Analyzed

section Expansion

variable {types : List AbiType} {declaration : Declaration}

theorem ResolvedType.exists_abiType? {resolved : ResolvedType}
    (h : ∀ index ∈ resolved.structs, index < types.length) :
    ∃ type, resolved.abiType? types = some type := by
  induction resolved with
  | array element ih =>
    rcases ih h with ⟨type, htype⟩
    exact ⟨.array type, Option.map_eq_some_iff.mpr ⟨type, htype, rfl⟩⟩
  | struct index =>
    have hlt : index < types.length := h index (by simp [structs])
    exact ⟨types[index], List.getElem?_eq_getElem hlt⟩
  | _ => exact ⟨_, rfl⟩

theorem Declaration.Bounded.exists_params? (h : declaration.Bounded types.length) :
    ∃ params, declaration.params? types = some params := by
  simp only [params?, mapM_eq_some_iff, exists_forall₂_iff]
  intro field hfield
  rcases h field hfield with ⟨resolved, hresolved, hindices⟩
  rcases ResolvedType.exists_abiType? hindices with ⟨type, htype⟩
  exact ⟨⟨field.name, type⟩, by simp [hresolved, htype]⟩

theorem Backward.exists_foldlM {declarations : List Declaration}
    (h : Backward types.length declarations) :
    ∃ final, declarations.foldlM (fun types declaration => do
        let components ← declaration.params? types
        return types ++ [.tuple declaration.name components]) types = some final
      ∧ final.length = types.length + declarations.length := by
  induction declarations generalizing types with
  | nil => exact ⟨types, rfl, rfl⟩
  | cons declaration declarations ih =>
    rcases h with ⟨hdeclaration, hrest⟩
    rcases hdeclaration.exists_params? with ⟨components, hcomponents⟩
    have hlength : (types ++ [AbiType.tuple declaration.name components]).length
        = types.length + 1 :=
      List.length_append
    rw [← hlength] at hrest
    rcases ih hrest with ⟨final, hfinal, hfinalLength⟩
    refine ⟨final, ?_, ?_⟩
    . rw [List.foldlM_cons, hcomponents]
      exact hfinal
    . rw [hfinalLength, hlength, List.length_cons]
      omega

theorem Sound.exists_structTypes? {schema : Schema} (h : schema.Sound) :
    ∃ types, structTypes? schema.structs = some types
      ∧ types.length = schema.structs.length
      ∧ ∀ message ∈ schema.messages, ∃ params, message.2.params? types = some params := by
  have hstructs : Backward ([] : List AbiType).length schema.structs := h.structs
  rcases hstructs.exists_foldlM with ⟨types, htypes, hlength⟩
  rw [List.length_nil, Nat.zero_add] at hlength
  refine ⟨types, htypes, hlength, ?_⟩
  intro message hmessage
  have hbounded := h.messages message hmessage
  rw [← hlength] at hbounded
  exact hbounded.exists_params?

end Expansion

inductive SelectorClash (names : List String) : GenerationError → Prop where
  | intro (first second : MessageSpec) (hfirst : first.name ∈ names) (hsecond : second.name ∈ names)
    (hne : first.name ≠ second.name) (hselector : first.selector = second.selector) :
    SelectorClash names
      (.registry (.duplicateSelector second.selector first.signature second.signature))

namespace Compiled

variable {structTypes : List AbiType} {messages : List (Category × Declaration)}
variable {compiled : Compiled}

theorem Covers.name_mem (h : Covers structTypes messages compiled) :
    ∀ spec ∈ compiled.registry.toList, spec.name ∈ messages.map (·.2.name) := by
  intro spec hspec
  rw [(Registry.consistent_of_registerAll h.registerAll_eq).2] at hspec
  rcases List.mem_map.mp hspec with ⟨entry, hentry, rfl⟩
  rcases exists_mem_of_forall₂ h.messages hentry with ⟨message, hmessage, _, hcompiles⟩
  rw [hcompiles.name_eq]
  exact List.mem_map_of_mem hmessage

theorem Covers.addMessage_cases (h : Covers structTypes messages compiled) (category : Category)
    (declaration : Declaration) {params : List Param}
    (hparams : declaration.params? structTypes = some params)
    (hfresh : declaration.name ∉ messages.map (·.2.name)) :
    (∃ after, compiled.addMessage category declaration = .ok after)
      ∨ ∃ error, compiled.addMessage category declaration = .error error
        ∧ SelectorClash (declaration.name :: messages.map (·.2.name)) error := by
  have hconsistent := (Registry.consistent_of_registerAll h.registerAll_eq).1
  have hname : compiled.registry.names.lookup declaration.name = none := by
    rw [Option.eq_none_iff_forall_ne_some]
    intro selector hselector
    rcases (hconsistent.indexes.lookup_names_iff _ _).mp hselector with ⟨spec, hget, hspec⟩
    have hmem := ((hconsistent.get?_eq_some_iff _ _).mp hget).1
    exact hfresh (hspec ▸ h.name_mem spec hmem)
  simp only [Compiled.addMessage, h.structTypes_eq, hparams]
  cases hget : compiled.registry.get? (MessageSpec.mk declaration.name params).selector with
  | none =>
    have hregister := (Registry.register_eq_ok_iff _ _ _).mpr ⟨hname, hget, rfl⟩
    rw [hregister]
    exact .inl ⟨_, rfl⟩
  | some existing =>
    rcases (hconsistent.get?_eq_some_iff _ _).mp hget with ⟨hmem, hselector⟩
    have hmemName := h.name_mem existing hmem
    refine .inr ⟨_, ?_, .intro existing ⟨declaration.name, params⟩ ?_ ?_ ?_ hselector⟩
    . simp [Registry.register, hname, hget]
    . exact List.mem_cons_of_mem _ hmemName
    . exact List.mem_cons_self
    . exact ne_of_mem_of_not_mem hmemName hfresh

theorem Covers.foldlM_cases {rest : List (Category × Declaration)}
    (h : Covers structTypes messages compiled)
    (hparams : ∀ message ∈ rest, ∃ params, message.2.params? structTypes = some params)
    (hnodup : ((messages ++ rest).map (·.2.name)).Nodup) :
    (∃ after, rest.foldlM (fun compiled (category, declaration) =>
        compiled.addMessage category declaration) compiled = .ok after)
      ∨ ∃ error, rest.foldlM (fun compiled (category, declaration) =>
          compiled.addMessage category declaration) compiled = .error error
        ∧ SelectorClash ((messages ++ rest).map (·.2.name)) error := by
  induction rest generalizing messages compiled with
  | nil => exact .inl ⟨compiled, rfl⟩
  | cons message rest ih =>
    rcases message with ⟨category, declaration⟩
    rcases List.forall_mem_cons.mp hparams with ⟨⟨params, hmessage⟩, hrest⟩
    have hfresh : declaration.name ∉ messages.map (·.2.name) := by
      intro hmem
      rw [List.map_append] at hnodup
      exact List.disjoint_of_nodup_append hnodup hmem (by simp)
    cases h.addMessage_cases category declaration hmessage hfresh with
    | inl hok =>
      rcases hok with ⟨after, hafter⟩
      simp only [List.foldlM_cons, hafter]
      rw [List.append_cons] at hnodup ⊢
      exact ih (h.addMessage hafter) hrest hnodup
    | inr herror =>
      rcases herror with ⟨error, herror, first, second, hfirst, hsecond, hne, hselector⟩
      have hsubset : declaration.name :: messages.map (·.2.name)
          ⊆ (messages ++ (category, declaration) :: rest).map (·.2.name) := by
        intro name hname
        simp only [List.map_append, List.map_cons, List.mem_append, List.mem_cons] at hname ⊢
        tauto
      simp only [List.foldlM_cons, herror]
      exact .inr ⟨_, rfl, .intro first second (hsubset hfirst) (hsubset hsecond) hne hselector⟩

theorem Covers.size_eq (h : Covers structTypes messages compiled) :
    compiled.registry.size = messages.length := by
  have hperm := (Registry.consistent_empty.perm_registerAll h.registerAll_eq).length_eq
  rw [show Registry.empty.toList = [] from rfl, List.append_nil, List.length_map,
    ← h.messages.length_eq, Registry.toList, List.length_map] at hperm
  exact hperm

theorem Covers.mapM_byName? (h : Covers structTypes messages compiled) :
    messages.mapM (fun message =>
        (compiled.registry.byName? message.2.name).map AbiDocument.Function.ofSpec)
      = some compiled.functions := by
  rw [mapM_eq_some_iff, functions, List.forall₂_map_right_iff]
  apply h.forall₂_byName?.imp
  rintro message entry ⟨_, _, hbyName⟩
  rw [hbyName]
  rfl

end Compiled

section Totality

variable {schema : Schema}

theorem Sound.compile_cases (h : schema.Sound) :
    (∃ compiled, schema.compile = .ok compiled)
      ∨ ∃ error, schema.compile = .error error
        ∧ SelectorClash (schema.messages.map (·.2.name)) error := by
  rcases h.exists_structTypes? with ⟨types, htypes, _, hparams⟩
  have hstart : Compiled.Covers types [] ⟨types, [], Registry.empty⟩ := ⟨rfl, .nil, rfl⟩
  unfold compile
  rw [htypes]
  exact hstart.foldlM_cases hparams h.nodup

theorem checkIdentifier_of_mem_messages {document : Bytes} {policy : EmptySchemaPolicy}
    (h : read document policy = .ok schema) :
    ∀ name ∈ schema.messages.map (·.2.name), checkIdentifier name = .ok () := by
  intro name hname
  rcases List.mem_map.mp hname with ⟨message, hmessage, rfl⟩
  rcases mem_declarations_of_mem_messages hmessage with ⟨_, hmem⟩
  exact (hasIdentifiers_of_read h message.1 message.2 hmem).name

theorem analyzed_compiles {policy : EmptySchemaPolicy} {analyzed : Schema}
    (h : schema.analyze policy = .ok analyzed) :
    (∃ types, structTypes? analyzed.structs = some types
      ∧ types.length = analyzed.structs.length
      ∧ ∀ message ∈ analyzed.messages, ∃ params, message.2.params? types = some params)
    ∧ ((∃ compiled, analyzed.compile = .ok compiled
        ∧ compiled.registry.size = analyzed.messageCount
        ∧ (∀ message ∈ analyzed.messages, ∃ spec,
          compiled.registry.byName? message.2.name = some spec
            ∧ spec.name = message.2.name
            ∧ spec.params.map (·.name) = message.2.fields.map (·.name))
        ∧ analyzed.messages.mapM (fun message =>
            (compiled.registry.byName? message.2.name).map AbiDocument.Function.ofSpec)
          = some compiled.functions
        ∧ analyzed.abiDocument = .ok compiled.abiDocument)
      ∨ ∃ first second : MessageSpec, first.name ≠ second.name
        ∧ first.selector = second.selector
        ∧ analyzed.compile = .error (.registry
          (.duplicateSelector second.selector first.signature second.signature))
        ∧ analyzed.abiDocument = .error (.registry
          (.duplicateSelector second.selector first.signature second.signature)))
    ∧ ∀ document, read document policy = .ok analyzed →
      ∀ selector first second, analyzed.compile
        = .error (.registry (.duplicateSelector selector first second)) → first ≠ second := by
  have hsound := sound_of_analyze h
  refine ⟨hsound.exists_structTypes?, ?_, ?_⟩
  . cases hsound.compile_cases with
    | inl hok =>
      rcases hok with ⟨compiled, hcompiled⟩
      rcases Compiled.covers_of_compile hcompiled with ⟨_, hcovers⟩
      refine .inl ⟨compiled, hcompiled, ?_, ?_, hcovers.mapM_byName?, ?_⟩
      . rw [hcovers.size_eq, analyzed.length_messages]
      . intro message hmessage
        rcases exists_mem_of_forall₂ hcovers.forall₂_byName?.flip hmessage with
          ⟨entry, _, _, hcompiles, hbyName⟩
        exact ⟨entry.2, hbyName, hcompiles.name_eq,
          Declaration.map_name_of_params? hcompiles.params_eq⟩
      . rw [abiDocument, hcompiled]
        rfl
    | inr herror =>
      rcases herror with ⟨_, hcompile, first, second, _, _, hne, hselector⟩
      refine .inr ⟨first, second, hne, hselector, hcompile, ?_⟩
      rw [abiDocument, hcompile]
      rfl
  . intro document hread selector first second hcompile
    cases hsound.compile_cases with
    | inl hok =>
      rcases hok with ⟨compiled, hcompiled⟩
      rw [hcompiled] at hcompile
      contradiction
    | inr herror =>
      rcases herror with ⟨_, hclash, firstSpec, secondSpec, hfirst, hsecond, hne, _⟩
      rw [hclash] at hcompile
      cases hcompile
      have hidentifiers := checkIdentifier_of_mem_messages hread
      intro hsignature
      have hsame := (signature_eq_iff firstSpec.params secondSpec.params
        (notMem_of_checkIdentifier (hidentifiers _ hfirst))
        (notMem_of_checkIdentifier (hidentifiers _ hsecond))).mp hsignature
      exact hne hsame.1

def collidingMessages : Schema :=
  ⟨[], [], [⟨"withdraw", [⟨"amount", ⟨"uint256", false⟩, some (.uint 256)⟩]⟩,
    ⟨"OwnerTransferV7b711143", [⟨"nonce", ⟨"uint256", false⟩, some (.uint 256)⟩]⟩], []⟩

set_option maxRecDepth 100000 in
theorem analyzed_compiles_colliding :
    ∃ parsed document, read document .deny = .ok collidingMessages
      ∧ parse document = .ok parsed
      ∧ parsed.analyze .deny = .ok collidingMessages
      ∧ collidingMessages.compile = .error (.registry (.duplicateSelector ⟨0x2e1a7d4d⟩
        "withdraw(uint256)" "OwnerTransferV7b711143(uint256)"))
      ∧ "withdraw(uint256)" ≠ "OwnerTransferV7b711143(uint256)" := by
  have hread : read ("advances:\n- name: withdraw\n  fields:\n  - amount: uint256\n" ++
      "- name: OwnerTransferV7b711143\n  fields:\n  - nonce: uint256\n").toUTF8.data.toList .deny
      = .ok collidingMessages := by
    decide +kernel
  have hcompile : collidingMessages.compile = .error (.registry (.duplicateSelector ⟨0x2e1a7d4d⟩
      "withdraw(uint256)" "OwnerTransferV7b711143(uint256)")) := by
    rw [← map_eq_error_iff (fun _ => ())]
    decide +kernel
  rcases (read_eq_ok_iff _ _ _).mp hread with ⟨parsed, hparse, hanalyze⟩
  exact ⟨parsed, _, hread, hparse, hanalyze, hcompile,
    (analyzed_compiles hanalyze).2.2 _ hread _ _ _ hcompile⟩

end Totality

end Schema

end MessageAbi
