import Mathlib
import MessageAbi.Example.Library
import MessageAbi.Proofs.Bindings.Builder
import MessageAbi.Proofs.Bindings.Code
import MessageAbi.Proofs.Schema.Compiled

/-!
This module contains what the terms in bindings evaluate to: the types and the specs that the schema
itself is compiled to. A struct asks only those in front of it, so the evaluation comes to an end.
-/

namespace MessageAbi.Bindings

def Answers (answer : String → Option AbiType) (structs : List StructBinding)
    (types : List AbiType) : Prop :=
  List.Forall₂ (fun struct type => answer struct.ident = some type) structs types

namespace Answers

variable {answer : String → Option AbiType} {structs : List StructBinding} {types : List AbiType}

theorem eq_getElem? (h : Answers answer structs types) {index : Nat} {struct : StructBinding}
    (hstruct : structs[index]? = some struct) : answer struct.ident = types[index]? := by
  induction h generalizing index with
  | nil => contradiction
  | cons hanswer _ ih =>
    cases index with
    | zero =>
      cases hstruct
      exact hanswer
    | succ index => exact ih hstruct

theorem eval?_eq (h : Answers answer structs types) {resolved : Schema.ResolvedType}
    {term : TypeTerm} (hterm : typeTerm? structs resolved = some term) :
    term.eval? answer = resolved.abiType? types := by
  induction resolved generalizing term with
  | array element ih =>
    rcases Option.map_eq_some_iff.mp hterm with ⟨inner, hinner, rfl⟩
    rw [TypeTerm.eval?, ih hinner, Schema.ResolvedType.abiType?]
  | struct index =>
    rcases Option.map_eq_some_iff.mp hterm with ⟨struct, hstruct, rfl⟩
    exact h.eq_getElem? hstruct
  | _ =>
    cases hterm
    rfl

theorem params?_eq (h : Answers answer structs types) {declaration : Schema.Declaration}
    {bindings : List FieldBinding}
    (hfields : List.Forall₂ (FieldBinding.Binds structs) declaration.fields bindings) :
    params? answer bindings = declaration.params? types := by
  rw [params?, Schema.Declaration.params?]
  generalize declaration.fields = fields at hfields
  induction hfields with
  | nil => rfl
  | cons hfield _ ih =>
    rcases hfield with ⟨hname, resolved, hresolved, hterm, _⟩
    rw [List.mapM_cons, List.mapM_cons, ih, hname, hresolved, h.eval?_eq hterm]
    rfl

end Answers

/--
Structs and the tuples given for them, both made from declarations whose fields refer to the structs
in front.
-/
inductive Describes : List StructBinding → List AbiType → Prop
  | nil : Describes [] []
  | snoc (structs : List StructBinding) (types : List AbiType) (struct : StructBinding)
    (declaration : Schema.Declaration) (components : List Param) :
    Describes structs types →
    List.Forall₂ (FieldBinding.Binds structs) declaration.fields struct.fields →
    declaration.params? types = some components →
    Describes (structs ++ [struct]) (types ++ [.tuple struct.name components])

theorem Describes.answers {all structs : List StructBinding} {types : List AbiType}
    (h : Describes structs types)
    (hfind : ∀ struct ∈ structs, all.find? (·.ident == struct.ident) = some struct) (fuel : Nat)
    (hfuel : structs.length ≤ fuel) : Answers (structType? all fuel) structs types := by
  induction h generalizing fuel with
  | nil => exact .nil
  | snoc structs types struct declaration components _ hfields hcomponents ih =>
    have hfind' : ∀ other ∈ structs, all.find? (·.ident == other.ident) = some other := by
      intro other hother
      exact hfind other (List.mem_append_left _ hother)
    rw [List.length_append, List.length_singleton] at hfuel
    refine List.rel_append (ih hfind' fuel (by omega)) (.cons ?_ .nil)
    -- A struct spends one step on itself and asks those in front of it with the rest.
    cases fuel with
    | zero => contradiction
    | succ fuel =>
      have hparams := (ih hfind' fuel (by omega)).params?_eq hfields
      rw [hcomponents] at hparams
      rw [structType?, hfind struct (by simp)]
      simp [hparams]

theorem Describes.foldlM {declarations : List Schema.Declaration} {builder after : Builder}
    {types final : List AbiType} (h : Describes builder.structs types) (hdistinct : builder.Distinct)
    (hstructs : declarations.foldlM Builder.addStruct builder = .ok after)
    (htypes : declarations.foldlM (fun types declaration => do
      let components ← declaration.params? types
      return types ++ [.tuple declaration.name components]) types = some final) :
    Describes after.structs final ∧ after.Distinct ∧ after.messages = builder.messages
      ∧ after.structs.length = builder.structs.length + declarations.length := by
  induction declarations generalizing builder types with
  | nil =>
    cases hstructs
    cases htypes
    exact ⟨h, hdistinct, rfl, rfl⟩
  | cons declaration declarations ih =>
    rw [List.foldlM_cons, bind_eq_ok_iff] at hstructs
    rcases hstructs with ⟨middle, hmiddle, hafter⟩
    simp only [List.foldlM_cons, Option.bind_eq_bind, Option.bind_eq_some_iff] at htypes
    rcases htypes with ⟨_, ⟨components, hcomponents, htypes⟩, hfinal⟩
    cases htypes
    rcases hdistinct.addStruct hmiddle with ⟨hdistinct', ident, fields, hstructs, hmessages, hfields⟩
    have hmiddle : Describes middle.structs (types ++ [.tuple declaration.name components]) := by
      rw [hstructs]
      exact .snoc _ _ ⟨declaration.name, ident, fields⟩ declaration _ h hfields hcomponents
    rcases ih hmiddle hdistinct' hafter hfinal with ⟨hdescribes, hdistinct, hsame, hlength⟩
    refine ⟨hdescribes, hdistinct, hsame.trans hmessages, ?_⟩
    rw [hlength, hstructs, List.length_append, List.length_singleton, List.length_cons]
    omega

theorem find?_ident_eq_some {structs : List StructBinding}
    (hnodup : (structs.map (·.ident)).Nodup) :
    ∀ struct ∈ structs, structs.find? (·.ident == struct.ident) = some struct := by
  intro struct hstruct
  rw [find?_eq_some_iff_of_nodup (fun _ => beq_iff_eq) hnodup]
  exact ⟨hstruct, rfl⟩

section Agreement

variable {schema : Schema} {bindings : Bindings} {compiled : Schema.Compiled}

/--
Bindings of a compiled schema: the structs answer with the types they are compiled to, and the messages
have the signatures and the selectors of the specs they are compiled to.
-/
structure Agrees (schema : Schema) (compiled : Schema.Compiled) (bindings : Bindings) : Prop where
  nodup : (generatedTypes ++ bindings.structs.map (·.ident)
    ++ bindings.messages.map (·.ident)).Nodup
  length_eq : bindings.structs.length = schema.structs.length
  describes : Describes bindings.structs compiled.structTypes
  messages : List.Forall₂ (fun message binding =>
    binding.Binds bindings.structs message.1 message.2.2)
    (schema.messages.zip compiled.messages) bindings.messages

theorem agrees_of_ofSchema (h : ofSchema schema = .ok bindings) :
    ∃ compiled, schema.compile = .ok compiled ∧ Agrees schema compiled bindings := by
  simp only [ofSchema, bind_eq_ok_iff, pure_eq_ok_iff] at h
  rcases h with ⟨compiled, hcompile, builder, hstructs, after, hmessages, rfl⟩
  rcases Schema.Compiled.covers_of_compile hcompile with ⟨htypes, _⟩
  rcases Describes.nil.foldlM Builder.distinct_start hstructs htypes with
    ⟨hdescribes, hdistinct, hnil, hlength⟩
  rcases hdistinct.foldlM_addMessage hmessages with ⟨hdistinct', added, hsame, hadded, hall⟩
  rw [hnil, Builder.start, List.nil_append] at hadded
  refine ⟨compiled, hcompile, ?_, ?_, ?_, ?_⟩
  . exact hdistinct'.perm.nodup_iff.mp hdistinct'.nodup
  . rw [hsame, hlength]
    exact Nat.zero_add _
  . rwa [hsame]
  . rwa [hsame, hadded]

theorem Agrees.forall₂_zip (h : Agrees schema compiled bindings)
    (hcovers : Schema.Compiled.Covers compiled.structTypes schema.messages compiled) :
    List.Forall₂ (fun message binding =>
      (message.1.2.CompilesTo compiled.structTypes message.2.2
        ∧ compiled.registry.byName? message.1.2.name = some message.2.2)
      ∧ binding.Binds bindings.structs message.1 message.2.2)
      (schema.messages.zip compiled.messages) bindings.messages := by
  rcases List.forall₂_iff_zip.mp hcovers.forall₂_byName? with ⟨_, hcompiled⟩
  rw [List.forall₂_and_left]
  exact ⟨fun _ hmessage => (hcompiled hmessage).2, h.messages⟩

theorem Agrees.answers (h : Agrees schema compiled bindings) (fuel : Nat)
    (hfuel : bindings.structs.length ≤ fuel) :
    Answers (structType? bindings.structs fuel) bindings.structs compiled.structTypes := by
  apply h.describes.answers _ fuel hfuel
  apply find?_ident_eq_some
  exact h.nodup.of_append_left.of_append_right

theorem Agrees.params?_eq (h : Agrees schema compiled bindings) {spec : MessageSpec}
    {message : Category × Schema.Declaration} {binding : MessageBinding}
    (hbinds : binding.Binds bindings.structs message spec)
    (hcompiles : message.2.CompilesTo compiled.structTypes spec) (fuel : Nat)
    (hfuel : bindings.structs.length ≤ fuel) :
    params? (structType? bindings.structs fuel) binding.fields = some spec.params := by
  rw [(h.answers fuel hfuel).params?_eq hbinds.fields, hcompiles.params_eq]

theorem Agrees.spec_eq (h : Agrees schema compiled bindings) {spec : MessageSpec}
    {message : Category × Schema.Declaration} {binding : MessageBinding}
    (hbinds : binding.Binds bindings.structs message spec)
    (hcompiles : message.2.CompilesTo compiled.structTypes spec) :
    bindings.spec binding = spec := by
  rw [Bindings.spec, params, h.params?_eq hbinds hcompiles _ (Nat.le_refl _), hbinds.name_eq,
    ← hcompiles.name_eq]
  rfl

theorem Agrees.registry_eq (h : Agrees schema compiled bindings)
    (hcovers : Schema.Compiled.Covers compiled.structTypes schema.messages compiled) :
    bindings.registry = .ok compiled.registry := by
  have hspecs : bindings.messages.map bindings.spec = compiled.messages.map (·.2) := by
    rw [← List.map_snd_zip hcovers.messages.length_eq.ge, List.map_map]
    apply map_eq_of_forall₂
    rw [List.forall₂_map_right_iff]
    apply (h.forall₂_zip hcovers).flip.imp
    rintro binding ⟨message, _, spec⟩ ⟨⟨hcompiles, _⟩, hbinds⟩
    exact h.spec_eq hbinds hcompiles
  rw [registry, hspecs]
  exact hcovers.registerAll_eq

section Code

open Code

theorem Agrees.nodup_typeNames (h : Agrees schema compiled bindings) :
    (bindings.program.filterMap (·.typeName?)).Nodup := by
  have hperm : (bindings.program.filterMap (·.typeName?)).Perm (generatedTypes
      ++ bindings.structs.map (·.ident) ++ bindings.messages.map (·.ident)) := by
    rw [filterMap_typeName?, List.append_assoc generatedTypes]
    exact List.perm_append_comm
  exact hperm.nodup_iff.mpr h.nodup

theorem Agrees.call?_registry (h : Agrees schema compiled bindings)
    (hcovers : Schema.Compiled.Covers compiled.structTypes schema.messages compiled) (fuel : Nat)
    (hfuel : schema.structs.length < fuel) :
    call? bindings.program fuel "registry"
      = some (.result (.ok (.registry compiled.registry))) := by
  obtain ⟨fuel, rfl⟩ : ∃ n, fuel = n + 1 := ⟨fuel - 1, by omega⟩
  have hspec : ∀ binding ∈ bindings.messages,
      (params? (structType? bindings.structs fuel) binding.fields).map (⟨binding.name, ·⟩)
        = some (bindings.spec binding) := by
    intro binding hbinding
    rcases exists_mem_of_forall₂ (h.forall₂_zip hcovers) hbinding with
      ⟨⟨message, _, spec⟩, _, ⟨hcompiles, _⟩, hbinds⟩
    have hlength := h.length_eq
    rw [h.params?_eq hbinds hcompiles fuel (by omega), h.spec_eq hbinds hcompiles, hbinds.name_eq,
      ← hcompiles.name_eq]
    rfl
  have hregistry := h.registry_eq hcovers
  rw [registry] at hregistry
  rw [Code.call?_registry h.nodup.of_append_right fuel _ hspec, hregistry]
  rfl

/--
That a type of a program implements messages as a spec describes them: its parameters and its constants
evaluate to those of the spec.
-/
structure Implements (program : List Item) (fuel : Nat) (type : String) (spec : MessageSpec) :
    Prop where
  params_eq : associated? program fuel (some (Library.path ["Message"])) type "params"
    = some (.list (spec.params.map .param))
  name_eq : associated? program fuel (some (Library.path ["Message"])) type "NAME"
    = some (.text spec.name)
  signature_eq : associated? program fuel (some (Library.path ["Message"])) type "SIGNATURE"
    = some (.text spec.signature)
  selector_eq : associated? program fuel (some (Library.path ["Message"])) type "SELECTOR"
    = some (.selector spec.selector)

theorem Agrees.implements (h : Agrees schema compiled bindings) {spec : MessageSpec}
    {message : Category × Schema.Declaration} {binding : MessageBinding}
    (hbinding : binding ∈ bindings.messages)
    (hbinds : binding.Binds bindings.structs message spec)
    (hcompiles : message.2.CompilesTo compiled.structTypes spec) (fuel : Nat)
    (hfuel : schema.structs.length < fuel) :
    Implements bindings.program fuel binding.ident spec := by
  obtain ⟨fuel, rfl⟩ : ∃ n, fuel = n + 1 := ⟨fuel - 1, by omega⟩
  have hnodup := h.nodup.of_append_right
  have hlength := h.length_eq
  constructor
  . rw [associated?_params hbinding hnodup, h.params?_eq hbinds hcompiles fuel (by omega)]
    rfl
  . rw [associated?_name hbinding hnodup, hbinds.name_eq, hcompiles.name_eq]
  . rw [associated?_signature hbinding hnodup, hbinds.signature_eq]
  . rw [associated?_selector hbinding hnodup, hbinds.selector_eq]

end Code

end Agreement

open Code in
theorem generate_describes {schema : Schema} {moduleText : Option String} {code : Code}
    (h : generate schema moduleText = .ok code) :
    ∃ compiled, schema.compile = .ok compiled
      ∧ code.items = code.program.map (·.text)
      ∧ (code.program.filterMap (·.typeName?)).Nodup
      ∧ List.Forall₂ (fun message type => ∃ spec,
        compiled.registry.byName? message.2.name = some spec
        ∧ toIdentifier (Text.pascalCase message.2.name) = .ok type
        ∧ ∀ fuel, schema.structs.length < fuel → Implements code.program fuel type spec)
        schema.messages (messageTypes code.program)
      ∧ ∀ fuel, schema.structs.length < fuel →
        call? code.program fuel "registry"
          = some (.result (.ok (.registry compiled.registry))) := by
  simp only [generate, bind_eq_ok_iff, pure_eq_ok_iff] at h
  rcases h with ⟨_, _, name, _, bindings, hbindings, rfl⟩
  rcases agrees_of_ofSchema hbindings with ⟨compiled, hcompile, hagrees⟩
  rcases Schema.Compiled.covers_of_compile hcompile with ⟨_, hcovers⟩
  have hlength := hcovers.messages.length_eq
  refine ⟨compiled, hcompile, rfl, hagrees.nodup_typeNames, ?_, hagrees.call?_registry hcovers⟩
  rw [code, messageTypes_program, ← List.map_fst_zip hlength.le, List.forall₂_map_left_iff,
    List.forall₂_map_right_iff]
  apply forall₂_imp_of_mem (hagrees.forall₂_zip hcovers)
  rintro ⟨message, _, spec⟩ _ binding hbinding ⟨⟨hcompiles, hname⟩, hbinds⟩
  exact ⟨spec, hname, hbinds.ident_eq, hagrees.implements hbinding hbinds hcompiles⟩

-- The book of the second message has chapters, so its struct asks another one.
open Code in
theorem generate_describes_library :
    ∃ schema code compiled, Example.library.analyze .deny = .ok schema
      ∧ generate schema none = .ok code ∧ schema.compile = .ok compiled
      ∧ call? code.program 4 "registry" = some (.result (.ok (.registry compiled.registry)))
      ∧ ∃ spec, (messageTypes code.program)[1]? = some "AddBook"
        ∧ compiled.registry.byName? "AddBook" = some spec
        ∧ Implements code.program 4 "AddBook" spec := by
  rcases Example.exists_ofSchema_library with ⟨schema, hschema, hbindings⟩
  rcases agrees_of_ofSchema hbindings with ⟨compiled, hcompile, _⟩
  have hcode : generate schema none = .ok (Example.libraryBindings.code none) := by
    rw [generate, hcompile, hbindings]
    rfl
  have hlibrary : (Example.library.analyze .deny).toOption.any (fun schema =>
      schema.structs.length == 3 && schema.messages[1]?.any (·.2.name == "AddBook")) = true := by
    decide +kernel
  rw [hschema] at hlibrary
  simp only [Except.toOption, Option.any_some, Bool.and_eq_true, Option.any_eq_true,
    beq_iff_eq] at hlibrary
  rcases hlibrary with ⟨hstructs, message, hmessage, hname⟩
  have hident : toIdentifier (Text.pascalCase "AddBook") = .ok "AddBook" := by
    decide +kernel
  rcases generate_describes hcode with ⟨_, hcompile', _, _, hall, hregistry⟩
  cases hcompile.symm.trans hcompile'
  rcases List.getElem?_eq_some_iff.mp hmessage with ⟨hlt, rfl⟩
  have hlt' : 1 < (messageTypes (Example.libraryBindings.code none).program).length :=
    hall.length_eq ▸ hlt
  rcases hall.get hlt hlt' with ⟨spec, hspec, htype, himplements⟩
  rw [List.get_eq_getElem, hname] at hspec htype
  rw [hident, Except.ok.injEq] at htype
  rw [← htype] at himplements
  refine ⟨schema, _, compiled, hschema, hcode, hcompile, hregistry 4 (by omega), spec, ?_, hspec,
    himplements 4 (by omega)⟩
  rw [htype]
  exact List.getElem?_eq_getElem hlt'

end MessageAbi.Bindings
