import Mathlib
import MessageAbi.Bindings.Code
import MessageAbi.Proofs.Bindings.Description
import MessageAbi.Proofs.Bindings.Identifier
import MessageAbi.Proofs.Schema.Totality

/-!
This module contains when the identifiers that bindings give to the declarations and the fields of a
schema clash, and that the methods of a handler do not where the types do not.
-/

namespace MessageAbi.Bindings

def typeIdent (name : String) : Except GenerationError String :=
  toIdentifier (Text.pascalCase name)

def memberIdent (name : String) : Except GenerationError String :=
  toIdentifier (Text.snakeCase name)

def SharesIdent (identOf : String → Except GenerationError String) (names : List String) : Prop :=
  ∃ first second ident, [first, second].Sublist names
    ∧ identOf first = .ok ident ∧ identOf second = .ok ident

def named (schema : Schema) : List Schema.Declaration :=
  schema.structs ++ schema.messages.map (·.2)

def FieldsDiffer (declaration : Schema.Declaration) : Prop :=
  ¬ SharesIdent memberIdent (declaration.fields.map (·.name))

/--
The ways in which identifiers of a schema's bindings clash.
-/
inductive Clash (schema : Schema) : Prop where
  | types (h : SharesIdent typeIdent ((named schema).map (·.name)))
  | generated (declaration : Schema.Declaration) (ident : String) (hmem : declaration ∈ named schema)
    (hgenerated : ident ∈ generatedTypes) (hident : typeIdent declaration.name = .ok ident)
  | fields (declaration : Schema.Declaration) (hmem : declaration ∈ named schema)
    (h : SharesIdent memberIdent (declaration.fields.map (·.name)))

/--
A result of the given kind where identifiers are free, and the report of a clash where they are not.
-/
structure ClashesUnless {α : Type} (free : Prop) (kind : α → Prop) (x : Except GenerationError α) :
    Prop where
  ok : free → ∃ a, x = .ok a ∧ kind a
  clash : ¬ free → ∃ ident first second, x = .error (.identifierClash ident first second)

namespace ClashesUnless

variable {α β : Type} {x : Except GenerationError α} {f : α → Except GenerationError β}
variable {free rest : Prop} {kind : α → Prop} {after : β → Prop}

theorem congr (h : ClashesUnless free kind x) (hiff : free ↔ rest) : ClashesUnless rest kind x := by
  rwa [← hiff]

theorem imp {kind' : α → Prop} (h : ClashesUnless free kind x) (himp : ∀ a, kind a → kind' a) :
    ClashesUnless free kind' x := by
  refine ⟨fun hfree => ?_, h.clash⟩
  rcases h.ok hfree with ⟨a, hx, ha⟩
  exact ⟨a, hx, himp a ha⟩

theorem bind (hx : ClashesUnless free kind x)
    (hf : free → ∀ a, kind a → ClashesUnless rest after (f a)) :
    ClashesUnless (free ∧ rest) after (x >>= f) := by
  constructor
  . rintro ⟨hfree, hrest⟩
    rcases hx.ok hfree with ⟨a, rfl, ha⟩
    exact (hf hfree a ha).ok hrest
  . intro hnot
    by_cases hfree : free
    . rcases hx.ok hfree with ⟨a, rfl, ha⟩
      exact (hf hfree a ha).clash fun hrest => hnot ⟨hfree, hrest⟩
    . rcases hx.clash hfree with ⟨ident, first, second, rfl⟩
      exact ⟨ident, first, second, rfl⟩

theorem of_bind {a : α} (hx : x = .ok a) (hf : ClashesUnless rest after (f a)) :
    ClashesUnless rest after (x >>= f) := by
  rw [hx]
  exact hf

theorem bind_ok (hx : ClashesUnless free kind x) (hf : ∀ a, kind a → ∃ b, f a = .ok b ∧ after b) :
    ClashesUnless free after (x >>= f) := by
  constructor
  . intro hfree
    rcases hx.ok hfree with ⟨a, rfl, ha⟩
    exact hf a ha
  . intro hnot
    rcases hx.clash hnot with ⟨ident, first, second, rfl⟩
    exact ⟨ident, first, second, rfl⟩

theorem exists_ok_iff (h : ClashesUnless free kind x) : (∃ a, x = .ok a) ↔ free := by
  constructor
  . rintro ⟨a, hx⟩
    by_contra hfree
    rcases h.clash hfree with ⟨ident, first, second, herror⟩
    rw [hx] at herror
    contradiction
  . intro hfree
    rcases h.ok hfree with ⟨a, hx, _⟩
    exact ⟨a, hx⟩

theorem exists_clash_iff (h : ClashesUnless free kind x) :
    (∃ ident first second, x = .error (.identifierClash ident first second)) ↔ ¬ free := by
  refine ⟨?_, h.clash⟩
  rintro ⟨ident, first, second, hx⟩ hfree
  rcases h.ok hfree with ⟨a, ha, _⟩
  rw [hx] at ha
  contradiction

end ClashesUnless

section Identifiers

variable {name other : String} (h : Schema.checkIdentifier name = .ok ())

theorem sharesIdent_iff {identOf : String → Except GenerationError String} {names : List String}
    (hnames : ∀ name ∈ names, ∃ ident, identOf name = .ok ident) :
    SharesIdent identOf names ↔ ¬ (names.map identOf).Nodup := by
  rw [List.Nodup, List.pairwise_map, List.pairwise_iff_forall_sublist]
  push Not
  constructor
  . rintro ⟨first, second, ident, hsublist, hfirst, hsecond⟩
    exact ⟨first, second, hsublist, hfirst.trans hsecond.symm⟩
  . rintro ⟨first, second, hsublist, heq⟩
    rcases hnames first (hsublist.subset (by simp)) with ⟨ident, hident⟩
    exact ⟨first, second, ident, hsublist, hident, heq ▸ hident⟩

include h

theorem exists_typeIdent : ∃ ident, typeIdent name = .ok ident :=
  exists_toIdentifier (plain_pascalCase h)

theorem exists_memberIdent : ∃ ident, memberIdent name = .ok ident :=
  exists_toIdentifier (plain_snakeCase h)

theorem typeIdent_eq_of_memberIdent_eq (hother : Schema.checkIdentifier other = .ok ())
    (heq : memberIdent name = memberIdent other) : typeIdent name = typeIdent other := by
  rw [typeIdent, pascalCase_eq_of_toIdentifier_snakeCase_eq h hother heq, typeIdent]

end Identifiers

def taken (entries : List (String × String)) : List (Except GenerationError String) :=
  entries.map fun entry => .ok entry.1

theorem lookup_eq_none_iff_notMem_taken (entries : List (String × String)) (ident : String) :
    entries.lookup ident = none ↔ .ok ident ∉ taken entries := by
  simp only [lookup_eq_none_iff_notMem, taken, List.mem_map, Except.ok.injEq]

/--
Declarations whose types have identifiers that are not in use, each one of its own, and whose fields
have different ones.
-/
def Free (used : List (Except GenerationError String)) (declarations : List Schema.Declaration) :
    Prop :=
  (declarations.map (fun declaration => typeIdent declaration.name) ++ used).Nodup
    ∧ ∀ declaration ∈ declarations, FieldsDiffer declaration

theorem free_cons_iff (used : List (Except GenerationError String))
    (declaration : Schema.Declaration) (declarations : List Schema.Declaration) :
    Free used (declaration :: declarations)
      ↔ (typeIdent declaration.name ∉ used ∧ FieldsDiffer declaration)
        ∧ Free (typeIdent declaration.name :: used) declarations := by
  rw [Free, Free, List.map_cons, nodup_cons_append_iff, List.forall_mem_cons]
  tauto

theorem free_append_iff (used : List (Except GenerationError String))
    (declarations others : List Schema.Declaration) :
    Free used (declarations ++ others) ↔ Free used declarations
      ∧ Free ((declarations.map (fun declaration => typeIdent declaration.name)).reverse ++ used)
        others := by
  induction declarations generalizing used with
  | nil =>
    rw [List.nil_append, List.map_nil, List.reverse_nil, List.nil_append, iff_and_self]
    intro h
    exact ⟨h.1.of_append_right, by simp⟩
  | cons declaration declarations ih =>
    rw [List.cons_append, free_cons_iff, free_cons_iff, ih, List.map_cons, List.reverse_cons,
      List.append_assoc, List.singleton_append]
    simp only [and_assoc]

namespace Builder

variable {builder : Builder} {declaration : Schema.Declaration}

theorem claimType_clashes (builder : Builder) {name : String}
    (h : Schema.checkIdentifier name = .ok ()) :
    ClashesUnless (typeIdent name ∉ taken builder.typeNames)
      (fun result => taken result.2.typeNames = typeIdent name :: taken builder.typeNames
        ∧ result.2.structs = builder.structs) (builder.claimType name) := by
  rcases exists_typeIdent h with ⟨ident, hident⟩
  rw [hident, ← lookup_eq_none_iff_notMem_taken]
  apply ClashesUnless.of_bind hident
  constructor
  . intro hlookup
    rw [hlookup]
    exact ⟨_, rfl, rfl, rfl⟩
  . intro hlookup
    rcases Option.ne_none_iff_exists'.mp hlookup with ⟨first, hfirst⟩
    rw [hfirst]
    exact ⟨ident, first, name, rfl⟩

theorem fieldIdents_clashes (declaration : String) {seen : List (String × String)}
    {fields : List Schema.Field}
    (hfields : ∀ field ∈ fields, Schema.checkIdentifier field.name = .ok ())
    (hseen : (taken seen).Nodup) :
    ClashesUnless (fields.map (fun field => memberIdent field.name) ++ taken seen).Nodup
      (fun _ => True) (fieldIdents declaration seen fields) := by
  induction fields generalizing seen with
  | nil => exact ⟨fun _ => ⟨[], rfl, trivial⟩, fun hnot => absurd hseen hnot⟩
  | cons field fields ih =>
    rcases List.forall_mem_cons.mp hfields with ⟨hfield, hrest⟩
    rcases exists_memberIdent hfield with ⟨ident, hident⟩
    rw [List.map_cons, nodup_cons_append_iff, hident]
    apply ClashesUnless.of_bind hident
    cases hlookup : seen.lookup ident with
    | some first =>
      constructor
      . rintro ⟨hfree, _⟩
        rw [← lookup_eq_none_iff_notMem_taken, hlookup] at hfree
        exact absurd hfree (Option.some_ne_none first)
      . intro _
        exact ⟨_, _, _, rfl⟩
    | none =>
      have hfree := (lookup_eq_none_iff_notMem_taken seen ident).mp hlookup
      have hseen' : (taken ((ident, field.name) :: seen)).Nodup :=
        List.nodup_cons.mpr ⟨hfree, hseen⟩
      apply ClashesUnless.congr ?_ (and_iff_right hfree).symm
      apply (ih hrest hseen').bind_ok
      intro idents _
      exact ⟨ident :: idents, rfl, trivial⟩

theorem exists_nativeType?_typeTerm? {structs : List StructBinding}
    {resolved : Schema.ResolvedType} (h : ∀ index ∈ resolved.structs, index < structs.length) :
    ∃ native term, nativeType? structs resolved = some native
      ∧ typeTerm? structs resolved = some term := by
  induction resolved with
  | array element ih =>
    rcases ih h with ⟨native, term, hnative, hterm⟩
    refine ⟨.list native, .array term, ?_, ?_⟩
    . rw [nativeType?, hnative, Option.map_some]
    . rw [typeTerm?, hterm, Option.map_some]
  | struct index =>
    have hlt : index < structs.length := h index (by simp [Schema.ResolvedType.structs])
    refine ⟨structs[index].nativeType, .struct structs[index].ident, ?_, ?_⟩
    . rw [nativeType?, List.getElem?_eq_getElem hlt, Option.map_some]
    . rw [typeTerm?, List.getElem?_eq_getElem hlt, Option.map_some]
  | _ => exact ⟨_, _, rfl, rfl⟩

theorem exists_mapM_field (idents : List String)
    (hbounded : declaration.Bounded builder.structs.length) :
    ∃ fields, (idents.zip declaration.fields).mapM (fun (ident, field) =>
      builder.field ident field) = .ok fields := by
  simp only [mapM_eq_ok_iff, exists_forall₂_iff]
  rintro ⟨ident, field⟩ hmem
  rcases hbounded field (List.of_mem_zip hmem).2 with ⟨resolved, hresolved, hindices⟩
  rcases exists_nativeType?_typeTerm? hindices with ⟨native, term, hnative, hterm⟩
  refine ⟨⟨field.name, ident, native, term⟩, ?_⟩
  simp only [Builder.field, hresolved, hnative, hterm]
  rfl

theorem fields_clashes (hidentifiers : declaration.HasIdentifiers)
    (hbounded : declaration.Bounded builder.structs.length) :
    ClashesUnless (FieldsDiffer declaration) (fun _ => True) (builder.fields declaration) := by
  have hnames : ∀ name ∈ declaration.fields.map (·.name), ∃ ident, memberIdent name = .ok ident := by
    intro name hname
    rcases List.mem_map.mp hname with ⟨field, hfield, rfl⟩
    exact exists_memberIdent (hidentifiers.fields field hfield).1
  have hseen : (taken []).Nodup := List.nodup_nil
  have hidents := fieldIdents_clashes declaration.name
    (fun field hfield => (hidentifiers.fields field hfield).1) hseen
  rw [show taken [] = [] from rfl, List.append_nil] at hidents
  rw [FieldsDiffer, sharesIdent_iff hnames, not_not]
  simp only [List.map_map, Function.comp_def]
  apply hidents.bind_ok
  intro idents _
  rcases exists_mapM_field idents hbounded with ⟨fields, hfields⟩
  exact ⟨fields, hfields, trivial⟩

theorem addStruct_clashes (hidentifiers : declaration.HasIdentifiers)
    (hbounded : declaration.Bounded builder.structs.length) :
    ClashesUnless (typeIdent declaration.name ∉ taken builder.typeNames ∧ FieldsDiffer declaration)
      (fun after => taken after.typeNames = typeIdent declaration.name :: taken builder.typeNames
        ∧ after.structs.length = builder.structs.length + 1) (builder.addStruct declaration) := by
  apply (claimType_clashes builder hidentifiers.name).bind
  rintro _ ⟨ident, claimed⟩ ⟨htaken, hstructs⟩
  rw [← hstructs] at hbounded
  apply (fields_clashes hidentifiers hbounded).bind_ok
  intro fields _
  refine ⟨_, rfl, htaken, ?_⟩
  rw [← hstructs, List.length_append]
  rfl

theorem addMessage_clashes (category : Category) (spec : MessageSpec)
    (hidentifiers : declaration.HasIdentifiers)
    (hbounded : declaration.Bounded builder.structs.length) :
    ClashesUnless (typeIdent declaration.name ∉ taken builder.typeNames ∧ FieldsDiffer declaration)
      (fun after => taken after.typeNames = typeIdent declaration.name :: taken builder.typeNames
        ∧ after.structs = builder.structs) (builder.addMessage category declaration spec) := by
  rcases exists_memberIdent hidentifiers.name with ⟨method, hmethod⟩
  rw [memberIdent] at hmethod
  apply (claimType_clashes builder hidentifiers.name).bind
  rintro _ ⟨ident, claimed⟩ ⟨htaken, hstructs⟩
  rw [← hstructs] at hbounded
  apply (fields_clashes hidentifiers hbounded).bind_ok
  intro fields _
  cases category with
  | advance | inspect =>
    rw [hmethod]
    exact ⟨_, rfl, htaken, hstructs⟩
  | report | struct => exact ⟨_, rfl, htaken, hstructs⟩

section Fold

variable {ι : Type} (step : Builder → ι → Except GenerationError Builder)
variable (declarationOf : ι → Schema.Declaration) (Ready : Builder → List ι → Prop)

theorem foldlM_clashes
    (hstep : ∀ builder item items, Ready builder (item :: items) →
      ClashesUnless (typeIdent (declarationOf item).name ∉ taken builder.typeNames
          ∧ FieldsDiffer (declarationOf item))
        (fun after => taken after.typeNames
            = typeIdent (declarationOf item).name :: taken builder.typeNames
          ∧ Ready after items) (step builder item))
    {items : List ι} (hready : Ready builder items) (hnodup : (taken builder.typeNames).Nodup) :
    ClashesUnless (Free (taken builder.typeNames) (items.map declarationOf))
      (fun after => taken after.typeNames
          = ((items.map declarationOf).map (fun declaration => typeIdent declaration.name)).reverse
            ++ taken builder.typeNames
        ∧ Ready after []) (items.foldlM step builder) := by
  induction items generalizing builder with
  | nil =>
    refine ⟨fun _ => ⟨builder, rfl, rfl, hready⟩, fun hnot => ?_⟩
    exact absurd ⟨hnodup, by simp⟩ hnot
  | cons item items ih =>
    rw [List.foldlM_cons, List.map_cons, free_cons_iff]
    apply (hstep builder item items hready).bind
    rintro ⟨hfree, _⟩ middle ⟨htaken, hready'⟩
    have hnodup' : (taken middle.typeNames).Nodup := by
      rw [htaken]
      exact List.nodup_cons.mpr ⟨hfree, hnodup⟩
    rw [List.map_cons, List.reverse_cons, List.append_assoc, List.singleton_append, ← htaken]
    exact ih hready' hnodup'

theorem foldlM_addStruct_clashes {structs : List Schema.Declaration}
    (hidentifiers : ∀ declaration ∈ structs, declaration.HasIdentifiers)
    (hbackward : Schema.Backward builder.structs.length structs)
    (hnodup : (taken builder.typeNames).Nodup) :
    ClashesUnless (Free (taken builder.typeNames) structs)
      (fun after => taken after.typeNames
          = (structs.map (fun declaration => typeIdent declaration.name)).reverse
            ++ taken builder.typeNames
        ∧ after.structs.length = builder.structs.length + structs.length)
      (structs.foldlM Builder.addStruct builder) := by
  have hfold := foldlM_clashes Builder.addStruct (fun declaration => declaration)
    (fun middle rest => Schema.Backward middle.structs.length rest
      ∧ (∀ declaration ∈ rest, declaration.HasIdentifiers)
      ∧ middle.structs.length + rest.length = builder.structs.length + structs.length)
    ?_ ⟨hbackward, hidentifiers, rfl⟩ hnodup
  . rw [List.map_id'] at hfold
    apply hfold.imp
    rintro after ⟨htaken, _, _, hlength⟩
    exact ⟨htaken, hlength⟩
  . rintro middle declaration rest ⟨⟨hbounded, hrest⟩, hidentifiers', hlength⟩
    rcases List.forall_mem_cons.mp hidentifiers' with ⟨hdeclaration, hidentifiers'⟩
    apply (addStruct_clashes hdeclaration hbounded).imp
    rintro after ⟨htaken, hafter⟩
    rw [hafter]
    refine ⟨htaken, hrest, hidentifiers', ?_⟩
    rw [List.length_cons] at hlength
    omega

theorem foldlM_addMessage_clashes
    {messages : List ((Category × Schema.Declaration) × (Category × MessageSpec))}
    (hidentifiers : ∀ message ∈ messages, message.1.2.HasIdentifiers)
    (hbounded : ∀ message ∈ messages, message.1.2.Bounded builder.structs.length)
    (hnodup : (taken builder.typeNames).Nodup) :
    ClashesUnless (Free (taken builder.typeNames) (messages.map (·.1.2))) (fun _ => True)
      (messages.foldlM (fun builder ((category, declaration), (_, spec)) =>
        builder.addMessage category declaration spec) builder) := by
  have hfold := foldlM_clashes (fun builder ((category, declaration), (_, spec)) =>
        builder.addMessage category declaration spec) (fun message => message.1.2)
    (fun middle rest => ∀ message ∈ rest, message.1.2.HasIdentifiers
      ∧ message.1.2.Bounded middle.structs.length)
    ?_
    (fun message hmessage => ⟨hidentifiers message hmessage, hbounded message hmessage⟩) hnodup
  . exact hfold.imp fun _ _ => trivial
  . rintro middle ⟨⟨category, declaration⟩, ⟨_, spec⟩⟩ rest hready
    rcases List.forall_mem_cons.mp hready with ⟨⟨hdeclaration, hbounded'⟩, hrest⟩
    apply (addMessage_clashes category spec hdeclaration hbounded').imp
    rintro after ⟨htaken, hafter⟩
    rw [hafter]
    exact ⟨htaken, hrest⟩

end Fold

end Builder

section Generation

variable {schema : Schema} {compiled : Schema.Compiled}

theorem taken_start : taken Builder.start.typeNames = generatedTypes.map .ok :=
  rfl

theorem not_clash_iff (hidentifiers : ∀ declaration ∈ named schema, declaration.HasIdentifiers) :
    ¬ Clash schema ↔ Free (taken Builder.start.typeNames) (named schema) := by
  have hnames : ∀ name ∈ (named schema).map (·.name), ∃ ident, typeIdent name = .ok ident := by
    intro name hname
    rcases List.mem_map.mp hname with ⟨declaration, hdeclaration, rfl⟩
    exact exists_typeIdent (hidentifiers declaration hdeclaration).name
  have hstart : (generatedTypes.map .ok : List (Except GenerationError String)).Nodup := by
    decide
  have htypes : SharesIdent typeIdent ((named schema).map (·.name))
      ↔ ¬ ((named schema).map fun declaration => typeIdent declaration.name).Nodup := by
    rw [sharesIdent_iff hnames]
    simp only [List.map_map, Function.comp_def]
  rw [Free, taken_start, List.nodup_append']
  constructor
  . intro hclash
    refine ⟨⟨?_, hstart, ?_⟩, ?_⟩
    . by_contra hnot
      exact hclash (.types (htypes.mpr hnot))
    . intro ident hident hgenerated
      rcases List.mem_map.mp hident with ⟨declaration, hdeclaration, rfl⟩
      rcases List.mem_map.mp hgenerated with ⟨text, htext, heq⟩
      exact hclash (.generated declaration text hdeclaration htext heq.symm)
    . intro declaration hdeclaration hshares
      exact hclash (.fields declaration hdeclaration hshares)
  . rintro ⟨⟨hnodup, _, hdisjoint⟩, hfields⟩ hclash
    cases hclash with
    | types hshares => exact htypes.mp hshares hnodup
    | generated declaration ident hmem hgenerated hident =>
      exact hdisjoint (List.mem_map.mpr ⟨declaration, hmem, hident⟩)
        (List.mem_map_of_mem hgenerated)
    | fields declaration hmem hshares => exact hfields declaration hmem hshares

theorem ofSchema_clashes (hsound : schema.Sound)
    (hidentifiers : ∀ declaration ∈ named schema, declaration.HasIdentifiers)
    (hcompile : schema.compile = .ok compiled) :
    ClashesUnless (¬ Clash schema) (fun _ => True) (ofSchema schema) := by
  rcases Schema.Compiled.covers_of_compile hcompile with ⟨_, hcovers⟩
  have hzip : (schema.messages.zip compiled.messages).map (·.1.2) = schema.messages.map (·.2) := by
    have := List.map_fst_zip hcovers.messages.length_eq.le
    rw [← this, List.map_map, this]
    rfl
  have hstart : (taken Builder.start.typeNames).Nodup := by
    decide
  have hmem : ∀ message ∈ schema.messages.zip compiled.messages, message.1.2 ∈ named schema := by
    intro message hmessage
    exact List.mem_append_right _ (List.mem_map_of_mem (List.of_mem_zip hmessage).1)
  rw [not_clash_iff hidentifiers, named, free_append_iff, ← hzip]
  have hbackward : Schema.Backward Builder.start.structs.length schema.structs := hsound.structs
  have hstructs := Builder.foldlM_addStruct_clashes (fun declaration hdeclaration =>
    hidentifiers declaration (List.mem_append_left _ hdeclaration)) hbackward hstart
  apply ClashesUnless.of_bind hcompile
  apply hstructs.bind
  rintro ⟨hnodup, _⟩ builder ⟨htaken, hlength⟩
  -- The messages find the identifiers of the structs taken, the latest in front.
  have hnodup' : (taken builder.typeNames).Nodup := by
    rw [htaken]
    exact ((List.reverse_perm _).append_right _).nodup_iff.mpr hnodup
  rw [← htaken]
  apply (Builder.foldlM_addMessage_clashes ?_ ?_ hnodup').bind_ok
  . intro after _
    exact ⟨_, rfl, trivial⟩
  . intro message hmessage
    exact hidentifiers message.1.2 (hmem message hmessage)
  . intro message hmessage
    rw [hlength, show Builder.start.structs.length = 0 from rfl, Nat.zero_add]
    exact hsound.messages message.1 (List.of_mem_zip hmessage).1

theorem generate_clashes (hsound : schema.Sound)
    (hidentifiers : ∀ declaration ∈ named schema, declaration.HasIdentifiers)
    (hcompile : schema.compile = .ok compiled) :
    ClashesUnless (¬ Clash schema) (fun _ => True) (generate schema none) := by
  unfold generate
  apply ClashesUnless.of_bind hcompile
  apply (ofSchema_clashes hsound hidentifiers hcompile).bind_ok
  intro bindings _
  exact ⟨_, rfl, trivial⟩

theorem hasIdentifiers_of_mem_named {document : Bytes} {policy : Schema.EmptySchemaPolicy}
    (h : Schema.read document policy = .ok schema) :
    ∀ declaration ∈ named schema, declaration.HasIdentifiers := by
  intro declaration hdeclaration
  cases List.mem_append.mp hdeclaration with
  | inl hstruct => exact Schema.hasIdentifiers_of_read h .struct declaration hstruct
  | inr hmessage =>
    rcases List.mem_map.mp hmessage with ⟨message, hmem, rfl⟩
    have hdeclared := (Schema.mem_declarations_of_mem_messages hmem).2
    exact Schema.hasIdentifiers_of_read h message.1 message.2 hdeclared

end Generation

section Methods

variable {schema : Schema} {compiled : Schema.Compiled} {bindings : Bindings} {category : Category}

theorem mem_messages_of_dispatched (h : category = .advance ∨ category = .inspect) :
    category ∈ Category.messages := by
  rcases h with rfl | rfl <;> decide

theorem filter_messages (schema : Schema) (hcategory : category ∈ Category.messages) :
    schema.messages.filter (·.1 = category)
      = (schema.declarations category).map fun declaration => (category, declaration) := by
  simp only [Category.messages, List.mem_cons, List.not_mem_nil, or_false] at hcategory
  rcases hcategory with rfl | rfl | rfl <;>
    simp [Schema.messages, Category.messages, List.filter_map, Function.comp_def]

theorem sublist_named (hcategory : category ∈ Category.messages) :
    (schema.declarations category).Sublist (named schema) := by
  have hdeclarations : schema.declarations category
      = (schema.messages.filter (·.1 = category)).map (·.2) := by
    rw [filter_messages schema hcategory, List.map_map]
    exact (List.map_id _).symm
  rw [hdeclarations]
  exact (List.filter_sublist.map _).trans (List.sublist_append_right _ _)

theorem nodup_memberIdents (hidentifiers : ∀ declaration ∈ named schema, declaration.HasIdentifiers)
    (hclash : ¬ Clash schema) (hcategory : category ∈ Category.messages) :
    ((schema.declarations category).map fun declaration => memberIdent declaration.name).Nodup := by
  rw [List.Nodup, List.pairwise_map, List.pairwise_iff_forall_sublist]
  intro first second hsublist heq
  -- One method for both would mean one type for both, which is a clash.
  have hnamed := hsublist.trans (sublist_named hcategory)
  have hfirst := (hidentifiers first (hnamed.subset (by simp))).name
  have hsecond := (hidentifiers second (hnamed.subset (by simp))).name
  rcases exists_typeIdent hfirst with ⟨ident, hident⟩
  have htype := typeIdent_eq_of_memberIdent_eq hfirst hsecond heq
  have hnames := hnamed.map fun declaration : Schema.Declaration => declaration.name
  exact hclash (.types ⟨first.name, second.name, ident, hnames, hident, htype ▸ hident⟩)

theorem Agrees.forall₂_methods (h : Agrees schema compiled bindings)
    (hcovers : Schema.Compiled.Covers compiled.structTypes schema.messages compiled)
    (hcategory : category = .advance ∨ category = .inspect) :
    List.Forall₂ (fun declaration message => ∃ method, memberIdent declaration.name = .ok method
        ∧ message.method = some method)
      (schema.declarations category) (bindings.messagesOf category) := by
  have hall : List.Forall₂ (fun message binding => binding.category = message.1
      ∧ (message.1 = .advance ∨ message.1 = .inspect → ∃ method,
        memberIdent message.2.name = .ok method ∧ binding.method = some method))
      schema.messages bindings.messages := by
    rw [← List.map_fst_zip hcovers.messages.length_eq.le, List.forall₂_map_left_iff]
    exact h.messages.imp fun _ _ hbinds => ⟨hbinds.category_eq, hbinds.method⟩
  have hfilter := List.rel_filter (p := (·.1 = category)) (q := (·.category = category)) ?_ hall
  . rw [filter_messages schema (mem_messages_of_dispatched hcategory),
      List.forall₂_map_left_iff] at hfilter
    exact hfilter.imp fun _ _ hmethod => hmethod.2 hcategory
  . rintro message binding ⟨heq, _⟩
    simp only [heq]

theorem nodup_methods
    (h : List.Forall₂ (fun declaration message => ∃ method, memberIdent declaration.name = .ok method
        ∧ message.method = some method)
      (schema.declarations category) (bindings.messagesOf category))
    (hnodup : ((schema.declarations category).map fun declaration =>
      memberIdent declaration.name).Nodup) :
    ((bindings.messagesOf category).map (·.method)).Nodup := by
  have heq : ((bindings.messagesOf category).map (·.method)).map (Option.map Except.ok)
      = ((schema.declarations category).map fun declaration =>
        memberIdent declaration.name).map some := by
    rw [List.map_map, List.map_map, ← List.forall₂_eq_eq_eq, List.forall₂_map_left_iff,
      List.forall₂_map_right_iff]
    apply h.flip.imp
    rintro message declaration ⟨method, hident, hmethod⟩
    simp [hident, hmethod]
  apply List.Nodup.of_map (Option.map Except.ok)
  rw [heq]
  exact hnodup.map (Option.some_injective _)

end Methods

theorem generate_clashes_iff {document : Bytes} {policy : Schema.EmptySchemaPolicy}
    {schema : Schema} {compiled : Schema.Compiled}
    (hread : Schema.read document policy = .ok schema)
    (hcompile : schema.compile = .ok compiled) :
    ((∃ ident first second, generate schema none = .error (.identifierClash ident first second))
      ↔ Clash schema)
    ∧ ((∃ code, generate schema none = .ok code) ↔ ¬ Clash schema)
    ∧ ∀ code, generate schema none = .ok code →
      ∃ bindings, ofSchema schema = .ok bindings ∧ code = bindings.code none
        ∧ ∀ category, category = .advance ∨ category = .inspect →
          List.Forall₂ (fun declaration message => ∃ method,
              memberIdent declaration.name = .ok method ∧ message.method = some method)
            (schema.declarations category) (bindings.messagesOf category)
          ∧ ((bindings.messagesOf category).map (·.method)).Nodup := by
  have hidentifiers := hasIdentifiers_of_mem_named hread
  rcases (Schema.read_eq_ok_iff _ _ _).mp hread with ⟨_, _, hanalyze⟩
  have hclashes := generate_clashes (Schema.sound_of_analyze hanalyze) hidentifiers hcompile
  refine ⟨by rw [hclashes.exists_clash_iff, not_not], hclashes.exists_ok_iff, ?_⟩
  intro code hcode
  have hclash := hclashes.exists_ok_iff.mp ⟨code, hcode⟩
  simp only [generate, bind_eq_ok_iff, pure_eq_ok_iff] at hcode
  rcases hcode with ⟨_, _, name, hname, bindings, hbindings, rfl⟩
  cases hname
  refine ⟨bindings, hbindings, rfl, ?_⟩
  intro category hcategory
  rcases agrees_of_ofSchema hbindings with ⟨_, hcompile', hagrees⟩
  rcases Schema.Compiled.covers_of_compile hcompile' with ⟨_, hcovers⟩
  have hmethods := hagrees.forall₂_methods hcovers hcategory
  exact ⟨hmethods, nodup_methods hmethods
    (nodup_memberIdents hidentifiers hclash (mem_messages_of_dispatched hcategory))⟩

set_option maxRecDepth 100000 in
-- Two spellings of one name clash. The method for `Match` is in raw form and clashes with no other.
theorem generate_clashes_iff_httpGet :
    (∃ schema compiled ident first second,
      Schema.read "advances:\n- name: httpGet\n- name: HttpGet\n".toUTF8.data.toList .deny
        = .ok schema
      ∧ schema.compile = .ok compiled
      ∧ generate schema none = .error (.identifierClash ident first second))
    ∧ ∃ schema compiled code bindings,
      Schema.read "advances:\n- name: Match\n- name: httpGet\n".toUTF8.data.toList .deny
        = .ok schema
      ∧ schema.compile = .ok compiled
      ∧ generate schema none = .ok code
      ∧ ofSchema schema = .ok bindings
      ∧ ((bindings.messagesOf .advance).map (·.method)).Nodup := by
  constructor
  . have hread : Schema.read "advances:\n- name: httpGet\n- name: HttpGet\n".toUTF8.data.toList .deny
        = .ok ⟨[], [], [⟨"httpGet", []⟩, ⟨"HttpGet", []⟩], []⟩ := by
      decide +kernel
    have hok : (Schema.compile ⟨[], [], [⟨"httpGet", []⟩, ⟨"HttpGet", []⟩], []⟩).toOption.isSome
        = true := by
      decide +kernel
    have hfirst : typeIdent "httpGet" = .ok "HttpGet" := by
      decide +kernel
    have hsecond : typeIdent "HttpGet" = .ok "HttpGet" := by
      decide +kernel
    rcases exists_eq_ok_of_isSome hok with ⟨compiled, hcompile⟩
    rcases (generate_clashes_iff hread hcompile).1.mpr
      (.types ⟨"httpGet", "HttpGet", "HttpGet", .refl _, hfirst, hsecond⟩) with
      ⟨ident, first, second, hclash⟩
    exact ⟨_, compiled, ident, first, second, hread, hcompile, hclash⟩
  . have hread : Schema.read "advances:\n- name: Match\n- name: httpGet\n".toUTF8.data.toList .deny
        = .ok ⟨[], [], [⟨"Match", []⟩, ⟨"httpGet", []⟩], []⟩ := by
      decide +kernel
    have hok : (Schema.compile ⟨[], [], [⟨"Match", []⟩, ⟨"httpGet", []⟩], []⟩).toOption.isSome
        = true := by
      decide +kernel
    have hcode : (generate ⟨[], [], [⟨"Match", []⟩, ⟨"httpGet", []⟩], []⟩ none).toOption.isSome
        = true := by
      decide +kernel
    rcases exists_eq_ok_of_isSome hok with ⟨compiled, hcompile⟩
    rcases exists_eq_ok_of_isSome hcode with ⟨code, hcode⟩
    rcases (generate_clashes_iff hread hcompile).2.2 code hcode with ⟨bindings, hbindings, _, hall⟩
    exact ⟨_, compiled, code, bindings, hread, hcompile, hcode, hbindings,
      (hall .advance (.inl rfl)).2⟩

end MessageAbi.Bindings
