import Mathlib
import MessageAbi.Proofs.Schema.Totality

/-!
This module contains that the order of structs in a schema does not matter for what it is compiled to.
The order decides the places by which fields refer to structs; the ABI types behind those places follow
from the names of the structs alone.
-/

namespace MessageAbi.Schema

section Expansion

inductive NameExpands (structs : List AbiType) (name : String) : AbiType → Prop where
  | basic (resolved : ResolvedType) (type : AbiType) : BasicType name resolved →
    resolved.abiType? [] = some type → NameExpands structs name type
  | struct (components : List Param) : (∀ resolved, ¬ BasicType name resolved) →
    .tuple name components ∈ structs → NameExpands structs name (.tuple name components)

def TypeExpr.Expands (structs : List AbiType) (expr : TypeExpr) (type : AbiType) : Prop :=
  ∃ element, NameExpands structs expr.base element
    ∧ type = if expr.isArray then .array element else element

def Field.Expands (structs : List AbiType) (field : Field) (param : Param) : Prop :=
  param.name = field.name ∧ field.type.Expands structs param.type

def Declaration.Expands (structs : List AbiType) (declaration : Declaration)
    (params : List Param) : Prop :=
  List.Forall₂ (Field.Expands structs) declaration.fields params

def NamedApart (structs : List AbiType) : Prop :=
  ∀ ⦃name : String⦄ ⦃components components' : List Param⦄, .tuple name components ∈ structs →
    .tuple name components' ∈ structs → components = components'

variable {names : List String} {structs others : List AbiType} {declaration : Declaration}

theorem Declaration.Expands.mono {params : List Param} (h : declaration.Expands structs params)
    (hsubset : structs ⊆ others) : declaration.Expands others params := by
  apply List.Forall₂.imp _ h
  rintro field param ⟨hname, element, helement, htype⟩
  refine ⟨hname, element, ?_, htype⟩
  cases helement with
  | basic resolved _ hbasic hexpand => exact .basic resolved _ hbasic hexpand
  | struct components hnone hmem => exact .struct components hnone (hsubset hmem)

theorem NamedApart.rightUnique_name (h : NamedApart structs) :
    Relator.RightUnique (NameExpands structs) := by
  intro name type type' htype htype'
  cases htype with
  | basic resolved _ hbasic hexpand =>
    cases htype' with
    | basic resolved' _ hbasic' hexpand' =>
      rw [← builtin?_eq_some_iff] at hbasic hbasic'
      rw [hbasic] at hbasic'
      cases hbasic'
      rw [hexpand] at hexpand'
      exact Option.some.inj hexpand'
    | struct _ hnone _ => exact absurd hbasic (hnone resolved)
  | struct components hnone hmem =>
    cases htype' with
    | basic resolved _ hbasic _ => exact absurd hbasic (hnone resolved)
    | struct components' _ hmem' => rw [h hmem hmem']

theorem NamedApart.rightUnique_declaration (h : NamedApart structs) :
    Relator.RightUnique (Declaration.Expands structs) := by
  have hfield : Relator.RightUnique (Field.Expands structs) := by
    rintro field ⟨name, type⟩ ⟨name', type'⟩ ⟨hname, element, helement, htype⟩
      ⟨hname', element', helement', htype'⟩
    have heq := h.rightUnique_name helement helement'
    subst heq
    simp only at hname hname' htype htype'
    rw [hname, hname', htype, htype']
  intro declaration params params' hparams hparams'
  exact hfield.forall₂ hparams hparams'

def TuplesOf (names : List String) (structs : List AbiType) : Prop :=
  List.Forall₂ (fun name struct => ∃ components, struct = .tuple name components) names structs

theorem TuplesOf.namedApart (h : TuplesOf names structs) (hnodup : names.Nodup) :
    NamedApart structs := by
  induction h with
  | nil =>
    intro _ _ _ hmem
    contradiction
  | @cons first struct names structs hstruct hrest ih =>
    rcases hstruct with ⟨own, rfl⟩
    rcases List.nodup_cons.mp hnodup with ⟨hfresh, hnodup⟩
    have hne : ∀ others, AbiType.tuple first others ∉ structs := by
      intro others hothers
      rcases exists_mem_of_forall₂ hrest hothers with ⟨_, hname, _, heq⟩
      injection heq with heq
      exact hfresh (heq ▸ hname)
    intro name components components' hmem hmem'
    simp only [List.mem_cons, AbiType.tuple.injEq] at hmem hmem'
    rcases hmem with ⟨rfl, rfl⟩ | hmem
    . rcases hmem' with ⟨_, rfl⟩ | hmem'
      . rfl
      . exact absurd hmem' (hne components')
    . rcases hmem' with ⟨rfl, _⟩ | hmem'
      . exact absurd hmem (hne components)
      . exact ih hnodup hmem hmem'

theorem BasicType.abiType?_eq {name : String} {resolved : ResolvedType}
    (h : BasicType name resolved) (structs : List AbiType) :
    resolved.abiType? structs = resolved.abiType? [] := by
  cases h <;> rfl

theorem NameDenotes.expands {name : String} {resolved : ResolvedType} {type : AbiType}
    (h : NameDenotes names name resolved) (htuples : TuplesOf names structs)
    (htype : resolved.abiType? structs = some type) : NameExpands structs name type := by
  cases h with
  | basic _ hbasic =>
    rw [hbasic.abiType?_eq] at htype
    exact .basic resolved type hbasic htype
  | struct index hnone hindex =>
    have hzip : (name, type) ∈ names.zip structs :=
      List.mem_of_getElem? (List.getElem?_zip_eq_some.mpr ⟨hindex, htype⟩)
    rcases List.forall₂_zip htuples hzip with ⟨components, rfl⟩
    exact .struct components hnone (List.mem_of_getElem? htype)

theorem Declaration.ResolvesTo.expands {after : Declaration} {params : List Param}
    (h : declaration.ResolvesTo names after) (htuples : TuplesOf names structs)
    (hparams : after.params? structs = some params) : declaration.Expands structs params := by
  apply List.Forall₂.imp _ (forall₂_comp h.fields ((mapM_eq_some_iff _ _ _).mp hparams))
  rintro field param ⟨_, ⟨_, ⟨element, helement, rfl⟩, rfl⟩, hparam⟩
  simp only [Option.bind_eq_bind, Option.bind_eq_some_iff, Option.some.injEq,
    exists_eq_left'] at hparam
  rcases hparam with ⟨type, htype, hparam⟩
  cases hparam
  refine ⟨rfl, ?_⟩
  cases harray : field.type.isArray with
  | false =>
    rw [harray] at htype
    exact ⟨type, helement.expands htuples htype, by simp [harray]⟩
  | true =>
    rw [harray] at htype
    rcases Option.map_eq_some_iff.mp htype with ⟨elementType, helementType, rfl⟩
    exact ⟨elementType, helement.expands htuples helementType, by simp [harray]⟩

end Expansion

section InOrder

/--
Structs whose tuples are put behind those given, each made of tuples before it.
-/
inductive ExpandInOrder : List AbiType → List Declaration → List AbiType → Prop where
  | nil (types : List AbiType) : ExpandInOrder types [] types
  | cons (declaration : Declaration) (components : List Param)
    {types final : List AbiType} {declarations : List Declaration} :
    declaration.Expands types components →
    ExpandInOrder (types ++ [.tuple declaration.name components]) declarations final →
    ExpandInOrder types (declaration :: declarations) final

namespace ExpandInOrder

variable {types final others : List AbiType} {declarations : List Declaration}

theorem subset (h : ExpandInOrder types declarations final) : types ⊆ final := by
  induction h with
  | nil => exact List.Subset.refl _
  | cons _ _ _ _ ih => exact List.Subset.trans (List.subset_append_left _ _) ih

theorem exists_expands (h : ExpandInOrder types declarations final) :
    ∀ declaration ∈ declarations, ∃ components, declaration.Expands final components
      ∧ .tuple declaration.name components ∈ final := by
  induction h with
  | nil => simp
  | cons declaration components hexpands hrest ih =>
    rw [List.forall_mem_cons]
    refine ⟨⟨components, hexpands.mono ?_, ?_⟩, ih⟩
    . exact List.Subset.trans (List.subset_append_left _ _) hrest.subset
    . exact hrest.subset (by simp)

theorem subset_of_expands (h : ExpandInOrder types declarations final) (hothers : NamedApart others)
    (htypes : types ⊆ others)
    (hexpands : ∀ declaration ∈ declarations, ∃ components, declaration.Expands others components
      ∧ .tuple declaration.name components ∈ others) : final ⊆ others := by
  induction h with
  | nil => exact htypes
  | cons declaration components hdeclaration _ ih =>
    rcases List.forall_mem_cons.mp hexpands with ⟨⟨components', hexpands', hmem⟩, hrest⟩
    -- The struct was expanded with fewer tuples, but all of them are among the others by now.
    have heq := hothers.rightUnique_declaration (hdeclaration.mono htypes) hexpands'
    apply ih _ hrest
    rw [List.append_subset, List.cons_subset, heq]
    exact ⟨htypes, hmem, List.nil_subset others⟩

end ExpandInOrder

theorem StructsResolveTo.expandInOrder {names : List String} {structs resolved : List Declaration}
    {types final : List AbiType} (h : StructsResolveTo names structs resolved)
    (htuples : TuplesOf names types)
    (hfold : resolved.foldlM (fun types declaration => do
        let components ← declaration.params? types
        return types ++ [.tuple declaration.name components]) types = some final) :
    ExpandInOrder types structs final ∧ TuplesOf (names ++ structs.map (·.name)) final := by
  induction structs generalizing names resolved types with
  | nil =>
    rw [(StructsResolveTo.nil_iff resolved).mp h] at hfold
    cases hfold
    refine ⟨.nil _, ?_⟩
    rwa [List.map_nil, List.append_nil]
  | cons declaration declarations ih =>
    rcases (StructsResolveTo.cons_iff resolved).mp h with ⟨after, rest, hafter, hrest, rfl⟩
    simp only [List.foldlM_cons, Option.bind_eq_bind, Option.pure_def, Option.bind_eq_some_iff,
      Option.some.injEq] at hfold
    rcases hfold with ⟨_, ⟨components, hcomponents, rfl⟩, hfold⟩
    have htuples' : TuplesOf (names ++ [declaration.name])
        (types ++ [.tuple after.name components]) :=
      List.rel_append htuples (.cons ⟨components, by rw [hafter.name_eq]⟩ .nil)
    rcases ih hrest htuples' hfold with ⟨hinOrder, hfinal⟩
    rw [hafter.name_eq] at hinOrder
    refine ⟨.cons declaration components (hafter.expands htuples hcomponents) hinOrder, ?_⟩
    rwa [List.map_cons, List.append_cons]

end InOrder

def Declaration.ExpandsTo (types : List AbiType) (declaration after : Declaration) : Prop :=
  after.name = declaration.name
    ∧ ∃ params, after.params? types = some params ∧ declaration.Expands types params

structure ExpandsTo (schema analyzed : Schema) (types : List AbiType) : Prop where
  structTypes_eq : structTypes? analyzed.structs = some types
  inOrder : ExpandInOrder [] schema.structs types
  namedApart : NamedApart types
  messages : ∀ category ∈ Category.messages,
    List.Forall₂ (Declaration.ExpandsTo types) (schema.declarations category)
      (analyzed.declarations category)

theorem exists_expandsTo_of_analyze {schema analyzed : Schema} {policy : EmptySchemaPolicy}
    (h : schema.analyze policy = .ok analyzed) : ∃ types, schema.ExpandsTo analyzed types := by
  rcases (analyze_eq_ok_iff _ _ _).mp h with ⟨hwf, _, hresolved⟩
  rcases (sound_of_analyze h).exists_structTypes? with ⟨types, htypes, _, hparams⟩
  rcases hresolved.structs.expandInOrder .nil htypes with ⟨hinOrder, htuples⟩
  rw [List.nil_append] at htuples
  refine ⟨types, htypes, hinOrder, htuples.namedApart hwf.nodup_structs, ?_⟩
  intro category hcategory
  apply forall₂_imp_of_mem (hresolved.messages category hcategory)
  intro declaration _ after hmem hafter
  have hmessage : (category, after) ∈ analyzed.messages :=
    List.mem_flatMap.mpr ⟨category, hcategory, List.mem_map_of_mem hmem⟩
  rcases hparams _ hmessage with ⟨params, hparams⟩
  exact ⟨hafter.name_eq, params, hparams, hafter.expands htuples hparams⟩

/--
Two messages that are compiled to the same spec, each with the ABI types that the structs have in its
own schema.
-/
structure SameSpec (types otherTypes : List AbiType) (message other : Category × Declaration) :
    Prop where
  category_eq : other.1 = message.1
  name_eq : other.2.name = message.2.name
  params_eq : other.2.params? otherTypes = message.2.params? types

theorem forall₂_messages {R : Category × Declaration → Category × Declaration → Prop}
    {schema other : Schema} (h : ∀ category ∈ Category.messages,
      List.Forall₂ (fun declaration after => R (category, declaration) (category, after))
        (schema.declarations category) (other.declarations category)) :
    List.Forall₂ R schema.messages other.messages := by
  have hcategory : ∀ category ∈ Category.messages,
      List.Forall₂ R ((schema.declarations category).map fun declaration => (category, declaration))
        ((other.declarations category).map fun declaration => (category, declaration)) := by
    intro category hcategory
    rw [List.forall₂_map_left_iff, List.forall₂_map_right_iff]
    exact h category hcategory
  rw [forall_mem_categories_iff] at hcategory
  rcases hcategory with ⟨hreports, hadvances, hinspects⟩
  simp only [messages, Category.messages, List.flatMap_cons, List.flatMap_nil]
  exact List.rel_append hreports (List.rel_append hadvances (List.rel_append hinspects .nil))

section Permutation

variable {schema other analyzed otherAnalyzed : Schema} {types otherTypes : List AbiType}

theorem ExpandsTo.subset (h : schema.ExpandsTo analyzed types)
    (hother : other.ExpandsTo otherAnalyzed otherTypes)
    (hstructs : schema.structs.Perm other.structs) : types ⊆ otherTypes := by
  apply h.inOrder.subset_of_expands hother.namedApart (List.nil_subset _)
  intro declaration hmem
  exact hother.inOrder.exists_expands declaration (hstructs.subset hmem)

theorem ExpandsTo.forall₂_sameSpec (h : schema.ExpandsTo analyzed types)
    (hother : other.ExpandsTo otherAnalyzed otherTypes)
    (hstructs : schema.structs.Perm other.structs)
    (hmessages : ∀ category ∈ Category.messages,
      schema.declarations category = other.declarations category) :
    List.Forall₂ (SameSpec types otherTypes) analyzed.messages otherAnalyzed.messages := by
  have hsubset := h.subset hother hstructs
  apply forall₂_messages
  intro category hcategory
  have hotherMessages := hother.messages category hcategory
  rw [← hmessages category hcategory] at hotherMessages
  apply List.Forall₂.imp _ (forall₂_comp (h.messages category hcategory).flip hotherMessages)
  rintro after otherAfter ⟨declaration, ⟨hname, params, hparams, hexpands⟩,
    hotherName, otherParams, hotherParams, hotherExpands⟩
  have heq := hother.namedApart.rightUnique_declaration (hexpands.mono hsubset) hotherExpands
  refine ⟨rfl, ?_, ?_⟩
  . rw [hotherName, hname]
  . rw [hotherParams, hparams, heq]

end Permutation

namespace Compiled

theorem addMessage_sameSpec (compiled : Compiled) {types : List AbiType}
    {message other : Category × Declaration} (h : SameSpec compiled.structTypes types message other) :
    { compiled with structTypes := types }.addMessage other.1 other.2
      = (fun after => { after with structTypes := types })
        <$> compiled.addMessage message.1 message.2 := by
  simp only [addMessage, h.category_eq, h.name_eq, h.params_eq]
  cases message.2.params? compiled.structTypes with
  | none => rfl
  | some params =>
    simp only
    cases compiled.registry.register ⟨message.2.name, params⟩ with
    | ok registry => rfl
    | error error => rfl

theorem foldlM_sameSpec {types otherTypes : List AbiType}
    {messages others : List (Category × Declaration)}
    (h : List.Forall₂ (SameSpec types otherTypes) messages others) (compiled : Compiled)
    (htypes : compiled.structTypes = types) :
    others.foldlM (fun compiled (category, declaration) =>
        compiled.addMessage category declaration) { compiled with structTypes := otherTypes }
      = (fun after => { after with structTypes := otherTypes })
        <$> messages.foldlM (fun compiled (category, declaration) =>
          compiled.addMessage category declaration) compiled := by
  induction h generalizing compiled with
  | nil => rfl
  | @cons message other _ _ hmessage _ ih =>
    subst htypes
    simp only [List.foldlM_cons, compiled.addMessage_sameSpec hmessage]
    cases hadd : compiled.addMessage message.1 message.2 with
    | error error => rfl
    | ok after =>
      rcases (addMessage_eq_ok_iff _ _ _ _).mp hadd with ⟨_, _, _, _, rfl⟩
      exact ih _ rfl

end Compiled

theorem compile_sameSpec {analyzed otherAnalyzed : Schema} {types otherTypes : List AbiType}
    (htypes : structTypes? analyzed.structs = some types)
    (hotherTypes : structTypes? otherAnalyzed.structs = some otherTypes)
    (h : List.Forall₂ (SameSpec types otherTypes) analyzed.messages otherAnalyzed.messages) :
    otherAnalyzed.compile
      = (fun compiled => { compiled with structTypes := otherTypes }) <$> analyzed.compile := by
  unfold compile
  rw [htypes, hotherTypes]
  exact Compiled.foldlM_sameSpec h ⟨types, [], Registry.empty⟩ rfl

theorem compile_perm_structs {schema other analyzed otherAnalyzed : Schema}
    {policy otherPolicy : EmptySchemaPolicy} (hstructs : schema.structs.Perm other.structs)
    (hreports : schema.reports = other.reports) (hadvances : schema.advances = other.advances)
    (hinspects : schema.inspects = other.inspects)
    (h : schema.analyze policy = .ok analyzed)
    (hother : other.analyze otherPolicy = .ok otherAnalyzed) :
    ((∃ compiled otherCompiled, analyzed.compile = .ok compiled
        ∧ otherAnalyzed.compile = .ok otherCompiled
        ∧ otherCompiled.messages = compiled.messages
        ∧ otherCompiled.registry = compiled.registry)
      ∨ ∃ error, analyzed.compile = .error error ∧ otherAnalyzed.compile = .error error)
    ∧ otherAnalyzed.abiDocument = analyzed.abiDocument := by
  rcases exists_expandsTo_of_analyze h with ⟨types, htypes⟩
  rcases exists_expandsTo_of_analyze hother with ⟨otherTypes, hotherTypes⟩
  have hmessages : ∀ category ∈ Category.messages,
      schema.declarations category = other.declarations category :=
    (forall_mem_categories_iff _).mpr ⟨hreports, hadvances, hinspects⟩
  have hsame := htypes.forall₂_sameSpec hotherTypes hstructs hmessages
  have hcompile := compile_sameSpec htypes.structTypes_eq hotherTypes.structTypes_eq hsame
  rw [abiDocument, abiDocument, hcompile]
  cases analyzed.compile with
  | ok compiled => exact ⟨.inl ⟨compiled, _, rfl, rfl, rfl, rfl⟩, rfl⟩
  | error error => exact ⟨.inr ⟨error, rfl, rfl⟩, rfl⟩

def addBook : Schema :=
  ⟨Example.library.structs, [], Example.library.advances.take 1, []⟩

/--
The same message with the last struct in front of the others, whose places move by one.
-/
def addBookRotated : Schema :=
  { addBook with structs := addBook.structs.rotate 2 }

theorem compile_perm_structs_addBook :
    ∃ analyzed otherAnalyzed, addBook.analyze .deny = .ok analyzed
      ∧ addBookRotated.analyze .deny = .ok otherAnalyzed
      ∧ analyzed.advances ≠ otherAnalyzed.advances
      ∧ ∃ compiled otherCompiled, analyzed.compile = .ok compiled
        ∧ otherAnalyzed.compile = .ok otherCompiled
        ∧ compiled.registry.size = 1
        ∧ otherCompiled.registry = compiled.registry
        ∧ otherAnalyzed.abiDocument = .ok compiled.abiDocument := by
  have hok : (addBook.analyze .deny).toOption.any (fun analyzed =>
      analyzed.compile.toOption.any (·.registry.size == 1)
        && (addBookRotated.analyze .deny).toOption.any (·.advances != analyzed.advances))
          = true := by
    decide +kernel
  rcases exists_eq_ok_of_any hok with ⟨analyzed, hanalyzed, hok⟩
  rw [Bool.and_eq_true] at hok
  rcases exists_eq_ok_of_any hok.1 with ⟨compiled, hcompiled, hsize⟩
  rcases exists_eq_ok_of_any hok.2 with ⟨otherAnalyzed, hotherAnalyzed, hadvances⟩
  have hstructs : addBook.structs.Perm addBookRotated.structs := (List.rotate_perm _ 2).symm
  rcases compile_perm_structs hstructs rfl rfl rfl hanalyzed hotherAnalyzed with
    ⟨⟨_, otherCompiled, hcompiled', hotherCompiled, _, hregistry⟩ | ⟨_, herror, _⟩, hdocument⟩
  . rw [hcompiled] at hcompiled'
    cases hcompiled'
    refine ⟨analyzed, otherAnalyzed, hanalyzed, hotherAnalyzed, (bne_iff_ne.mp hadvances).symm,
      compiled, otherCompiled, hcompiled, hotherCompiled, eq_of_beq hsize, hregistry, ?_⟩
    rw [hdocument, abiDocument, hcompiled]
    rfl
  . rw [hcompiled] at herror
    cases herror

end MessageAbi.Schema
