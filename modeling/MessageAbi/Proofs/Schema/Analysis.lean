import Mathlib
import MessageAbi.Example.Library
import MessageAbi.Proofs.Schema.Resolution
import MessageAbi.Schema.Read

/-!
This module contains the schemas that analysis accepts and what it makes of them. The tables that grow
while declarations are gone through are the names of those before, so every condition on names is a
statement about one list.
-/

namespace MessageAbi

namespace Schema

/--
Structs as analysis leaves them, each resolved with the names given and those of the structs before it.
-/
structure StructsResolveTo (names : List String) (structs resolved : List Declaration) : Prop where
  length_eq : resolved.length = structs.length
  resolvesTo : ∀ (index : Nat) (declaration after : Declaration),
    structs[index]? = some declaration → resolved[index]? = some after →
      declaration.ResolvesTo (names ++ (structs.take index).map (·.name)) after

namespace StructsResolveTo

variable {names : List String} {declaration : Declaration} {declarations : List Declaration}

theorem nil_iff (resolved : List Declaration) :
    StructsResolveTo names [] resolved ↔ resolved = [] := by
  constructor
  . intro h
    exact List.eq_nil_of_length_eq_zero h.length_eq
  . rintro rfl
    exact ⟨rfl, by simp⟩

theorem cons_iff (resolved : List Declaration) :
    StructsResolveTo names (declaration :: declarations) resolved
      ↔ ∃ after rest, declaration.ResolvesTo names after
        ∧ StructsResolveTo (names ++ [declaration.name]) declarations rest
        ∧ resolved = after :: rest := by
  constructor
  . intro h
    cases resolved with
    | nil => exact absurd h.length_eq (by simp)
    | cons after rest =>
      refine ⟨after, rest, ?_, ⟨?_, ?_⟩, rfl⟩
      . simpa using h.resolvesTo 0 declaration after rfl rfl
      . simpa using h.length_eq
      . intro index other otherAfter hother hafter
        simpa using h.resolvesTo (index + 1) other otherAfter (by simpa) (by simpa)
  . rintro ⟨after, rest, hafter, hrest, rfl⟩
    constructor
    . simp [hrest.length_eq]
    . intro index other otherAfter hother hotherAfter
      cases index with
      | zero =>
        simp only [List.getElem?_cons_zero, Option.some.injEq] at hother hotherAfter
        subst hother hotherAfter
        simpa using hafter
      | succ index =>
        simp only [List.getElem?_cons_succ] at hother hotherAfter
        simpa using hrest.resolvesTo index other otherAfter hother hotherAfter

theorem exists_iff (names : List String) (structs : List Declaration) :
    (∃ resolved, StructsResolveTo names structs resolved)
      ↔ ∀ (index : Nat) (declaration : Declaration), structs[index]? = some declaration →
        ∀ field ∈ declaration.fields,
          IsKnown (names ++ (structs.take index).map (·.name)) field.type.base := by
  induction structs generalizing names with
  | nil => simp [nil_iff]
  | cons declaration declarations ih =>
    simp only [cons_iff]
    constructor
    . rintro ⟨_, after, rest, hafter, hrest, rfl⟩ index other hother
      cases index with
      | zero =>
        simp only [List.getElem?_cons_zero, Option.some.injEq] at hother
        subst hother
        simpa using (exists_resolvesTo_iff _ _).mp ⟨after, hafter⟩
      | succ index =>
        simpa using (ih _).mp ⟨rest, hrest⟩ index other (by simpa using hother)
    . intro hknown
      have hfirst : ∃ after, declaration.ResolvesTo names after := by
        rw [exists_resolvesTo_iff]
        simpa using hknown 0 declaration rfl
      have hrest : ∃ rest, StructsResolveTo (names ++ [declaration.name]) declarations rest := by
        rw [ih]
        intro index other hother
        simpa using hknown (index + 1) other (by simpa using hother)
      rcases hfirst with ⟨after, hafter⟩
      rcases hrest with ⟨rest, hrest⟩
      exact ⟨_, after, rest, hafter, hrest, rfl⟩

theorem forall₂ {structs resolved : List Declaration} (h : StructsResolveTo names structs resolved) :
    List.Forall₂ (fun declaration after => ∃ names, declaration.ResolvesTo names after)
      structs resolved := by
  induction structs generalizing names resolved with
  | nil =>
    rw [(nil_iff resolved).mp h]
    exact .nil
  | cons declaration declarations ih =>
    rcases (cons_iff resolved).mp h with ⟨after, rest, hafter, hrest, rfl⟩
    exact .cons ⟨names, hafter⟩ (ih hrest)

end StructsResolveTo

namespace Analysis

variable {names : List String}

theorem zipIdx_append_singleton (names : List String) (name : String) :
    names.zipIdx ++ [(name, names.zipIdx.length)] = (names ++ [name]).zipIdx := by
  simp [List.zipIdx_append]

theorem resolveStructs_cons_eq_ok_iff (hnodup : names.Nodup) (declaration : Declaration)
    (declarations resolved : List Declaration) (table : StructTable) :
    resolveStructs names.zipIdx (declaration :: declarations) = .ok (resolved, table)
      ↔ declaration.name ∉ names ∧ declaration.fields ≠ []
        ∧ (declaration.fields.map (·.name)).Nodup
        ∧ ∃ after rest, declaration.ResolvesTo names after
          ∧ resolveStructs (names ++ [declaration.name]).zipIdx declarations = .ok (rest, table)
          ∧ resolved = after :: rest := by
  rw [resolveStructs, ite_throw_eq_ok_iff, ite_throw_eq_ok_iff, isSome_lookup_zipIdx_iff hnodup,
    List.isEmpty_iff, zipIdx_append_singleton]
  simp only [bind_eq_ok_iff, pure_eq_ok_iff, resolveDeclaration_eq_ok_iff hnodup, Prod.exists,
    Prod.mk.injEq]
  constructor
  . rintro ⟨hname, hfields, after, ⟨hnames, hafter⟩, rest, _, hrest, rfl, rfl⟩
    exact ⟨hname, hfields, hnames, after, rest, hafter, hrest, rfl⟩
  . rintro ⟨hname, hfields, hnames, after, rest, hafter, hrest, rfl⟩
    exact ⟨hname, hfields, after, ⟨hnames, hafter⟩, rest, table, hrest, rfl, rfl⟩

theorem resolveStructs_eq_ok_iff (hnodup : names.Nodup) (declarations resolved : List Declaration)
    (table : StructTable) :
    resolveStructs names.zipIdx declarations = .ok (resolved, table)
      ↔ (names ++ declarations.map (·.name)).Nodup
        ∧ (∀ declaration ∈ declarations, declaration.fields ≠ [])
        ∧ (∀ declaration ∈ declarations, (declaration.fields.map (·.name)).Nodup)
        ∧ StructsResolveTo names declarations resolved
        ∧ table = (names ++ declarations.map (·.name)).zipIdx := by
  induction declarations generalizing names resolved with
  | nil => simp [resolveStructs, StructsResolveTo.nil_iff, hnodup, eq_comm]
  | cons declaration declarations ih =>
    have hsplit : names ++ (declaration :: declarations).map (·.name)
        = (names ++ [declaration.name]) ++ declarations.map (·.name) := by
      simp
    rw [resolveStructs_cons_eq_ok_iff hnodup, StructsResolveTo.cons_iff, hsplit]
    simp only [List.forall_mem_cons]
    constructor
    . rintro ⟨hname, hfields, hnames, after, rest, hafter, hrest, rfl⟩
      have hextended : (names ++ [declaration.name]).Nodup := by
        simpa [List.nodup_append, hnodup] using fun other hother => ne_of_mem_of_not_mem hother hname
      rcases (ih hextended rest).mp hrest with ⟨hall, hnonempty, hunique, hresolved, htable⟩
      exact ⟨hall, ⟨hfields, hnonempty⟩, ⟨hnames, hunique⟩,
        ⟨after, rest, hafter, hresolved, rfl⟩, htable⟩
    . rintro ⟨hall, ⟨hfields, hnonempty⟩, ⟨hnames, hunique⟩, ⟨after, rest, hafter, hresolved, rfl⟩,
        htable⟩
      have hextended := hall.of_append_left
      have hname : declaration.name ∉ names := by
        intro hmem
        exact List.disjoint_of_nodup_append hextended hmem (by simp)
      refine ⟨hname, hfields, hnames, after, rest, hafter, ?_, rfl⟩
      exact (ih hextended rest).mpr ⟨hall, hnonempty, hunique, hresolved, htable⟩

theorem resolveMessages_cons_eq_ok_iff (hnodup : names.Nodup) (category : Category)
    (taken : List String) (declaration : Declaration) (declarations resolved : List Declaration)
    (after : List String) :
    resolveMessages category names.zipIdx taken (declaration :: declarations) = .ok (resolved, after)
      ↔ declaration.name ∉ names ∧ declaration.name ∉ taken
        ∧ (declaration.fields.map (·.name)).Nodup
        ∧ ∃ first rest, declaration.ResolvesTo names first
          ∧ resolveMessages category names.zipIdx (declaration.name :: taken) declarations
            = .ok (rest, after)
          ∧ resolved = first :: rest := by
  rw [resolveMessages, ite_throw_eq_ok_iff, ite_throw_eq_ok_iff, isSome_lookup_zipIdx_iff hnodup,
    List.contains_iff_mem]
  simp only [bind_eq_ok_iff, pure_eq_ok_iff, resolveDeclaration_eq_ok_iff hnodup, Prod.exists,
    Prod.mk.injEq]
  constructor
  . rintro ⟨hname, hfresh, first, ⟨hnames, hfirst⟩, rest, _, hrest, rfl, rfl⟩
    exact ⟨hname, hfresh, hnames, first, rest, hfirst, hrest, rfl⟩
  . rintro ⟨hname, hfresh, hnames, first, rest, hfirst, hrest, rfl⟩
    exact ⟨hname, hfresh, first, ⟨hnames, hfirst⟩, rest, after, hrest, rfl, rfl⟩

theorem resolveMessages_eq_ok_iff (hnodup : names.Nodup) (category : Category)
    {taken : List String} (htaken : taken.Nodup) (declarations resolved : List Declaration)
    (after : List String) :
    resolveMessages category names.zipIdx taken declarations = .ok (resolved, after)
      ↔ ((declarations.map (·.name)).reverse ++ taken).Nodup
        ∧ (∀ declaration ∈ declarations, declaration.name ∉ names)
        ∧ (∀ declaration ∈ declarations, (declaration.fields.map (·.name)).Nodup)
        ∧ List.Forall₂ (Declaration.ResolvesTo names) declarations resolved
        ∧ after = (declarations.map (·.name)).reverse ++ taken := by
  induction declarations generalizing taken resolved with
  | nil => simp [resolveMessages, htaken, eq_comm, and_comm]
  | cons declaration declarations ih =>
    have hsplit : ((declaration :: declarations).map (·.name)).reverse ++ taken
        = (declarations.map (·.name)).reverse ++ declaration.name :: taken := by
      simp
    rw [resolveMessages_cons_eq_ok_iff hnodup, hsplit]
    simp only [List.forall_mem_cons, List.forall₂_cons_left_iff]
    constructor
    . rintro ⟨hname, hfresh, hnames, first, rest, hfirst, hrest, rfl⟩
      have hextended := List.nodup_cons.mpr ⟨hfresh, htaken⟩
      rcases (ih hextended rest).mp hrest with ⟨hall, hdisjoint, hunique, hresolved, hafter⟩
      exact ⟨hall, ⟨hname, hdisjoint⟩, ⟨hnames, hunique⟩, ⟨first, rest, hfirst, hresolved, rfl⟩,
        hafter⟩
    . rintro ⟨hall, ⟨hname, hdisjoint⟩, ⟨hnames, hunique⟩, ⟨first, rest, hfirst, hresolved, rfl⟩,
        hafter⟩
      have hextended := hall.of_append_right
      refine ⟨hname, (List.nodup_cons.mp hextended).1, hnames, first, rest, hfirst, ?_, rfl⟩
      exact (ih hextended rest).mpr ⟨hall, hdisjoint, hunique, hresolved, hafter⟩

end Analysis

structure WellFormed (schema : Schema) : Prop where
  nodup_structs : (schema.structs.map (·.name)).Nodup
  fields_ne_nil : ∀ struct ∈ schema.structs, struct.fields ≠ []
  nodup_fields : ∀ category, ∀ declaration ∈ schema.declarations category,
    (declaration.fields.map (·.name)).Nodup
  known_in_structs : ∀ (index : Nat) (struct : Declaration), schema.structs[index]? = some struct →
    ∀ field ∈ struct.fields, IsKnown ((schema.structs.take index).map (·.name)) field.type.base
  known_in_messages : ∀ message ∈ schema.messages, ∀ field ∈ message.2.fields,
    IsKnown (schema.structs.map (·.name)) field.type.base
  nodup_messages : (schema.messages.map (·.2.name)).Nodup
  messages_disjoint : ∀ message ∈ schema.messages, message.2.name ∉ schema.structs.map (·.name)

/--
A schema as analysis leaves it.
-/
structure ResolvesTo (schema resolved : Schema) : Prop where
  structs : StructsResolveTo [] schema.structs resolved.structs
  messages : ∀ category ∈ Category.messages,
    List.Forall₂ (Declaration.ResolvesTo (schema.structs.map (·.name)))
      (schema.declarations category) (resolved.declarations category)

theorem forall_mem_categories_iff (p : Category → Prop) :
    (∀ category ∈ Category.messages, p category) ↔ p .report ∧ p .advance ∧ p .inspect := by
  simp [Category.messages]

theorem map_name_messages (schema : Schema) :
    schema.messages.map (·.2.name)
      = schema.reports.map (·.name)
        ++ (schema.advances.map (·.name) ++ schema.inspects.map (·.name)) := by
  simp [messages, Category.messages, declarations, Function.comp_def]

theorem forall_mem_messages_iff (schema : Schema) (p : Declaration → Prop) :
    (∀ message ∈ schema.messages, p message.2)
      ↔ (∀ declaration ∈ schema.reports, p declaration)
        ∧ (∀ declaration ∈ schema.advances, p declaration)
        ∧ ∀ declaration ∈ schema.inspects, p declaration := by
  simp [messages, Category.messages, declarations, or_imp, forall_and]

theorem known_of_forall₂ {names : List String} {declarations resolved : List Declaration}
    (h : List.Forall₂ (Declaration.ResolvesTo names) declarations resolved) :
    ∀ declaration ∈ declarations, ∀ field ∈ declaration.fields,
      IsKnown names field.type.base := by
  intro declaration hdeclaration
  rw [← exists_resolvesTo_iff]
  exact (exists_forall₂_iff _ _).mp ⟨_, h⟩ declaration hdeclaration

theorem resolveMessages_categories_iff {names : List String} (hnodup : names.Nodup)
    (schema resolved : Schema) :
    (∃ taken taken' final,
      Analysis.resolveMessages .report names.zipIdx [] schema.reports = .ok (resolved.reports, taken)
      ∧ Analysis.resolveMessages .advance names.zipIdx taken schema.advances
        = .ok (resolved.advances, taken')
      ∧ Analysis.resolveMessages .inspect names.zipIdx taken' schema.inspects
        = .ok (resolved.inspects, final))
      ↔ (schema.messages.map (·.2.name)).Nodup
        ∧ (∀ message ∈ schema.messages, message.2.name ∉ names)
        ∧ (∀ message ∈ schema.messages, (message.2.fields.map (·.name)).Nodup)
        ∧ ∀ category ∈ Category.messages, List.Forall₂ (Declaration.ResolvesTo names)
          (schema.declarations category) (resolved.declarations category) := by
  -- The names that are taken come with the latest first.
  have hreverse : (schema.inspects.map (·.name)).reverse
      ++ ((schema.advances.map (·.name)).reverse ++ ((schema.reports.map (·.name)).reverse ++ []))
        = (schema.messages.map (·.2.name)).reverse := by
    simp [map_name_messages]
  rw [forall_mem_categories_iff, forall_mem_messages_iff schema (·.name ∉ names),
    forall_mem_messages_iff schema fun declaration => (declaration.fields.map (·.name)).Nodup]
  constructor
  . rintro ⟨taken, taken', final, hreports, hadvances, hinspects⟩
    rw [Analysis.resolveMessages_eq_ok_iff hnodup _ List.nodup_nil] at hreports
    rcases hreports with ⟨htaken, hdisjoint, hunique, hreports, rfl⟩
    rw [Analysis.resolveMessages_eq_ok_iff hnodup _ htaken] at hadvances
    rcases hadvances with ⟨htaken', hdisjoint', hunique', hadvances, rfl⟩
    rw [Analysis.resolveMessages_eq_ok_iff hnodup _ htaken', hreverse] at hinspects
    rcases hinspects with ⟨hall, hdisjoint'', hunique'', hinspects, _⟩
    exact ⟨List.nodup_reverse.mp hall, ⟨hdisjoint, hdisjoint', hdisjoint''⟩,
      ⟨hunique, hunique', hunique''⟩, hreports, hadvances, hinspects⟩
  . rintro ⟨hall, ⟨hdisjoint, hdisjoint', hdisjoint''⟩, ⟨hunique, hunique', hunique''⟩, hreports,
      hadvances, hinspects⟩
    rw [← List.nodup_reverse, ← hreverse] at hall
    have htaken' := hall.of_append_right
    have htaken := htaken'.of_append_right
    have hreports := (Analysis.resolveMessages_eq_ok_iff hnodup .report List.nodup_nil _ _ _).mpr
      ⟨htaken, hdisjoint, hunique, hreports, rfl⟩
    have hadvances := (Analysis.resolveMessages_eq_ok_iff hnodup .advance htaken _ _ _).mpr
      ⟨htaken', hdisjoint', hunique', hadvances, rfl⟩
    have hinspects := (Analysis.resolveMessages_eq_ok_iff hnodup .inspect htaken' _ _ _).mpr
      ⟨hall, hdisjoint'', hunique'', hinspects, rfl⟩
    exact ⟨_, _, _, hreports, hadvances, hinspects⟩

theorem analyze_eq_ok_iff (schema resolved : Schema) (policy : EmptySchemaPolicy) :
    schema.analyze policy = .ok resolved
      ↔ schema.WellFormed ∧ (0 < schema.messageCount ∨ policy ≠ .deny)
        ∧ schema.ResolvesTo resolved := by
  have hstart : ([] : Analysis.StructTable) = List.zipIdx ([] : List String) := by rfl
  have hpolicy : ¬ (schema.messageCount = 0 ∧ policy = .deny)
      ↔ 0 < schema.messageCount ∨ policy ≠ .deny := by
    rw [not_and_or, Nat.pos_iff_ne_zero]
  simp only [analyze, bind_eq_ok_iff, Prod.exists, hstart, ite_throw_eq_ok_iff, pure_eq_ok_iff,
    Analysis.resolveStructs_eq_ok_iff List.nodup_nil, List.nil_append, hpolicy]
  constructor
  . rintro ⟨structs, _, ⟨hnodup, hfields, hunique, hstructs, rfl⟩, reports, taken, hreports,
      advances, taken', hadvances, inspects, final, hinspects, hcount, rfl⟩
    have hmessages := (resolveMessages_categories_iff hnodup schema
      ⟨structs, reports, advances, inspects⟩).mp ⟨_, _, _, hreports, hadvances, hinspects⟩
    rcases hmessages with ⟨hnames, hdisjoint, hunique', hresolved⟩
    refine ⟨⟨hnodup, hfields, ?_, ?_, ?_, hnames, hdisjoint⟩, hcount, hstructs, hresolved⟩
    . rw [forall_mem_messages_iff schema fun declaration =>
        (declaration.fields.map (·.name)).Nodup] at hunique'
      intro category
      cases category with
      | struct => exact hunique
      | report => exact hunique'.1
      | advance => exact hunique'.2.1
      | inspect => exact hunique'.2.2
    . simpa using (StructsResolveTo.exists_iff [] schema.structs).mp ⟨structs, hstructs⟩
    . rw [forall_mem_messages_iff schema fun declaration => ∀ field ∈ declaration.fields,
        IsKnown (schema.structs.map (·.name)) field.type.base]
      rcases (forall_mem_categories_iff _).mp hresolved with ⟨hreports, hadvances, hinspects⟩
      exact ⟨known_of_forall₂ hreports, known_of_forall₂ hadvances, known_of_forall₂ hinspects⟩
  . rintro ⟨hwf, hcount, hstructs, hmessages⟩
    have hunique : ∀ message ∈ schema.messages, (message.2.fields.map (·.name)).Nodup := by
      rw [forall_mem_messages_iff schema fun declaration => (declaration.fields.map (·.name)).Nodup]
      exact ⟨hwf.nodup_fields .report, hwf.nodup_fields .advance, hwf.nodup_fields .inspect⟩
    rcases (resolveMessages_categories_iff hwf.nodup_structs schema resolved).mpr
      ⟨hwf.nodup_messages, hwf.messages_disjoint, hunique, hmessages⟩ with
      ⟨taken, taken', final, hreports, hadvances, hinspects⟩
    exact ⟨resolved.structs, _, ⟨hwf.nodup_structs, hwf.fields_ne_nil, hwf.nodup_fields .struct,
      hstructs, rfl⟩, _, _, hreports, _, _, hadvances, _, _, hinspects, hcount, rfl⟩

theorem read_eq_ok_iff (document : Bytes) (policy : EmptySchemaPolicy) (schema : Schema) :
    read document policy = .ok schema
      ↔ ∃ parsed, parse document = .ok parsed ∧ parsed.analyze policy = .ok schema := by
  unfold read
  cases parse document with
  | error error => simp
  | ok parsed =>
    simp only [Except.ok.injEq, exists_eq_left']
    cases parsed.analyze policy with
    | error error => simp
    | ok analyzed => simp [pure, Except.pure]

theorem WellFormed.exists_resolvesTo {schema : Schema} (h : schema.WellFormed) :
    ∃ resolved, schema.ResolvesTo resolved := by
  have hstructs := (StructsResolveTo.exists_iff [] schema.structs).mpr h.known_in_structs
  have hmessages := h.known_in_messages
  simp only [← exists_resolvesTo_iff] at hmessages
  rw [forall_mem_messages_iff schema fun declaration =>
    ∃ after, declaration.ResolvesTo (schema.structs.map (·.name)) after] at hmessages
  simp only [← exists_forall₂_iff] at hmessages
  rcases hstructs with ⟨structs, hstructs⟩
  rcases hmessages with ⟨⟨reports, hreports⟩, ⟨advances, hadvances⟩, ⟨inspects, hinspects⟩⟩
  refine ⟨⟨structs, reports, advances, inspects⟩, hstructs, ?_⟩
  exact (forall_mem_categories_iff _).mpr ⟨hreports, hadvances, hinspects⟩

def Declaration.unresolved (declaration : Declaration) : Declaration :=
  { declaration with fields := declaration.fields.map fun field => { field with resolved := none } }

def unresolved (schema : Schema) : Schema :=
  ⟨schema.structs.map (·.unresolved), schema.reports.map (·.unresolved),
    schema.advances.map (·.unresolved), schema.inspects.map (·.unresolved)⟩

def ResolvedType.structs : ResolvedType → List Nat
  | array element => element.structs
  | struct index => [index]
  | _ => []

theorem BasicType.structs_eq_nil {name : String} {type : ResolvedType} (h : BasicType name type) :
    type.structs = [] := by
  cases h <;> rfl

theorem TypeExpr.Denotes.lt_of_mem_structs {names : List String} {type : TypeExpr}
    {resolved : ResolvedType} (h : type.Denotes names resolved) :
    ∀ index ∈ resolved.structs, index < names.length := by
  rcases h with ⟨element, hname, rfl⟩
  have helement : ∀ index ∈ element.structs, index < names.length := by
    cases hname with
    | basic _ hbasic => simp [hbasic.structs_eq_nil]
    | struct index _ hindex =>
      rcases List.getElem?_eq_some_iff.mp hindex with ⟨hlt, _⟩
      simpa [ResolvedType.structs] using hlt
  split
  . exact helement
  . exact helement

namespace Declaration.ResolvesTo

variable {names : List String} {declaration after : Declaration}

theorem unresolved_eq (h : declaration.ResolvesTo names after) :
    after.unresolved = declaration.unresolved := by
  have hfields : declaration.fields.map (fun field => { field with resolved := none })
      = after.fields.map fun field => { field with resolved := none } := by
    rw [← List.forall₂_eq_eq_eq, List.forall₂_map_left_iff, List.forall₂_map_right_iff]
    apply h.fields.imp
    rintro field _ ⟨type, _, rfl⟩
    rfl
  rw [Declaration.unresolved, Declaration.unresolved, h.name_eq, hfields]

theorem exists_denotes (h : declaration.ResolvesTo names after) :
    ∀ field ∈ after.fields, ∃ type, field.resolved = some type ∧ field.type.Denotes names type
      ∧ ∀ index ∈ type.structs, index < names.length := by
  intro field hfield
  have hflip : List.Forall₂ (flip (Field.ResolvesTo names)) after.fields declaration.fields :=
    h.fields.flip
  rcases (exists_forall₂_iff _ _).mp ⟨_, hflip⟩ field hfield with ⟨_, type, htype, rfl⟩
  exact ⟨type, rfl, htype, htype.lt_of_mem_structs⟩

end Declaration.ResolvesTo

theorem map_unresolved_eq {declarations resolved : List Declaration}
    (h : List.Forall₂ (fun declaration after => ∃ names, declaration.ResolvesTo names after)
      declarations resolved) :
    resolved.map (·.unresolved) = declarations.map (·.unresolved) := by
  rw [← List.forall₂_eq_eq_eq, List.forall₂_map_left_iff, List.forall₂_map_right_iff]
  apply h.flip.imp
  rintro _ _ ⟨names, hresolved⟩
  exact hresolved.unresolved_eq

theorem ResolvesTo.unresolved_eq {schema resolved : Schema} (h : schema.ResolvesTo resolved) :
    resolved.unresolved = schema.unresolved := by
  have hmessages : ∀ category ∈ Category.messages,
      (resolved.declarations category).map (·.unresolved)
        = (schema.declarations category).map (·.unresolved) := by
    intro category hcategory
    exact map_unresolved_eq ((h.messages category hcategory).imp fun _ _ hafter => ⟨_, hafter⟩)
  rw [forall_mem_categories_iff] at hmessages
  rcases hmessages with ⟨hreports, hadvances, hinspects⟩
  simp only [declarations] at hreports hadvances hinspects
  rw [unresolved, unresolved, map_unresolved_eq h.structs.forall₂, hreports, hadvances, hinspects]

theorem analyze_resolves (schema : Schema) (policy : EmptySchemaPolicy) :
    ((∃ analyzed, schema.analyze policy = .ok analyzed)
      ↔ schema.WellFormed ∧ (0 < schema.messageCount ∨ policy ≠ .deny))
    ∧ ∀ analyzed, schema.analyze policy = .ok analyzed →
      analyzed.unresolved = schema.unresolved
      ∧ (∀ (index : Nat) (struct : Declaration), analyzed.structs[index]? = some struct →
        ∀ field ∈ struct.fields, ∃ type, field.resolved = some type
          ∧ field.type.Denotes ((schema.structs.take index).map (·.name)) type
          ∧ ∀ other ∈ type.structs, other < index)
      ∧ ∀ message ∈ analyzed.messages, ∀ field ∈ message.2.fields,
        ∃ type, field.resolved = some type
          ∧ field.type.Denotes (schema.structs.map (·.name)) type
          ∧ ∀ other ∈ type.structs, other < analyzed.structs.length := by
  simp only [analyze_eq_ok_iff]
  constructor
  . constructor
    . rintro ⟨_, hwf, hcount, _⟩
      exact ⟨hwf, hcount⟩
    . rintro ⟨hwf, hcount⟩
      rcases hwf.exists_resolvesTo with ⟨analyzed, hresolved⟩
      exact ⟨analyzed, hwf, hcount, hresolved⟩
  . rintro analyzed ⟨_, _, hresolved⟩
    have hlength := hresolved.structs.length_eq
    refine ⟨hresolved.unresolved_eq, ?_, ?_⟩
    . intro index struct hstruct
      rcases List.getElem?_eq_some_iff.mp hstruct with ⟨hlt, _⟩
      rw [hlength] at hlt
      have hcount : ((schema.structs.take index).map (·.name)).length = index := by
        rw [List.length_map, List.length_take, Nat.min_eq_left hlt.le]
      have hafter := hresolved.structs.resolvesTo index _ _ (List.getElem?_eq_getElem hlt) hstruct
      rw [List.nil_append] at hafter
      simpa only [hcount] using hafter.exists_denotes
    . rintro ⟨category, after⟩ hmessage
      rcases List.mem_flatMap.mp hmessage with ⟨_, hcategory, hmem⟩
      rcases List.mem_map.mp hmem with ⟨_, hafter, heq⟩
      injection heq with _ heq
      subst heq
      have hflip := (hresolved.messages _ hcategory).flip
      rcases (exists_forall₂_iff _ _).mp ⟨_, hflip⟩ _ hafter with ⟨_, hdeclaration⟩
      simpa only [List.length_map, hlength] using hdeclaration.exists_denotes

-- The books of the library may use the struct of their chapters, the only one before them.
theorem analyze_resolves_library :
    ∃ analyzed, Example.library.analyze .deny = .ok analyzed
      ∧ analyzed.unresolved = Example.library.unresolved
      ∧ ∀ struct, analyzed.structs[1]? = some struct → ∀ field ∈ struct.fields,
        ∃ type, field.resolved = some type ∧ field.type.Denotes ["Chapter"] type
          ∧ ∀ other ∈ type.structs, other < 1 := by
  have hok : (Example.library.analyze .deny).toOption.isSome = true := by
    decide +kernel
  rcases exists_eq_ok_of_isSome hok with ⟨analyzed, hanalyzed⟩
  rcases (analyze_resolves Example.library .deny).2 analyzed hanalyzed with
    ⟨hunresolved, hstructs, _⟩
  exact ⟨analyzed, hanalyzed, hunresolved, hstructs 1⟩

end Schema

end MessageAbi
