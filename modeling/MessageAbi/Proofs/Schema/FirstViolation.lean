import Mathlib
import MessageAbi.Proofs.Schema.Violations

/-!
This module contains that analysis fails with what is wrong at the first place in the order of its
scan, and that it fails only if something is wrong at some place.
-/

namespace MessageAbi.Schema

def Passes (schema : Schema) (policy : EmptySchemaPolicy) (place : Place) : Prop :=
  ∀ error, ¬ schema.Violates policy place error

/--
What is wrong at a place, where nothing is wrong at any place before it.
-/
structure FirstViolation (schema : Schema) (policy : EmptySchemaPolicy) (place : Place)
    (error : SemanticError) : Prop where
  violates : schema.Violates policy place error
  passes_before : ∀ earlier : Place, earlier.Before place → schema.Passes policy earlier

variable {schema : Schema} {policy : EmptySchemaPolicy} {category : Category}
variable {error : SemanticError}

def PassesBelow (schema : Schema) (policy : EmptySchemaPolicy) (category : Category) (bound : Nat) :
    Prop :=
  ∀ index < bound, ∀ check, schema.Passes policy (.declaration category index check)

theorem passesBelow_of_clean {before rest : List Declaration}
    (hsplit : schema.declarations category = before ++ rest)
    (h : ∀ (index : Nat) (declaration : Declaration), before[index]? = some declaration →
      declaration.Clean (schema.scope category index) category) :
    schema.PassesBelow policy category before.length := by
  intro index hindex check error hviolates
  cases hviolates with
  | declaration hget hviolates =>
    rw [hsplit, List.getElem?_append_left hindex] at hget
    exact (h index _ hget).passes check error hviolates

theorem PassesBelow.passes
    (h : schema.PassesBelow policy category (schema.declarations category).length) (index : Nat)
    (check : Check) : schema.Passes policy (.declaration category index check) := by
  intro error hviolates
  cases hviolates with
  | declaration hget hviolates =>
    rcases List.getElem?_eq_some_iff.mp hget with ⟨hlt, _⟩
    exact h index hlt check error (.declaration hget hviolates)

theorem scope_struct {before rest : List Declaration}
    (hsplit : schema.declarations .struct = before ++ rest) {index : Nat}
    (hindex : index ≤ before.length) :
    schema.scope .struct index = ⟨(before.take index).map (·.name), []⟩ := by
  simp only [scope, hsplit, List.take_append_of_le_length hindex, if_true]

theorem scope_message (hcategory : category ≠ .struct) {before rest : List Declaration}
    (hsplit : schema.declarations category = before ++ rest) {index : Nat}
    (hindex : index ≤ before.length) :
    schema.scope category index = ⟨schema.structs.map (·.name),
      ((schema.messagesBefore category ++ before.take index).map (·.name)).reverse⟩ := by
  simp only [scope, hsplit, List.take_append_of_le_length hindex, if_neg hcategory]

theorem passesBelow_of_resolveStructs {before rest resolved : List Declaration}
    {table : Analysis.StructTable} (hsplit : schema.declarations .struct = before ++ rest)
    (h : Analysis.resolveStructs (List.zipIdx []) before = .ok (resolved, table)) :
    schema.PassesBelow policy .struct before.length := by
  rcases (Analysis.resolveStructs_eq_ok_iff List.nodup_nil _ _ _).mp h with
    ⟨hnodup, hfields, hunique, hresolved, _⟩
  have hknown := (StructsResolveTo.exists_iff [] before).mp ⟨resolved, hresolved⟩
  apply passesBelow_of_clean hsplit
  intro index declaration hget
  rcases List.getElem?_eq_some_iff.mp hget with ⟨hlt, _⟩
  have hmem := List.mem_of_getElem? hget
  rw [scope_struct hsplit hlt.le]
  constructor
  . exact notMem_map_take_of_nodup hnodup hget
  . intro _
    exact hfields declaration hmem
  . intro hne
    contradiction
  . exact hunique declaration hmem
  . exact hknown index declaration hget

theorem passesBelow_of_resolveMessages {before rest resolved : List Declaration}
    {taken : List String} (hcategory : category ≠ .struct)
    (hsplit : schema.declarations category = before ++ rest)
    (hnodup : (schema.structs.map (·.name)).Nodup)
    (htaken : ((schema.messagesBefore category).map (·.name)).reverse.Nodup)
    (h : Analysis.resolveMessages category (schema.structs.map (·.name)).zipIdx
      ((schema.messagesBefore category).map (·.name)).reverse before = .ok (resolved, taken)) :
    schema.PassesBelow policy category before.length := by
  rcases (Analysis.resolveMessages_eq_ok_iff hnodup _ htaken _ _ _).mp h with
    ⟨hall, hdisjoint, hunique, hresolved, _⟩
  rw [← List.reverse_append, ← List.map_append, List.nodup_reverse] at hall
  apply passesBelow_of_clean hsplit
  intro index declaration hget
  rcases List.getElem?_eq_some_iff.mp hget with ⟨hlt, _⟩
  have hmem := List.mem_of_getElem? hget
  -- A name has to be new among the messages of all categories so far, not of its own only.
  have hgetAll : (schema.messagesBefore category ++ before)[
      (schema.messagesBefore category).length + index]? = some declaration := by
    rw [List.getElem?_append_right (Nat.le_add_right _ _), Nat.add_sub_cancel_left, hget]
  rw [scope_message hcategory hsplit hlt.le]
  constructor
  . exact hdisjoint declaration hmem
  . intro heq
    contradiction
  . intro _
    rw [List.mem_reverse, ← List.take_length_add_append]
    exact notMem_map_take_of_nodup hall hgetAll
  . exact hunique declaration hmem
  . exact known_of_forall₂ hresolved declaration hmem

theorem firstViolation_of_split {before after : List Declaration} {declaration : Declaration}
    (hsplit : schema.declarations category = before ++ declaration :: after)
    (hearlier : ∀ other : Category, other.rank < category.rank →
      schema.PassesBelow policy other (schema.declarations other).length)
    (hbefore : schema.PassesBelow policy category before.length)
    (hfails : declaration.Fails (schema.scope category before.length) category error) :
    ∃ place, schema.FirstViolation policy place error := by
  rcases hfails with ⟨check, hviolates, hchecks⟩
  have hget : (schema.declarations category)[before.length]? = some declaration := by
    simp [hsplit]
  refine ⟨.declaration category before.length check, .declaration hget hviolates, ?_⟩
  intro earlier hlt
  cases hlt with
  | category hrank => exact (hearlier _ hrank).passes _ _
  | index hindex => exact hbefore _ hindex _
  | check hrank =>
    intro other hother
    cases hother with
    | declaration hgetOther hother =>
      rw [hget] at hgetOther
      cases hgetOther
      exact hchecks _ hrank other hother

theorem firstViolation_of_resolveStructs
    (h : Analysis.resolveStructs (List.zipIdx []) (schema.declarations .struct) = .error error) :
    ∃ place, schema.FirstViolation policy place error := by
  rcases Analysis.exists_split_of_resolveStructs List.nodup_nil h with
    ⟨before, declaration, after, hsplit, ⟨_, _, hok⟩, hfails⟩
  apply firstViolation_of_split hsplit
  . intro other hrank
    exact absurd hrank (Nat.not_lt_zero _)
  . exact passesBelow_of_resolveStructs hsplit hok
  . rw [scope_struct hsplit (Nat.le_refl _), List.take_length]
    exact hfails

structure Reaches (schema : Schema) (policy : EmptySchemaPolicy) (category : Category)
    (taken : List String) : Prop where
  ne_struct : category ≠ .struct
  nodup_structs : (schema.structs.map (·.name)).Nodup
  taken_eq : taken = ((schema.messagesBefore category).map (·.name)).reverse
  nodup_taken : taken.Nodup
  passes : ∀ other : Category, other.rank < category.rank →
    schema.PassesBelow policy other (schema.declarations other).length

namespace Reaches

variable {taken : List String} (h : schema.Reaches policy category taken)

include h

theorem firstViolation
    (herror : Analysis.resolveMessages category (schema.structs.map (·.name)).zipIdx taken
      (schema.declarations category) = .error error) :
    ∃ place, schema.FirstViolation policy place error := by
  rcases h with ⟨hcategory, hnodup, rfl, htaken, hpasses⟩
  rcases Analysis.exists_split_of_resolveMessages hnodup hcategory herror with
    ⟨before, declaration, after, hsplit, ⟨_, _, hok⟩, hfails⟩
  apply firstViolation_of_split hsplit hpasses
  . exact passesBelow_of_resolveMessages hcategory hsplit hnodup htaken hok
  . rw [scope_message hcategory hsplit (Nat.le_refl _), List.take_length, List.map_append,
      List.reverse_append]
    exact hfails

theorem passesBelow {resolved : List Declaration} {after : List String}
    (hok : Analysis.resolveMessages category (schema.structs.map (·.name)).zipIdx taken
      (schema.declarations category) = .ok (resolved, after)) :
    schema.PassesBelow policy category (schema.declarations category).length := by
  rcases h with ⟨hcategory, hnodup, rfl, htaken, _⟩
  exact passesBelow_of_resolveMessages hcategory (List.append_nil _).symm hnodup htaken hok

theorem next {next : Category} {resolved : List Declaration} {after : List String}
    (hrank : next.rank = category.rank + 1)
    (hmessages : schema.messagesBefore next
      = schema.messagesBefore category ++ schema.declarations category)
    (hok : Analysis.resolveMessages category (schema.structs.map (·.name)).zipIdx taken
      (schema.declarations category) = .ok (resolved, after)) :
    schema.Reaches policy next after := by
  have hbelow := h.passesBelow hok
  rcases (Analysis.resolveMessages_eq_ok_iff h.nodup_structs _ h.nodup_taken _ _ _).mp hok with
    ⟨hall, _, _, _, rfl⟩
  refine ⟨?_, h.nodup_structs, ?_, hall, ?_⟩
  . rintro rfl
    contradiction
  . rw [h.taken_eq, hmessages, List.map_append, List.reverse_append]
  . intro other hlt
    rw [hrank, Nat.lt_succ_iff, Nat.le_iff_lt_or_eq, Category.rank_inj] at hlt
    rcases hlt with hlt | rfl
    . exact h.passes other hlt
    . exact hbelow

end Reaches

theorem reaches_report (policy : EmptySchemaPolicy) {structs : List Declaration}
    {table : Analysis.StructTable}
    (h : Analysis.resolveStructs (List.zipIdx []) (schema.declarations .struct)
      = .ok (structs, table)) :
    table = (schema.structs.map (·.name)).zipIdx ∧ schema.Reaches policy .report [] := by
  rcases (Analysis.resolveStructs_eq_ok_iff List.nodup_nil _ _ _).mp h with
    ⟨hnodup, _, _, _, htable⟩
  refine ⟨htable, by simp, hnodup, rfl, List.nodup_nil, ?_⟩
  intro other hlt
  have hstruct : other = .struct := Category.rank_inj.mp (Nat.lt_one_iff.mp hlt)
  subst hstruct
  exact passesBelow_of_resolveStructs (List.append_nil _).symm h

theorem Reaches.passes_declaration {taken : List String} (h : schema.Reaches policy .inspect taken)
    {resolved : List Declaration} {after : List String}
    (hok : Analysis.resolveMessages .inspect (schema.structs.map (·.name)).zipIdx taken
      (schema.declarations .inspect) = .ok (resolved, after))
    (category : Category) (index : Nat) (check : Check) :
    schema.Passes policy (.declaration category index check) := by
  cases category with
  | inspect => exact (h.passesBelow hok).passes index check
  | struct | report | advance => exact (h.passes _ (by decide)).passes index check

theorem firstViolation_of_analyze (h : schema.analyze policy = .error error) :
    ∃ place, schema.FirstViolation policy place error := by
  rcases (bind_eq_error_iff _ _ _).mp h with h | ⟨⟨structs, table⟩, hstructs, h⟩
  . exact firstViolation_of_resolveStructs h
  rcases reaches_report policy hstructs with ⟨rfl, hreport⟩
  rcases (bind_eq_error_iff _ _ _).mp h with h | ⟨⟨reports, taken⟩, hreports, h⟩
  . exact hreport.firstViolation h
  have hadvance : schema.Reaches policy .advance taken := hreport.next rfl rfl hreports
  rcases (bind_eq_error_iff _ _ _).mp h with h | ⟨⟨advances, taken⟩, hadvances, h⟩
  . exact hadvance.firstViolation h
  have hinspect : schema.Reaches policy .inspect taken := hadvance.next rfl rfl hadvances
  rcases (bind_eq_error_iff _ _ _).mp h with h | ⟨⟨inspects, final⟩, hinspects, h⟩
  . exact hinspect.firstViolation h
  rcases (ite_throw_eq_error_iff _ _ _).mp h with ⟨⟨hcount, hpolicy⟩, rfl⟩ | ⟨_, hreturn⟩
  . refine ⟨.whole, .noMessages hcount hpolicy, ?_⟩
    intro earlier hlt
    cases hlt with
    | whole => exact hinspect.passes_declaration hinspects _ _ _
  . contradiction

theorem passes_of_analyze {analyzed : Schema} (h : schema.analyze policy = .ok analyzed)
    (place : Place) : schema.Passes policy place := by
  rcases (bind_eq_ok_iff _ _ _).mp h with ⟨⟨structs, table⟩, hstructs, h⟩
  rcases reaches_report policy hstructs with ⟨rfl, hreport⟩
  rcases (bind_eq_ok_iff _ _ _).mp h with ⟨⟨reports, taken⟩, hreports, h⟩
  have hadvance : schema.Reaches policy .advance taken := hreport.next rfl rfl hreports
  rcases (bind_eq_ok_iff _ _ _).mp h with ⟨⟨advances, taken⟩, hadvances, h⟩
  have hinspect : schema.Reaches policy .inspect taken := hadvance.next rfl rfl hadvances
  rcases (bind_eq_ok_iff _ _ _).mp h with ⟨⟨inspects, final⟩, hinspects, h⟩
  cases place with
  | declaration category index check =>
    exact hinspect.passes_declaration hinspects category index check
  | whole =>
    rcases (ite_throw_eq_ok_iff _ _ _).mp h with ⟨hnonempty, _⟩
    intro error hviolates
    cases hviolates with
    | noMessages hcount hpolicy => exact hnonempty ⟨hcount, hpolicy⟩

theorem FirstViolation.error_eq {place otherPlace : Place} {other : SemanticError}
    (h : schema.FirstViolation policy place error)
    (hother : schema.FirstViolation policy otherPlace other) : error = other := by
  rcases Place.before_or_eq_or_before place otherPlace with hlt | rfl | hgt
  . exact absurd h.violates (hother.passes_before place hlt error)
  . exact h.violates.error_eq hother.violates
  . exact absurd hother.violates (h.passes_before otherPlace hgt other)

theorem analysis_error_first (schema : Schema) (policy : EmptySchemaPolicy)
    (error : SemanticError) :
    schema.analyze policy = .error error
      ↔ ∃ place, schema.FirstViolation policy place error := by
  constructor
  . exact firstViolation_of_analyze
  . rintro ⟨place, hfirst⟩
    cases hanalyze : schema.analyze policy with
    | ok analyzed => exact absurd hfirst.violates (passes_of_analyze hanalyze place error)
    | error other =>
      rcases firstViolation_of_analyze hanalyze with ⟨_, hother⟩
      rw [hother.error_eq hfirst]

-- The third field and the second struct repeat a name, but the second field comes before them.
example : analyze ⟨[⟨"Page", [⟨"id", ⟨"uint256", false⟩, none⟩, ⟨"next", ⟨"Page", false⟩, none⟩,
      ⟨"id", ⟨"bool", false⟩, none⟩]⟩, ⟨"Page", []⟩], [], [], []⟩ .deny
    = .error (.unknownType .struct "Page" "next" "Page") := by
  decide +kernel

end MessageAbi.Schema
