import Mathlib
import MessageAbi.Proofs.Schema.DocumentShape
import MessageAbi.Proofs.Schema.ParamTypes

/-!
This module contains which texts are identifiers, and that the names and the types in every schema that
is read from a document are.
-/

namespace MessageAbi.Schema

theorem checkIdentifier_eq_ok_iff (text : String) :
    checkIdentifier text = .ok ()
      ↔ ∃ first rest, text.toList = first :: rest ∧ first.isAlpha = true
        ∧ (∀ c ∈ rest, c.isAlphanum = true) ∧ isReserved text = false := by
  unfold checkIdentifier
  cases text.toList with
  | nil => simp
  | cons first rest =>
    simp only [List.cons.injEq]
    cases hfirst : first.isAlpha with
    | false =>
      constructor
      . intro h
        contradiction
      . rintro ⟨_, _, ⟨rfl, _⟩, h, _⟩
        rw [hfirst] at h
        contradiction
    | true =>
      cases hrest : rest.find? (!·.isAlphanum) with
      | some c =>
        have hc : c.isAlphanum = false := by
          simpa using List.find?_some hrest
        constructor
        . intro h
          contradiction
        . rintro ⟨_, _, ⟨rfl, rfl⟩, _, h, _⟩
          rw [h c (List.mem_of_find?_eq_some hrest)] at hc
          contradiction
      | none =>
        have hall : ∀ c ∈ rest, c.isAlphanum = true := by
          simpa using hrest
        cases isReserved text with
        | false => simpa [hfirst] using hall
        | true => simp

-- A weak keyword is an identifier, a strict one is not.
example : checkIdentifier "union" = .ok () ∧ checkIdentifier "match" = .error (.reserved "match") := by
  decide

theorem isAlphanum_of_checkIdentifier {text : String} (h : checkIdentifier text = .ok ()) :
    ∀ c ∈ text.toList, c.isAlphanum = true := by
  rcases (checkIdentifier_eq_ok_iff text).mp h with ⟨first, rest, htext, hfirst, hrest, _⟩
  rw [htext, List.forall_mem_cons]
  refine ⟨?_, hrest⟩
  rw [Char.isAlphanum, hfirst, Bool.true_or]

structure Declaration.HasIdentifiers (declaration : Declaration) : Prop where
  name : checkIdentifier declaration.name = .ok ()
  fields : ∀ field ∈ declaration.fields,
    checkIdentifier field.name = .ok () ∧ checkIdentifier field.type.base = .ok ()

theorem TypeExpr.checkIdentifier_base_of_parse {text : String} {type : TypeExpr}
    (h : parse text = .ok type) : checkIdentifier type.base = .ok () := by
  unfold parse at h
  dsimp only at h
  split at h
  next hbase =>
    injection h with h
    rw [← h]
    exact hbase
  next => contradiction

namespace Document

theorem checkIdentifier_of_toField {category : Category} {declaration : String}
    {shape : FieldShape} {field : Field} (h : toField category declaration shape = .ok field) :
    checkIdentifier field.name = .ok () ∧ checkIdentifier field.type.base = .ok () := by
  rcases (toField_eq_ok_iff _ _ _ _).mp h with ⟨type, _, hname, htype, _⟩
  exact ⟨hname, TypeExpr.checkIdentifier_base_of_parse htype⟩

theorem hasIdentifiers_of_toDeclaration {category : Category} {shape : MessageShape}
    {declaration : Declaration} (h : toDeclaration category shape = .ok declaration) :
    declaration.HasIdentifiers := by
  rcases (toDeclaration_eq_ok_iff _ _ _).mp h with ⟨hname, hidentifier, hfields⟩
  rw [← hname] at hidentifier
  refine ⟨hidentifier, ?_⟩
  intro field hfield
  rcases exists_mem_of_forall₂ hfields hfield with ⟨_, _, hshape⟩
  exact checkIdentifier_of_toField hshape

theorem hasIdentifiers_of_toSchema {shape : Shape} {schema : Schema}
    (h : shape.toSchema = .ok schema) (category : Category) :
    ∀ declaration ∈ schema.declarations category, declaration.HasIdentifiers := by
  intro declaration hdeclaration
  have hmessages := (Shape.toSchema_eq_ok_iff _ _).mp h category
  rcases exists_mem_of_forall₂ hmessages hdeclaration with ⟨_, _, hmessage⟩
  exact hasIdentifiers_of_toDeclaration hmessage

end Document

theorem hasIdentifiers_empty (category : Category) :
    ∀ declaration ∈ empty.declarations category, declaration.HasIdentifiers := by
  cases category <;> simp [empty, declarations]

theorem hasIdentifiers_of_parse {document : Bytes} {schema : Schema}
    (h : parse document = .ok schema) (category : Category) :
    ∀ declaration ∈ schema.declarations category, declaration.HasIdentifiers := by
  rcases (Document.parse_eq_ok_iff _ _).mp h with ⟨_, rfl⟩ | ⟨_, tree, _, htree⟩
  . exact hasIdentifiers_empty category
  . rcases (Document.toSchema_eq_ok_iff _ _).mp htree with ⟨_, rfl⟩ | ⟨_, shape, _, hshape⟩
    . exact hasIdentifiers_empty category
    . exact Document.hasIdentifiers_of_toSchema hshape category

theorem Declaration.hasIdentifiers_unresolved_iff (declaration : Declaration) :
    declaration.unresolved.HasIdentifiers ↔ declaration.HasIdentifiers := by
  constructor
  . rintro ⟨hname, hfields⟩
    refine ⟨hname, ?_⟩
    intro field hfield
    exact hfields { field with resolved := none } (List.mem_map_of_mem hfield)
  . rintro ⟨hname, hfields⟩
    refine ⟨hname, ?_⟩
    intro field hfield
    rcases List.mem_map.mp hfield with ⟨source, hsource, rfl⟩
    exact hfields source hsource

theorem hasIdentifiers_of_read {document : Bytes} {policy : EmptySchemaPolicy} {schema : Schema}
    (h : read document policy = .ok schema) (category : Category) :
    ∀ declaration ∈ schema.declarations category, declaration.HasIdentifiers := by
  rcases (read_eq_ok_iff _ _ _).mp h with ⟨parsed, hparse, hanalyze⟩
  have hunresolved := ((analyze_eq_ok_iff _ _ _).mp hanalyze).2.2.unresolved_eq
  have hall := congrArg (·.declarations category) hunresolved
  simp only [declarations_unresolved] at hall
  intro declaration hdeclaration
  have hmem := List.mem_map_of_mem (f := Declaration.unresolved) hdeclaration
  rw [hall] at hmem
  rcases List.mem_map.mp hmem with ⟨source, hsource, heq⟩
  rw [← declaration.hasIdentifiers_unresolved_iff, ← heq, source.hasIdentifiers_unresolved_iff]
  exact hasIdentifiers_of_parse hparse category source hsource

end MessageAbi.Schema
