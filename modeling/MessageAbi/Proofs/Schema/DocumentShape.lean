import Mathlib
import MessageAbi.Proofs.Except
import MessageAbi.Proofs.List
import MessageAbi.Schema.Read

/-!
This module contains when the parts of a document tree are read, one statement for each of them: lists,
messages, sections and the schema that they make up.
-/

namespace MessageAbi.Schema.Document

open Yaml

variable {path : Path}

def textOf? : Tree → Option String
  | .scalar s => some s.text
  | _ => none

theorem unexpected_ne_ok {α : Type} (tree : Tree) (expected : String) (a : α) :
    unexpected tree expected path ≠ .ok a := by
  unfold unexpected
  split
  . simp
  . simp

theorem readString_eq_ok_iff (tree : Tree) (expected text : String) :
    readString tree expected path = .ok text ↔ textOf? tree = some text := by
  cases tree with
  | scalar s => simp [readString, textOf?]
  | _ => simp [readString, textOf?, unexpected_ne_ok]

def entriesOf : Tree → List Entry
  | .mapping _ entries => entries
  | _ => []

theorem entriesOf_of_readEntries {tree : Tree} {expected : String} {entries : List Entry}
    (h : readEntries tree expected path = .ok entries) : entriesOf tree = entries := by
  cases tree with
  | mapping tag written =>
    injection h
  | _ =>
    simp only [readEntries] at h
    split at h
    . injection h
    . exact absurd h (unexpected_ne_ok _ _ _)

def itemsOf : Tree → List Tree
  | .sequence _ items => items
  | _ => []

section Lists

variable {α : Type} {read : Tree → Path → Except Fault α} {results : List α}

theorem readList_sequence_eq_ok_iff (tag : Option String) (items : List Tree) :
    readList read (.sequence tag items) path = .ok results
      ↔ List.Forall₂ (fun item result => read item.1 (path ++ [.item item.2]) = .ok result)
        items.zipIdx results := by
  have hgo (index : Nat) : readList.go read path index items
      = (items.zipIdx index).mapM fun item => read item.1 (path ++ [.item item.2]) := by
    induction items generalizing index with
    | nil => rfl
    | cons item items ih => rw [readList.go, ih, List.zipIdx_cons, List.mapM_cons]
  rw [readList, hgo, mapM_eq_ok_iff]

theorem forall₂_zipIdx_iff (R : Tree → α → Prop) (items : List Tree) :
    List.Forall₂ (fun item result => R item.1 result) items.zipIdx results
      ↔ List.Forall₂ R items results := by
  conv_rhs => rw [← List.zipIdx_map_fst 0 items, List.forall₂_map_left_iff]

theorem forall₂_itemsOf_of_readList {tree : Tree} (h : readList read tree path = .ok results) :
    List.Forall₂ (fun item result => ∃ place, read item place = .ok result) (itemsOf tree)
      results := by
  cases tree with
  | sequence tag items =>
    rw [readList_sequence_eq_ok_iff] at h
    rw [itemsOf, ← forall₂_zipIdx_iff]
    exact h.imp fun item result hread => ⟨_, hread⟩
  | _ =>
    simp only [readList] at h
    split at h
    . cases h
      exact .nil
    . exact absurd h (unexpected_ne_ok _ _ _)

theorem exists_readList_of_forall₂ {β : Type} {S : α → β → Prop} {items : List Tree} {bs : List β}
    (h : List.Forall₂ (fun item b => ∀ place, ∃ result, read item place = .ok result ∧ S result b)
      items bs) (tag : Option String) :
    ∃ results, readList read (.sequence tag items) path = .ok results
      ∧ List.Forall₂ S results bs := by
  rw [← forall₂_zipIdx_iff] at h
  simp only [readList_sequence_eq_ok_iff]
  exact exists_of_forall₂_comp (h.imp fun item b hread => hread _)

end Lists

section Sections

theorem sectionOf?_eq_some_iff (name : String) (category : Category) :
    sectionOf? name = some category ↔ category.sectionName = name := by
  constructor
  . intro h
    simpa using List.find?_some h
  . rintro rfl
    cases category <;> decide

theorem readShape_go_cons_eq_ok_iff (sections : Sections) (entry : Entry) (entries : List Entry)
    (final : Sections) :
    readShape.go sections (entry :: entries) = .ok final
      ↔ ∃ category messages, textOf? entry.key = some category.sectionName
        ∧ sections.lookup category = none
        ∧ readList readMessage entry.value [.key entry.label] = .ok messages
        ∧ readShape.go (sections ++ [(category, messages)]) entries = .ok final := by
  rcases entry with ⟨key, label, value⟩
  rw [readShape.go, bind_eq_ok_iff]
  simp only [readKey, readString_eq_ok_iff]
  constructor
  . rintro ⟨name, hname, h⟩
    split at h
    next category hcategory =>
      rw [sectionOf?_eq_some_iff] at hcategory
      rw [ite_throw_eq_ok_iff, bind_eq_ok_iff] at h
      rcases h with ⟨hfresh, messages, hmessages, h⟩
      rw [Option.not_isSome_iff_eq_none] at hfresh
      exact ⟨category, messages, by rw [hname, hcategory], hfresh, hmessages, h⟩
    next => contradiction
  . rintro ⟨category, messages, hname, hfresh, hmessages, h⟩
    refine ⟨_, hname, ?_⟩
    rw [(sectionOf?_eq_some_iff _ _).mpr rfl]
    dsimp only
    rw [ite_throw_eq_ok_iff, bind_eq_ok_iff]
    exact ⟨by simp [hfresh], messages, hmessages, h⟩

/--
What an entry of a document gives: the messages of the section that its key names.
-/
def IsSection (entry : Entry) (part : Category × List MessageShape) : Prop :=
  textOf? entry.key = some part.1.sectionName
    ∧ readList readMessage entry.value [.key entry.label] = .ok part.2

theorem readShape_go_eq_ok_iff {sections : Sections} (hnodup : (sections.map (·.1)).Nodup)
    (entries : List Entry) (final : Sections) :
    readShape.go sections entries = .ok final
      ↔ ∃ added, final = sections ++ added ∧ (final.map (·.1)).Nodup
        ∧ List.Forall₂ IsSection entries added := by
  induction entries generalizing sections with
  | nil =>
    simp only [readShape.go, Except.ok.injEq, List.forall₂_nil_left_iff]
    constructor
    . rintro rfl
      exact ⟨[], (List.append_nil _).symm, hnodup, rfl⟩
    . rintro ⟨_, rfl, _, rfl⟩
      exact (List.append_nil _).symm
  | cons entry entries ih =>
    rw [readShape_go_cons_eq_ok_iff]
    constructor
    . rintro ⟨category, messages, hname, hfresh, hmessages, h⟩
      rw [lookup_eq_none_iff_notMem] at hfresh
      have hnext : ((sections ++ [(category, messages)]).map (·.1)).Nodup := by
        rw [List.map_append, List.nodup_append_comm]
        exact List.nodup_cons.mpr ⟨hfresh, hnodup⟩
      rcases (ih hnext).mp h with ⟨added, rfl, hfinal, hadded⟩
      rw [List.append_assoc] at hfinal ⊢
      exact ⟨(category, messages) :: added, rfl, hfinal, .cons ⟨hname, hmessages⟩ hadded⟩
    . rintro ⟨_, hsplit, hfinal, hadded⟩
      cases hadded with
      | @cons _ part _ added hpart hadded =>
        rcases part with ⟨category, messages⟩
        rw [List.append_cons] at hsplit
        have hnext : ((sections ++ [(category, messages)]).map (·.1)).Nodup := by
          rw [hsplit, List.map_append] at hfinal
          exact hfinal.of_append_left
        refine ⟨category, messages, hpart.1, ?_, hpart.2,
          (ih hnext).mpr ⟨added, hsplit, hfinal, hadded⟩⟩
        rw [List.map_append, List.nodup_append_comm] at hnext
        rw [lookup_eq_none_iff_notMem]
        exact (List.nodup_cons.mp hnext).1

theorem readShape_mapping_eq_ok_iff (tag : Option String) (entries : List Entry) (shape : Shape) :
    readShape (.mapping tag entries) = .ok shape
      ↔ ∃ sections : Sections, (sections.map (·.1)).Nodup ∧ List.Forall₂ IsSection entries sections
        ∧ shape = .ofSections sections := by
  have hempty : (([] : Sections).map (·.1)).Nodup := List.nodup_nil
  rw [readShape, bind_eq_ok_iff]
  simp only [readEntries, Except.ok.injEq, exists_eq_left', bind_eq_ok_iff, pure_eq_ok_iff,
    readShape_go_eq_ok_iff hempty, List.nil_append, exists_eq_left', and_assoc]

theorem readShape_entriesOf {tree : Tree} {shape : Shape} (h : readShape tree = .ok shape) :
    readShape (.mapping none (entriesOf tree)) = .ok shape := by
  rw [readShape, bind_eq_ok_iff] at h ⊢
  rcases h with ⟨entries, hentries, h⟩
  exact ⟨entries, by rw [readEntries, entriesOf_of_readEntries hentries], h⟩

end Sections

section Messages

variable {name : Option String} {fields : Option (List FieldShape)} {message : MessageShape}

theorem readMessage_go_cons_eq_ok_iff (entry : Entry) (entries : List Entry) :
    readMessage.go path name fields (entry :: entries) = .ok message
      ↔ (textOf? entry.key = some "name" ∧ name = none
          ∧ ∃ text, textOf? entry.value = some text
            ∧ readMessage.go path (some text) fields entries = .ok message)
        ∨ (textOf? entry.key = some "fields" ∧ fields = none
          ∧ ∃ shapes, readFields entry.value (path ++ [.key entry.label]) = .ok shapes
            ∧ readMessage.go path name (some shapes) entries = .ok message) := by
  rcases entry with ⟨key, label, value⟩
  rw [readMessage.go, bind_eq_ok_iff]
  simp only [readKey, readString_eq_ok_iff]
  constructor
  . rintro ⟨text, htext, h⟩
    split at h
    next =>
      rw [ite_throw_eq_ok_iff, bind_eq_ok_iff, Option.not_isSome_iff_eq_none] at h
      simp only [readString_eq_ok_iff] at h
      exact .inl ⟨htext, h⟩
    next =>
      rw [ite_throw_eq_ok_iff, bind_eq_ok_iff, Option.not_isSome_iff_eq_none] at h
      exact .inr ⟨htext, h⟩
    next => contradiction
  . rintro (⟨htext, h⟩ | ⟨htext, h⟩)
    . refine ⟨_, htext, ?_⟩
      simp only
      rw [ite_throw_eq_ok_iff, bind_eq_ok_iff, Option.not_isSome_iff_eq_none]
      simp only [readString_eq_ok_iff]
      exact h
    . refine ⟨_, htext, ?_⟩
      simp only
      rw [ite_throw_eq_ok_iff, bind_eq_ok_iff, Option.not_isSome_iff_eq_none]
      exact h

/--
What the entries of a message give: its name and, unless they are left out, its fields.
-/
inductive MessageEntries (path : Path) (message : MessageShape) : List Entry → Prop where
  | withoutFields {entry : Entry} :
    textOf? entry.key = some "name" → textOf? entry.value = some message.name →
      message.fields = [] → MessageEntries path message [entry]
  | withFields {entries : List Entry} {nameEntry fieldsEntry : Entry} :
    entries.Perm [nameEntry, fieldsEntry] →
      textOf? nameEntry.key = some "name" → textOf? nameEntry.value = some message.name →
      textOf? fieldsEntry.key = some "fields" →
      readFields fieldsEntry.value (path ++ [.key fieldsEntry.label]) = .ok message.fields →
        MessageEntries path message entries

theorem readMessage_go_complete_iff (text : String) (shapes : List FieldShape)
    (entries : List Entry) :
    readMessage.go path (some text) (some shapes) entries = .ok message
      ↔ entries = [] ∧ message = ⟨text, shapes⟩ := by
  cases entries with
  | nil => simp [readMessage.go, eq_comm]
  | cons entry entries => simp [readMessage_go_cons_eq_ok_iff]

theorem readMessage_mapping_eq_ok_iff (tag : Option String) (entries : List Entry) :
    readMessage (.mapping tag entries) path = .ok message
      ↔ MessageEntries path message entries := by
  rw [readMessage, bind_eq_ok_iff]
  simp only [readEntries, Except.ok.injEq, exists_eq_left']
  constructor
  . intro h
    cases entries with
    | nil => contradiction
    | cons first entries =>
      rw [readMessage_go_cons_eq_ok_iff] at h
      rcases h with ⟨hkey, _, text, htext, h⟩ | ⟨hkey, _, shapes, hshapes, h⟩
      . cases entries with
        | nil =>
          injection h with h
          rw [← h]
          exact .withoutFields hkey htext rfl
        | cons second entries =>
          rw [readMessage_go_cons_eq_ok_iff] at h
          simp only [reduceCtorEq, false_and, and_false, false_or, readMessage_go_complete_iff] at h
          rcases h with ⟨hsecond, _, shapes, hshapes, rfl, rfl⟩
          exact .withFields (.refl _) hkey htext hsecond hshapes
      . cases entries with
        | nil => contradiction
        | cons second entries =>
          rw [readMessage_go_cons_eq_ok_iff] at h
          simp only [reduceCtorEq, false_and, and_false, or_false, readMessage_go_complete_iff] at h
          rcases h with ⟨hsecond, _, text, htext, rfl, rfl⟩
          exact .withFields (.swap _ _ _) hsecond htext hkey hshapes
  . rcases message with ⟨text, shapes⟩
    rintro (⟨hkey, htext, rfl⟩ | ⟨hperm, hname, htext, hfields, hshapes⟩)
    . rw [readMessage_go_cons_eq_ok_iff]
      exact .inl ⟨hkey, rfl, text, htext, rfl⟩
    . have hcomplete : readMessage.go path (some text) (some shapes) [] = .ok ⟨text, shapes⟩ :=
        (readMessage_go_complete_iff _ _ _).mpr ⟨rfl, rfl⟩
      rcases List.perm_pair.mp hperm with rfl | rfl
      . have hlast : readMessage.go path (some text) none [_] = .ok ⟨text, shapes⟩ :=
          (readMessage_go_cons_eq_ok_iff _ _).mpr (.inr ⟨hfields, rfl, _, hshapes, hcomplete⟩)
        exact (readMessage_go_cons_eq_ok_iff _ _).mpr (.inl ⟨hname, rfl, _, htext, hlast⟩)
      . have hlast : readMessage.go path none (some shapes) [_] = .ok ⟨text, shapes⟩ :=
          (readMessage_go_cons_eq_ok_iff _ _).mpr (.inl ⟨hname, rfl, _, htext, hcomplete⟩)
        exact (readMessage_go_cons_eq_ok_iff _ _).mpr (.inr ⟨hfields, rfl, _, hshapes, hlast⟩)

theorem readMessage_entriesOf {tree : Tree} (h : readMessage tree path = .ok message) :
    readMessage (.mapping none (entriesOf tree)) path = .ok message := by
  rw [readMessage, bind_eq_ok_iff] at h ⊢
  rcases h with ⟨entries, hentries, h⟩
  exact ⟨entries, by rw [readEntries, entriesOf_of_readEntries hentries], h⟩

end Messages

theorem toField_eq_ok_iff (category : Category) (declaration : String) (shape : FieldShape)
    (field : Field) :
    toField category declaration shape = .ok field
      ↔ ∃ type, shape.entry? = some (field.name, type) ∧ checkIdentifier field.name = .ok ()
        ∧ TypeExpr.parse type = .ok field.type ∧ field.resolved = none := by
  unfold toField
  cases shape.entry? with
  | none => simp [throw_eq_error]
  | some entry =>
    rcases entry with ⟨name, type⟩
    rcases field with ⟨fieldName, fieldType, resolved⟩
    simp only [Option.some.injEq, Prod.mk.injEq]
    constructor
    . intro h
      split at h
      next => contradiction
      next hname =>
        split at h
        next => contradiction
        next htype =>
          cases h
          exact ⟨type, ⟨rfl, rfl⟩, hname, htype, rfl⟩
    . rintro ⟨_, ⟨rfl, rfl⟩, hname, htype, rfl⟩
      rw [hname, htype]
      rfl

theorem toDeclaration_eq_ok_iff (category : Category) (shape : MessageShape)
    (declaration : Declaration) :
    toDeclaration category shape = .ok declaration
      ↔ declaration.name = shape.name ∧ checkIdentifier shape.name = .ok ()
        ∧ List.Forall₂ (fun shape' field => toField category shape.name shape' = .ok field)
          shape.fields declaration.fields := by
  rcases declaration with ⟨name, fields⟩
  unfold toDeclaration
  split
  next hname => simp [hname, throw_eq_error]
  next hname =>
    simp only [bind_eq_ok_iff, pure_eq_ok_iff, mapM_eq_ok_iff, Declaration.mk.injEq]
    constructor
    . rintro ⟨_, hfields, rfl, rfl⟩
      exact ⟨rfl, hname, hfields⟩
    . rintro ⟨rfl, _, hfields⟩
      exact ⟨fields, hfields, rfl, rfl⟩

def Shape.messages (shape : Shape) : Category → List MessageShape
  | .struct => shape.structs
  | .report => shape.reports
  | .advance => shape.advances
  | .inspect => shape.inspects

theorem Shape.messages_ofSections (sections : Sections) (category : Category) :
    (ofSections sections).messages category = (sections.lookup category).getD [] := by
  cases category <;> rfl

theorem Shape.toSchema_eq_ok_iff (shape : Shape) (schema : Schema) :
    shape.toSchema = .ok schema
      ↔ ∀ category, List.Forall₂
          (fun message declaration => toDeclaration category message = .ok declaration)
          (shape.messages category) (schema.declarations category) := by
  simp only [toSchema, bind_eq_ok_iff, pure_eq_ok_iff, mapM_eq_ok_iff]
  constructor
  . rintro ⟨structs, hstructs, reports, hreports, advances, hadvances, inspects, hinspects, rfl⟩
      category
    cases category <;> assumption
  . intro h
    exact ⟨_, h .struct, _, h .report, _, h .advance, _, h .inspect, rfl⟩

theorem toSchema_eq_ok_iff (tree : Tree) (schema : Schema) :
    toSchema tree = .ok schema
      ↔ isNull tree = .ok true ∧ schema = .empty
        ∨ isNull tree = .ok false ∧ ∃ shape, readShape tree = .ok shape
          ∧ shape.toSchema = .ok schema := by
  have herror (fault : Fault) (schema : Schema) :
      (throw (ParseError.document (if (Datum.ofTree? tree).isSome then some fault else none)) :
        Except ParseError Schema) ≠ .ok schema := by
    simp [throw_eq_error]
  unfold toSchema
  cases isNull tree with
  | error fault => exact ⟨fun h => absurd h (herror fault schema), by simp⟩
  | ok isBlank =>
    cases isBlank with
    | true =>
      change Except.ok .empty = Except.ok schema ↔ _
      simp [@eq_comm _ schema]
    | false =>
      cases readShape tree with
      | error fault => exact ⟨fun h => absurd h (herror fault schema), by simp⟩
      | ok shape =>
        change shape.toSchema = .ok schema ↔ _
        simp

theorem parse_eq_ok_iff (document : Bytes) (schema : Schema) :
    parse document = .ok schema
      ↔ (isBlank document = true ∨ Stream.ofBytes document = .empty) ∧ schema = .empty
        ∨ isBlank document = false ∧ ∃ tree, Stream.ofBytes document = .document tree
          ∧ toSchema tree = .ok schema := by
  unfold parse
  cases isBlank document with
  | true => simp [@eq_comm _ schema]
  | false => cases Stream.ofBytes document <;> simp [@eq_comm _ schema]

end MessageAbi.Schema.Document
