import Mathlib
import MessageAbi.Proofs.Schema.FieldEntries
import MessageAbi.Proofs.Schema.Identifier
import MessageAbi.Proofs.Schema.TypeExpr

/-!
This module contains the trees that a schema may be written as, and that each of them is read as the
schema.
-/

namespace MessageAbi.Schema

def Declaration.IsUnresolved (declaration : Declaration) : Prop :=
  ∀ field ∈ declaration.fields, field.resolved = none

namespace Document

open Yaml

variable {path : Path}

section Trees

def quoted (text : String) : Tree :=
  .scalar ⟨none, text, false⟩

def IsEntry (key : String) (value : Tree) (entry : Entry) : Prop :=
  (∃ isPlain, entry.key = .scalar ⟨none, key, isPlain⟩) ∧ entry.value = value

def entry (key : String) (value : Tree) : Entry :=
  ⟨.scalar ⟨none, key, true⟩, some key, value⟩

theorem isEntry_entry (key : String) (value : Tree) : IsEntry key value (entry key value) :=
  ⟨⟨true, rfl⟩, rfl⟩

/--
The trees that a field may be written as: the full form, with its keys in any order, and the shorthand.
-/
inductive FieldTree (field : Field) : Tree → Prop where
  | full {entries : List Entry} {nameEntry typeEntry : Entry} :
    entries.Perm [nameEntry, typeEntry] →
      IsEntry "name" (quoted field.name) nameEntry →
      IsEntry "type" (quoted field.type.text) typeEntry → FieldTree field (.mapping none entries)
  | short {entry : Entry} :
    entry.key = quoted field.name → entry.value = quoted field.type.text →
      FieldTree field (.mapping none [entry])

inductive DeclarationTree (declaration : Declaration) : Tree → Prop where
  | withFields {entries : List Entry} {nameEntry fieldsEntry : Entry} {items : List Tree} :
    entries.Perm [nameEntry, fieldsEntry] →
      IsEntry "name" (quoted declaration.name) nameEntry →
      IsEntry "fields" (.sequence none items) fieldsEntry →
      List.Forall₂ FieldTree declaration.fields items →
        DeclarationTree declaration (.mapping none entries)
  | withoutFields {entry : Entry} :
    declaration.fields = [] → IsEntry "name" (quoted declaration.name) entry →
      DeclarationTree declaration (.mapping none [entry])

def SectionEntry (schema : Schema) (category : Category) (entry : Entry) : Prop :=
  ∃ items, IsEntry category.sectionName (.sequence none items) entry
    ∧ List.Forall₂ DeclarationTree (schema.declarations category) items

/--
The trees that a schema may be written as, with its sections in any order. Empty ones may be left out.
-/
inductive SchemaTree (schema : Schema) : Tree → Prop where
  | ofSections {categories : List Category} {entries : List Entry} :
    categories.Nodup →
      (∀ category, category ∉ categories → schema.declarations category = []) →
      List.Forall₂ (SectionEntry schema) categories entries → SchemaTree schema (.mapping none entries)

end Trees

section Reading

theorem stringOf?_quoted (text : String) : stringOf? (quoted text) = some text :=
  rfl

theorem IsEntry.textOf?_key {key : String} {value : Tree} {entry : Entry}
    (h : IsEntry key value entry) : textOf? entry.key = some key := by
  rcases h with ⟨⟨isPlain, hkey⟩, _⟩
  rw [hkey, textOf?]

theorem IsEntry.componentOf?_key {value : Tree} {entry : Entry} (isType : Bool)
    (h : IsEntry (componentName isType) value entry) : componentOf? entry.key = some isType := by
  rcases h with ⟨⟨isPlain, hkey⟩, _⟩
  rw [hkey]
  cases isPlain <;> cases isType <;> decide

theorem parse_text_of_checkIdentifier {type : TypeExpr} (h : checkIdentifier type.base = .ok ()) :
    TypeExpr.parse type.text = .ok type :=
  (TypeExpr.parse_eq_ok_iff _ _).mpr ⟨(isWord_iff _).mpr h, rfl⟩

theorem FieldTree.givesField {field : Field} {tree : Tree} (h : FieldTree field tree)
    (hname : checkIdentifier field.name = .ok ()) (htype : checkIdentifier field.type.base = .ok ())
    (hresolved : field.resolved = none) : GivesField field tree := by
  have htext := parse_text_of_checkIdentifier htype
  cases h with
  | @full entries _ _ hperm hnameEntry htypeEntry =>
    have hentries : FieldEntries field.name field.type.text entries := by
      have hcomponents := hperm.map fun entry => (componentOf? entry.key, stringOf? entry.value)
      rw [List.map_cons, List.map_singleton, hnameEntry.2, htypeEntry.2, stringOf?_quoted,
        stringOf?_quoted, hnameEntry.componentOf?_key false, htypeEntry.componentOf?_key true]
        at hcomponents
      exact .full hcomponents
    exact .ofEntries rfl hentries hname htext hresolved
  | @short entry hkey hvalue =>
    have hstrings : [entry].map (fun entry => (stringOf? entry.key, stringOf? entry.value))
        = [field.type.text].map fun text => (some field.name, some text) := by
      rw [List.map_singleton, hkey, hvalue, stringOf?_quoted, stringOf?_quoted, List.map_singleton]
    exact .ofEntries rfl (.short hstrings rfl) hname htext hresolved

theorem DeclarationTree.exists_readMessage {declaration : Declaration} {tree : Tree}
    (h : DeclarationTree declaration tree) (hidentifiers : declaration.HasIdentifiers)
    (hunresolved : declaration.IsUnresolved) (category : Category) :
    ∃ message, readMessage tree path = .ok message
      ∧ toDeclaration category message = .ok declaration := by
  cases h with
  | withFields hperm hname hfields hitems =>
    have hgives := (forall₂_imp_of_mem hitems fun field hmem _ _ htree =>
      htree.givesField (hidentifiers.fields field hmem).1 (hidentifiers.fields field hmem).2
        (hunresolved field hmem)).flip
    rcases exists_readFields_of_givesField hgives none category declaration.name
      with ⟨shapes, hread, hshapes⟩
    refine ⟨⟨declaration.name, shapes⟩, ?_,
      (toDeclaration_eq_ok_iff _ _ _).mpr ⟨rfl, hidentifiers.name, hshapes⟩⟩
    refine (readMessage_mapping_eq_ok_iff _ _).mpr
      (.withFields hperm hname.textOf?_key ?_ hfields.textOf?_key ?_)
    . rw [hname.2]
      rfl
    . rw [hfields.2]
      exact hread
  | withoutFields hempty hname =>
    refine ⟨⟨declaration.name, []⟩, ?_, ?_⟩
    . refine (readMessage_mapping_eq_ok_iff _ _).mpr (.withoutFields hname.textOf?_key ?_ rfl)
      rw [hname.2]
      rfl
    . refine (toDeclaration_eq_ok_iff _ _ _).mpr ⟨rfl, hidentifiers.name, ?_⟩
      rw [hempty]
      exact .nil

theorem SectionEntry.exists_isSection {schema : Schema} {category : Category} {entry : Entry}
    (h : SectionEntry schema category entry)
    (hdeclarations : ∀ declaration ∈ schema.declarations category,
      declaration.HasIdentifiers ∧ declaration.IsUnresolved) :
    ∃ messages, IsSection entry (category, messages)
      ∧ List.Forall₂ (fun message declaration => toDeclaration category message = .ok declaration)
        messages (schema.declarations category) := by
  rcases h with ⟨items, hentry, hitems⟩
  have hreads : List.Forall₂ (fun item declaration => ∀ place, ∃ message,
      readMessage item place = .ok message
        ∧ toDeclaration category message = .ok declaration) items (schema.declarations category) :=
    (forall₂_imp_of_mem hitems fun declaration hmem _ _ htree _ =>
      htree.exists_readMessage (hdeclarations declaration hmem).1 (hdeclarations declaration hmem).2
        category).flip
  rcases exists_readList_of_forall₂ hreads none with ⟨messages, hread, hmessages⟩
  refine ⟨messages, ⟨hentry.textOf?_key, ?_⟩, hmessages⟩
  rw [hentry.2]
  exact hread

theorem SchemaTree.toSchema_eq_ok {schema : Schema} {tree : Tree} (h : SchemaTree schema tree)
    (hdeclarations : ∀ category, ∀ declaration ∈ schema.declarations category,
      declaration.HasIdentifiers ∧ declaration.IsUnresolved) :
    toSchema tree = .ok schema := by
  cases h with
  | @ofSections categories entries hnodup hothers hentries =>
    have hparts : List.Forall₂ (Relation.Comp IsSection fun part category => part.1 = category
        ∧ List.Forall₂ (fun message declaration => toDeclaration category message = .ok declaration)
          part.2 (schema.declarations category)) entries categories := by
      refine hentries.flip.imp fun entry category hentry => ?_
      rcases SectionEntry.exists_isSection hentry (hdeclarations category)
        with ⟨messages, hsection, hmessages⟩
      exact ⟨(category, messages), hsection, rfl, hmessages⟩
    rcases exists_of_forall₂_comp hparts with ⟨sections, hsections, hcategories⟩
    have hnames : sections.map (·.1) = categories :=
      map_eq_of_forall₂ (hcategories.imp fun _ _ h => h.1)
    rw [← hnames] at hnodup hothers
    refine (toSchema_eq_ok_iff _ _).mpr (.inr ⟨rfl, .ofSections sections,
      (readShape_mapping_eq_ok_iff _ _ _).mpr ⟨sections, hnodup, hsections, rfl⟩, ?_⟩)
    rw [Shape.toSchema_eq_ok_iff]
    intro category
    rw [Shape.messages_ofSections]
    cases hlookup : sections.lookup category with
    | none =>
      rw [hothers category ((lookup_eq_none_iff_notMem _ _).mp hlookup)]
      exact .nil
    | some messages =>
      have hmem := (lookup_eq_some_iff_mem_of_nodup hnodup _ _).mp hlookup
      rcases exists_mem_of_forall₂ hcategories.flip hmem with ⟨_, _, rfl, hmessages⟩
      exact hmessages

end Reading

theorem exists_schemaTree (schema : Schema) : ∃ tree, SchemaTree schema tree := by
  have hfield (field : Field) : ∃ tree, FieldTree field tree :=
    ⟨_, .full (.refl _) (isEntry_entry _ _) (isEntry_entry _ _)⟩
  have hdeclaration (declaration : Declaration) : ∃ tree, DeclarationTree declaration tree := by
    rcases (exists_forall₂_iff _ _).mpr fun field _ => hfield field with ⟨items, hitems⟩
    exact ⟨_, .withFields (.refl _) (isEntry_entry _ _) (isEntry_entry _ _) hitems⟩
  have hsection (category : Category) : ∃ entry, SectionEntry schema category entry := by
    rcases (exists_forall₂_iff _ _).mpr fun declaration _ => hdeclaration declaration
      with ⟨items, hitems⟩
    exact ⟨_, items, isEntry_entry _ _, hitems⟩
  rcases (exists_forall₂_iff _ (Category.struct :: Category.messages)).mpr fun category _ =>
    hsection category with ⟨entries, hentries⟩
  refine ⟨_, .ofSections (by decide) ?_ hentries⟩
  intro category hmissing
  refine absurd ?_ hmissing
  cases category <;> decide

theorem parse_written_schema (schema : Schema) :
    (∃ tree, SchemaTree schema tree)
    ∧ ((∀ category, ∀ declaration ∈ schema.declarations category,
        declaration.HasIdentifiers ∧ declaration.IsUnresolved) →
      ∀ tree, SchemaTree schema tree → toSchema tree = .ok schema
        ∧ ∀ document, isBlank document = false → Stream.ofBytes document = .document tree →
          parse document = .ok schema)
    ∧ ∀ document, parse document = .ok schema →
      ∀ category, ∀ declaration ∈ schema.declarations category, declaration.HasIdentifiers := by
  refine ⟨exists_schemaTree schema, ?_, ?_⟩
  . intro hdeclarations tree htree
    have hschema := htree.toSchema_eq_ok hdeclarations
    refine ⟨hschema, ?_⟩
    intro document hblank hstream
    exact (parse_eq_ok_iff _ _).mpr (.inr ⟨hblank, tree, hstream, hschema⟩)
  . intro document hparse category
    exact hasIdentifiers_of_parse hparse category

def chapterStruct : Declaration :=
  ⟨"Chapter", []⟩

def bookReport : Declaration :=
  ⟨"Book", [⟨"name", ⟨"string", false⟩, none⟩, ⟨"chapters", ⟨"Chapter", true⟩, none⟩]⟩

def bookSchema : Schema :=
  ⟨[chapterStruct], [bookReport], [], []⟩

/--
The schema with its sections and keys out of order and one empty section left out.
-/
def bookTree : Tree :=
  .mapping none
    [entry "reports" (.sequence none [.mapping none
        [entry "fields" (.sequence none
            [.mapping none [⟨quoted "name", some "name", quoted "string"⟩],
              .mapping none [entry "type" (quoted "Chapter[]"), entry "name" (quoted "chapters")]]),
          entry "name" (quoted "Book")]]),
      entry "structs" (.sequence none [.mapping none [entry "name" (quoted "Chapter")]]),
      entry "advances" (.sequence none [])]

def bookDocument : Bytes :=
  ("reports:\n- fields:\n  - \"name\": \"string\"\n  - type: \"Chapter[]\"\n    name: \"chapters\"\n" ++
    "  name: \"Book\"\nstructs:\n- name: \"Chapter\"\nadvances: []\n").toUTF8.data.toList

theorem hasIdentifiers_bookSchema (category : Category) :
    ∀ declaration ∈ bookSchema.declarations category,
      declaration.HasIdentifiers ∧ declaration.IsUnresolved := by
  have hchapter : chapterStruct.HasIdentifiers ∧ chapterStruct.IsUnresolved :=
    ⟨⟨by decide, by decide⟩, by simp [Declaration.IsUnresolved, chapterStruct]⟩
  have hbook : bookReport.HasIdentifiers ∧ bookReport.IsUnresolved :=
    ⟨⟨by decide, by decide⟩, by simp [Declaration.IsUnresolved, bookReport]⟩
  cases category with
  | struct => simpa [bookSchema, declarations] using hchapter
  | report => simpa [bookSchema, declarations] using hbook
  | _ => simp [bookSchema, declarations]

theorem schemaTree_bookTree : SchemaTree bookSchema bookTree := by
  have hname : FieldTree ⟨"name", ⟨"string", false⟩, none⟩
      (.mapping none [⟨quoted "name", some "name", quoted "string"⟩]) :=
    .short rfl rfl
  have hchapters : FieldTree ⟨"chapters", ⟨"Chapter", true⟩, none⟩
      (.mapping none [entry "type" (quoted "Chapter[]"), entry "name" (quoted "chapters")]) :=
    .full (.swap _ _ _) (isEntry_entry _ _) (isEntry_entry _ _)
  have hbook : DeclarationTree bookReport _ :=
    .withFields (.swap _ _ _) (isEntry_entry _ _) (isEntry_entry _ _)
      (.cons hname (.cons hchapters .nil))
  have hchapter : DeclarationTree chapterStruct _ :=
    .withoutFields rfl (isEntry_entry _ _)
  have hreports : SectionEntry bookSchema .report _ := ⟨_, isEntry_entry _ _, .cons hbook .nil⟩
  have hstructs : SectionEntry bookSchema .struct _ := ⟨_, isEntry_entry _ _, .cons hchapter .nil⟩
  have hadvances : SectionEntry bookSchema .advance _ := ⟨_, isEntry_entry _ _, .nil⟩
  refine .ofSections ?_ ?_ (.cons hreports (.cons hstructs (.cons hadvances .nil)))
  . decide
  . intro category hmissing
    cases category with
    | inspect => rfl
    | _ => simp at hmissing

theorem parse_written_schema_book :
    (∀ category, ∀ declaration ∈ bookSchema.declarations category,
        declaration.HasIdentifiers ∧ declaration.IsUnresolved)
      ∧ SchemaTree bookSchema bookTree ∧ toSchema bookTree = .ok bookSchema
      ∧ isBlank bookDocument = false ∧ Stream.ofBytes bookDocument = .document bookTree
      ∧ parse bookDocument = .ok bookSchema
      ∧ ∀ declaration ∈ bookSchema.declarations .report, declaration.HasIdentifiers := by
  have hblank : isBlank bookDocument = false := by
    decide +kernel
  have hstream : Stream.ofBytes bookDocument = .document bookTree := by
    decide +kernel
  rcases parse_written_schema bookSchema with ⟨_, hread, hback⟩
  rcases hread hasIdentifiers_bookSchema bookTree schemaTree_bookTree with ⟨hschema, hparse⟩
  have hbook := hparse bookDocument hblank hstream
  exact ⟨hasIdentifiers_bookSchema, schemaTree_bookTree, hschema, hblank, hstream, hbook,
    hback bookDocument hbook .report⟩

end Document

end MessageAbi.Schema
