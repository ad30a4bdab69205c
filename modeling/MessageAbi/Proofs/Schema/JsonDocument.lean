import Mathlib
import MessageAbi.Proofs.Numeral
import MessageAbi.Proofs.Schema.Writing
import MessageAbi.Proofs.Text.CaseWords
import MessageAbi.Proofs.Yaml.Datum
import MessageAbi.Proofs.Yaml.JsonDocument

/-!
This module contains the JSON of a schema, and that its text is a document of the schema.
-/

namespace MessageAbi.Schema

open Yaml

def Field.toJson (field : Field) : Json :=
  .object [("name", .string field.name), ("type", .string field.type.text)]

def Declaration.toJson (declaration : Declaration) : Json :=
  .object [("name", .string declaration.name),
    ("fields", .array (declaration.fields.map Field.toJson))]

def sections : List Category :=
  .struct :: Category.messages

def toJson (schema : Schema) : Json :=
  .object (sections.map fun category =>
    (category.sectionName, .array ((schema.declarations category).map Declaration.toJson)))

section Text

theorem inLine_of_escape {c : Char} (h : Json.escape c = [c]) (hallowed : isAllowed c = true)
    (hbreak : isBreak c = false) : InLine c := by
  intro d hd
  rw [h, List.mem_singleton] at hd
  rw [hd]
  exact ⟨hallowed, hbreak⟩

theorem inLine_of_isAlphanum {c : Char} (h : c.isAlphanum = true) : InLine c := by
  have hascii : ∀ n < 0x80, (Char.ofNat n).isAlphanum = true →
      Json.escape (Char.ofNat n) = [Char.ofNat n] ∧ isAllowed (Char.ofNat n) = true
        ∧ isBreak (Char.ofNat n) = false := by
    decide +kernel
  rcases Text.exists_ofNat_of_isAlphanum h with ⟨n, hn, rfl⟩
  rcases hascii n hn h with ⟨hescape, hallowed, hbreak⟩
  exact inLine_of_escape hescape hallowed hbreak

theorem inLine_of_checkIdentifier {text : String} (h : checkIdentifier text = .ok ()) :
    ∀ c ∈ text.toList, InLine c :=
  fun c hc => inLine_of_isAlphanum (isAlphanum_of_checkIdentifier h c hc)

theorem inLine_text {type : TypeExpr} (h : checkIdentifier type.base = .ok ()) :
    ∀ c ∈ type.text.toList, InLine c := by
  intro c hc
  rw [TypeExpr.text, String.toList_append, List.mem_append] at hc
  rcases hc with hbase | hsuffix
  . exact inLine_of_checkIdentifier h c hbase
  . have hbracket : c = '[' ∨ c = ']' := by
      split at hsuffix
      next => simpa using hsuffix
      next => contradiction
    rcases hbracket with rfl | rfl <;> exact inLine_of_escape (by decide) (by decide) (by decide)

/--
The names of members in the JSON of schemas.
-/
def memberNames : List String :=
  ["name", "type", "fields"] ++ sections.map Category.sectionName

theorem inLine_memberName (name : String) (h : name ∈ memberNames) :
    (∀ c ∈ name.toList, InLine c) ∧ (Json.quote name).length ≤ 1024 := by
  have hnames : ∀ name ∈ memberNames,
      name.toList.all Char.isAlphanum = true ∧ (Json.quote name).length ≤ 1024 := by
    decide
  rcases hnames name h with ⟨halphanum, hlength⟩
  exact ⟨fun c hc => inLine_of_isAlphanum (List.all_eq_true.mp halphanum c hc), hlength⟩

theorem Field.ofStrings_toJson {field : Field} (hname : checkIdentifier field.name = .ok ())
    (htype : checkIdentifier field.type.base = .ok ()) (depth : Nat) :
    OfStrings (depth + 1) field.toJson := by
  refine .object ?_ ?_
  . rw [List.forall_mem_cons, List.forall_mem_singleton]
    exact ⟨inLine_memberName "name" (by decide), inLine_memberName "type" (by decide)⟩
  . rw [List.forall_mem_cons, List.forall_mem_singleton]
    exact ⟨.string (inLine_of_checkIdentifier hname), .string (inLine_text htype)⟩

theorem Declaration.ofStrings_toJson {declaration : Declaration}
    (h : declaration.HasIdentifiers) (depth : Nat) : OfStrings (depth + 3) declaration.toJson := by
  refine .object ?_ ?_
  . rw [List.forall_mem_cons, List.forall_mem_singleton]
    exact ⟨inLine_memberName "name" (by decide), inLine_memberName "fields" (by decide)⟩
  . rw [List.forall_mem_cons, List.forall_mem_singleton]
    refine ⟨.string (inLine_of_checkIdentifier h.name), .array ?_⟩
    rw [List.forall_mem_map]
    exact fun field hfield =>
      Field.ofStrings_toJson (h.fields field hfield).1 (h.fields field hfield).2 depth

theorem ofStrings_toJson {schema : Schema} (h : ∀ category,
      ∀ declaration ∈ schema.declarations category, declaration.HasIdentifiers) (depth : Nat) :
    OfStrings (depth + 5) schema.toJson := by
  refine .object ?_ ?_
  . rw [List.forall_mem_map]
    intro category hcategory
    apply inLine_memberName
    exact List.mem_append_right _ (List.mem_map_of_mem hcategory)
  . rw [List.forall_mem_map]
    intro category _
    refine .array ?_
    rw [List.forall_mem_map]
    exact fun declaration hdeclaration =>
      Declaration.ofStrings_toJson (h category declaration hdeclaration) depth

end Text

namespace Document

section Trees

theorem isEntry_quoted (key : String) (value : Tree) :
    IsEntry key value ⟨quoted key, some key, value⟩ :=
  ⟨⟨false, rfl⟩, rfl⟩

theorem fieldTree_toJson (field : Field) : FieldTree field (treeOf field.toJson) :=
  .full (.refl _) (isEntry_quoted _ _) (isEntry_quoted _ _)

theorem declarationTree_toJson (declaration : Declaration) :
    DeclarationTree declaration (treeOf declaration.toJson) := by
  refine .withFields (.refl _) (isEntry_quoted _ _) (isEntry_quoted _ _) ?_
  rw [Tree.itemTrees_eq_map, List.map_map, List.forall₂_map_right_iff, List.forall₂_same]
  exact fun field _ => fieldTree_toJson field

theorem schemaTree_toJson (schema : Schema) : SchemaTree schema (treeOf schema.toJson) := by
  rw [toJson, treeOf, Tree.memberEntries_eq_map, List.map_map]
  have hnodup : sections.Nodup := by decide
  refine .ofSections hnodup ?_ ?_
  . intro category hmissing
    refine absurd ?_ hmissing
    cases category <;> decide
  . rw [List.forall₂_map_right_iff, List.forall₂_same]
    intro category _
    refine ⟨_, isEntry_quoted _ _, ?_⟩
    rw [Tree.itemTrees_eq_map, List.map_map, List.forall₂_map_right_iff, List.forall₂_same]
    exact fun declaration _ => declarationTree_toJson declaration

end Trees

section Blank

theorem trim_cons {c : Char} (hc : Text.isBlank c = false) (text : List Char) :
    ∃ more, Text.trim (c :: text) = c :: more := by
  have hdrop : (c :: text).dropWhile Text.isBlank = c :: text :=
    List.dropWhile_cons_of_neg (by simp [hc])
  have hlast : [c].dropWhile Text.isBlank = [c] :=
    List.dropWhile_cons_of_neg (by simp [hc])
  rw [Text.trim, hdrop, List.reverse_cons, List.dropWhile_append, hlast]
  split
  next => exact ⟨[], rfl⟩
  next => exact ⟨_, List.reverse_concat⟩

theorem isBlank_brace (bytes : Bytes) : isBlank (0x7b :: bytes) = false := by
  have hfirst : lossyChars.decodeOne? [0x7b] = some ('\x7b', 1) := by
    decide +kernel
  have hchars (fuel : Nat) :
      lossyChars (fuel + 1) (0x7b :: bytes) = '\x7b' :: lossyChars fuel bytes := by
    rw [lossyChars]
    simp [hfirst]
  unfold isBlank
  rw [hchars, List.splitOnP_cons_eq_if_modifyHead]
  cases h : (lossyChars (0x7b :: bytes).length bytes).splitOnP (· == '\n') with
  | nil => exact absurd h (List.splitOnP_ne_nil _ _)
  | cons line lines =>
    rcases trim_cons (show Text.isBlank '\x7b' = false by decide) line with ⟨more, hmore⟩
    simp [hmore]

theorem isBlank_compact (members : List (String × Json)) :
    isBlank (Json.object members).compact.toUTF8.data.toList = false := by
  have hbrace : String.utf8EncodeChar '\x7b' = [0x7b] := by decide
  rw [Hex.toList_toUTF8, Scanner.toList_compact_object, List.flatMap_cons, hbrace]
  exact isBlank_brace _

end Blank

theorem parse_compact {members : List (String × Json)}
    (h : OfStrings Tree.maxDepth (.object members)) :
    parse (Json.object members).compact.toUTF8.data.toList = toSchema (treeOf (.object members)) := by
  unfold parse
  rw [isBlank_compact, Stream.ofBytes_compact h]
  rfl

/--
The text of the JSON of a schema is a document of the schema.
-/
theorem parse_toJson {schema : Schema} (h : ∀ category,
      ∀ declaration ∈ schema.declarations category,
        declaration.HasIdentifiers ∧ declaration.IsUnresolved) :
    parse schema.toJson.compact.toUTF8.data.toList = .ok schema := by
  have hstrings := ofStrings_toJson (fun category declaration hmem =>
    (h category declaration hmem).1) 123
  exact (parse_compact hstrings).trans ((schemaTree_toJson schema).toSchema_eq_ok h)

/--
Whatever is wrong with the shape of JSON as a schema is reported with its place.
-/
theorem parse_compact_eq_error {members : List (String × Json)} {depth : Nat} {fault : Fault}
    (h : OfStrings Tree.maxDepth (.object members)) (hreadable : (Json.object members).Readable depth)
    (hfault : readShape (treeOf (.object members)) = .error fault) :
    parse (Json.object members).compact.toUTF8.data.toList = .error (.document (some fault)) := by
  have hdata := Datum.ofTree?_treeOf h hreadable
  rw [parse_compact h]
  unfold toSchema
  rw [hfault, hdata]
  rfl

end Document

end MessageAbi.Schema
