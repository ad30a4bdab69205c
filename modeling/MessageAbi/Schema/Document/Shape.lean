import MessageAbi.Category
import MessageAbi.Schema.Document.Fault

/-!
This module contains the shapes of schema documents: which sections, messages and fields a document
tree gives, before their names and types are looked at.
-/

namespace MessageAbi.Schema.Document

open Yaml

def found (tree : Tree) : Option Found :=
  match tree with
  | .scalar s => (ScalarValue.ofScalar? s).map .scalar
  | .sequence .. => some .sequence
  | .mapping .. => some .mapping

def unexpected {α : Type} (tree : Tree) (expected : String) (path : Path) : Except Fault α :=
  match found tree with
  | some found => .error ⟨path, .unexpected found expected⟩
  | none => .error ⟨path, .falseTag⟩

def isAbsent : Tree → Bool
  | .scalar s => s.isPlain && s.text.isEmpty
  | _ => false

def readString (tree : Tree) (expected : String) (path : Path) : Except Fault String :=
  match tree with
  | .scalar s => .ok s.text
  | _ => unexpected tree expected path

def readList {α : Type} (read : Tree → Path → Except Fault α) (tree : Tree) (path : Path) :
    Except Fault (List α) :=
  match tree with
  | .sequence _ items => go 0 items
  | _ => if isAbsent tree then .ok [] else unexpected tree "a sequence" path
where
  go (index : Nat) : List Tree → Except Fault (List α)
    | [] => .ok []
    | item :: items => do
      let first ← read item (path ++ [.item index])
      let rest ← go (index + 1) items
      return first :: rest

def readEntries (tree : Tree) (expected : String) (path : Path) : Except Fault (List Entry) :=
  match tree with
  | .mapping _ entries => .ok entries
  | _ => if isAbsent tree then .ok [] else unexpected tree expected path

/--
A field as written: with the keys `name` and `type`, or as some entries from a name to a type.
-/
inductive FieldShape where
  | full (name type : String)
  | short (entries : List (String × String))
  deriving DecidableEq, Repr

structure MessageShape where
  name : String
  fields : List FieldShape
  deriving DecidableEq, Repr

structure Shape where
  structs : List MessageShape
  reports : List MessageShape
  advances : List MessageShape
  inspects : List MessageShape
  deriving DecidableEq, Repr

/--
The typed content of the tree of a field, as far as it is needed to tell the shapes apart.
-/
inductive Content where
  | scalar (value : ScalarValue)
  | sequence
  | mapping (entries : List (Content × Content))

mutual

def readContent : Tree → Path → Except Fault Content
  | .scalar s, path =>
    if (localTag? s.tag).isSome then .error ⟨path, .taggedField⟩
    else
      match ScalarValue.ofScalar? s with
      | some value => .ok (.scalar value)
      | none => .error ⟨path, .falseTag⟩
  | .sequence tag items, path =>
    if (localTag? tag).isSome then .error ⟨path, .taggedField⟩
    else do
      checkItems items 0 path
      return .sequence
  | .mapping tag entries, path =>
    if (localTag? tag).isSome then .error ⟨path, .taggedField⟩
    else return .mapping (← readContents entries path)

def checkItems : List Tree → (index : Nat) → Path → Except Fault Unit
  | [], _, _ => .ok ()
  | item :: items, index, path => do
    let _ ← readContent item (path ++ [.item index])
    checkItems items (index + 1) path

def readContents : List Entry → Path → Except Fault (List (Content × Content))
  | [], _ => .ok []
  | ⟨key, label, value⟩ :: entries, path => do
    let key ← readContent key path
    let value ← readContent value (path ++ [.key label])
    let rest ← readContents entries path
    return (key, value) :: rest

end

def Content.string? : Content → Option String
  | scalar (.string s) => some s
  | _ => none

/--
Whether a key means `name` (`false`) or `type` (`true`): by its text, or as the number of its place.
-/
def Content.fieldKey? : Content → Option Bool
  | scalar (.string "name") => some false
  | scalar (.string "type") => some true
  | scalar (.integer 0) => some false
  | scalar (.integer 1) => some true
  | _ => none

/--
The full shape: the keys `name` and `type` and no other, each once, with strings.
-/
def fullShape? (entries : List (Content × Content)) : Option FieldShape :=
  go none none entries
where
  go : (name type : Option String) → List (Content × Content) → Option FieldShape
    | some name, some type, [] => some (.full name type)
    | _, _, [] => none
    | name, type, (key, value) :: entries =>
      match key.fieldKey?, value.string? with
      | some false, some s => if name.isSome then none else go (some s) type entries
      | some true, some s => if type.isSome then none else go name (some s) entries
      | _, _ => none

def shortShape? (entries : List (Content × Content)) : Option FieldShape :=
  (entries.mapM fun ((key, value) : Content × Content) => do
    return (← key.string?, ← value.string?)).map .short

def fieldShape? : Content → Option FieldShape
  | .mapping entries => (fullShape? entries).or (shortShape? entries)
  | _ => none

/--
Reads the fields of a message. A field without a shape is reported at the list it is in.
-/
def readFields (tree : Tree) (path : Path) : Except Fault (List FieldShape) :=
  readList (fun item itemPath => do
    match fieldShape? (← readContent item itemPath) with
    | some shape => return shape
    | none => throw ⟨path, .noFieldShape⟩) tree path

def readKey (key : Tree) (path : Path) : Except Fault String :=
  readString key "field identifier" path

def readMessage (tree : Tree) (path : Path) : Except Fault MessageShape := do
  let entries ← readEntries tree "struct MessageDocument" path
  go none none entries
where
  go : (name : Option String) → (fields : Option (List FieldShape)) → List Entry →
      Except Fault MessageShape
    | name, fields, [] =>
      match name with
      | some name => .ok ⟨name, fields.getD []⟩
      | none => .error ⟨path, .missingName⟩
    | name, fields, ⟨key, label, value⟩ :: entries => do
      match ← readKey key path with
      | "name" =>
        if name.isSome then throw ⟨path, .repeatedKey "name"⟩
        let s ← readString value "a string" (path ++ [.key label])
        go (some s) fields entries
      | "fields" =>
        if fields.isSome then throw ⟨path, .repeatedKey "fields"⟩
        let shapes ← readFields value (path ++ [.key label])
        go name (some shapes) entries
      | other => throw ⟨path, .unknownKey other "\x60name\x60 or \x60fields\x60"⟩

def sectionOf? (name : String) : Option Category :=
  [Category.struct, .report, .advance, .inspect].find? (·.sectionName == name)

abbrev Sections := List (Category × List MessageShape)

def Shape.ofSections (sections : Sections) : Shape :=
  let of (category : Category) := (sections.lookup category).getD []
  ⟨of .struct, of .report, of .advance, of .inspect⟩

def readShape (tree : Tree) : Except Fault Shape := do
  let entries ← readEntries tree "struct Document" []
  return .ofSections (← go [] entries)
where
  go : Sections → List Entry → Except Fault Sections
    | sections, [] => .ok sections
    | sections, ⟨key, label, value⟩ :: entries => do
      let name ← readKey key []
      match sectionOf? name with
      | some category =>
        if (sections.lookup category).isSome then throw ⟨[], .repeatedKey name⟩
        let messages ← readList readMessage value [.key label]
        go (sections ++ [(category, messages)]) entries
      | none =>
        throw ⟨[], .unknownKey name
          "one of \x60structs\x60, \x60reports\x60, \x60advances\x60, \x60inspects\x60"⟩

/--
Whether a document is null: a plain scalar without a tag that is empty or says so, or one that has
the tag of null.
-/
def isNull : Tree → Except Fault Bool
  | .scalar s =>
    if !s.isPlain then .ok false
    else
      match s.tag with
      | none => .ok (s.text.isEmpty || (ScalarValue.null? s.text).isSome)
      | some "tag:yaml.org,2002:null" =>
        if (ScalarValue.null? s.text).isSome then .ok true else .error ⟨[], .falseTag⟩
      | some _ => .ok false
  | _ => .ok false

end MessageAbi.Schema.Document
