import MessageAbi.Schema.Basic
import MessageAbi.Schema.Document.Shape

/-!
This module contains the schemas of document trees: the names and type expressions of a document's
shape are checked, and types stay unresolved.
-/

namespace MessageAbi.Schema

inductive ParseError where
  | document (fault : Option Document.Fault)
  | messageName (category : Category) (source : IdentifierError)
  | fieldShape (category : Category) (declaration : String)
  | fieldName (category : Category) (declaration : String) (source : IdentifierError)
  | fieldType (category : Category) (declaration field : String) (source : TypeSyntaxError)
  deriving DecidableEq, Repr

def ParseError.message : ParseError → String
  | document none => "malformed document"
  | document (some fault) => "malformed document: " ++ fault.text
  | messageName category source => s!"{category.name} name: {source.message}"
  | fieldShape category declaration =>
    s!"{category.name} {declaration}: a field is either \x7bname, type\x7d or a single " ++
      "\x7bname: type\x7d entry"
  | fieldName category declaration source =>
    s!"{category.name} {declaration}: field name: {source.message}"
  | fieldType category declaration field source =>
    s!"{category.name} {declaration}: field {field}: {source.message}"

namespace Document

/--
The entries of a mapping after the last of equal keys has won.
-/
def collapse (entries : List (String × String)) : List (String × String) :=
  entries.foldl (fun found (key, value) =>
    found.filter (·.1 != key) ++ [(key, value)]) []

def FieldShape.entry? : FieldShape → Option (String × String)
  | full name type => some (name, type)
  | short entries =>
    match collapse entries with
    | [entry] => some entry
    | _ => none

def toField (category : Category) (declaration : String) (shape : FieldShape) :
    Except ParseError Field := do
  let some (name, type) := shape.entry? | throw (.fieldShape category declaration)
  match checkIdentifier name with
  | .error source => throw (.fieldName category declaration source)
  | .ok _ =>
    match TypeExpr.parse type with
    | .error source => throw (.fieldType category declaration name source)
    | .ok type => return ⟨name, type, none⟩

def toDeclaration (category : Category) (shape : MessageShape) :
    Except ParseError Declaration := do
  match checkIdentifier shape.name with
  | .error source => throw (.messageName category source)
  | .ok _ => return ⟨shape.name, ← shape.fields.mapM (toField category shape.name)⟩

def Shape.toSchema (shape : Shape) : Except ParseError Schema := do
  let structs ← shape.structs.mapM (toDeclaration .struct)
  let reports ← shape.reports.mapM (toDeclaration .report)
  let advances ← shape.advances.mapM (toDeclaration .advance)
  let inspects ← shape.inspects.mapM (toDeclaration .inspect)
  return ⟨structs, reports, advances, inspects⟩

/--
The schema of a document tree. A null document is the empty schema. A fault is only described if the
document is plain data.
-/
def toSchema (tree : Yaml.Tree) : Except ParseError Schema := do
  let shape : Except Fault (Option Shape) := do
    if ← isNull tree then return none else return some (← readShape tree)
  match shape with
  | .ok none => return .empty
  | .ok (some shape) => shape.toSchema
  | .error fault =>
    throw (.document (if (Yaml.Datum.ofTree? tree).isSome then some fault else none))

end Document

end MessageAbi.Schema
