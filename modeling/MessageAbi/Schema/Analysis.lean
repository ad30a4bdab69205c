import MessageAbi.Schema.Builtin

/-!
This module contains the semantic analysis of schemas: names are told apart and every field's type
is resolved. Structs come first, in order, each against the structs before it, so no struct refers
to itself or to a later one; messages see all structs.
-/

namespace MessageAbi.Schema

inductive SemanticError where
  | duplicateStruct (name : String)
  | nameCollision (category : Category) (name : String)
  | duplicateMessage (category : Category) (name : String)
  | duplicateField (category : Category) (declaration field : String)
  | emptyStruct (name : String)
  | unknownType (category : Category) (declaration field type : String)
  | noMessages
  deriving DecidableEq, Repr

def SemanticError.message : SemanticError → String
  | duplicateStruct name => s!"duplicate struct {name}"
  | nameCollision category name =>
    s!"{category.name} {name}: name collides with struct {name}"
  | duplicateMessage category name =>
    s!"{category.name} {name}: name already taken by another message"
  | duplicateField category declaration field =>
    s!"{category.name} {declaration}: duplicate field {field}"
  | emptyStruct name => s!"struct {name}: a struct must have at least one field"
  | unknownType category declaration field type =>
    s!"{category.name} {declaration}: field {field}: type not found: {type}"
  | noMessages => "schema declares no reports, advances or inspects"

inductive EmptySchemaPolicy where
  | deny
  | warn
  | allow
  deriving DecidableEq, Repr

namespace Analysis

abbrev StructTable := List (String × Nat)

/--
What a type expression stands for. The basic types win over structs.
-/
def resolve? (structs : StructTable) (type : TypeExpr) : Option ResolvedType :=
  let element? :=
    match builtin? type.base with
    | some basic => some basic
    | none => (structs.lookup type.base).map .struct
  element?.map fun element => if type.isArray then .array element else element

def resolveFields (category : Category) (declaration : String) (structs : StructTable) :
    (seen : List String) → List Field → Except SemanticError (List Field)
  | _, [] => .ok []
  | seen, field :: fields => do
    if seen.contains field.name then
      throw (.duplicateField category declaration field.name)
    let some resolved := resolve? structs field.type
      | throw (.unknownType category declaration field.name field.type.base)
    let rest ← resolveFields category declaration structs (field.name :: seen) fields
    return { field with resolved := some resolved } :: rest

def resolveDeclaration (category : Category) (structs : StructTable) (declaration : Declaration) :
    Except SemanticError Declaration := do
  let fields ← resolveFields category declaration.name structs [] declaration.fields
  return { declaration with fields }

def resolveStructs (structs : StructTable) :
    List Declaration → Except SemanticError (List Declaration × StructTable)
  | [] => .ok ([], structs)
  | declaration :: declarations => do
    if (structs.lookup declaration.name).isSome then
      throw (.duplicateStruct declaration.name)
    if declaration.fields.isEmpty then
      throw (.emptyStruct declaration.name)
    let resolved ← resolveDeclaration .struct structs declaration
    let structs := structs ++ [(declaration.name, structs.length)]
    let (rest, table) ← resolveStructs structs declarations
    return (resolved :: rest, table)

/--
Resolves the messages of a category. `taken` are the names of the messages before them; the names
of all messages so far are given back.
-/
def resolveMessages (category : Category) (structs : StructTable) :
    (taken : List String) → List Declaration →
      Except SemanticError (List Declaration × List String)
  | taken, [] => .ok ([], taken)
  | taken, declaration :: declarations => do
    if (structs.lookup declaration.name).isSome then
      throw (.nameCollision category declaration.name)
    if taken.contains declaration.name then
      throw (.duplicateMessage category declaration.name)
    let resolved ← resolveDeclaration category structs declaration
    let (rest, taken) ←
      resolveMessages category structs (declaration.name :: taken) declarations
    return (resolved :: rest, taken)

end Analysis

open Analysis in
/--
Resolves every field of a schema, or gives its first error.
-/
def analyze (schema : Schema) (policy : EmptySchemaPolicy) : Except SemanticError Schema := do
  let (structs, table) ← resolveStructs [] schema.structs
  let (reports, taken) ← resolveMessages .report table [] schema.reports
  let (advances, taken) ← resolveMessages .advance table taken schema.advances
  let (inspects, _) ← resolveMessages .inspect table taken schema.inspects
  if schema.messageCount = 0 ∧ policy = .deny then
    throw .noMessages
  return ⟨structs, reports, advances, inspects⟩

end MessageAbi.Schema
