import MessageAbi.AbiDocument
import MessageAbi.Bindings.Identifier
import MessageAbi.Bindings.Native

/-!
This module contains typed bindings: what is generated for a schema's structs and messages, before
it is written as code. Structs are referred to by their identifiers, as the code does.
-/

namespace MessageAbi

namespace Bindings

inductive TypeTerm where
  | bool
  | uint (bits : Nat)
  | int (bits : Nat)
  | address
  | bytes
  | string
  | array (element : TypeTerm)
  | struct (ident : String)
  deriving DecidableEq, Repr

structure FieldBinding where
  name : String
  ident : String
  native : NativeType
  type : TypeTerm

structure StructBinding where
  name : String
  ident : String
  fields : List FieldBinding

def StructBinding.nativeType (struct : StructBinding) : NativeType :=
  .record struct.ident (struct.fields.map (·.native))

structure MessageBinding where
  category : Category
  name : String
  ident : String
  method : Option String
  signature : String
  selector : Selector
  fields : List FieldBinding

def generatedTypes : List String :=
  ["Message", "AdvanceHandler", "InspectHandler"]

def nativeInteger (isSigned : Bool) (bits : Nat) : NativeType :=
  match Width.holding? bits with
  | some width => if isSigned then .signed width else .unsigned width
  | none => if isSigned then .wideSigned else .wideUnsigned

def nativeType? (structs : List StructBinding) : Schema.ResolvedType → Option NativeType
  | .bool => some .bool
  | .uint bits => some (nativeInteger false bits)
  | .int bits => some (nativeInteger true bits)
  | .address => some .address
  | .bytes => some .bytes
  | .string => some .string
  | .array element => (nativeType? structs element).map .list
  | .struct index => structs[index]?.map (·.nativeType)

def typeTerm? (structs : List StructBinding) : Schema.ResolvedType → Option TypeTerm
  | .bool => some .bool
  | .uint bits => some (.uint bits)
  | .int bits => some (.int bits)
  | .address => some .address
  | .bytes => some .bytes
  | .string => some .string
  | .array element => (typeTerm? structs element).map .array
  | .struct index => structs[index]?.map fun struct => .struct struct.ident

/--
The bindings under construction: those made so far, and what each identifier of a type was made
from.
-/
structure Builder where
  typeNames : List (String × String)
  structs : List StructBinding
  messages : List MessageBinding

namespace Builder

def start : Builder :=
  ⟨generatedTypes.map fun name => (name, "generated " ++ name), [], []⟩

def claimType (builder : Builder) (name : String) :
    Except GenerationError (String × Builder) := do
  let ident ← toIdentifier (Text.pascalCase name)
  match builder.typeNames.lookup ident with
  | some first => throw (.identifierClash ident first name)
  | none => return (ident, { builder with typeNames := (ident, name) :: builder.typeNames })

/--
The identifiers of fields in order. `seen` gives the field names of the identifiers before them.
-/
def fieldIdents (declaration : String) :
    (seen : List (String × String)) → List Schema.Field → Except GenerationError (List String)
  | _, [] => .ok []
  | seen, field :: fields => do
    let ident ← toIdentifier (Text.snakeCase field.name)
    if let some first := seen.lookup ident then
      throw (.identifierClash ident s!"{declaration}.{first}" s!"{declaration}.{field.name}")
    let rest ← fieldIdents declaration ((ident, field.name) :: seen) fields
    return ident :: rest

def field (builder : Builder) (ident : String) (field : Schema.Field) :
    Except GenerationError FieldBinding := do
  let some resolved := field.resolved | throw .unresolved
  let some native := nativeType? builder.structs resolved | throw .unresolved
  let some type := typeTerm? builder.structs resolved | throw .unresolved
  return ⟨field.name, ident, native, type⟩

def fields (builder : Builder) (declaration : Schema.Declaration) :
    Except GenerationError (List FieldBinding) := do
  let idents ← fieldIdents declaration.name [] declaration.fields
  (idents.zip declaration.fields).mapM fun (ident, field) => builder.field ident field

def addStruct (builder : Builder) (declaration : Schema.Declaration) :
    Except GenerationError Builder := do
  let (ident, builder) ← builder.claimType declaration.name
  let fields ← builder.fields declaration
  return { builder with structs := builder.structs ++ [⟨declaration.name, ident, fields⟩] }

def addMessage (builder : Builder) (category : Category) (declaration : Schema.Declaration)
    (spec : MessageSpec) : Except GenerationError Builder := do
  let (ident, builder) ← builder.claimType declaration.name
  let fields ← builder.fields declaration
  let method ← match category with
    | .advance | .inspect => some <$> toIdentifier (Text.snakeCase declaration.name)
    | .report | .struct => pure none
  return { builder with
    messages := builder.messages ++
      [⟨category, declaration.name, ident, method, spec.signature, spec.selector, fields⟩] }

end Builder

end Bindings

/--
The bindings of a schema: its structs and messages in schema order, and the text of its ABI
document.
-/
structure Bindings where
  structs : List Bindings.StructBinding
  messages : List Bindings.MessageBinding
  abiJson : String

namespace Bindings

def ofSchema (schema : Schema) : Except GenerationError Bindings := do
  let compiled ← schema.compile
  let builder ← schema.structs.foldlM Builder.addStruct Builder.start
  let messages := schema.messages.zip compiled.messages
  let builder ← messages.foldlM (fun builder ((category, declaration), (_, spec)) =>
    builder.addMessage category declaration spec) builder
  return ⟨builder.structs, builder.messages, compiled.abiDocument.pretty⟩

def messagesOf (bindings : Bindings) (category : Category) : List MessageBinding :=
  bindings.messages.filter (·.category = category)

end Bindings

end MessageAbi
