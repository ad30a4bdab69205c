import MessageAbi.Registry
import MessageAbi.Schema.Basic

/-!
This module contains what an analyzed schema means: the ABI types of its structs, the specs of its
messages and the registry of them.
-/

namespace MessageAbi

inductive GenerationError where
  | unresolved
  | registry (error : AbiError)
  | identifierClash (identifier first second : String)
  | invalidModuleName (name : String)
  | invalidIdentifier (name : String)
  deriving DecidableEq

def GenerationError.message : GenerationError → String
  | unresolved => "unresolved field type"
  | registry error => error.message
  | identifierClash identifier first second =>
    s!"{first} and {second} both map to the identifier {identifier}"
  | invalidModuleName name => "invalid module name " ++ Text.quoted name
  | invalidIdentifier name => "invalid identifier " ++ Text.quoted name

namespace Schema

def ResolvedType.abiType? (structs : List AbiType) : ResolvedType → Option AbiType
  | bool => some .bool
  | uint bits => some (.uint bits)
  | int bits => some (.int bits)
  | address => some .address
  | bytes => some .bytes
  | string => some .string
  | array element => (element.abiType? structs).map .array
  | struct index => structs[index]?

def Declaration.params? (structs : List AbiType) (declaration : Declaration) :
    Option (List Param) :=
  declaration.fields.mapM fun field => do
    let resolved ← field.resolved
    let type ← resolved.abiType? structs
    return ⟨field.name, type⟩

def structTypes? (structs : List Declaration) : Option (List AbiType) :=
  structs.foldlM (fun types declaration => do
    let components ← declaration.params? types
    return types ++ [.tuple declaration.name components]) []

/--
A schema with all its types expanded and its messages registered.
-/
structure Compiled where
  structTypes : List AbiType
  messages : List (Category × MessageSpec)
  registry : Registry

namespace Compiled

def addMessage (compiled : Compiled) (category : Category) (declaration : Declaration) :
    Except GenerationError Compiled := do
  let some params := declaration.params? compiled.structTypes | throw .unresolved
  let spec : MessageSpec := ⟨declaration.name, params⟩
  match compiled.registry.register spec with
  | .ok registry =>
    return { compiled with messages := compiled.messages ++ [(category, spec)], registry }
  | .error error => throw (.registry error)

end Compiled

def compile (schema : Schema) : Except GenerationError Compiled := do
  let some structTypes := structTypes? schema.structs | throw .unresolved
  schema.messages.foldlM (fun compiled (category, declaration) =>
    compiled.addMessage category declaration) ⟨structTypes, [], Registry.empty⟩

end Schema

end MessageAbi
