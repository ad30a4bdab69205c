import MessageAbi.Json.Writer
import MessageAbi.Schema.Compiled

/-!
This module contains the contract ABI document: one function for each message, with a description
of its arguments. A struct shows up only as the tuple of the arguments that use it.
-/

namespace MessageAbi

namespace AbiDocument

structure Argument where
  name : String
  type : String
  internalType : String
  components : Option (List Argument)

mutual

def componentsOf : AbiType → Option (List Argument)
  | .tuple _ components => some (ofParams components)
  | .array element => componentsOf element
  | _ => none

def ofParams : List Param → List Argument
  | [] => []
  | ⟨name, type⟩ :: params =>
    ⟨name, type.jsonType, type.internalType, componentsOf type⟩ :: ofParams params

end

structure Function where
  name : String
  inputs : List Argument

def Function.ofSpec (spec : MessageSpec) : Function :=
  ⟨spec.name, ofParams spec.params⟩

mutual

def Argument.toJson : Argument → Json
  | ⟨name, type, internalType, components⟩ =>
    .object ([("name", .string name), ("type", .string type),
      ("internalType", .string internalType)] ++ componentsToJson components)

def componentsToJson : Option (List Argument) → List (String × Json)
  | none => []
  | some arguments => [("components", .array (argumentsToJson arguments))]

def argumentsToJson : List Argument → List Json
  | [] => []
  | argument :: arguments => argument.toJson :: argumentsToJson arguments

end

def Function.toJson (function : Function) : Json :=
  .object [("name", .string function.name), ("type", .string "function"),
    ("stateMutability", .string "nonpayable"),
    ("inputs", .array (argumentsToJson function.inputs))]

end AbiDocument

def Schema.Compiled.functions (compiled : Schema.Compiled) : List AbiDocument.Function :=
  compiled.messages.map fun (_, spec) => .ofSpec spec

def Schema.Compiled.abiDocument (compiled : Schema.Compiled) : Json :=
  .array (compiled.functions.map (·.toJson))

def Schema.abiDocument (schema : Schema) : Except GenerationError Json := do
  return (← schema.compile).abiDocument

end MessageAbi
