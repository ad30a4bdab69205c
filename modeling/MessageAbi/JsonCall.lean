import MessageAbi.JsonArguments
import MessageAbi.Registry

/-!
This module contains the packing and unpacking of messages whose arguments are JSON.
-/

namespace MessageAbi

def MessageSpec.packJson (spec : MessageSpec) (arguments : Json) : Except AbiError Bytes := do
  spec.pack (← JsonArguments.read spec.params arguments)

def Registry.unpackJson (registry : Registry) (payload : Bytes) :
    Except AbiError (MessageSpec × Json) := do
  let (spec, values) ← registry.unpack payload
  return (spec, ← JsonArguments.write spec.params values)

end MessageAbi
