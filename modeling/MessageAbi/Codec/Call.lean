import MessageAbi.Codec.Decode
import MessageAbi.Codec.Encode

/-!
This module contains call payloads: a selector, then the encoded arguments.
-/

namespace MessageAbi

def Selector.ofPayload (payload : Bytes) : Except AbiError Selector :=
  if payload.length < Selector.size then
    .error (.malformedPayload (.shorterThanSelector payload.length))
  else
    .ok (Selector.ofBytes (payload.take Selector.size))

namespace Codec

def splitPayload (payload : Bytes) : Except AbiError (Selector × Bytes) := do
  let selector ← Selector.ofPayload payload
  return (selector, payload.drop Selector.size)

/--
Checks that argument data is a whole number of words, and that there is some exactly if there are
parameters.
-/
def checkArgumentsShape (data : Bytes) (hasParams : Bool) : Except AbiError Unit :=
  if data.length % Word.size ≠ 0 then
    .error (.malformedPayload (.partialWord data.length))
  else
    match hasParams, data.isEmpty with
    | true, true => .error (.malformedPayload .missingArguments)
    | false, false => .error (.malformedPayload .unexpectedArguments)
    | _, _ => .ok ()

def encodeCall (selector : Selector) (params : List Param) (values : List Value) :
    Except AbiError Bytes := do
  let data ← encode (params.map (·.type)) values
  return selector.toBytes ++ data

def decodeCall (expected : Selector) (params : List Param) (payload : Bytes) :
    Except AbiError (List Value) := do
  let (found, data) ← splitPayload payload
  if found ≠ expected then
    throw (.selectorMismatch expected found)
  checkArgumentsShape data (!params.isEmpty)
  decode (params.map (·.type)) data

end Codec

end MessageAbi
