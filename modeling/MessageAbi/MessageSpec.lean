import MessageAbi.Codec.Call

/-!
This module contains the description of a message: its name and its parameters, from which its
signature and its selector follow.
-/

namespace MessageAbi

structure MessageSpec where
  name : String
  params : List Param

namespace MessageSpec

def signature (spec : MessageSpec) : String :=
  MessageAbi.signature spec.name spec.params

def selector (spec : MessageSpec) : Selector :=
  Selector.ofSignature spec.signature

def pack (spec : MessageSpec) (values : List Value) : Except AbiError Bytes :=
  Codec.encodeCall spec.selector spec.params values

def unpack (spec : MessageSpec) (payload : Bytes) : Except AbiError (List Value) :=
  Codec.decodeCall spec.selector spec.params payload

end MessageSpec

end MessageAbi
