import MessageAbi.Error

/-!
This module contains the checked access to what a value holds.
-/

namespace MessageAbi.Value

def mismatch {α : Type} (expected : Kind) (value : Value) : Except AbiError α :=
  .error (.typeMismatch expected.name value.kind)

def asBool : Value → Except AbiError Bool
  | bool b => .ok b
  | value => mismatch .bool value

def asUint : Value → Except AbiError Word
  | uint n => .ok n
  | value => mismatch .uint value

def asInt : Value → Except AbiError Int256
  | int n => .ok n
  | value => mismatch .int value

def asAddress : Value → Except AbiError Address
  | address a => .ok a
  | value => mismatch .address value

def asBytes : Value → Except AbiError Bytes
  | bytes b => .ok b
  | value => mismatch .bytes value

def asString : Value → Except AbiError String
  | string s => .ok s
  | value => mismatch .string value

def asArray : Value → Except AbiError (List Value)
  | array items => .ok items
  | value => mismatch .array value

def asTuple : Value → Except AbiError (List Value)
  | tuple members => .ok members
  | value => mismatch .tuple value

def exactly (count : Nat) (values : List Value) : Except AbiError (List Value) :=
  if values.length = count then .ok values else .error (.arityMismatch count values.length)

def asFields (count : Nat) (value : Value) : Except AbiError (List Value) := do
  exactly count (← value.asTuple)

end MessageAbi.Value
