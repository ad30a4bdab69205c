import MessageAbi.ValueAccess

/-!
This module contains the native types that typed bindings give to fields, and the conversions
between their inhabitants and values.
-/

namespace MessageAbi.Bindings

inductive Width where
  | w8
  | w16
  | w32
  | w64
  | w128
  deriving DecidableEq, Repr

namespace Width

def bits : Width → Nat
  | w8 => 8
  | w16 => 16
  | w32 => 32
  | w64 => 64
  | w128 => 128

def all : List Width :=
  [w8, w16, w32, w64, w128]

def holding? (bits : Nat) : Option Width :=
  all.find? fun width => bits ≤ width.bits

end Width

/--
The type that bindings give to a field.
-/
inductive NativeType where
  | bool
  | unsigned (width : Width)
  | signed (width : Width)
  | wideUnsigned
  | wideSigned
  | address
  | bytes
  | string
  | list (element : NativeType)
  | record (ident : String) (fields : List NativeType)

namespace NativeType

mutual

/--
The inhabitants of a native type.
-/
def Carrier : NativeType → Type
  | bool => Bool
  | unsigned width => BitVec width.bits
  | signed width => BitVec width.bits
  | wideUnsigned => Word
  | wideSigned => Int256
  | address => Address
  | bytes => Bytes
  | string => String
  | list element => List element.Carrier
  | record _ fields => Fields fields

def Fields : List NativeType → Type
  | [] => Unit
  | type :: types => type.Carrier × Fields types

end

def ofUnsigned {width : Width} (n : BitVec width.bits) : Word :=
  Word.ofNat n.toNat

def toUnsigned (width : Width) (n : Word) : Except AbiError (BitVec width.bits) :=
  if n.bitLength > width.bits then
    .error (.outOfRange s!"u{width.bits}" n.toDecimal)
  else
    .ok (BitVec.ofNat width.bits (Int256.lowHalf n))

def ofSigned {width : Width} (n : BitVec width.bits) : Int256 :=
  Int256.ofInt n.toInt

def toSigned (width : Width) (n : Int256) : Except AbiError (BitVec width.bits) :=
  match n.toInt128? with
  | some m =>
    if -Nat.pow 2 (width.bits - 1) ≤ m ∧ m < Nat.pow 2 (width.bits - 1) then
      .ok (BitVec.ofInt width.bits m)
    else .error (.outOfRange s!"i{width.bits}" n.toDecimal)
  | none => .error (.outOfRange s!"i{width.bits}" n.toDecimal)

mutual

def toValue : (type : NativeType) → type.Carrier → Value
  | bool, b => .bool b
  | unsigned _, n => .uint (ofUnsigned n)
  | signed _, n => .int (ofSigned n)
  | wideUnsigned, n => .uint n
  | wideSigned, n => .int n
  | address, a => .address a
  | bytes, b => .bytes b
  | string, s => .string s
  | list element, items => .array (List.map (toValue element) items)
  | record _ fields, members => .tuple (toValues fields members)

def toValues : (types : List NativeType) → Fields types → List Value
  | [], _ => []
  | type :: types, (member, members) => type.toValue member :: toValues types members

end

mutual

def ofValue : (type : NativeType) → Value → Except AbiError type.Carrier
  | bool, value => value.asBool
  | unsigned width, value => do toUnsigned width (← value.asUint)
  | signed width, value => do toSigned width (← value.asInt)
  | wideUnsigned, value => value.asUint
  | wideSigned, value => value.asInt
  | address, value => value.asAddress
  | bytes, value => value.asBytes
  | string, value => value.asString
  | list element, value => do
    let items ← value.asArray
    items.mapM (ofValue element)
  | record _ fields, value => do
    let values ← value.asFields fields.length
    ofValues fields values

def ofValues : (types : List NativeType) → List Value → Except AbiError (Fields types)
  | [], _ => .ok ()
  | type :: types, value :: values => do
    let member ← type.ofValue value
    let members ← ofValues types values
    return (member, members)
  | type :: types, [] => .error (.arityMismatch (type :: types).length 0)

end

end NativeType

end MessageAbi.Bindings
