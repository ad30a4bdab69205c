import MessageAbi.Int256

/-!
This module contains the values of ABI types. A value carries no type: which values belong to which
type is decided where values are encoded.
-/

namespace MessageAbi

abbrev Address := BitVec 160

namespace Address

def size : Nat := 20

def toBytes (address : Address) : Bytes :=
  toBigEndian size address.toNat

@[simp]
theorem length_toBytes (address : Address) : address.toBytes.length = size :=
  length_toBigEndian size address.toNat

def ofBytes (bytes : Bytes) : Address :=
  BitVec.ofNat 160 (ofBigEndian bytes)

end Address

/--
A value, shaped like an ABI type.
-/
inductive Value where
  | bool (b : Bool)
  | uint (n : Word)
  | int (n : Int256)
  | address (a : Address)
  | bytes (b : Bytes)
  | string (s : String)
  | array (items : List Value)
  | tuple (members : List Value)

namespace Value

inductive Kind where
  | bool
  | uint
  | int
  | address
  | bytes
  | string
  | array
  | tuple
  deriving DecidableEq, Repr

def Kind.name : Kind → String
  | bool => "bool"
  | uint => "uint"
  | int => "int"
  | address => "address"
  | bytes => "bytes"
  | string => "string"
  | array => "array"
  | tuple => "tuple"

def kind : Value → Kind
  | bool _ => .bool
  | uint _ => .uint
  | int _ => .int
  | address _ => .address
  | bytes _ => .bytes
  | string _ => .string
  | array _ => .array
  | tuple _ => .tuple

end Value

end MessageAbi
