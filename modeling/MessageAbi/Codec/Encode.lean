import MessageAbi.AbiType
import MessageAbi.Error

/-!
This module contains the head/tail encoding of values. Static values stand in the head of the
sequence around them; a dynamic value has its offset in the head, counted from the start of the
sequence, and its encoding in the tail.
-/

namespace MessageAbi.Codec

def numberWord (n : Nat) : Bytes :=
  (Word.ofNat n).toBytes

@[simp]
theorem length_numberWord (n : Nat) : (numberWord n).length = Word.size :=
  Word.length_toBytes _

def encodePacked (data : Bytes) : Bytes :=
  let padding := (Word.size - data.length % Word.size) % Word.size
  numberWord data.length ++ data ++ List.replicate padding 0

structure Parts where
  head : Bytes
  tail : Bytes

def Parts.bytes (parts : Parts) : Bytes :=
  parts.head ++ parts.tail

def headSize (types : List AbiType) : Nat :=
  (types.map AbiType.headSize).foldr (· + ·) 0

mutual

def encodeValue (type : AbiType) (value : Value) : Except AbiError Bytes :=
  match type, value with
  | .bool, .bool b => .ok (numberWord b.toNat)
  | .uint bits, .uint n =>
    if n.bitLength > bits then .error (.outOfRange type.canonical n.toDecimal) else .ok n.toBytes
  | .int bits, .int n =>
    if n.fits bits then .ok n.raw.toBytes else .error (.outOfRange type.canonical n.toDecimal)
  | .address, .address a => .ok (List.replicate (Word.size - Address.size) 0 ++ a.toBytes)
  | .bytes, .bytes b => .ok (encodePacked b)
  | .string, .string s => .ok (encodePacked s.toUTF8.data.toList)
  | .array element, .array items => do
    let types := List.replicate items.length element
    let parts ← encodeParts (headSize types) types items
    return numberWord items.length ++ parts.bytes
  | .tuple _ components, .tuple members => do
    if components.length ≠ members.length then
      throw (.arityMismatch components.length members.length)
    let types := components.map (·.type)
    let parts ← encodeParts (headSize types) types members
    return parts.bytes
  | _, _ => .error (.typeMismatch type.canonical value.kind)

/--
The parts of a sequence of values whose next dynamic one goes `offset` bytes after its start.
-/
def encodeParts (offset : Nat) (types : List AbiType) (values : List Value) :
    Except AbiError Parts :=
  match types, values with
  | type :: types, value :: values => do
    let bytes ← encodeValue type value
    if type.isDynamic then
      let rest ← encodeParts (offset + bytes.length) types values
      return ⟨numberWord offset ++ rest.head, bytes ++ rest.tail⟩
    else
      let rest ← encodeParts offset types values
      return ⟨bytes ++ rest.head, rest.tail⟩
  | _, _ => .ok ⟨[], []⟩

end

def encode (types : List AbiType) (values : List Value) : Except AbiError Bytes := do
  if types.length ≠ values.length then
    throw (.arityMismatch types.length values.length)
  let parts ← encodeParts (headSize types) types values
  return parts.bytes

end MessageAbi.Codec
