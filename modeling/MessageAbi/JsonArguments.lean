import MessageAbi.AbiType
import MessageAbi.Error
import MessageAbi.Json.Basic

/-!
This module contains the reading and writing of message arguments as JSON. Integers of types up to
64 bits are JSON numbers and wider ones decimal strings; hexadecimal strings are read as well.
Addresses and byte strings are hexadecimal. Tuples are objects with a member for each component;
they are also read from arrays.
-/

namespace MessageAbi

namespace JsonArguments

def invalid {α : Type} (path : JsonPath) (fault : JsonFault) : Except AbiError α :=
  .error (.invalidJson path fault)

def hexDigits? (text : String) : Option String :=
  match text.toList with
  | '0' :: 'x' :: digits => some (String.ofList digits)
  | _ => none

def readBytes (path : JsonPath) (text : String) : Except AbiError Bytes :=
  match hexDigits? text with
  | none => invalid path (.expected "a 0x-prefixed hex string")
  | some digits =>
    match Hex.decode digits with
    | .ok bytes => .ok bytes
    | .error error => invalid path (.invalidHex error)

/--
The number of at most 256 bits that hexadecimal digits denote; an odd number of digits is filled up
with a zero.
-/
def readHexWord (path : JsonPath) (digits : String) : Except AbiError Word :=
  let padded := if digits.utf8ByteSize % 2 = 1 then "0" ++ digits else digits
  match Hex.decode padded with
  | .error error => invalid path (.invalidHex error)
  | .ok bytes =>
    if bytes.length > Word.size then invalid path (.tooManyBits 256) else .ok (Word.ofBytes bytes)

def readWord (path : JsonPath) : Json → Except AbiError Word
  | .number (.integer n) =>
    if 0 ≤ n then .ok (Word.ofNat n.toNat)
    else invalid path (.expected "a non-negative integer")
  | .number (.real _) => invalid path (.expected "a non-negative integer")
  | .string text =>
    match hexDigits? text with
    | some digits => readHexWord path digits
    | none =>
      match Word.ofDigits? text.toList with
      | some n => .ok n
      | none => invalid path (.expected "a decimal integer")
  | _ => invalid path (.expected "an integer")

/--
Reads a signed integer. Hexadecimal digits are a magnitude, so they stay below the sign bit.
-/
def readInt256 (path : JsonPath) : Json → Except AbiError Int256
  | .number (.integer n) =>
    if n < Nat.pow 2 63 then .ok (Int256.ofInt n) else invalid path (.expected "an integer")
  | .number (.real _) => invalid path (.expected "an integer")
  | .string text =>
    match hexDigits? text with
    | some digits => do
      let magnitude ← readHexWord path digits
      if magnitude.msb then invalid path (.tooManyBits 255) else .ok ⟨magnitude⟩
    | none =>
      match Int256.ofDecimal? text with
      | some n => .ok n
      | none => invalid path (.expected "a decimal integer")
  | _ => invalid path (.expected "an integer")

def readItems (read : Json → JsonPath → Except AbiError Value) (path : JsonPath) :
    (index : Nat) → List Json → Except AbiError (List Value)
  | _, [] => .ok []
  | index, item :: items => do
    let value ← read item (path ++ [.element index])
    let values ← readItems read path (index + 1) items
    return value :: values

mutual

/--
Reads a value of the given type, which stands at `path`.
-/
def readAt : AbiType → Json → JsonPath → Except AbiError Value
  | .bool, json, path =>
    match json with
    | .bool b => .ok (.bool b)
    | _ => invalid path (.expected "a boolean")
  | .uint bits, json, path => do
    let n ← readWord path json
    if n.bitLength > bits then
      throw (.outOfRange (AbiType.uint bits).canonical n.toDecimal)
    return .uint n
  | .int bits, json, path => do
    let n ← readInt256 path json
    if !n.fits bits then
      throw (.outOfRange (AbiType.int bits).canonical n.toDecimal)
    return .int n
  | .address, json, path =>
    match json with
    | .string text => do
      let bytes ← readBytes path text
      if bytes.length ≠ Address.size then
        invalid path .notAddressSize
      else
        return .address (Address.ofBytes bytes)
    | _ => invalid path (.expected "an address string")
  | .bytes, json, path =>
    match json with
    | .string text => return .bytes (← readBytes path text)
    | _ => invalid path (.expected "a hex string")
  | .string, json, path =>
    match json with
    | .string text => .ok (.string text)
    | _ => invalid path (.expected "a string")
  | .array element, json, path =>
    match json with
    | .array items => return .array (← readItems (readAt element) path 0 items)
    | _ => invalid path (.expected "an array")
  | .tuple _ components, json, path => return .tuple (← readMembers components json path)

def readMembers (components : List Param) (json : Json) (path : JsonPath) :
    Except AbiError (List Value) :=
  match json with
  | .object members =>
    match members.find? fun (name, _) => !components.any (·.name == name) with
    | some (name, _) => invalid path (.unknownMember name)
    | none => readByName components members path
  | .array items =>
    if items.length ≠ components.length then
      .error (.arityMismatch components.length items.length)
    else
      readByPlace components items path
  | _ => invalid path (.expected "an object or an array")

def readByName : List Param → List (String × Json) → JsonPath → Except AbiError (List Value)
  | [], _, _ => .ok []
  | ⟨name, type⟩ :: params, members, path => do
    let value ← match members.lookup name with
      | some member => readAt type member (path ++ [.member name])
      | none => invalid (path ++ [.member name]) .missing
    let values ← readByName params members path
    return value :: values

def readByPlace : List Param → List Json → JsonPath → Except AbiError (List Value)
  | ⟨name, type⟩ :: params, item :: items, path => do
    let value ← readAt type item (path ++ [.member name])
    let values ← readByPlace params items path
    return value :: values
  | _, _, _ => .ok []

end

@[simp]
theorem readAt_array (element : AbiType) (items : List Json) (path : JsonPath) :
    readAt (.array element) (.array items) path
      = .array <$> readItems (readAt element) path 0 items := by
  rw [readAt, map_eq_pure_bind]

@[simp]
theorem readAt_tuple (name : String) (components : List Param) (json : Json) (path : JsonPath) :
    readAt (.tuple name components) json path = .tuple <$> readMembers components json path := by
  rw [readAt, map_eq_pure_bind]

def readValue (type : AbiType) (json : Json) : Except AbiError Value :=
  readAt type json []

/--
Reads the arguments of a message: an object with a member for each parameter, or an array.
-/
def read (params : List Param) (json : Json) : Except AbiError (List Value) :=
  readMembers params json []

mutual

def writeValue : AbiType → Value → Except AbiError Json
  | .bool, .bool b => .ok (.bool b)
  | .uint bits, .uint n =>
    if bits ≤ 64 ∧ n.bitLength ≤ 64 then .ok (.integer n.toNat) else .ok (.string n.toDecimal)
  | .int bits, .int n =>
    if bits ≤ 64 then
      match n.toInt128? with
      | some small =>
        if -Nat.pow 2 63 ≤ small ∧ small < Nat.pow 2 63 then .ok (.integer small)
        else .ok (.string n.toDecimal)
      | none => .ok (.string n.toDecimal)
    else .ok (.string n.toDecimal)
  | .address, .address a => .ok (.string ("0x" ++ Hex.encode a.toBytes))
  | .bytes, .bytes b => .ok (.string ("0x" ++ Hex.encode b))
  | .string, .string s => .ok (.string s)
  | .array element, .array items => return .array (← items.mapM (writeValue element))
  | .tuple _ components, .tuple members => do
    if components.length ≠ members.length then
      throw (.arityMismatch components.length members.length)
    return .ofMembers (← writeMembers components members)
  | type, value => .error (.typeMismatch type.canonical value.kind)

def writeMembers : List Param → List Value → Except AbiError (List (String × Json))
  | ⟨name, type⟩ :: params, value :: values => do
    let json ← writeValue type value
    let members ← writeMembers params values
    return (name, json) :: members
  | _, _ => .ok []

end

def write (params : List Param) (values : List Value) : Except AbiError Json := do
  if params.length ≠ values.length then
    throw (.arityMismatch params.length values.length)
  return .ofMembers (← writeMembers params values)

end JsonArguments

end MessageAbi
