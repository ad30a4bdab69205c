import Mathlib
import MessageAbi.Codec.Decode
import MessageAbi.Proofs.AbiType

/-!
This module contains the reading of encoded values in the arithmetic of a machine with 64-bit sizes.
Additions that nobody checks, slices and divisions stop the machine where they are not defined, so a
run that ends says that each of them was.
-/

namespace MessageAbi

namespace Codec

inductive Trap where
  | overflow
  | outOfRange
  | divisionByZero
  deriving DecidableEq, Repr

/--
A computation of a machine, with the number of bytes that it may still read. It gives a result, fails,
or stops the machine.
-/
abbrev Machine (α : Type) := StateT UInt64 (ExceptT AbiError (Except Trap)) α

namespace Machine

def trap {α : Type} (cause : Trap) : Machine α :=
  fun _ => (.error cause : Except Trap (Except AbiError (α × UInt64)))

def fail {α : Type} (fault : PayloadFault) : Machine α :=
  throw (.malformedPayload fault)

def wordSize : UInt64 := 32

def add (a b : UInt64) : Machine UInt64 :=
  if a.toNat + b.toNat < 2 ^ 64 then return a + b else trap .overflow

def divide (a b : UInt64) : Machine UInt64 :=
  if b = 0 then trap .divisionByZero else return a / b

def slice (bytes : Bytes) (start stop : Nat) : Machine Bytes :=
  if start ≤ stop ∧ stop ≤ bytes.length then return (bytes.drop start).take (stop - start)
  else trap .outOfRange

def index (bytes : Bytes) (place : Nat) : Machine UInt8 :=
  match bytes[place]? with
  | some byte => return byte
  | none => trap .outOfRange

def checkedAdd? (a b : UInt64) : Option UInt64 :=
  if a.toNat + b.toNat < 2 ^ 64 then some (a + b) else none

def range? (data : Bytes) (position count : UInt64) : Option Bytes :=
  (checkedAdd? position count).bind fun stop =>
    if position ≤ stop ∧ stop.toNat ≤ data.length then
      some ((data.drop position.toNat).take (stop - position).toNat)
    else
      none

def spend (count position : UInt64) : Machine Unit := do
  let budget ← get
  if count ≤ budget then set (budget - count) else fail (.readTwice position.toNat)

def word (data : Bytes) (position : UInt64) : Machine Bytes :=
  match range? data position wordSize with
  | some bytes => do
    spend wordSize position
    return bytes
  | none => fail (.wordOutOfBounds position.toNat data.length)

def number (data : Bytes) (position : UInt64) : Machine UInt64 := do
  let bytes ← word data position
  let high ← slice bytes 0 24
  if high.any (· ≠ 0) then fail (.tooLarge position.toNat)
  else
    let low ← slice bytes 24 bytes.length
    return UInt64.ofNat (ofBigEndian low)

def packed (data : Bytes) (position : UInt64) : Machine Bytes := do
  let count ← number data position
  let start ← add position wordSize
  match range? data start count with
  | some bytes => do
    spend count start
    return bytes
  | none => fail (.bytesOutOfBounds count.toNat start.toNat)

mutual

def headSize : AbiType → Machine UInt64
  | .tuple _ components =>
    if AbiType.anyDynamic components then return wordSize else headSizes components 0
  | _ => return wordSize

def headSizes : List Param → (total : UInt64) → Machine UInt64
  | [], total => return total
  | ⟨_, type⟩ :: params, total => do
    let size ← headSize type
    let total ← add total size
    headSizes params total

end

def capacity (data : Bytes) (element : AbiType) (start : UInt64) : Machine UInt64 := do
  let length := UInt64.ofNat data.length
  let available := if start ≤ length then length - start else 0
  divide available (max (← headSize element) 1)

def member (data : Bytes) (isDynamic : Bool) (read : UInt64 → Machine Value)
    (base head : UInt64) : Machine Value := do
  if isDynamic then
    let offset ← number data head
    match checkedAdd? base offset with
    | some position => read position
    | none => fail (.offsetOverflow offset.toNat)
  else
    read head

def repeated (read : UInt64 → Machine Value) (size : Machine UInt64) :
    (count : Nat) → (head : UInt64) → Machine (List Value)
  | 0, _ => return []
  | count + 1, head => do
    let value ← read head
    let head ← add head (← size)
    let values ← repeated read size count head
    return value :: values

mutual

def value (data : Bytes) : AbiType → (position : UInt64) → Machine Value
  | .bool, position => do
    let bytes ← word data position
    let high ← slice bytes 0 31
    if high.any (· ≠ 0) then fail (.invalidBool position.toNat)
    else
      let last ← index bytes 31
      if last > 1 then fail (.invalidBool position.toNat) else return .bool (last == 1)
  | .uint bits, position => do
    let n := Word.ofBytes (← word data position)
    if n.bitLength ≤ bits then return .uint n
    else fail (.integerOutOfRange (AbiType.uint bits).canonical position.toNat)
  | .int bits, position => do
    let n : Int256 := ⟨Word.ofBytes (← word data position)⟩
    if n.fits bits then return .int n
    else fail (.integerOutOfRange (AbiType.int bits).canonical position.toNat)
  | .address, position => do
    let bytes ← word data position
    let high ← slice bytes 0 12
    if high.any (· ≠ 0) then fail (.dirtyAddress position.toNat)
    else
      let low ← slice bytes 12 bytes.length
      return .address (Address.ofBytes low)
  | .bytes, position => return .bytes (← packed data position)
  | .string, position => do
    let bytes ← packed data position
    match String.fromUTF8? ⟨bytes.toArray⟩ with
    | some s => return .string s
    | none => fail (.invalidText position.toNat)
  | .array element, position => do
    let count ← number data position
    let start ← add position wordSize
    if count > (← capacity data element start) then
      fail (.arrayOutOfBounds count.toNat position.toNat)
    else
      let read := member data element.isDynamic (value data element) start
      return .array (← repeated read (headSize element) count.toNat start)
  | .tuple _ components, position => return .tuple (← members data components position position)

def members (data : Bytes) : List Param → (base head : UInt64) → Machine (List Value)
  | [], _, _ => return []
  | ⟨_, type⟩ :: params, base, head => do
    let first ← member data type.isDynamic (value data type) base head
    let head ← add head (← headSize type)
    let rest ← members data params base head
    return first :: rest

end

def sequence (data : Bytes) : List AbiType → (base head : UInt64) → Machine (List Value)
  | [], _, _ => return []
  | type :: types, base, head => do
    let first ← member data type.isDynamic (value data type) base head
    let head ← add head (← headSize type)
    let rest ← sequence data types base head
    return first :: rest

theorem members_eq_sequence (data : Bytes) (params : List Param) (base head : UInt64) :
    members data params base head = sequence data (params.map (·.type)) base head := by
  induction params generalizing head with
  | nil => rw [members, List.map_nil, sequence]
  | cons param params ih => cases param; rw [members, List.map_cons, sequence]; simp only [ih]

theorem repeated_eq_sequence (data : Bytes) (element : AbiType) (count : Nat)
    (base head : UInt64) :
    repeated (member data element.isDynamic (value data element) base) (headSize element) count head
      = sequence data (List.replicate count element) base head := by
  induction count generalizing head with
  | zero => rfl
  | succ count ih => rw [repeated, List.replicate_succ, sequence]; simp only [ih]

/--
Reads values as `Codec.decode` does, in the arithmetic of a machine.
-/
def decode (types : List AbiType) (data : Bytes) : Except Trap (Except AbiError (List Value)) :=
  (sequence data types 0 0).run' (UInt64.ofNat data.length)

end Machine

end Codec

end MessageAbi
