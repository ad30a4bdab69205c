import MessageAbi.AbiType
import MessageAbi.Codec.Encode
import MessageAbi.Error

/-!
This module contains the strict reading of encoded values. Offsets may point anywhere, so the reader
works with a budget: it never reads more bytes in total than the data has, and a payload whose
offsets point several values at the same bytes cannot decode into far more than it holds.
-/

namespace MessageAbi.Codec

/--
What the reading of values asks for besides the data: a way to refuse, and a meter that every read
passes before its bytes are handed out.
-/
class Metered (m : Type → Type) where
  fail {α : Type} (fault : PayloadFault) : m α
  spend (count position : Nat) : m Unit

/--
A reader of encoded data, with the number of bytes it may still read.
-/
abbrev Decoder (α : Type) := StateT Nat (Except AbiError) α

namespace Decoder

def fail {α : Type} (fault : PayloadFault) : Decoder α :=
  throw (.malformedPayload fault)

def spend (count position : Nat) : Decoder Unit := do
  let budget ← get
  if count ≤ budget then set (budget - count) else fail (.readTwice position)

instance : Metered Decoder where
  fail := fail
  spend := spend

end Decoder

namespace Metered

variable {m : Type → Type} [Monad m] [Metered m]

def word (data : Bytes) (position : Nat) : m Bytes := do
  if position + Word.size ≤ data.length then
    spend Word.size position
    return (data.drop position).take Word.size
  else
    fail (.wordOutOfBounds position data.length)

def number (data : Bytes) (position : Nat) : m Nat := do
  let bytes ← word data position
  let n := ofBigEndian bytes
  if n < Nat.pow 2 64 then return n else fail (.tooLarge position)

def packed (data : Bytes) (position : Nat) : m Bytes := do
  let count ← number data position
  let start := position + Word.size
  if start + count ≤ data.length then
    spend count start
    return (data.drop start).take count
  else
    fail (.bytesOutOfBounds count start)

def member (data : Bytes) (isDynamic : Bool) (read : Nat → m Value) (base head : Nat) :
    m Value := do
  if isDynamic then
    let offset ← number data head
    if base + offset < Nat.pow 2 64 then read (base + offset) else fail (.offsetOverflow offset)
  else
    read head

def repeated (read : Nat → m Value) (size : Nat) : (count head : Nat) → m (List Value)
  | 0, _ => return []
  | count + 1, head => do
    let value ← read head
    let values ← repeated read size count (head + size)
    return value :: values

mutual

def value (data : Bytes) : AbiType → (position : Nat) → m Value
  | .bool, position => do
    let n := ofBigEndian (← word data position)
    if n ≤ 1 then return .bool (n == 1) else fail (.invalidBool position)
  | .uint bits, position => do
    let n := Word.ofBytes (← word data position)
    if n.bitLength ≤ bits then return .uint n
    else fail (.integerOutOfRange (AbiType.uint bits).canonical position)
  | .int bits, position => do
    let n : Int256 := ⟨Word.ofBytes (← word data position)⟩
    if n.fits bits then return .int n
    else fail (.integerOutOfRange (AbiType.int bits).canonical position)
  | .address, position => do
    let bytes ← word data position
    if (bytes.take (Word.size - Address.size)).any (· ≠ 0) then fail (.dirtyAddress position)
    else return .address (Address.ofBytes (bytes.drop (Word.size - Address.size)))
  | .bytes, position => return .bytes (← packed data position)
  | .string, position => do
    let bytes ← packed data position
    match String.fromUTF8? ⟨bytes.toArray⟩ with
    | some s => return .string s
    | none => fail (.invalidText position)
  | .array element, position => do
    let count ← number data position
    let start := position + Word.size
    -- every element takes at least its head size
    if count > (data.length - start) / max element.headSize 1 then
      fail (.arrayOutOfBounds count position)
    else
      let read := member data element.isDynamic (value data element) start
      return .array (← repeated read element.headSize count start)
  | .tuple _ components, position => return .tuple (← members data components position position)

def members (data : Bytes) : List Param → (base head : Nat) → m (List Value)
  | [], _, _ => return []
  | ⟨_, type⟩ :: params, base, head => do
    let first ← member data type.isDynamic (value data type) base head
    let rest ← members data params base (head + type.headSize)
    return first :: rest

end

def sequence (data : Bytes) : List AbiType → (base head : Nat) → m (List Value)
  | [], _, _ => return []
  | type :: types, base, head => do
    let first ← member data type.isDynamic (value data type) base head
    let rest ← sequence data types base (head + type.headSize)
    return first :: rest

theorem members_eq_sequence (data : Bytes) (params : List Param) (base head : Nat) :
    (members data params base head : m (List Value))
      = sequence data (params.map (·.type)) base head := by
  induction params generalizing head with
  | nil => rw [members, List.map_nil, sequence]
  | cons param params ih => cases param; rw [members, List.map_cons, sequence]; simp only [ih]

theorem repeated_eq_sequence (data : Bytes) (element : AbiType) (count base head : Nat) :
    (repeated (member data element.isDynamic (value data element) base) element.headSize count head
      : m (List Value))
      = sequence data (List.replicate count element) base head := by
  induction count generalizing head with
  | zero => rfl
  | succ count ih => rw [repeated, List.replicate_succ, sequence]; simp only [ih]

end Metered

def decode (types : List AbiType) (data : Bytes) : Except AbiError (List Value) :=
  (Metered.sequence data types 0 0 : Decoder (List Value)).run' data.length

end MessageAbi.Codec
