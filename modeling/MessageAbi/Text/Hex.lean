import MessageAbi.Text.Quoted
import MessageAbi.Word

/-!
This module contains hexadecimal text: two digits for each byte.
-/

namespace MessageAbi.Hex

def digit (n : Nat) : Char :=
  Nat.digitChar (n % 16)

def encode (bytes : Bytes) : String :=
  String.ofList (bytes.flatMap fun byte => [digit (byte.toNat / 16), digit byte.toNat])

inductive Error where
  | oddLength
  | invalidCharacter (c : Char) (index : Nat)
  deriving DecidableEq, Repr

def Error.message : Error → String
  | oddLength => "Odd number of digits"
  | invalidCharacter c index => s!"Invalid character {Text.quotedChar c} at position {index}"

def digitValue? (byte : UInt8) : Option UInt8 :=
  if '0'.toUInt8 ≤ byte ∧ byte ≤ '9'.toUInt8 then some (byte - '0'.toUInt8)
  else if 'a'.toUInt8 ≤ byte ∧ byte ≤ 'f'.toUInt8 then some (byte - 'a'.toUInt8 + 10)
  else if 'A'.toUInt8 ≤ byte ∧ byte ≤ 'F'.toUInt8 then some (byte - 'A'.toUInt8 + 10)
  else none

/--
Reads two digits for each byte. The text is looked at byte by byte, so a character outside ASCII is
reported as the character with the value of its first byte.
-/
def decode (text : String) : Except Error Bytes :=
  let digits := text.toUTF8.data.toList
  if digits.length % 2 = 1 then .error .oddLength else go 0 digits
where
  value (index : Nat) (byte : UInt8) : Except Error UInt8 :=
    match digitValue? byte with
    | some n => .ok n
    | none => .error (.invalidCharacter (Char.ofNat byte.toNat) index)
  go (index : Nat) : Bytes → Except Error Bytes
    | high :: low :: rest => do
      let high ← value index high
      let low ← value (index + 1) low
      let bytes ← go (index + 2) rest
      return (high * 16 + low) :: bytes
    | _ => .ok []

end MessageAbi.Hex
