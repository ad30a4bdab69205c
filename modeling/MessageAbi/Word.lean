/-!
This module contains the 256-bit words that encoded values are made of, their big-endian bytes and
the decimal numerals that are read as words.
-/

namespace MessageAbi

abbrev Bytes := List UInt8

def ofBigEndian (bytes : Bytes) : Nat :=
  bytes.foldl (fun n byte => n * 256 + byte.toNat) 0

def toBigEndian : (width : Nat) → (n : Nat) → Bytes
  | 0, _ => []
  | width + 1, n => UInt8.ofNat (n / Nat.pow 256 width) :: toBigEndian width n

@[simp]
theorem length_toBigEndian (width n : Nat) : (toBigEndian width n).length = width := by
  induction width with
  | zero => rfl
  | succ width ih => simp [toBigEndian, ih]

/--
One encoding slot.
-/
abbrev Word := BitVec 256

namespace Word

def size : Nat := 32

def ofNat (n : Nat) : Word :=
  BitVec.ofNat 256 n

/--
The position of the highest set bit, counted from one; zero for the zero word.
-/
def bitLength (word : Word) : Nat :=
  if word.toNat = 0 then 0 else word.toNat.log2 + 1

theorem bitLength_le_iff (word : Word) (bits : Nat) :
    word.bitLength ≤ bits ↔ word.toNat < Nat.pow 2 bits := by
  unfold bitLength
  split
  next h => exact ⟨fun _ => h ▸ Nat.two_pow_pos bits, fun _ => Nat.zero_le bits⟩
  next h => exact Nat.succ_le_iff.trans (Nat.log2_lt h)

def toBytes (word : Word) : Bytes :=
  toBigEndian size word.toNat

@[simp]
theorem length_toBytes (word : Word) : word.toBytes.length = size :=
  length_toBigEndian size word.toNat

def ofBytes (bytes : Bytes) : Word :=
  ofNat (ofBigEndian bytes)

def negate (word : Word) : Word :=
  ~~~word + 1

def toDecimal (word : Word) : String :=
  toString word.toNat

end Word

/--
The number a list of ASCII digits denotes, zero for the empty list; nothing if some character is no
digit.
-/
def ofDigits? (digits : List Char) : Option Nat :=
  if digits.all Char.isDigit then
    some (digits.foldl (fun n c => n * 10 + (c.toNat - '0'.toNat)) 0)
  else
    none

def Word.ofDigits? (digits : List Char) : Option Word :=
  (MessageAbi.ofDigits? digits).bind fun n =>
    if n < Nat.pow 2 256 then some (Word.ofNat n) else none

end MessageAbi
