import MessageAbi.Keccak
import MessageAbi.Text.Hex

/-!
This module contains the four-byte tags that tell messages apart.
-/

namespace MessageAbi

structure Selector where
  code : BitVec 32
  deriving DecidableEq

namespace Selector

def size : Nat := 4

def ofBytes (bytes : Bytes) : Selector :=
  ⟨BitVec.ofNat 32 (ofBigEndian bytes)⟩

def toBytes (selector : Selector) : Bytes :=
  toBigEndian size selector.code.toNat

@[simp]
theorem length_toBytes (selector : Selector) : selector.toBytes.length = size :=
  length_toBigEndian size selector.code.toNat

def ofSignature (signature : String) : Selector :=
  ofBytes ((Keccak.hash signature.toUTF8.data.toList).take size)

instance : LT Selector where
  lt a b := a.code < b.code

instance (a b : Selector) : Decidable (a < b) :=
  inferInstanceAs (Decidable (a.code < b.code))

def toHex (selector : Selector) : String :=
  "0x" ++ Hex.encode selector.toBytes

end Selector

end MessageAbi
