import Mathlib
import MessageAbi.Bindings.Native
import MessageAbi.Proofs.Except
import MessageAbi.Proofs.Int256
import MessageAbi.Proofs.List
import MessageAbi.Proofs.Typing

/-!
This module contains the conversions between the inhabitants of native types and values: none of them
alters a value, and a native type with room for an ABI type takes all its values.
-/

namespace MessageAbi

theorem Value.exactly_eq_ok_iff (count : Nat) (values members : List Value) :
    Value.exactly count values = .ok members ↔ values.length = count ∧ members = values := by
  unfold exactly
  split
  next h => simp [h, eq_comm]
  next h => simp [h]

namespace Bindings.NativeType

theorem toUnsigned_eq_ok_iff (width : Width) (n : Word) (x : BitVec width.bits) :
    toUnsigned width n = .ok x
      ↔ n.toNat < 2 ^ width.bits ∧ x = BitVec.ofNat width.bits n.toNat := by
  have hbits := n.bitLength_le_iff width.bits
  rw [Nat.pow_eq] at hbits
  have hle : 2 ^ width.bits ≤ 2 ^ 128 := by cases width <;> decide
  unfold toUnsigned
  split
  next hgt =>
    simp
    omega
  next hle' =>
    have hlow : Int256.lowHalf n = n.toNat := Nat.mod_eq_of_lt (by simp; omega)
    rw [hlow]
    simp [eq_comm]
    omega

theorem toSigned_eq_ok_iff (width : Width) (n : Int256) (x : BitVec width.bits) :
    toSigned width n = .ok x
      ↔ (-2 ^ (width.bits - 1) ≤ n.toInt ∧ n.toInt < 2 ^ (width.bits - 1))
        ∧ x = BitVec.ofInt width.bits n.toInt := by
  -- No native width exceeds 128 bits, so a value without a 128-bit one is out of range anyway.
  have hle : (2 : Int) ^ (width.bits - 1) ≤ 2 ^ 127 := by cases width <;> decide
  unfold toSigned
  cases h : n.toInt128? with
  | none =>
    have hno : ¬ (-2 ^ 127 ≤ n.toInt ∧ n.toInt < 2 ^ 127) := by
      intro hrange
      rw [(n.toInt128?_eq_some_iff _).mpr ⟨rfl, hrange⟩] at h
      contradiction
    simp
    omega
  | some m =>
    rcases (n.toInt128?_eq_some_iff m).mp h with ⟨rfl, _⟩
    simp only [Nat.pow_eq, Nat.cast_pow, Nat.cast_ofNat]
    split
    next hrange => simp [hrange, eq_comm]
    next hrange => simp [hrange]

theorem ofUnsigned_ofNat {width : Width} {n : Word} (h : n.toNat < 2 ^ width.bits) :
    ofUnsigned (BitVec.ofNat width.bits n.toNat) = n := by
  apply BitVec.eq_of_toNat_eq
  rw [ofUnsigned, Word.ofNat, BitVec.toNat_ofNat, BitVec.toNat_ofNat, Nat.mod_eq_of_lt h]
  exact Nat.mod_eq_of_lt n.isLt

theorem ofSigned_ofInt {width : Width} {n : Int256}
    (h : -2 ^ (width.bits - 1) ≤ n.toInt ∧ n.toInt < 2 ^ (width.bits - 1)) :
    ofSigned (BitVec.ofInt width.bits n.toInt) = n := by
  have hpos : 0 < width.bits := by cases width <;> decide
  rw [ofSigned, BitVec.toInt_ofInt_eq_self hpos h.1 h.2, Int256.ofInt_toInt]

mutual

theorem toValue_of_ofValue : (type : NativeType) → {value : Value} → {x : type.Carrier} →
    type.ofValue value = .ok x → type.toValue x = value
  | .bool, value, x, h | .wideUnsigned, value, x, h | .wideSigned, value, x, h
  | .address, value, x, h | .bytes, value, x, h | .string, value, x, h => by
    cases value <;> cases h
    rfl
  | .unsigned width, value, x, h => by
    rcases (bind_eq_ok_iff _ _ _).mp h with ⟨n, hn, hx⟩
    cases value <;> cases hn
    rcases (toUnsigned_eq_ok_iff width n x).mp hx with ⟨hlt, rfl⟩
    exact congrArg Value.uint (ofUnsigned_ofNat hlt)
  | .signed width, value, x, h => by
    rcases (bind_eq_ok_iff _ _ _).mp h with ⟨n, hn, hx⟩
    cases value <;> cases hn
    rcases (toSigned_eq_ok_iff width n x).mp hx with ⟨hrange, rfl⟩
    exact congrArg Value.int (ofSigned_ofInt hrange)
  | .list element, value, x, h => by
    rcases (bind_eq_ok_iff _ _ _).mp h with ⟨items, hitems, hx⟩
    cases value <;> cases hitems
    have hall := (mapM_eq_ok_iff _ _ _).mp hx
    have hitems := hall.flip.imp fun _ _ hitem => toValue_of_ofValue element hitem
    exact congrArg Value.array (map_eq_of_forall₂ hitems)
  | .record ident fields, value, x, h => by
    rcases (bind_eq_ok_iff _ _ _).mp h with ⟨members, hmembers, hx⟩
    rcases (bind_eq_ok_iff _ _ _).mp hmembers with ⟨_, htuple, hexactly⟩
    cases value <;> cases htuple
    rcases (Value.exactly_eq_ok_iff _ _ _).mp hexactly with ⟨hlength, rfl⟩
    rw [toValue, toValues_of_ofValues fields hlength hx]

theorem toValues_of_ofValues : (types : List NativeType) → {values : List Value} →
    {xs : Fields types} → values.length = types.length → ofValues types values = .ok xs →
    toValues types xs = values
  | [], values, x, hlength, h => by
    rw [toValues, List.eq_nil_of_length_eq_zero hlength]
  | type :: types, value :: values, x, hlength, h => by
    rcases (bind_eq_ok_iff _ _ _).mp h with ⟨member, hmember, h⟩
    rcases (bind_eq_ok_iff _ _ _).mp h with ⟨members, hmembers, h⟩
    cases h
    rw [toValues, toValue_of_ofValue type hmember,
      toValues_of_ofValues types (Nat.succ.inj hlength) hmembers]

end

/--
That a native type has room for the values of an ABI type.
-/
inductive Holds : NativeType → AbiType → Prop where
  | bool : Holds .bool .bool
  | unsigned (width : Width) (bits : Nat) : bits ≤ width.bits → Holds (.unsigned width) (.uint bits)
  | signed (width : Width) (bits : Nat) : bits ≤ width.bits → Holds (.signed width) (.int bits)
  | wideUnsigned (bits : Nat) : Holds .wideUnsigned (.uint bits)
  | wideSigned (bits : Nat) : Holds .wideSigned (.int bits)
  | address : Holds .address .address
  | bytes : Holds .bytes .bytes
  | string : Holds .string .string
  | list (native : NativeType) (type : AbiType) :
    Holds native type → Holds (.list native) (.array type)
  | record (ident name : String) (natives : List NativeType) (components : List Param) :
    List.Forall₂ (fun native param => Holds native param.type) natives components →
      Holds (.record ident natives) (.tuple name components)

end Bindings.NativeType

end MessageAbi
