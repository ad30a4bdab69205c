import Mathlib
import MessageAbi.Proofs.AbiType
import MessageAbi.Proofs.Except

/-!
This module contains the encodings that succeed, as a relation that says where the items of a sequence
go.
-/

namespace MessageAbi

namespace Codec

/--
The parts of a sequence of as many values as types. A dynamic value goes to the tail, where the head
tells its offset, a static one to the head.
-/
inductive PartsOf : Nat → List AbiType → List Value → Parts → Prop where
  | nil (offset : Nat) : PartsOf offset [] [] ⟨[], []⟩
  | dynamic {offset : Nat} {type : AbiType} {types : List AbiType} {value : Value}
    {values : List Value} {bytes : Bytes} {rest : Parts} :
    type.isDynamic = true → encodeValue type value = .ok bytes →
      PartsOf (offset + bytes.length) types values rest →
        PartsOf offset (type :: types) (value :: values)
          ⟨numberWord offset ++ rest.head, bytes ++ rest.tail⟩
  | static {offset : Nat} {type : AbiType} {types : List AbiType} {value : Value}
    {values : List Value} {bytes : Bytes} {rest : Parts} :
    type.isDynamic = false → encodeValue type value = .ok bytes →
      PartsOf offset types values rest →
        PartsOf offset (type :: types) (value :: values) ⟨bytes ++ rest.head, rest.tail⟩

variable {types : List AbiType} {values : List Value} {offset : Nat} {parts : Parts}

theorem PartsOf.length_eq (h : PartsOf offset types values parts) :
    types.length = values.length := by
  induction h with
  | nil => rfl
  | dynamic _ _ _ ih => simp [ih]
  | static _ _ _ ih => simp [ih]

theorem PartsOf.encodeParts_eq (h : PartsOf offset types values parts) :
    encodeParts offset types values = .ok parts := by
  induction h with
  | nil => rfl
  | dynamic hdyn hbytes _ ih =>
    rw [encodeParts, hbytes, hdyn]
    simp only [bind, Except.bind, if_true, ih]
    rfl
  | static hdyn hbytes _ ih =>
    rw [encodeParts, hbytes, hdyn]
    simp only [bind, Except.bind, Bool.false_eq_true, if_false, ih]
    rfl

theorem partsOf_of_encodeParts (hlength : types.length = values.length)
    (h : encodeParts offset types values = .ok parts) : PartsOf offset types values parts := by
  induction types generalizing values offset parts with
  | nil =>
    cases values with
    | nil =>
      injection h with h
      rw [← h]
      exact .nil offset
    | cons _ _ => simp at hlength
  | cons type types ih =>
    cases values with
    | nil => simp at hlength
    | cons value values =>
      have hrest : types.length = values.length := by simpa using hlength
      cases hdyn : type.isDynamic with
      | true =>
        simp only [encodeParts, hdyn, if_true, bind_eq_ok_iff, pure_eq_ok_iff] at h
        rcases h with ⟨bytes, hbytes, rest, hparts, rfl⟩
        exact .dynamic hdyn hbytes (ih hrest hparts)
      | false =>
        simp only [encodeParts, hdyn, Bool.false_eq_true, if_false, bind_eq_ok_iff,
          pure_eq_ok_iff] at h
        rcases h with ⟨bytes, hbytes, rest, hparts, rfl⟩
        exact .static hdyn hbytes (ih hrest hparts)

theorem partsOf_iff (offset : Nat) (types : List AbiType) (values : List Value) (parts : Parts) :
    PartsOf offset types values parts
      ↔ types.length = values.length ∧ encodeParts offset types values = .ok parts := by
  constructor
  . intro h
    exact ⟨h.length_eq, h.encodeParts_eq⟩
  . rintro ⟨hlength, h⟩
    exact partsOf_of_encodeParts hlength h

theorem encodeValue_array_eq_ok_iff (element : AbiType) (items : List Value) (bytes : Bytes) :
    encodeValue (.array element) (.array items) = .ok bytes
      ↔ ∃ parts, PartsOf (items.length * element.headSize) (List.replicate items.length element)
          items parts ∧ bytes = numberWord items.length ++ parts.bytes := by
  simp only [partsOf_iff, List.length_replicate, true_and]
  simp only [encodeValue, headSize_replicate, bind_eq_ok_iff, pure_eq_ok_iff]

theorem encodeValue_tuple_eq_ok_iff (name : String) (components : List Param)
    (members : List Value) (bytes : Bytes) :
    encodeValue (.tuple name components) (.tuple members) = .ok bytes
      ↔ ∃ parts, PartsOf (headSize (components.map (·.type))) (components.map (·.type)) members parts
        ∧ bytes = parts.bytes := by
  rw [encodeValue, ite_throw_eq_ok_iff]
  simp only [not_not, partsOf_iff, List.length_map, bind_eq_ok_iff, pure_eq_ok_iff, and_assoc,
    exists_and_left]

theorem encode_eq_ok_iff (types : List AbiType) (values : List Value) (data : Bytes) :
    encode types values = .ok data
      ↔ ∃ parts, PartsOf (headSize types) types values parts ∧ data = parts.bytes := by
  rw [encode, ite_throw_eq_ok_iff]
  simp only [not_not, partsOf_iff, bind_eq_ok_iff, pure_eq_ok_iff, and_assoc, exists_and_left]

end Codec

end MessageAbi
