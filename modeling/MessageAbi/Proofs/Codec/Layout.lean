import Mathlib
import MessageAbi.Proofs.Codec.Footprint

/-!
This module contains the lengths of encodings: heads are as long as the types say, everything comes in
whole words, and padding at most doubles the footprint of a value.
-/

namespace MessageAbi.Codec

structure Measured (type : AbiType) (value : Value) (bytes : Bytes) : Prop where
  length_of_static : type.isDynamic = false → bytes.length = type.headSize
  aligned : Word.size ∣ bytes.length
  footprint_le : footprint type value ≤ bytes.length
  le_footprint : bytes.length ≤ 2 * footprint type value

structure MeasuredParts (types : List AbiType) (values : List Value) (parts : Parts) : Prop where
  length_head : parts.head.length = headSize types
  tail_of_static : (∀ type ∈ types, type.isDynamic = false) → parts.tail = []
  aligned : Word.size ∣ parts.tail.length
  footprints_le : footprints types values ≤ parts.head.length + parts.tail.length
  le_footprints : parts.head.length + parts.tail.length ≤ 2 * footprints types values

theorem MeasuredParts.dvd_length {types : List AbiType} {values : List Value} {parts : Parts}
    (h : MeasuredParts types values parts) : Word.size ∣ parts.bytes.length := by
  rw [Parts.bytes, List.length_append, h.length_head]
  exact Nat.dvd_add (size_dvd_headSize types) h.aligned

theorem length_encodePacked (data : Bytes) :
    (encodePacked data).length
      = Word.size + data.length + (Word.size - data.length % Word.size) % Word.size := by
  simp [encodePacked]
  omega

theorem dvd_length_encodePacked (data : Bytes) : Word.size ∣ (encodePacked data).length := by
  rw [length_encodePacked, Word.size]
  omega

theorem length_encodePacked_le (data : Bytes) :
    (encodePacked data).length ≤ 2 * (Word.size + data.length) := by
  rw [length_encodePacked, Word.size]
  omega

theorem measured_scalar {type : AbiType} {value : Value} {bytes : Bytes}
    (hbytes : bytes.length = Word.size) (hhead : type.headSize = Word.size)
    (hfootprint : footprint type value = Word.size) : Measured type value bytes := by
  constructor
  . intro _
    rw [hbytes, hhead]
  . rw [hbytes]
  . omega
  . omega

theorem MeasuredParts.dynamic {type : AbiType} {types : List AbiType} {value : Value}
    {values : List Value} {bytes : Bytes} {rest : Parts} (hdyn : type.isDynamic = true)
    (hbytes : Measured type value bytes) (hrest : MeasuredParts types values rest) (offset : Nat) :
    MeasuredParts (type :: types) (value :: values)
      ⟨numberWord offset ++ rest.head, bytes ++ rest.tail⟩ := by
  have hhead : type.headSize = Word.size := AbiType.headSize_of_isDynamic hdyn
  have := hrest.length_head
  have := hrest.footprints_le
  have := hrest.le_footprints
  have := hbytes.footprint_le
  have := hbytes.le_footprint
  constructor
  . simp only [List.length_append, length_numberWord, headSize_cons]
    omega
  . intro hstatic
    have := hstatic type (by simp)
    simp [hdyn] at this
  . rw [List.length_append]
    exact Nat.dvd_add hbytes.aligned hrest.aligned
  . simp only [List.length_append, length_numberWord, footprints_cons, offsetSize, hdyn, if_true]
    omega
  . simp only [List.length_append, length_numberWord, footprints_cons, offsetSize, hdyn, if_true]
    omega

theorem MeasuredParts.static {type : AbiType} {types : List AbiType} {value : Value}
    {values : List Value} {bytes : Bytes} {rest : Parts} (hdyn : type.isDynamic = false)
    (hbytes : Measured type value bytes) (hrest : MeasuredParts types values rest) :
    MeasuredParts (type :: types) (value :: values) ⟨bytes ++ rest.head, rest.tail⟩ := by
  have hhead := hbytes.length_of_static hdyn
  have := hrest.length_head
  have := hrest.footprints_le
  have := hrest.le_footprints
  have := hbytes.footprint_le
  have := hbytes.le_footprint
  constructor
  . simp only [List.length_append, headSize_cons]
    omega
  . intro hstatic
    apply hrest.tail_of_static
    intro other hother
    apply hstatic
    simp [hother]
  . exact hrest.aligned
  . simp only [List.length_append, footprints_cons, offsetSize, hdyn, Bool.false_eq_true, if_false]
    omega
  . simp only [List.length_append, footprints_cons, offsetSize, hdyn, Bool.false_eq_true, if_false]
    omega

theorem measured_of_partsOf {types : List AbiType} {values : List Value} {offset : Nat}
    {parts : Parts}
    (hvalues : ∀ type ∈ types, ∀ value bytes,
      encodeValue type value = .ok bytes → Measured type value bytes)
    (h : PartsOf offset types values parts) : MeasuredParts types values parts := by
  induction h with
  | nil => constructor <;> simp
  | dynamic hdyn hbytes _ ih =>
    rcases List.forall_mem_cons.mp hvalues with ⟨htype, htypes⟩
    exact .dynamic hdyn (htype _ _ hbytes) (ih htypes) _
  | static hdyn hbytes _ ih =>
    rcases List.forall_mem_cons.mp hvalues with ⟨htype, htypes⟩
    exact .static hdyn (htype _ _ hbytes) (ih htypes)

theorem measured_packed {type : AbiType} {value : Value} {data : Bytes}
    (hdyn : type.isDynamic = true) (hfootprint : footprint type value = Word.size + data.length) :
    Measured type value (encodePacked data) := by
  constructor
  . intro hstatic
    rw [hdyn] at hstatic
    contradiction
  . apply dvd_length_encodePacked
  . rw [length_encodePacked, hfootprint]
    omega
  . rw [hfootprint]
    apply length_encodePacked_le

theorem MeasuredParts.array {element : AbiType} {items : List Value} {parts : Parts}
    (h : MeasuredParts (List.replicate items.length element) items parts) :
    Measured (.array element) (.array items) (numberWord items.length ++ parts.bytes) := by
  have := h.footprints_le
  have := h.le_footprints
  constructor
  . intro hstatic
    contradiction
  . rw [List.length_append, length_numberWord]
    exact Nat.dvd_add_self_left.mpr h.dvd_length
  . rw [List.length_append, length_numberWord, footprint_array, Parts.bytes, List.length_append]
    omega
  . rw [List.length_append, length_numberWord, footprint_array, Parts.bytes, List.length_append]
    omega

theorem MeasuredParts.tuple {name : String} {components : List Param} {members : List Value}
    {parts : Parts} (h : MeasuredParts (components.map (·.type)) members parts) :
    Measured (.tuple name components) (.tuple members) parts.bytes := by
  have hbytes : parts.bytes.length = parts.head.length + parts.tail.length := by
    rw [Parts.bytes, List.length_append]
  constructor
  . intro hstatic
    rw [AbiType.headSize_tuple_of_static hstatic, ← h.length_head]
    rw [AbiType.isDynamic_tuple_eq_false_iff] at hstatic
    rw [hbytes, h.tail_of_static ?_]
    . simp
    . simpa using hstatic
  . exact h.dvd_length
  . rw [footprint_tuple, hbytes]
    exact h.footprints_le
  . rw [footprint_tuple, hbytes]
    exact h.le_footprints

theorem measured_encodeValue {type : AbiType} {value : Value} {bytes : Bytes}
    (h : encodeValue type value = .ok bytes) : Measured type value bytes := by
  induction type generalizing value bytes with
  | bool =>
    cases hasType_of_encodeValue h
    injection h with h
    rw [← h]
    exact measured_scalar (by simp) rfl rfl
  | uint bits =>
    cases hasType_of_encodeValue h
    simp only [encodeValue] at h
    split at h
    . contradiction
    . injection h with h
      rw [← h]
      exact measured_scalar (by simp) rfl rfl
  | int bits =>
    cases hasType_of_encodeValue h
    simp only [encodeValue] at h
    split at h
    . injection h with h
      rw [← h]
      exact measured_scalar (by simp) rfl rfl
    . contradiction
  | address =>
    cases hasType_of_encodeValue h
    injection h with h
    rw [← h]
    exact measured_scalar (by simp [Address.size, Word.size]) rfl rfl
  | bytes =>
    cases hasType_of_encodeValue h
    injection h with h
    rw [← h]
    exact measured_packed rfl rfl
  | string =>
    cases hasType_of_encodeValue h
    injection h with h
    rw [← h]
    apply measured_packed
    . rfl
    . simp [footprint]
  | array element ih =>
    cases hasType_of_encodeValue h
    rw [encodeValue_array_eq_ok_iff] at h
    rcases h with ⟨parts, hparts, rfl⟩
    apply MeasuredParts.array
    apply measured_of_partsOf ?_ hparts
    intro type htype value bytes
    rw [List.eq_of_mem_replicate htype]
    apply ih
  | tuple name components ih =>
    cases hasType_of_encodeValue h
    rw [encodeValue_tuple_eq_ok_iff] at h
    rcases h with ⟨parts, hparts, rfl⟩
    apply MeasuredParts.tuple
    apply measured_of_partsOf ?_ hparts
    intro type htype value bytes
    rcases List.mem_map.mp htype with ⟨param, hparam, rfl⟩
    apply ih
    exact hparam

theorem PartsOf.measured {types : List AbiType} {values : List Value} {offset : Nat} {parts : Parts}
    (h : PartsOf offset types values parts) : MeasuredParts types values parts := by
  apply measured_of_partsOf ?_ h
  intro type _ value bytes
  apply measured_encodeValue

theorem length_encode_le {types : List AbiType} {values : List Value} {data : Bytes}
    (h : encode types values = .ok data) : data.length ≤ 2 * footprints types values := by
  rw [encode_eq_ok_iff] at h
  rcases h with ⟨parts, hparts, rfl⟩
  rw [Parts.bytes, List.length_append]
  exact hparts.measured.le_footprints

end MessageAbi.Codec
