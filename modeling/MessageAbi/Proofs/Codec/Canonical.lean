import Mathlib
import MessageAbi.Proofs.Codec.RoundTrip

/-!
This module contains that types without offsets have one encoding for each list of values: whatever the
reader accepts starts with the bytes that the encoder writes for what is read.
-/

namespace MessageAbi.Codec

variable {data bytes : Bytes} {position : Nat}

theorem holds_of_word (h : (Metered.word data position : Except PayloadFault Bytes) = .ok bytes) :
    Holds data position bytes ∧ bytes.length = Word.size := by
  rw [Metered.word] at h
  split at h
  . next hle =>
    simp only [Metered.spend, bind, Except.bind, pure_eq_ok_iff] at h
    have hlength : bytes.length = Word.size := by
      rw [h, List.length_take, List.length_drop]
      omega
    refine ⟨⟨data.take position, data.drop (position + Word.size), ?_, ?_⟩, hlength⟩
    . rw [h, ← List.drop_drop, List.take_append_drop, List.take_append_drop]
    . rw [List.length_take]
      omega
  . contradiction

theorem exists_word_of_bind {value : Value} {f : Bytes → Except PayloadFault Value}
    (h : Metered.word data position >>= f = .ok value) :
    ∃ bytes, Holds data position bytes ∧ bytes.length = Word.size ∧ f bytes = .ok value := by
  rcases (bind_eq_ok_iff _ _ _).mp h with ⟨bytes, hword, h⟩
  rcases holds_of_word hword with ⟨hholds, hlength⟩
  exact ⟨bytes, hholds, hlength, h⟩

theorem numberWord_of_ofBigEndian {n : Nat} (hlength : bytes.length = Word.size)
    (h : ofBigEndian bytes = n) : numberWord n = bytes := by
  rw [← h]
  exact Word.toBytes_ofBytes hlength

theorem append_toBytes_ofBytes (hlength : bytes.length = Word.size)
    (h : (bytes.take (Word.size - Address.size)).any (· ≠ 0) = false) :
    List.replicate (Word.size - Address.size) 0
      ++ (Address.ofBytes (bytes.drop (Word.size - Address.size))).toBytes = bytes := by
  have hpadding : bytes.take (Word.size - Address.size)
      = List.replicate (Word.size - Address.size) 0 := by
    rw [List.eq_replicate_iff]
    constructor
    . rw [List.length_take, hlength]
      rfl
    . simpa using h
  have haddress : (bytes.drop (Word.size - Address.size)).length = Address.size := by
    rw [List.length_drop, hlength]
    rfl
  rw [Address.toBytes_ofBytes haddress, ← hpadding, List.take_append_drop]

theorem partsOf_of_sequence {types : List AbiType} {values : List Value} {base head : Nat}
    (hstatic : ∀ type ∈ types, type.isDynamic = false)
    (hvalues : ∀ type ∈ types, ∀ value position, position ≤ data.length →
      (Metered.value data type position : Except PayloadFault Value) = .ok value →
      ∃ bytes, encodeValue type value = .ok bytes ∧ Holds data position bytes)
    (hhead : head ≤ data.length)
    (h : (Metered.sequence data types base head : Except PayloadFault (List Value)) = .ok values)
    (offset : Nat) :
    ∃ bytes, PartsOf offset types values ⟨bytes, []⟩ ∧ Holds data head bytes := by
  induction types generalizing values head with
  | nil =>
    rw [Metered.sequence, pure_eq_ok_iff] at h
    rw [h]
    exact ⟨[], .nil offset, .nil hhead⟩
  | cons type types ih =>
    rcases List.forall_mem_cons.mp hstatic with ⟨hdyn, hstatics⟩
    rcases List.forall_mem_cons.mp hvalues with ⟨htype, htypes⟩
    rw [Metered.sequence, Metered.member, hdyn, if_neg Bool.false_ne_true] at h
    simp only [bind_eq_ok_iff, pure_eq_ok_iff] at h
    rcases h with ⟨first, hfirst, rest, hrest, rfl⟩
    rcases htype first head hhead hfirst with ⟨bytes, hbytes, hholds⟩
    -- The reader goes on behind the bytes of the first value: they are as many as its type says.
    have hlength := (measured_encodeValue hbytes).length_of_static hdyn
    have hle := hholds.add_length_le
    rw [hlength] at hle
    rcases ih hstatics htypes hle hrest with ⟨others, hparts, hothers⟩
    rw [← hlength] at hothers
    exact ⟨bytes ++ others, .static hdyn hbytes hparts, hholds.append hothers⟩

theorem encodeValue_of_value {type : AbiType} {value : Value} (hstatic : type.isDynamic = false)
    (hposition : position ≤ data.length)
    (h : (Metered.value data type position : Except PayloadFault Value) = .ok value) :
    ∃ bytes, encodeValue type value = .ok bytes ∧ Holds data position bytes := by
  induction type generalizing value position with
  | bytes | string | array _ _ => simp [AbiType.isDynamic] at hstatic
  | bool =>
    rw [Metered.value] at h
    rcases exists_word_of_bind h with ⟨bytes, hholds, hlength, h⟩
    dsimp only at h
    split at h
    . next hle =>
      have hnumber : ofBigEndian bytes = (ofBigEndian bytes == 1).toNat := by
        interval_cases ofBigEndian bytes <;> rfl
      rw [pure_eq_ok_iff] at h
      refine ⟨bytes, ?_, hholds⟩
      rw [h, encodeValue, numberWord_of_ofBigEndian hlength hnumber]
    . contradiction
  | uint bits =>
    rw [Metered.value] at h
    rcases exists_word_of_bind h with ⟨bytes, hholds, hlength, h⟩
    dsimp only at h
    split at h
    . next hle =>
      rw [pure_eq_ok_iff] at h
      refine ⟨bytes, ?_, hholds⟩
      rw [h, encodeValue, if_neg (not_lt.mpr hle), Word.toBytes_ofBytes hlength]
    . contradiction
  | int bits =>
    rw [Metered.value] at h
    rcases exists_word_of_bind h with ⟨bytes, hholds, hlength, h⟩
    dsimp only at h
    split at h
    . next hfits =>
      rw [pure_eq_ok_iff] at h
      refine ⟨bytes, ?_, hholds⟩
      rw [h, encodeValue, if_pos hfits, Word.toBytes_ofBytes hlength]
    . contradiction
  | address =>
    rw [Metered.value] at h
    rcases exists_word_of_bind h with ⟨bytes, hholds, hlength, h⟩
    split at h
    . contradiction
    . next hclean =>
      rw [pure_eq_ok_iff] at h
      refine ⟨bytes, ?_, hholds⟩
      rw [h, encodeValue, append_toBytes_ofBytes hlength (Bool.eq_false_of_not_eq_true hclean)]
  | tuple name components ih =>
    rw [Metered.value, Metered.members_eq_sequence, bind_eq_ok_iff] at h
    rcases h with ⟨members, hmembers, h⟩
    rw [AbiType.isDynamic_tuple_eq_false_iff] at hstatic
    have hparts := partsOf_of_sequence ?_ ?_ hposition hmembers (headSize (components.map (·.type)))
    . rcases hparts with ⟨bytes, hparts, hholds⟩
      rw [pure_eq_ok_iff] at h
      refine ⟨bytes, ?_, hholds⟩
      rw [h, encodeValue_tuple_eq_ok_iff]
      exact ⟨_, hparts, by simp [Parts.bytes]⟩
    . simpa using hstatic
    . intro type htype value position
      rcases List.mem_map.mp htype with ⟨param, hparam, rfl⟩
      exact ih param hparam (hstatic param hparam)

theorem encode_of_decode {types : List AbiType} {values : List Value}
    (hstatic : ∀ type ∈ types, type.isDynamic = false) (h : decode types data = .ok values) :
    headSize types ≤ data.length ∧ encode types values = .ok (data.take (headSize types)) := by
  have hparts := partsOf_of_sequence hstatic
    (fun type htype _ _ => encodeValue_of_value (hstatic type htype)) (Nat.zero_le _)
    ((decode_eq_ok_iff _).mp h).1 (headSize types)
  rcases hparts with ⟨bytes, hparts, hholds⟩
  have hlength : bytes.length = headSize types := hparts.measured.length_head
  constructor
  . have := hholds.add_length_le
    omega
  . rw [encode_eq_ok_iff]
    refine ⟨_, hparts, ?_⟩
    rw [← hholds.take_drop hlength, List.drop_zero, Parts.bytes, List.append_nil]

theorem encodeCall_of_decodeCall {selector : Selector} {params : List Param} {values : List Value}
    {payload : Bytes} (hstatic : ∀ param ∈ params, param.type.isDynamic = false)
    (hlength : payload.length = Selector.size + headSize (params.map (·.type)))
    (h : decodeCall selector params payload = .ok values) :
    encodeCall selector params values = .ok payload := by
  rcases (decodeCall_eq_ok_iff _ _ _).mp h with ⟨data, hsplit, _, hdecode⟩
  have hdata := length_of_splitPayload hsplit
  rcases encode_of_decode (by simpa using hstatic) hdecode with ⟨_, hencode⟩
  rw [encodeCall_eq_ok_iff]
  refine ⟨data, ?_, eq_append_of_splitPayload hsplit⟩
  rw [hencode, List.take_of_length_le (by omega)]

theorem static_encoding_unique :
    (∀ (types : List AbiType) (data : Bytes) (values : List Value),
      (∀ type ∈ types, type.isDynamic = false) → decode types data = .ok values →
        headSize types ≤ data.length ∧ encode types values = .ok (data.take (headSize types)))
    ∧ ∀ (selector : Selector) (params : List Param) (values : List Value) (payload payload' : Bytes),
      (∀ param ∈ params, param.type.isDynamic = false) →
        payload.length = Selector.size + headSize (params.map (·.type)) →
        payload'.length = Selector.size + headSize (params.map (·.type)) →
        decodeCall selector params payload = .ok values →
        decodeCall selector params payload' = .ok values → payload = payload' := by
  constructor
  . intro types data values hstatic h
    exact encode_of_decode hstatic h
  . intro selector params values payload payload' hstatic hlength hlength' h h'
    have hencode := encodeCall_of_decodeCall hstatic hlength h
    have hencode' := encodeCall_of_decodeCall hstatic hlength' h'
    rw [hencode] at hencode'
    injection hencode'

-- A negative integer and a struct with an address; the bytes behind them are not read.
set_option maxRecDepth 8000 in
theorem static_encoding_unique_flag :
    encode [.int 16, .tuple "Flag" [⟨"on", .bool⟩, ⟨"owner", .address⟩]]
        [.int (.ofInt (-2)), .tuple [.bool true, .address 7]]
      = .ok ((List.replicate 31 0xff ++ [0xfe] ++ numberWord 1 ++ numberWord 7 ++ [1, 2, 3]).take 96)
    ∧ Selector.toBytes ⟨0xcdcd77c0⟩ ++ numberWord 1
      = [0xcd, 0xcd, 0x77, 0xc0] ++ List.replicate 31 0 ++ [1] := by
  constructor
  . refine (static_encoding_unique.1 _ _ _ ?_ ?_).2
    . decide
    . rfl
  . apply static_encoding_unique.2 ⟨0xcdcd77c0⟩ [⟨"on", .bool⟩] [.bool true]
    . decide
    . rfl
    . rfl
    . rfl
    . rfl

end MessageAbi.Codec
