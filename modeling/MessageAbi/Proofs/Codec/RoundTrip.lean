import Mathlib
import MessageAbi.Proofs.Codec.Call

/-!
This module contains the round trips of the codec. The encoder's offsets are sums of lengths and the
reader's are positions in the data, so the invariant is where in the data each part of an encoding
stands.
-/

namespace MessageAbi.Codec

def Holds (data : Bytes) (position : Nat) (bytes : Bytes) : Prop :=
  ∃ before after, data = before ++ (bytes ++ after) ∧ before.length = position

namespace Holds

variable {data bytes others : Bytes} {position : Nat}

theorem nil (h : position ≤ data.length) : Holds data position [] := by
  refine ⟨data.take position, data.drop position, ?_, ?_⟩
  . rw [List.nil_append, List.take_append_drop]
  . rw [List.length_take]
    omega

theorem append (h : Holds data position bytes)
    (hothers : Holds data (position + bytes.length) others) :
    Holds data position (bytes ++ others) := by
  rcases h with ⟨before, after, hdata, hlength⟩
  rcases hothers with ⟨before', after', hdata', hlength'⟩
  have heq : (before ++ bytes) ++ after = before' ++ (others ++ after') := by
    rw [← hdata', hdata, List.append_assoc]
  have hafter := List.append_inj_right heq (by rw [List.length_append]; omega)
  refine ⟨before, after', ?_, hlength⟩
  rw [hdata, hafter, List.append_assoc]

theorem left (h : Holds data position (bytes ++ others)) : Holds data position bytes := by
  rcases h with ⟨before, after, hdata, hlength⟩
  refine ⟨before, others ++ after, ?_, hlength⟩
  rw [hdata, List.append_assoc]

theorem right (h : Holds data position (bytes ++ others)) :
    Holds data (position + bytes.length) others := by
  rcases h with ⟨before, after, hdata, hlength⟩
  refine ⟨before ++ bytes, after, ?_, ?_⟩
  . rw [hdata, List.append_assoc, List.append_assoc]
  . rw [List.length_append, hlength]

theorem add_length_le (h : Holds data position bytes) :
    position + bytes.length ≤ data.length := by
  rcases h with ⟨before, after, hdata, hlength⟩
  rw [hdata]
  simp only [List.length_append]
  omega

theorem take_drop (h : Holds data position bytes) {count : Nat} (hcount : bytes.length = count) :
    (data.drop position).take count = bytes := by
  rcases h with ⟨before, after, hdata, hlength⟩
  rw [hdata, ← hlength, ← hcount]
  simp

end Holds

variable {data bytes : Bytes} {position : Nat}

theorem word_of_holds (h : Holds data position bytes) (hlength : bytes.length = Word.size) :
    (Metered.word data position : Except PayloadFault Bytes) = .ok bytes := by
  have hle := h.add_length_le
  rw [hlength] at hle
  rw [Metered.word, if_pos hle, h.take_drop hlength]
  rfl

theorem number_of_holds {n : Nat} (h : Holds data position (numberWord n)) (hn : n < 2 ^ 64) :
    (Metered.number data position : Except PayloadFault Nat) = .ok n := by
  rw [Metered.number, word_of_holds h (length_numberWord n)]
  simp only [bind, Except.bind, ofBigEndian_numberWord hn, Nat.pow_eq, if_pos hn]
  rfl

theorem packed_of_holds (hsize : data.length < 2 ^ 64) (h : Holds data position (encodePacked bytes)) :
    (Metered.packed data position : Except PayloadFault Bytes) = .ok bytes := by
  have hbytes := h.left.right
  rw [length_numberWord] at hbytes
  have hle := hbytes.add_length_le
  have hn : bytes.length < 2 ^ 64 := by omega
  rw [Metered.packed, number_of_holds h.left.left hn]
  simp only [bind, Except.bind, if_pos hle, hbytes.take_drop rfl]
  rfl

theorem sequence_of_partsOf (hsize : data.length < 2 ^ 64) {types : List AbiType}
    {values : List Value} {offset base head : Nat} {parts : Parts}
    (hvalues : ∀ type ∈ types, ∀ value bytes position, encodeValue type value = .ok bytes →
      Holds data position bytes →
      (Metered.value data type position : Except PayloadFault Value) = .ok value)
    (h : PartsOf offset types values parts) (hhead : Holds data head parts.head)
    (htail : Holds data (base + offset) parts.tail) :
    (Metered.sequence data types base head : Except PayloadFault (List Value)) = .ok values := by
  induction h generalizing head with
  | nil => rfl
  | @dynamic offset type _ _ _ _ _ hdyn hbytes _ ih =>
    rcases List.forall_mem_cons.mp hvalues with ⟨htype, htypes⟩
    -- The offset leads into the data, so neither it nor its sum with the base is too large to read.
    have hle := htail.add_length_le
    have hoffset : base + offset < 2 ^ 64 := by omega
    have hnumber := number_of_holds hhead.left (by omega)
    have hvalue := htype _ _ _ hbytes htail.left
    have hheads := hhead.right
    have htails := htail.right
    rw [length_numberWord, ← AbiType.headSize_of_isDynamic hdyn] at hheads
    rw [Nat.add_assoc] at htails
    have hsequence := ih htypes hheads htails
    rw [Metered.sequence, Metered.member, hdyn, if_pos rfl, hnumber]
    simp only [bind, Except.bind, Nat.pow_eq, if_pos hoffset, hvalue, hsequence]
    rfl
  | static hdyn hbytes _ ih =>
    rcases List.forall_mem_cons.mp hvalues with ⟨htype, htypes⟩
    have hvalue := htype _ _ _ hbytes hhead.left
    -- The reader goes on by the size of the type, the encoder by the bytes that it wrote.
    have hheads := hhead.right
    rw [(measured_encodeValue hbytes).length_of_static hdyn] at hheads
    have hsequence := ih htypes hheads htail
    rw [Metered.sequence, Metered.member, hdyn, if_neg Bool.false_ne_true, hvalue]
    simp only [bind, Except.bind, hsequence]
    rfl

theorem value_of_encodeValue (hsize : data.length < 2 ^ 64) {type : AbiType} {value : Value}
    (htuples : type.tuplesNonempty = true) (h : encodeValue type value = .ok bytes)
    (hbytes : Holds data position bytes) :
    (Metered.value data type position : Except PayloadFault Value) = .ok value := by
  induction type generalizing value bytes position with
  | bool =>
    cases hasType_of_encodeValue h with
    | bool b =>
      injection h with h
      rw [← h] at hbytes
      have hb : b.toNat ≤ 1 := b.toNat_le
      have hnumber : ofBigEndian (numberWord b.toNat) = b.toNat :=
        ofBigEndian_numberWord (by omega)
      rw [Metered.value, word_of_holds hbytes (length_numberWord _)]
      simp only [bind, Except.bind, hnumber, if_pos hb]
      cases b
      . rfl
      . rfl
  | uint bits =>
    cases hasType_of_encodeValue h with
    | uint _ n hn =>
      rw [← Nat.pow_eq, ← Word.bitLength_le_iff] at hn
      rw [encodeValue, if_neg (by omega)] at h
      injection h with h
      rw [← h] at hbytes
      rw [Metered.value, word_of_holds hbytes (Word.length_toBytes n)]
      simp only [bind, Except.bind, Word.ofBytes_toBytes, if_pos hn]
      rfl
  | int bits =>
    cases hasType_of_encodeValue h with
    | int _ n hpos hlower hupper =>
      have hfits := (Int256.fits_iff n bits).mpr ⟨hpos, hlower, hupper⟩
      rw [encodeValue, if_pos hfits] at h
      injection h with h
      rw [← h] at hbytes
      rw [Metered.value, word_of_holds hbytes (Word.length_toBytes n.raw)]
      simp only [bind, Except.bind, Word.ofBytes_toBytes, if_pos hfits]
      rfl
  | address =>
    cases hasType_of_encodeValue h with
    | address a =>
      injection h with h
      rw [← h] at hbytes
      rw [Metered.value, word_of_holds hbytes (by simp [Word.size, Address.size])]
      simp [bind, Except.bind, pure, Except.pure]
  | bytes =>
    cases hasType_of_encodeValue h with
    | bytes b =>
      injection h with h
      rw [← h] at hbytes
      rw [Metered.value, packed_of_holds hsize hbytes]
      rfl
  | string =>
    cases hasType_of_encodeValue h with
    | string s =>
      injection h with h
      rw [← h] at hbytes
      rw [Metered.value, packed_of_holds hsize hbytes]
      simp only [bind, Except.bind, fromUTF8?_toUTF8]
      rfl
  | array element ih =>
    cases hasType_of_encodeValue h with
    | array _ items hitems =>
      rw [encodeValue_array_eq_ok_iff] at h
      rcases h with ⟨parts, hparts, rfl⟩
      have hmeasured := hparts.measured
      have hheads := hbytes.right.left
      have htails := hbytes.right.right
      rw [hmeasured.length_head, headSize_replicate] at htails
      rw [length_numberWord] at hheads htails
      have hsequence := sequence_of_partsOf hsize ?_ hparts hheads htails
      . -- The heads of the items alone fill as many bytes as the reader asks for.
        have hle := hheads.add_length_le
        rw [hmeasured.length_head, headSize_replicate] at hle
        have hsizes : Word.size ≤ element.headSize := AbiType.size_le_headSize htuples
        have hpos : 0 < element.headSize := Nat.lt_of_lt_of_le (by decide) hsizes
        have hcount : items.length ≤ items.length * element.headSize :=
          Nat.le_mul_of_pos_right _ hpos
        have hmax : max element.headSize 1 = element.headSize := by omega
        have hfits :
            ¬ items.length > (data.length - (position + Word.size)) / max element.headSize 1 := by
          rw [hmax, gt_iff_lt, not_lt, Nat.le_div_iff_mul_le hpos]
          omega
        rw [Metered.value, number_of_holds hbytes.left (by omega)]
        simp only [bind, Except.bind, if_neg hfits]
        rw [Metered.repeated_eq_sequence, hsequence]
        rfl
      . intro type htype value bytes position
        rw [List.eq_of_mem_replicate htype]
        exact ih htuples
  | tuple name components ih =>
    cases hasType_of_encodeValue h with
    | tuple _ _ members hmembers =>
      rw [encodeValue_tuple_eq_ok_iff] at h
      rcases h with ⟨parts, hparts, rfl⟩
      have htail := hbytes.right
      rw [hparts.measured.length_head] at htail
      rw [AbiType.tuplesNonempty_tuple_iff] at htuples
      have hsequence := sequence_of_partsOf hsize ?_ hparts hbytes.left htail
      . rw [Metered.value, Metered.members_eq_sequence, hsequence]
        rfl
      . intro type htype value bytes position
        rcases List.mem_map.mp htype with ⟨param, hparam, rfl⟩
        exact ih param hparam (htuples.2 param hparam)

theorem decode_of_encode {types : List AbiType} {values : List Value}
    (htuples : ∀ type ∈ types, type.tuplesNonempty = true) (hsize : data.length < 2 ^ 64)
    (h : encode types values = .ok data) : decode types data = .ok values := by
  rw [encode_eq_ok_iff] at h
  rcases h with ⟨parts, hparts, hdata⟩
  have hmeasured := hparts.measured
  rw [Parts.bytes] at hdata
  have hhead : Holds data 0 parts.head := ⟨[], parts.tail, hdata, rfl⟩
  have htail : Holds data (0 + headSize types) parts.tail := by
    refine ⟨parts.head, [], ?_, ?_⟩
    . rw [hdata, List.append_nil]
    . rw [hmeasured.length_head, Nat.zero_add]
  rw [decode_eq_ok_iff]
  constructor
  . apply sequence_of_partsOf hsize ?_ hparts hhead htail
    intro type htype value bytes position
    exact value_of_encodeValue hsize (htuples type htype)
  . rw [hdata, List.length_append]
    exact hmeasured.footprints_le

theorem decodeCall_of_encodeCall {selector : Selector} {params : List Param} {values : List Value}
    {payload : Bytes} (htuples : ∀ param ∈ params, param.type.tuplesNonempty = true)
    (hsize : payload.length < 2 ^ 64) (h : encodeCall selector params values = .ok payload) :
    decodeCall selector params payload = .ok values := by
  rw [encodeCall_eq_ok_iff] at h
  rcases h with ⟨data, hdata, rfl⟩
  rw [List.length_append] at hsize
  rw [decodeCall_append selector (checkArgumentsShape_of_encode htuples hdata)]
  apply decode_of_encode ?_ (by omega) hdata
  intro type htype
  rcases List.mem_map.mp htype with ⟨param, hparam, rfl⟩
  exact htuples param hparam

-- The encoder at most doubles what the reader has paid for.
theorem exists_encode_of_decode {types : List AbiType} {values : List Value}
    (h : decode types data = .ok values) :
    ∃ encoded, encode types values = .ok encoded ∧ encoded.length ≤ 2 * data.length := by
  rw [decode_eq_ok_iff] at h
  rcases h with ⟨hvalues, hfootprint⟩
  rcases exists_encode (forall₂_hasType_of_decodeUnmetered hvalues) with ⟨encoded, hencoded⟩
  refine ⟨encoded, hencoded, ?_⟩
  have hle := length_encode_le hencoded
  omega

theorem exists_encodeCall_of_decodeCall {selector : Selector} {params : List Param}
    {values : List Value} {payload : Bytes}
    (h : decodeCall selector params payload = .ok values) :
    ∃ encoded, encodeCall selector params values = .ok encoded
      ∧ encoded.length ≤ 2 * payload.length := by
  rcases (decodeCall_eq_ok_iff _ _ _).mp h with ⟨data, hsplit, _, hdecode⟩
  rcases exists_encode_of_decode hdecode with ⟨encoded, hencoded, hle⟩
  refine ⟨selector.toBytes ++ encoded, (encodeCall_eq_ok_iff _ _ _ _).mpr ⟨_, hencoded, rfl⟩, ?_⟩
  rw [List.length_append, selector.length_toBytes, length_of_splitPayload hsplit]
  omega

theorem codec_round_trip :
    (∀ (types : List AbiType) (values : List Value) (data : Bytes),
      (∀ type ∈ types, type.tuplesNonempty = true) → encode types values = .ok data →
        data.length < 2 ^ 63 → decode types data = .ok values)
    ∧ ∀ (selector : Selector) (params : List Param) (values : List Value) (payload : Bytes),
      (∀ param ∈ params, param.type.tuplesNonempty = true) →
        encodeCall selector params values = .ok payload →
          payload.length < 2 ^ 63 + Selector.size →
            checkArgumentsShape (payload.drop Selector.size) (!params.isEmpty) = .ok ()
              ∧ decodeCall selector params payload = .ok values := by
  constructor
  . intro types values data htuples h hsize
    exact decode_of_encode htuples (by omega) h
  . intro selector params values payload htuples h hsize
    rw [Selector.size] at hsize
    constructor
    . rw [encodeCall_eq_ok_iff] at h
      rcases h with ⟨data, hdata, rfl⟩
      have hdrop : (selector.toBytes ++ data).drop Selector.size = data := by
        rw [← selector.length_toBytes, List.drop_left]
      rw [hdrop]
      exact checkArgumentsShape_of_encode htuples hdata
    . exact decodeCall_of_encodeCall htuples (by omega) h

set_option maxRecDepth 8000 in
theorem codec_round_trip_notes :
    decode [.array (.tuple "Note" [⟨"id", .uint 8⟩, ⟨"body", .bytes⟩])]
        (numberWord 32 ++ numberWord 1 ++ numberWord 32 ++ numberWord 5 ++ numberWord 64
          ++ encodePacked [1, 2])
      = .ok [.array [.tuple [.uint 5, .bytes [1, 2]]]]
    ∧ decodeCall ⟨0xcdcd77c0⟩ [⟨"body", .bytes⟩, ⟨"flag", .bool⟩]
        (Selector.toBytes ⟨0xcdcd77c0⟩ ++ (numberWord 64 ++ numberWord 1 ++ encodePacked [1, 2]))
      = .ok [.bytes [1, 2], .bool true] := by
  constructor
  . apply codec_round_trip.1
    . decide
    . rfl
    . simp [length_encodePacked, Word.size]
  . refine (codec_round_trip.2 _ _ _ _ ?_ ?_ ?_).2
    . decide
    . rfl
    . simp [length_encodePacked, Word.size, Selector.size]

theorem decode_sound (types : List AbiType) (data : Bytes) (values : List Value)
    (h : decode types data = .ok values) :
    List.Forall₂ HasType types values
    ∧ ∃ encoded, encode types values = .ok encoded
      ∧ ((∀ type ∈ types, type.tuplesNonempty = true) → data.length < 2 ^ 62 →
        decode types encoded = .ok values) := by
  have htyped : List.Forall₂ HasType types values :=
    forall₂_hasType_of_decodeUnmetered ((decode_eq_ok_iff _).mp h).1
  rcases exists_encode_of_decode h with ⟨encoded, hencoded, hle⟩
  refine ⟨htyped, encoded, hencoded, ?_⟩
  intro htuples hsize
  exact decode_of_encode htuples (by omega) hencoded

-- The second string comes first, its padding is dirty, there is a gap and a byte is left over.
set_option maxRecDepth 8000 in
theorem decode_sound_out_of_order :
    List.Forall₂ HasType [.bytes, .bytes] [.bytes [], .bytes [7]]
    ∧ ∃ encoded, encode [.bytes, .bytes] [.bytes [], .bytes [7]] = .ok encoded
      ∧ decode [.bytes, .bytes] encoded = .ok [.bytes [], .bytes [7]] := by
  have hdecode : decode [.bytes, .bytes] (numberWord 160 ++ numberWord 64 ++ numberWord 1
      ++ List.replicate 64 7 ++ numberWord 0 ++ [9]) = .ok [.bytes [], .bytes [7]] := by
    rfl
  rcases decode_sound _ _ _ hdecode with ⟨htyped, encoded, hencoded, hagain⟩
  refine ⟨htyped, encoded, hencoded, hagain ?_ ?_⟩
  . decide
  . simp [Word.size]

end MessageAbi.Codec
