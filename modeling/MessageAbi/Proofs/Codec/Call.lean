import Mathlib
import MessageAbi.Codec.Call
import MessageAbi.Proofs.Codec.Budget
import MessageAbi.Proofs.Codec.Layout

/-!
This module contains how call payloads are split and checked, and the errors that reading them can end
in.
-/

namespace MessageAbi.Codec

variable {data payload : Bytes}

theorem splitPayload_append (selector : Selector) (data : Bytes) :
    splitPayload (selector.toBytes ++ data) = .ok (selector, data) := by
  have hlength : ¬ (selector.toBytes ++ data).length < Selector.size := by simp
  have htake : (selector.toBytes ++ data).take Selector.size = selector.toBytes := by
    rw [← selector.length_toBytes, List.take_left]
  have hdrop : (selector.toBytes ++ data).drop Selector.size = data := by
    rw [← selector.length_toBytes, List.drop_left]
  rw [splitPayload, Selector.ofPayload, if_neg hlength, htake, hdrop, Selector.ofBytes_toBytes]
  rfl

theorem length_of_splitPayload {selector : Selector} (h : splitPayload payload = .ok (selector, data)) :
    payload.length = Selector.size + data.length := by
  rw [splitPayload, Selector.ofPayload] at h
  split at h
  . contradiction
  . injection h with h
    injection h with _ h
    rw [← h, List.length_drop]
    omega

theorem eq_append_of_splitPayload {selector : Selector}
    (h : splitPayload payload = .ok (selector, data)) : payload = selector.toBytes ++ data := by
  rw [splitPayload, Selector.ofPayload] at h
  split at h
  . contradiction
  . next hle =>
    have hlength : (payload.take Selector.size).length = Selector.size := by
      rw [List.length_take]
      omega
    injection h with h
    injection h with hselector hdata
    rw [← hselector, ← hdata, Selector.toBytes_ofBytes hlength, List.take_append_drop]

theorem encodeCall_eq_ok_iff (selector : Selector) (params : List Param) (values : List Value)
    (payload : Bytes) :
    encodeCall selector params values = .ok payload
      ↔ ∃ data, encode (params.map (·.type)) values = .ok data
        ∧ payload = selector.toBytes ++ data := by
  simp only [encodeCall, bind_eq_ok_iff, pure_eq_ok_iff]

theorem checkArgumentsShape_of_encode {params : List Param} {values : List Value}
    (htuples : ∀ param ∈ params, param.type.tuplesNonempty = true)
    (h : encode (params.map (·.type)) values = .ok data) :
    checkArgumentsShape data (!params.isEmpty) = .ok () := by
  rw [encode_eq_ok_iff] at h
  rcases h with ⟨parts, hparts, rfl⟩
  have hmeasured := hparts.measured
  have haligned : parts.bytes.length % Word.size = 0 := Nat.mod_eq_zero_of_dvd hmeasured.dvd_length
  unfold checkArgumentsShape
  rw [if_neg (not_not.mpr haligned)]
  cases params with
  | nil =>
    have htail := hmeasured.tail_of_static (by simp)
    have hhead := List.eq_nil_of_length_eq_zero hmeasured.length_head
    simp [Parts.bytes, hhead, htail]
  | cons param params =>
    have hsizes : Word.size ≤ param.type.headSize := AbiType.size_le_headSize (htuples param (by simp))
    have hlength := hmeasured.length_head
    rw [List.map_cons, headSize_cons] at hlength
    have hne : parts.bytes ≠ [] := by
      intro hnil
      have := congrArg List.length hnil
      simp only [Parts.bytes, List.length_append, List.length_nil, Word.size] at this hsizes
      omega
    simp [hne]

theorem decodeCall_of_split {selector found : Selector} {params : List Param}
    (hsplit : splitPayload payload = .ok (found, data)) :
    decodeCall selector params payload = if found = selector then
        checkArgumentsShape data (!params.isEmpty) >>= fun _ => decode (params.map (·.type)) data
      else .error (.selectorMismatch selector found) := by
  rw [decodeCall, hsplit]
  by_cases hfound : found = selector
  . rw [if_pos hfound]
    subst hfound
    simp only [bind, Except.bind, ne_eq, not_true_eq_false, if_false]
  . rw [if_neg hfound]
    simp only [bind, Except.bind, ne_eq, hfound, not_false_eq_true, if_true]
    rfl

theorem decodeCall_eq_ok_iff (selector : Selector) (params : List Param) (values : List Value) :
    decodeCall selector params payload = .ok values
      ↔ ∃ data, splitPayload payload = .ok (selector, data)
        ∧ checkArgumentsShape data (!params.isEmpty) = .ok ()
        ∧ decode (params.map (·.type)) data = .ok values := by
  constructor
  . intro h
    rcases (bind_eq_ok_iff _ _ _).mp h with ⟨⟨found, data⟩, hsplit, _⟩
    rw [decodeCall_of_split hsplit] at h
    split at h
    next hfound =>
      rcases (bind_eq_ok_iff _ _ _).mp h with ⟨_, hshape, hdecode⟩
      exact ⟨data, hfound ▸ hsplit, hshape, hdecode⟩
    next => contradiction
  . rintro ⟨data, hsplit, hshape, hdecode⟩
    rw [decodeCall_of_split hsplit, if_pos rfl, bind_eq_ok_iff]
    exact ⟨(), hshape, hdecode⟩

theorem decodeCall_append (selector : Selector) {params : List Param}
    (hshape : checkArgumentsShape data (!params.isEmpty) = .ok ()) :
    decodeCall selector params (selector.toBytes ++ data) = decode (params.map (·.type)) data := by
  rw [decodeCall_of_split (splitPayload_append selector data), if_pos rfl, hshape]
  rfl

theorem malformed_of_decode {types : List AbiType} {error : AbiError}
    (h : decode types data = .error error) : ∃ fault, error = .malformedPayload fault := by
  cases decode_eq_error h with
  | inl hread =>
    rcases hread with ⟨_, last, _, _, rfl, _, _⟩
    exact ⟨_, rfl⟩
  | inr hrefused =>
    rcases hrefused with ⟨fault, _, rfl⟩
    exact ⟨fault, rfl⟩

theorem malformed_of_checkArgumentsShape {hasParams : Bool} {error : AbiError}
    (h : checkArgumentsShape data hasParams = .error error) :
    ∃ fault, error = .malformedPayload fault := by
  unfold checkArgumentsShape at h
  split at h
  . injection h with h
    exact ⟨_, h.symm⟩
  . split at h
    . injection h with h
      exact ⟨_, h.symm⟩
    . injection h with h
      exact ⟨_, h.symm⟩
    . contradiction

theorem malformed_of_splitPayload {error : AbiError} (h : splitPayload payload = .error error) :
    ∃ fault, error = .malformedPayload fault := by
  rw [splitPayload, Selector.ofPayload] at h
  split at h
  . injection h with h
    exact ⟨_, h.symm⟩
  . contradiction

theorem malformed_of_decodeCall {selector : Selector} {params : List Param} {error : AbiError}
    (hsplit : splitPayload payload = .ok (selector, data))
    (h : decodeCall selector params payload = .error error) :
    ∃ fault, error = .malformedPayload fault := by
  rw [decodeCall_of_split hsplit, if_pos rfl, bind_eq_error_iff] at h
  cases h with
  | inl hshape => exact malformed_of_checkArgumentsShape hshape
  | inr hdecode =>
    rcases hdecode with ⟨_, _, hdecode⟩
    exact malformed_of_decode hdecode

end MessageAbi.Codec
