import Mathlib
import MessageAbi.Proofs.Codec.Parts
import MessageAbi.Proofs.Word

/-!
This module contains the typing of values, and the encodings that exist: a value has one exactly if it
is of the type.
-/

namespace MessageAbi

/--
The values of a type.
-/
inductive HasType : AbiType → Value → Prop where
  | bool (b : Bool) : HasType .bool (.bool b)
  | uint (bits : Nat) (n : Word) : n.toNat < 2 ^ bits → HasType (.uint bits) (.uint n)
  | int (bits : Nat) (n : Int256) :
    0 < bits → -2 ^ (bits - 1) ≤ n.toInt → n.toInt < 2 ^ (bits - 1) → HasType (.int bits) (.int n)
  | address (a : Address) : HasType .address (.address a)
  | bytes (b : Bytes) : HasType .bytes (.bytes b)
  | string (s : String) : HasType .string (.string s)
  | array (element : AbiType) (items : List Value) :
    (∀ item ∈ items, HasType element item) → HasType (.array element) (.array items)
  | tuple (name : String) (components : List Param) (members : List Value) :
    List.Forall₂ (fun param member => HasType param.type member) components members →
      HasType (.tuple name components) (.tuple members)

theorem forall₂_hasType_map_iff (params : List Param) (values : List Value) :
    List.Forall₂ HasType (params.map (·.type)) values
      ↔ List.Forall₂ (fun param value => HasType param.type value) params values := by
  exact List.forall₂_map_left_iff

theorem forall₂_hasType_replicate_iff (element : AbiType) (items : List Value) :
    List.Forall₂ HasType (List.replicate items.length element) items
      ↔ ∀ item ∈ items, HasType element item := by
  induction items with
  | nil => simp
  | cons item items ih => simp [List.replicate_succ, ih]

namespace Codec

theorem hasType_of_partsOf {types : List AbiType} {values : List Value} {offset : Nat}
    {parts : Parts}
    (hvalues : ∀ type ∈ types, ∀ value bytes,
      encodeValue type value = .ok bytes → HasType type value)
    (h : PartsOf offset types values parts) : List.Forall₂ HasType types values := by
  induction h with
  | nil => exact .nil
  | dynamic _ hbytes _ ih | static _ hbytes _ ih =>
    rcases List.forall_mem_cons.mp hvalues with ⟨hvalue, htypes⟩
    exact .cons (hvalue _ _ hbytes) (ih htypes)

theorem hasType_of_encodeValue {type : AbiType} {value : Value} {bytes : Bytes}
    (h : encodeValue type value = .ok bytes) : HasType type value := by
  induction type generalizing value bytes with
  | bool =>
    cases value <;> simp [encodeValue] at h
    constructor
  | uint bits =>
    cases value <;> simp [encodeValue] at h
    split at h
    . contradiction
    . next hle =>
      constructor
      rw [← Nat.pow_eq, ← Word.bitLength_le_iff]
      omega
  | int bits =>
    cases value <;> simp [encodeValue] at h
    split at h
    . next hfits =>
      rcases (Int256.fits_iff _ bits).mp hfits with ⟨hpos, hlower, hupper⟩
      exact .int bits _ hpos hlower hupper
    . contradiction
  | address =>
    cases value <;> simp [encodeValue] at h
    constructor
  | bytes =>
    cases value <;> simp [encodeValue] at h
    constructor
  | string =>
    cases value <;> simp [encodeValue] at h
    constructor
  | array element ih =>
    cases value with
    | array items =>
      rw [encodeValue_array_eq_ok_iff] at h
      rcases h with ⟨parts, hparts, _⟩
      constructor
      rw [← forall₂_hasType_replicate_iff]
      apply hasType_of_partsOf ?_ hparts
      intro type htype value bytes
      rw [List.eq_of_mem_replicate htype]
      apply ih
    | _ => simp [encodeValue] at h
  | tuple name components ih =>
    cases value with
    | tuple members =>
      rw [encodeValue_tuple_eq_ok_iff] at h
      rcases h with ⟨parts, hparts, _⟩
      constructor
      rw [← forall₂_hasType_map_iff]
      apply hasType_of_partsOf ?_ hparts
      intro type htype value bytes
      rcases List.mem_map.mp htype with ⟨param, hparam, rfl⟩
      apply ih
      exact hparam
    | _ => simp [encodeValue] at h

theorem exists_partsOf {types : List AbiType} {values : List Value}
    (hvalues : ∀ type ∈ types, ∀ value,
      HasType type value → ∃ bytes, encodeValue type value = .ok bytes)
    (h : List.Forall₂ HasType types values) (offset : Nat) :
    ∃ parts, PartsOf offset types values parts := by
  induction h generalizing offset with
  | nil => exact ⟨_, .nil offset⟩
  | @cons type value types values hvalue _ ih =>
    rcases List.forall_mem_cons.mp hvalues with ⟨htype, htypes⟩
    rcases htype value hvalue with ⟨bytes, hbytes⟩
    cases hdyn : type.isDynamic with
    | true =>
      rcases ih htypes (offset + bytes.length) with ⟨rest, hrest⟩
      exact ⟨_, .dynamic hdyn hbytes hrest⟩
    | false =>
      rcases ih htypes offset with ⟨rest, hrest⟩
      exact ⟨_, .static hdyn hbytes hrest⟩

theorem exists_encodeValue {type : AbiType} {value : Value} (h : HasType type value) :
    ∃ bytes, encodeValue type value = .ok bytes := by
  induction type generalizing value with
  | bool | address | bytes | string =>
    cases h
    simp [encodeValue]
  | uint bits =>
    cases h with
    | uint _ n hn =>
      have : ¬ n.bitLength > bits := by
        rw [gt_iff_lt, not_lt, Word.bitLength_le_iff]
        exact hn
      simp [encodeValue, this]
  | int bits =>
    cases h with
    | int _ n hpos hlower hupper =>
      have : n.fits bits = true := (Int256.fits_iff n bits).mpr ⟨hpos, hlower, hupper⟩
      simp [encodeValue, this]
  | array element ih =>
    cases h with
    | array _ items hitems =>
      rw [← forall₂_hasType_replicate_iff] at hitems
      have hexists := exists_partsOf ?_ hitems (items.length * element.headSize)
      . rcases hexists with ⟨parts, hparts⟩
        simp only [encodeValue_array_eq_ok_iff]
        exact ⟨_, parts, hparts, rfl⟩
      . intro type htype value
        rw [List.eq_of_mem_replicate htype]
        apply ih
  | tuple name components ih =>
    cases h with
    | tuple _ _ members hmembers =>
      rw [← forall₂_hasType_map_iff] at hmembers
      have hexists := exists_partsOf ?_ hmembers (headSize (components.map (·.type)))
      . rcases hexists with ⟨parts, hparts⟩
        simp only [encodeValue_tuple_eq_ok_iff]
        exact ⟨_, parts, hparts, rfl⟩
      . intro type htype value
        rcases List.mem_map.mp htype with ⟨param, hparam, rfl⟩
        apply ih
        exact hparam

theorem forall₂_hasType_of_encode {types : List AbiType} {values : List Value} {data : Bytes}
    (h : encode types values = .ok data) : List.Forall₂ HasType types values := by
  rw [encode_eq_ok_iff] at h
  rcases h with ⟨parts, hparts, _⟩
  apply hasType_of_partsOf ?_ hparts
  intro type _ value bytes
  apply hasType_of_encodeValue

theorem exists_encode {types : List AbiType} {values : List Value}
    (h : List.Forall₂ HasType types values) : ∃ data, encode types values = .ok data := by
  have hexists := exists_partsOf (fun type _ value => exists_encodeValue) h (headSize types)
  rcases hexists with ⟨parts, hparts⟩
  simp only [encode_eq_ok_iff]
  exact ⟨_, parts, hparts, rfl⟩

end Codec

end MessageAbi
