import Mathlib
import MessageAbi.Codec.Call
import MessageAbi.Proofs.AbiDocument.TypeName

/-!
This module contains what is left of a type without the names of its structs and of their fields, and
that neither the name of the type in signatures nor the encoding of its values depends on more.
-/

namespace MessageAbi

namespace AbiType

mutual

def erase : AbiType → AbiType
  | array element => .array element.erase
  | tuple _ components => .tuple "" (eraseNames components)
  | type => type

def eraseNames : List Param → List Param
  | [] => []
  | ⟨_, type⟩ :: params => ⟨"", type.erase⟩ :: eraseNames params

end

theorem eraseNames_eq_map (params : List Param) :
    eraseNames params = params.map fun param => ⟨"", param.type.erase⟩ := by
  induction params with
  | nil => rfl
  | cons param params ih =>
    cases param
    rw [eraseNames, ih]
    rfl

theorem map_type_eraseNames (params : List Param) :
    (eraseNames params).map (·.type) = (params.map (·.type)).map erase := by
  rw [eraseNames_eq_map, List.map_map, List.map_map]
  rfl

theorem erase_arrays (element : AbiType) (depth : Nat) :
    (element.arrays depth).erase = element.erase.arrays depth := by
  induction depth generalizing element with
  | zero => rfl
  | succ depth ih =>
    rw [arrays, ih]
    rfl

@[simp]
theorem canonical_erase (type : AbiType) : type.erase.canonical = type.canonical := by
  induction type with
  | array element ih =>
    rw [erase, canonical, canonical, ih]
  | tuple name components ih =>
    rw [erase, canonical, canonical, canonicals_eq_map, canonicals_eq_map, eraseNames_eq_map,
      List.map_map]
    congr 3
    apply List.map_congr_left
    intro param hparam
    exact ih param hparam
  | _ => rfl

@[simp]
theorem isDynamic_erase (type : AbiType) : type.erase.isDynamic = type.isDynamic := by
  induction type with
  | tuple name components ih =>
    rw [erase, isDynamic, isDynamic, anyDynamic_eq_any, anyDynamic_eq_any, eraseNames_eq_map,
      List.any_map]
    rw [Bool.eq_iff_iff, List.any_eq_true, List.any_eq_true]
    apply exists_congr
    intro param
    apply and_congr_right
    intro hparam
    rw [Function.comp_apply, ih param hparam]
  | _ => rfl

@[simp]
theorem headSize_erase (type : AbiType) : type.erase.headSize = type.headSize := by
  induction type with
  | tuple name components ih =>
    have hdynamic : anyDynamic (eraseNames components) = anyDynamic components :=
      isDynamic_erase (.tuple name components)
    have hsizes : headSizes (eraseNames components) = headSizes components := by
      rw [headSizes_eq_foldr, headSizes_eq_foldr, eraseNames_eq_map, List.map_map]
      congr 1
      apply List.map_congr_left
      intro param hparam
      exact ih param hparam
    rw [erase, headSize, headSize, hdynamic, hsizes]
  | _ => rfl

end AbiType

namespace Codec

@[simp]
theorem headSize_map_erase (types : List AbiType) :
    headSize (types.map AbiType.erase) = headSize types := by
  rw [headSize, headSize, List.map_map]
  congr 1
  apply List.map_congr_left
  intro type _
  exact type.headSize_erase

mutual

theorem encodeValue_erase (type : AbiType) (value : Value) :
    encodeValue type.erase value = encodeValue type value := by
  have hname := type.canonical_erase
  cases type with
  | array element =>
    rw [AbiType.erase] at hname ⊢
    cases value with
    | array items =>
      have hparts := encodeParts_erase (headSize (List.replicate items.length element))
        (List.replicate items.length element) items
      have hsize := headSize_map_erase (List.replicate items.length element)
      rw [List.map_replicate] at hparts hsize
      simp only [encodeValue, hsize, hparts]
    | _ => simp only [encodeValue, hname]
  | tuple name components =>
    have hlength : (AbiType.eraseNames components).length = components.length := by
      rw [AbiType.eraseNames_eq_map, List.length_map]
    rw [AbiType.erase] at hname ⊢
    cases value with
    | tuple members =>
      have hparts := encodeParts_erase (headSize (components.map (·.type)))
        (components.map (·.type)) members
      simp only [encodeValue, AbiType.map_type_eraseNames, hlength, headSize_map_erase, hparts]
    | _ => simp only [encodeValue, hname]
  | _ => rfl

theorem encodeParts_erase : ∀ (offset : Nat) (types : List AbiType) (values : List Value),
    encodeParts offset (types.map AbiType.erase) values = encodeParts offset types values
  | offset, [], values => by
    cases values <;> simp [encodeParts]
  | offset, _ :: _, [] => by
    simp [encodeParts]
  | offset, type :: types, value :: values => by
    have hvalue := encodeValue_erase type value
    have hrest := fun offset => encodeParts_erase offset types values
    simp only [List.map_cons, encodeParts, hvalue, hrest, AbiType.isDynamic_erase]

end

section Decode

variable {m : Type → Type} [Monad m] [Metered m]

theorem sequence_erase (data : Bytes) {types : List AbiType}
    (h : ∀ type ∈ types, (Metered.value data type.erase : Nat → m Value) = Metered.value data type)
    (base head : Nat) :
    (Metered.sequence data (types.map AbiType.erase) base head : m (List Value))
      = Metered.sequence data types base head := by
  induction types generalizing head with
  | nil => rfl
  | cons type types ih =>
    rw [List.forall_mem_cons] at h
    have hrest := ih h.2
    simp only [List.map_cons, Metered.sequence, h.1, hrest, AbiType.isDynamic_erase,
      AbiType.headSize_erase]

theorem value_erase (data : Bytes) (type : AbiType) :
    (Metered.value data type.erase : Nat → m Value) = Metered.value data type := by
  induction type with
  | array element ih =>
    funext position
    simp only [AbiType.erase, Metered.value, ih, AbiType.isDynamic_erase, AbiType.headSize_erase]
  | tuple name components ih =>
    have htypes : ∀ type ∈ components.map (·.type),
        (Metered.value data type.erase : Nat → m Value) = Metered.value data type := by
      simpa using ih
    have hsequence := sequence_erase data htypes
    funext position
    simp only [AbiType.erase, Metered.value, Metered.members_eq_sequence,
      AbiType.map_type_eraseNames, hsequence]
  | _ => rfl

end Decode

theorem encode_erase (types : List AbiType) (values : List Value) :
    encode (types.map AbiType.erase) values = encode types values := by
  simp only [encode, List.length_map, headSize_map_erase, encodeParts_erase]

theorem decode_erase (types : List AbiType) (data : Bytes) :
    decode (types.map AbiType.erase) data = decode types data := by
  rw [decode, decode, sequence_erase]
  intro type _
  exact value_erase data type

end Codec

def erasedTypes (params : List Param) : List AbiType :=
  params.map (·.type.erase)

theorem erasedTypes_eq_map (params : List Param) :
    erasedTypes params = (params.map (·.type)).map AbiType.erase := by
  rw [List.map_map]
  rfl

theorem AbiType.eraseNames_eq_of_erasedTypes {params others : List Param}
    (h : erasedTypes params = erasedTypes others) : eraseNames params = eraseNames others := by
  have hmap := congrArg (List.map fun type => (⟨"", type⟩ : Param)) h
  rw [erasedTypes, erasedTypes, List.map_map, List.map_map] at hmap
  rw [eraseNames_eq_map, eraseNames_eq_map]
  exact hmap

namespace Codec

variable {params others : List Param}

theorem encode_eq_of_erasedTypes (h : erasedTypes params = erasedTypes others)
    (values : List Value) :
    encode (params.map (·.type)) values = encode (others.map (·.type)) values := by
  rw [← encode_erase, ← erasedTypes_eq_map, h, erasedTypes_eq_map, encode_erase]

theorem decode_eq_of_erasedTypes (h : erasedTypes params = erasedTypes others) (data : Bytes) :
    decode (params.map (·.type)) data = decode (others.map (·.type)) data := by
  rw [← decode_erase, ← erasedTypes_eq_map, h, erasedTypes_eq_map, decode_erase]

theorem encodeCall_eq_of_erasedTypes (h : erasedTypes params = erasedTypes others)
    (selector : Selector) (values : List Value) :
    encodeCall selector params values = encodeCall selector others values := by
  rw [encodeCall, encodeCall, encode_eq_of_erasedTypes h]

theorem decodeCall_eq_of_erasedTypes (h : erasedTypes params = erasedTypes others)
    (selector : Selector) (payload : Bytes) :
    decodeCall selector params payload = decodeCall selector others payload := by
  have hempty : params.isEmpty = others.isEmpty := by
    have hempty := congrArg List.isEmpty h
    rwa [erasedTypes, erasedTypes, List.isEmpty_map, List.isEmpty_map] at hempty
  simp only [decodeCall, hempty, decode_eq_of_erasedTypes h]

end Codec

end MessageAbi
