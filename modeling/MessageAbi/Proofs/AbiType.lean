import Mathlib
import MessageAbi.Codec.Encode

/-!
This module contains induction over ABI types, where a tuple comes with the hypothesis for all of its
components, and the sizes that follow from the types alone.
-/

namespace MessageAbi

namespace AbiType

@[elab_as_elim, induction_eliminator]
theorem induction {motive : AbiType → Prop} (bool : motive .bool)
    (uint : ∀ bits, motive (.uint bits)) (int : ∀ bits, motive (.int bits))
    (address : motive .address) (bytes : motive .bytes) (string : motive .string)
    (array : ∀ element, motive element → motive (.array element))
    (tuple : ∀ name components, (∀ param ∈ components, motive param.type) →
      motive (.tuple name components))
    (type : AbiType) : motive type := by
  refine @AbiType.rec motive (fun param => motive param.type)
    (fun params => ∀ param ∈ params, motive param.type)
    bool uint int address bytes string array tuple ?_ ?_ ?_ type
  . intro _ _ ih
    exact ih
  . simp
  . intro param params hparam hparams other hother
    cases List.mem_cons.mp hother with
    | inl heq => rw [heq]; exact hparam
    | inr hmem => exact hparams other hmem

mutual

def tuplesNonempty : AbiType → Bool
  | array element => element.tuplesNonempty
  | tuple _ components => !components.isEmpty && allTuplesNonempty components
  | _ => true

def allTuplesNonempty : List Param → Bool
  | [] => true
  | ⟨_, type⟩ :: params => type.tuplesNonempty && allTuplesNonempty params

end

theorem allTuplesNonempty_iff (params : List Param) :
    allTuplesNonempty params = true ↔ ∀ param ∈ params, param.type.tuplesNonempty = true := by
  induction params with
  | nil => simp [allTuplesNonempty]
  | cons param params ih => cases param; simp [allTuplesNonempty, ih]

theorem tuplesNonempty_tuple_iff (name : String) (components : List Param) :
    (tuple name components).tuplesNonempty = true
      ↔ components ≠ [] ∧ ∀ param ∈ components, param.type.tuplesNonempty = true := by
  simp [tuplesNonempty, allTuplesNonempty_iff]

mutual

def namesDistinct : AbiType → Bool
  | array element => element.namesDistinct
  | tuple _ components => decide (components.map (·.name)).Nodup && allNamesDistinct components
  | _ => true

def allNamesDistinct : List Param → Bool
  | [] => true
  | ⟨_, type⟩ :: params => type.namesDistinct && allNamesDistinct params

end

theorem allNamesDistinct_iff (params : List Param) :
    allNamesDistinct params = true ↔ ∀ param ∈ params, param.type.namesDistinct = true := by
  induction params with
  | nil => simp [allNamesDistinct]
  | cons param params ih => cases param; simp [allNamesDistinct, ih]

theorem namesDistinct_tuple_iff (name : String) (components : List Param) :
    (tuple name components).namesDistinct = true
      ↔ (components.map (·.name)).Nodup
        ∧ ∀ param ∈ components, param.type.namesDistinct = true := by
  simp [namesDistinct, allNamesDistinct_iff]

theorem isDynamic_tuple_eq_false_iff (name : String) (components : List Param) :
    (tuple name components).isDynamic = false
      ↔ ∀ param ∈ components, param.type.isDynamic = false := by
  simp [isDynamic, anyDynamic_eq_any]

theorem headSize_tuple_of_static {name : String} {components : List Param}
    (h : (tuple name components).isDynamic = false) :
    (tuple name components).headSize = Codec.headSize (components.map (·.type)) := by
  have : anyDynamic components = false := h
  simp [headSize, this, headSizes_eq_foldr, Codec.headSize, List.map_map, Function.comp_def]

end AbiType

namespace Codec

@[simp]
theorem headSize_nil : headSize [] = 0 := by
  rfl

@[simp]
theorem headSize_cons (type : AbiType) (types : List AbiType) :
    headSize (type :: types) = type.headSize + headSize types := by
  rfl

@[simp]
theorem headSize_replicate (count : Nat) (type : AbiType) :
    headSize (List.replicate count type) = count * type.headSize := by
  induction count with
  | zero => simp
  | succ count ih =>
    rw [List.replicate_succ, headSize_cons, ih]
    ring

end Codec

theorem AbiType.size_le_headSize {type : AbiType} (h : type.tuplesNonempty = true) :
    Word.size ≤ type.headSize := by
  induction type with
  | tuple name components ih =>
    cases hdyn : (tuple name components).isDynamic with
    | true => rw [headSize_of_isDynamic hdyn]
    | false =>
      rw [headSize_tuple_of_static hdyn]
      rw [tuplesNonempty_tuple_iff] at h
      rcases h with ⟨hne, hall⟩
      cases components with
      | nil => contradiction
      | cons param params =>
        have := ih param (by simp) (hall param (by simp))
        simp only [List.map_cons, Codec.headSize_cons]
        omega
  | _ => simp [headSize]

theorem AbiType.size_dvd_headSize (type : AbiType) : Word.size ∣ type.headSize := by
  induction type with
  | tuple name components ih =>
    cases hdyn : (tuple name components).isDynamic with
    | true => rw [headSize_of_isDynamic hdyn]
    | false =>
      rw [headSize_tuple_of_static hdyn]
      clear hdyn
      induction components with
      | nil => simp
      | cons param params ihp =>
        rw [List.map_cons, Codec.headSize_cons]
        apply Nat.dvd_add
        . apply ih
          simp
        . apply ihp
          intro other hother
          apply ih
          simp [hother]
  | _ => simp [headSize]

theorem Codec.size_dvd_headSize (types : List AbiType) : Word.size ∣ headSize types := by
  induction types with
  | nil => simp
  | cons type types ih => exact Nat.dvd_add type.size_dvd_headSize ih

end MessageAbi
