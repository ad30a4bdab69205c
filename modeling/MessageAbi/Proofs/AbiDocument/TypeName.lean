import Mathlib
import MessageAbi.AbiDocument
import MessageAbi.Proofs.AbiType
import MessageAbi.Proofs.Numeral

/-!
This module contains what the names of types tell: how deep a type's arrays are and which scalar they
hold. All three names of an array are that of its element with brackets behind it, so types are taken
apart into arrays of a depth and what these hold.
-/

namespace MessageAbi

namespace AbiType

def arrays (element : AbiType) : (depth : Nat) → AbiType
  | 0 => element
  | depth + 1 => (array element).arrays depth

def isScalar : AbiType → Bool
  | array _ | tuple _ _ => false
  | _ => true

@[elab_as_elim]
theorem arraysInduction {motive : AbiType → Prop}
    (scalar : ∀ (element : AbiType) (depth : Nat), element.isScalar = true →
      motive (element.arrays depth))
    (tuple : ∀ (name : String) (components : List Param) (depth : Nat),
      (∀ param ∈ components, motive param.type) → motive ((tuple name components).arrays depth))
    (type : AbiType) : motive type := by
  -- An array of a depth is its element's of the next, so the induction is for every depth.
  have harrays : ∀ depth, motive (type.arrays depth) := by
    induction type with
    | array element ih =>
      intro depth
      exact ih (depth + 1)
    | tuple name components ih =>
      intro depth
      apply tuple
      intro param hparam
      exact ih param hparam 0
    | _ =>
      intro depth
      exact scalar _ depth rfl
  exact harrays 0

end AbiType

namespace AbiDocument

def brackets (depth : Nat) : List Char :=
  (List.replicate depth ['[', ']']).flatten

theorem count_brackets (depth : Nat) : (brackets depth).count '[' = depth := by
  induction depth with
  | zero => rfl
  | succ depth ih =>
    rw [brackets, List.replicate_succ, List.flatten_cons, List.count_append, ← brackets, ih,
      Nat.add_comm]
    rfl

theorem length_brackets (depth : Nat) : (brackets depth).length = 2 * depth := by
  simp [brackets, Nat.mul_comm]

theorem takeWhile_brackets (depth : Nat) : (brackets depth).takeWhile (· != '[') = [] := by
  cases depth with
  | zero => rfl
  | succ depth => rfl

def arrayDepth (name : String) : Nat :=
  name.toList.count '['

def elementName (name : String) : List Char :=
  name.toList.takeWhile (· != '[')

def withoutBrackets (depth : Nat) (name : String) : List Char :=
  name.toList.rdrop (2 * depth)

section Brackets

variable {name : String} {element : List Char} {depth : Nat}

theorem arrayDepth_eq (h : name.toList = element ++ brackets depth) (hplain : '[' ∉ element) :
    arrayDepth name = depth := by
  rw [arrayDepth, h, List.count_append, List.count_eq_zero_of_not_mem hplain, count_brackets,
    Nat.zero_add]

theorem elementName_eq (h : name.toList = element ++ brackets depth) (hplain : '[' ∉ element) :
    elementName name = element := by
  have hall : ∀ c ∈ element, (c != '[') = true := by
    intro c hc
    rw [bne_iff_ne]
    rintro rfl
    exact hplain hc
  rw [elementName, h, List.takeWhile_append_of_pos hall, takeWhile_brackets, List.append_nil]

theorem withoutBrackets_eq (h : name.toList = element ++ brackets depth) :
    withoutBrackets depth name = element := by
  rw [withoutBrackets, h, List.rdrop, List.length_append, length_brackets, Nat.add_sub_cancel,
    List.take_left']
  rfl

end Brackets

end AbiDocument

namespace AbiType

open AbiDocument (brackets)

theorem toList_arrays {text : AbiType → String}
    (htext : ∀ element, text (.array element) = text element ++ "[]") (element : AbiType)
    (depth : Nat) : (text (element.arrays depth)).toList = (text element).toList ++ brackets depth := by
  induction depth generalizing element with
  | zero => simp [arrays, brackets]
  | succ depth ih =>
    rw [arrays, ih, htext, brackets, brackets, List.replicate_succ, List.flatten_cons]
    simp

theorem toList_jsonType_arrays (element : AbiType) (depth : Nat) :
    (element.arrays depth).jsonType.toList = element.jsonType.toList ++ brackets depth :=
  toList_arrays (fun _ => rfl) element depth

theorem toList_internalType_arrays (element : AbiType) (depth : Nat) :
    (element.arrays depth).internalType.toList = element.internalType.toList ++ brackets depth :=
  toList_arrays (fun _ => rfl) element depth

theorem toList_canonical_arrays (element : AbiType) (depth : Nat) :
    (element.arrays depth).canonical.toList = element.canonical.toList ++ brackets depth :=
  toList_arrays (fun _ => rfl) element depth

theorem componentsOf_arrays (element : AbiType) (depth : Nat) :
    AbiDocument.componentsOf (element.arrays depth) = AbiDocument.componentsOf element := by
  induction depth generalizing element with
  | zero => rfl
  | succ depth ih => rw [arrays, ih, AbiDocument.componentsOf]

theorem toList_jsonType_uint (bits : Nat) :
    (uint bits).jsonType.toList = 'u' :: 'i' :: 'n' :: 't' :: Nat.toDigits 10 bits := by
  have h : (uint bits).jsonType = "uint" ++ bits.repr := by
    rfl
  rw [h, String.toList_append, Nat.toList_repr]
  rfl

theorem toList_jsonType_int (bits : Nat) :
    (int bits).jsonType.toList = 'i' :: 'n' :: 't' :: Nat.toDigits 10 bits := by
  have h : (int bits).jsonType = "int" ++ bits.repr := by
    rfl
  rw [h, String.toList_append, Nat.toList_repr]
  rfl

end AbiType

namespace AbiDocument

def scalar? : (name : List Char) → Option AbiType
  | ['b', 'o', 'o', 'l'] => some .bool
  | ['a', 'd', 'd', 'r', 'e', 's', 's'] => some .address
  | ['b', 'y', 't', 'e', 's'] => some .bytes
  | ['s', 't', 'r', 'i', 'n', 'g'] => some .string
  | 'u' :: 'i' :: 'n' :: 't' :: digits => (ofDigits? digits).map .uint
  | 'i' :: 'n' :: 't' :: digits => (ofDigits? digits).map .int
  | _ => none

/--
What the name of a scalar type is told by.
-/
structure NamesScalar (name : List Char) (type : AbiType) : Prop where
  plain : '[' ∉ name
  not_tuple : ∀ suffix, (name ++ suffix).dropPrefix? "tuple".toList = none
  scalar?_eq : scalar? name = some type

theorem namesScalar_jsonType {type : AbiType} (h : type.isScalar = true) :
    NamesScalar type.jsonType.toList type := by
  have hdigits (bits : Nat) : '[' ∉ Nat.toDigits 10 bits := by
    intro hmem
    have : '['.isDigit = true := Nat.isDigit_of_mem_toDigits (by decide) (by decide) hmem
    contradiction
  cases type with
  | uint bits =>
    rw [AbiType.toList_jsonType_uint]
    constructor
    . simp [hdigits bits]
    . exact fun _ => rfl
    . simp [scalar?, ofDigits?_toDigits]
  | int bits =>
    rw [AbiType.toList_jsonType_int]
    constructor
    . simp [hdigits bits]
    . exact fun _ => rfl
    . simp [scalar?, ofDigits?_toDigits]
  | array element => contradiction
  | tuple name components => contradiction
  | _ => exact ⟨by decide, fun _ => rfl, rfl⟩

end AbiDocument

end MessageAbi
