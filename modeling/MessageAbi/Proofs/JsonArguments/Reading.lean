import Mathlib
import MessageAbi.JsonArguments
import MessageAbi.Proofs.Except
import MessageAbi.Proofs.List
import MessageAbi.Proofs.Typing

/-!
This module contains when JSON is read as a value of a type, one statement for each type and each way of
giving members, and that whatever is read is of the type.
-/

namespace MessageAbi.JsonArguments

variable {json : Json} {path : JsonPath} {value : Value}

theorem hexDigits?_eq_some_iff (text digits : String) :
    hexDigits? text = some digits ↔ text.toList = '0' :: 'x' :: digits.toList := by
  unfold hexDigits?
  split
  next rest heq =>
    rw [heq, Option.some.injEq, ← String.toList_inj, String.toList_ofList]
    simp
  next hprefix =>
    simp only [reduceCtorEq, false_iff]
    exact hprefix digits.toList

theorem hexDigits?_eq_none_iff (text : String) :
    hexDigits? text = none ↔ ∀ digits, text.toList ≠ '0' :: 'x' :: digits := by
  simp only [Option.eq_none_iff_forall_ne_some, ne_eq, hexDigits?_eq_some_iff]
  constructor
  . intro h digits
    rw [← String.toList_ofList (l := digits)]
    exact h (String.ofList digits)
  . intro h digits
    exact h digits.toList

theorem readAt_bool_eq_ok_iff :
    readAt .bool json path = .ok value ↔ ∃ b, json = .bool b ∧ value = .bool b := by
  cases json <;> simp [readAt, invalid, eq_comm]

theorem readAt_string_eq_ok_iff :
    readAt .string json path = .ok value ↔ ∃ text, json = .string text ∧ value = .string text := by
  cases json <;> simp [readAt, invalid, eq_comm]

theorem readAt_uint_eq_ok_iff (bits : Nat) :
    readAt (.uint bits) json path = .ok value
      ↔ ∃ n, readWord path json = .ok n ∧ n.toNat < 2 ^ bits ∧ value = .uint n := by
  simp only [readAt, bind_eq_ok_iff, ite_throw_eq_ok_iff, pure_eq_ok_iff, gt_iff_lt, not_lt,
    Word.bitLength_le_iff, Nat.pow_eq]

theorem readAt_int_eq_ok_iff (bits : Nat) :
    readAt (.int bits) json path = .ok value
      ↔ ∃ n, readInt256 path json = .ok n ∧ n.fits bits = true ∧ value = .int n := by
  simp only [readAt, bind_eq_ok_iff, ite_throw_eq_ok_iff, pure_eq_ok_iff, Bool.not_eq_true',
    Bool.not_eq_false]

theorem readAt_address_eq_ok_iff :
    readAt .address json path = .ok value
      ↔ ∃ text bytes, json = .string text ∧ readBytes path text = .ok bytes
        ∧ bytes.length = Address.size ∧ value = .address (Address.ofBytes bytes) := by
  cases json with
  | string text =>
    simp only [readAt, bind_eq_ok_iff, Json.string.injEq, exists_and_left, exists_eq_left']
    apply exists_congr
    intro bytes
    apply and_congr_right
    intro _
    split
    next hne => simp [invalid, hne]
    next heq => simp [pure_eq_ok_iff, not_not.mp heq]
  | _ => simp [readAt, invalid]

theorem readAt_bytes_eq_ok_iff :
    readAt .bytes json path = .ok value
      ↔ ∃ text bytes, json = .string text ∧ readBytes path text = .ok bytes
        ∧ value = .bytes bytes := by
  cases json with
  | string text =>
    simp only [readAt, bind_eq_ok_iff, pure_eq_ok_iff, Json.string.injEq, exists_and_left,
      exists_eq_left']
  | _ => simp [readAt, invalid]

theorem readAt_array_eq_ok_iff (element : AbiType) :
    readAt (.array element) json path = .ok value
      ↔ ∃ items values, json = .array items
        ∧ readItems (readAt element) path 0 items = .ok values ∧ value = .array values := by
  cases json with
  | array items =>
    simp only [readAt_array, map_eq_ok_iff, Json.array.injEq, exists_and_left, exists_eq_left',
      @eq_comm _ value]
  | _ => simp [readAt, invalid]

theorem readAt_tuple_eq_ok_iff (name : String) (components : List Param) :
    readAt (.tuple name components) json path = .ok value
      ↔ ∃ values, readMembers components json path = .ok values ∧ value = .tuple values := by
  simp only [readAt_tuple, map_eq_ok_iff, @eq_comm _ value]

theorem readItems_eq_ok_iff (read : Json → JsonPath → Except AbiError Value) (index : Nat)
    (items : List Json) (values : List Value) :
    readItems read path index items = .ok values
      ↔ List.Forall₂ (fun item value => read item.1 (path ++ [.element item.2]) = .ok value)
        (items.zipIdx index) values := by
  induction items generalizing index values with
  | nil => simp [readItems, eq_comm]
  | cons item items ih =>
    simp only [readItems, bind_eq_ok_iff, pure_eq_ok_iff, ih, List.zipIdx_cons,
      List.forall₂_cons_left_iff]
    constructor
    . rintro ⟨value, hvalue, rest, hrest, rfl⟩
      exact ⟨value, rest, hvalue, hrest, rfl⟩
    . rintro ⟨value, rest, hvalue, hrest, rfl⟩
      exact ⟨value, hvalue, rest, hrest, rfl⟩

theorem readByName_eq_ok_iff (params : List Param) (members : List (String × Json))
    (values : List Value) :
    readByName params members path = .ok values
      ↔ List.Forall₂ (fun param value => ∃ member, members.lookup param.name = some member
        ∧ readAt param.type member (path ++ [.member param.name]) = .ok value) params values := by
  induction params generalizing values with
  | nil => simp [readByName, eq_comm]
  | cons param params ih =>
    rcases param with ⟨name, type⟩
    rw [readByName, List.forall₂_cons_left_iff]
    cases members.lookup name with
    | none => simp [invalid, bind, Except.bind]
    | some member =>
      simp only [bind_eq_ok_iff, pure_eq_ok_iff, ih, Option.some.injEq, exists_eq_left']
      constructor
      . rintro ⟨value, hvalue, rest, hrest, rfl⟩
        exact ⟨value, rest, hvalue, hrest, rfl⟩
      . rintro ⟨value, rest, hvalue, hrest, rfl⟩
        exact ⟨value, hvalue, rest, hrest, rfl⟩

theorem readByPlace_eq_ok_iff (params : List Param) (items : List Json) (values : List Value) :
    readByPlace params items path = .ok values
      ↔ List.Forall₂ (fun place value => readAt place.1.type place.2
        (path ++ [.member place.1.name]) = .ok value) (params.zip items) values := by
  induction params generalizing items values with
  | nil => simp [readByPlace, eq_comm]
  | cons param params ih =>
    rcases param with ⟨name, type⟩
    cases items with
    | nil => simp [readByPlace, eq_comm]
    | cons item items =>
      simp only [readByPlace, bind_eq_ok_iff, pure_eq_ok_iff, ih, List.zip_cons_cons,
        List.forall₂_cons_left_iff]
      constructor
      . rintro ⟨value, hvalue, rest, hrest, rfl⟩
        exact ⟨value, rest, hvalue, hrest, rfl⟩
      . rintro ⟨value, rest, hvalue, hrest, rfl⟩
        exact ⟨value, hvalue, rest, hrest, rfl⟩

theorem find?_unknown_eq_none_iff (params : List Param) (members : List (String × Json)) :
    members.find? (fun member => !params.any (·.name == member.1)) = none
      ↔ ∀ member ∈ members, member.1 ∈ params.map (·.name) := by
  simp [List.find?_eq_none]

theorem readMembers_object_eq_ok_iff (params : List Param) (members : List (String × Json))
    (values : List Value) :
    readMembers params (.object members) path = .ok values
      ↔ (∀ member ∈ members, member.1 ∈ params.map (·.name))
        ∧ readByName params members path = .ok values := by
  rw [readMembers, ← find?_unknown_eq_none_iff]
  split
  next name _ hfind =>
    rw [hfind]
    simp [invalid]
  next hfind =>
    rw [hfind]
    simp

theorem readMembers_array_eq_ok_iff (params : List Param) (items : List Json)
    (values : List Value) :
    readMembers params (.array items) path = .ok values
      ↔ items.length = params.length ∧ readByPlace params items path = .ok values := by
  rw [readMembers]
  split
  next hne => simp [hne]
  next heq => simp [not_not.mp heq]

theorem forall₂_hasType_of_readMembers {params : List Param} {values : List Value}
    (hparams : ∀ param ∈ params, ∀ json path value,
      readAt param.type json path = .ok value → HasType param.type value)
    (h : readMembers params json path = .ok values) :
    List.Forall₂ (fun param value => HasType param.type value) params values := by
  cases json with
  | object members =>
    rw [readMembers_object_eq_ok_iff, readByName_eq_ok_iff] at h
    apply forall₂_imp_of_mem h.2
    rintro param hparam value _ ⟨member, _, hread⟩
    exact hparams param hparam _ _ _ hread
  | array items =>
    rw [readMembers_array_eq_ok_iff, readByPlace_eq_ok_iff] at h
    rcases h with ⟨hlength, hplaces⟩
    rw [← List.map_fst_zip hlength.ge, List.forall₂_map_left_iff]
    apply forall₂_imp_of_mem hplaces
    intro place hplace value _
    exact hparams place.1 (List.of_mem_zip hplace).1 _ _ _
  | _ => simp [readMembers, invalid] at h

theorem hasType_of_readAt {type : AbiType} (h : readAt type json path = .ok value) :
    HasType type value := by
  induction type generalizing json path value with
  | bool =>
    rcases readAt_bool_eq_ok_iff.mp h with ⟨b, _, rfl⟩
    exact .bool b
  | uint bits =>
    rcases (readAt_uint_eq_ok_iff bits).mp h with ⟨n, _, hn, rfl⟩
    exact .uint bits n hn
  | int bits =>
    rcases (readAt_int_eq_ok_iff bits).mp h with ⟨n, _, hfits, rfl⟩
    rcases (n.fits_iff bits).mp hfits with ⟨hpos, hlower, hupper⟩
    exact .int bits n hpos hlower hupper
  | address =>
    rcases readAt_address_eq_ok_iff.mp h with ⟨_, _, _, _, _, rfl⟩
    exact .address _
  | bytes =>
    rcases readAt_bytes_eq_ok_iff.mp h with ⟨_, b, _, _, rfl⟩
    exact .bytes b
  | string =>
    rcases readAt_string_eq_ok_iff.mp h with ⟨s, _, rfl⟩
    exact .string s
  | array element ih =>
    rcases (readAt_array_eq_ok_iff element).mp h with ⟨items, values, _, hitems, rfl⟩
    rw [readItems_eq_ok_iff] at hitems
    constructor
    intro value hvalue
    rcases exists_mem_of_forall₂ hitems hvalue with ⟨item, _, hitem⟩
    exact ih hitem
  | tuple name components ih =>
    rcases (readAt_tuple_eq_ok_iff name components).mp h with ⟨values, hmembers, rfl⟩
    constructor
    apply forall₂_hasType_of_readMembers ?_ hmembers
    intro param hparam json path value
    exact ih param hparam

theorem forall₂_hasType_of_read {params : List Param} {values : List Value}
    (h : read params json = .ok values) :
    List.Forall₂ (fun param value => HasType param.type value) params values := by
  apply forall₂_hasType_of_readMembers ?_ h
  intro param _ json path value
  exact hasType_of_readAt

end MessageAbi.JsonArguments
