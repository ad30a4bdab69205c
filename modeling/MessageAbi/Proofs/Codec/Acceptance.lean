import Mathlib
import MessageAbi.Proofs.Typing

/-!
This module contains which values can be encoded and what is reported about the others: the values of
the types can, and an error says something true of the lists or of one value in them.
-/

namespace MessageAbi

def AbiType.kind : AbiType → Value.Kind
  | bool => .bool
  | uint _ => .uint
  | int _ => .int
  | address => .address
  | bytes => .bytes
  | string => .string
  | array _ => .array
  | tuple _ _ => .tuple

/--
A reason, and the error that reports it, why a value is not of a type.
-/
inductive Misfit : AbiType → Value → AbiError → Prop where
  | kind {type : AbiType} {value : Value} : type.kind ≠ value.kind →
    Misfit type value (.typeMismatch type.canonical value.kind)
  | uint (bits : Nat) (n : Word) : 2 ^ bits ≤ n.toNat →
    Misfit (.uint bits) (.uint n) (.outOfRange (AbiType.uint bits).canonical n.toDecimal)
  | int (bits : Nat) (n : Int256) :
    ¬ (0 < bits ∧ -2 ^ (bits - 1) ≤ n.toInt ∧ n.toInt < 2 ^ (bits - 1)) →
      Misfit (.int bits) (.int n) (.outOfRange (AbiType.int bits).canonical n.toDecimal)
  | arity (name : String) {components : List Param} {members : List Value} :
    components.length ≠ members.length →
      Misfit (.tuple name components) (.tuple members)
        (.arityMismatch components.length members.length)
  | element {element : AbiType} {items : List Value} {item : Value} {error : AbiError} :
    item ∈ items → Misfit element item error → Misfit (.array element) (.array items) error
  | member (name : String) {components : List Param} {members : List Value} {param : Param}
    {member : Value} {error : AbiError} :
    (param, member) ∈ components.zip members → Misfit param.type member error →
      Misfit (.tuple name components) (.tuple members) error

theorem Misfit.not_hasType {type : AbiType} {value : Value} {error : AbiError}
    (h : Misfit type value error) : ¬ HasType type value := by
  intro htype
  induction h with
  | kind hkind => cases htype <;> exact hkind rfl
  | uint bits n hle =>
    cases htype with
    | uint _ _ hlt => omega
  | int bits n hout =>
    cases htype with
    | int _ _ hpos hlower hupper => exact hout ⟨hpos, hlower, hupper⟩
  | arity name hne =>
    cases htype with
    | tuple _ _ _ hmembers => exact hne hmembers.length_eq
  | element hmem _ ih =>
    cases htype with
    | array _ _ hitems => exact ih (hitems _ hmem)
  | member name hmem _ ih =>
    cases htype with
    | tuple _ _ _ hmembers => exact ih ((List.forall₂_iff_zip.mp hmembers).2 hmem)

theorem Misfit.error_cases {type : AbiType} {value : Value} {error : AbiError}
    (h : Misfit type value error) :
    (∃ expected found, error = .arityMismatch expected found)
      ∨ (∃ expected found, error = .typeMismatch expected found)
      ∨ ∃ name numeral, error = .outOfRange name numeral := by
  induction h with
  | kind _ => exact .inr (.inl ⟨_, _, rfl⟩)
  | uint _ _ _ | int _ _ _ => exact .inr (.inr ⟨_, _, rfl⟩)
  | arity _ _ => exact .inl ⟨_, _, rfl⟩
  | element _ _ ih | member _ _ _ ih => exact ih

namespace Codec

theorem exists_encodeValue_eq_error {types : List AbiType} {values : List Value} {offset : Nat}
    {error : AbiError} (h : encodeParts offset types values = .error error) :
    ∃ entry ∈ types.zip values, encodeValue entry.1 entry.2 = .error error := by
  induction types generalizing values offset with
  | nil =>
    rw [encodeParts] at h
    . contradiction
    . simp
  | cons type types ih =>
    cases values with
    | nil =>
      rw [encodeParts] at h
      . contradiction
      . simp
    | cons value values =>
      have hrest : encodeValue type value = .error error
          ∨ ∃ offset, encodeParts offset types values = .error error := by
        rw [encodeParts, bind_eq_error_iff] at h
        rcases h with hvalue | ⟨bytes, _, hrest⟩
        . exact .inl hvalue
        . right
          split at hrest
          all_goals
            rw [bind_pure_comp, map_eq_error_iff] at hrest
            exact ⟨_, hrest⟩
      cases hrest with
      | inl hvalue => exact ⟨(type, value), List.mem_cons_self, hvalue⟩
      | inr hrest =>
        rcases hrest with ⟨_, hrest⟩
        rcases ih hrest with ⟨entry, hmem, herror⟩
        exact ⟨entry, List.mem_cons_of_mem _ hmem, herror⟩

theorem encodeValue_of_kind_ne {type : AbiType} {value : Value} (h : type.kind ≠ value.kind) :
    encodeValue type value = .error (.typeMismatch type.canonical value.kind) := by
  cases type <;> cases value <;> first | rfl | exact absurd rfl h

theorem misfit_of_kind {type : AbiType} {value : Value} {error : AbiError}
    (h : encodeValue type value = .error error)
    (hkind : type.kind = value.kind → Misfit type value error) : Misfit type value error := by
  by_cases heq : type.kind = value.kind
  . exact hkind heq
  . rw [encodeValue_of_kind_ne heq] at h
    injection h with h
    rw [← h]
    exact .kind heq

theorem misfit_of_encodeValue {type : AbiType} {value : Value} {error : AbiError}
    (h : encodeValue type value = .error error) : Misfit type value error := by
  induction type generalizing value with
  | bool | address | bytes | string =>
    apply misfit_of_kind h
    intro hkind
    cases value <;> simp [AbiType.kind, Value.kind] at hkind
    simp [encodeValue] at h
  | uint bits =>
    apply misfit_of_kind h
    intro hkind
    cases value with
    | uint n =>
      rw [encodeValue] at h
      split at h
      . next hover =>
        injection h with h
        rw [← h]
        apply Misfit.uint
        rwa [gt_iff_lt, ← not_le, Word.bitLength_le_iff, not_lt] at hover
      . contradiction
    | _ => contradiction
  | int bits =>
    apply misfit_of_kind h
    intro hkind
    cases value with
    | int n =>
      rw [encodeValue] at h
      split at h
      . contradiction
      . next hover =>
        injection h with h
        rw [← h]
        apply Misfit.int
        rwa [← Int256.fits_iff]
    | _ => contradiction
  | array element ih =>
    apply misfit_of_kind h
    intro hkind
    cases value with
    | array items =>
      rw [encodeValue, bind_pure_comp, map_eq_error_iff] at h
      rcases exists_encodeValue_eq_error h with ⟨⟨type, item⟩, hmem, hitem⟩
      rcases List.of_mem_zip hmem with ⟨htype, hitems⟩
      rw [List.eq_of_mem_replicate htype] at hitem
      exact .element hitems (ih hitem)
    | _ => contradiction
  | tuple name components ih =>
    apply misfit_of_kind h
    intro hkind
    cases value with
    | tuple members =>
      by_cases hlength : components.length = members.length
      . rw [encodeValue, if_neg (not_not.mpr hlength), bind_pure_comp, map_eq_error_iff] at h
        rcases exists_encodeValue_eq_error h with ⟨⟨type, member⟩, hmem, hmember⟩
        rw [List.zip_map_left] at hmem
        rcases List.mem_map.mp hmem with ⟨⟨param, other⟩, hzip, heq⟩
        cases heq
        exact .member name hzip (ih param (List.of_mem_zip hzip).1 hmember)
      . rw [encodeValue, if_pos hlength] at h
        cases h
        exact .arity name hlength
    | _ => contradiction

theorem misfit_of_encode {types : List AbiType} {values : List Value} {error : AbiError}
    (h : encode types values = .error error) :
    (types.length ≠ values.length ∧ error = .arityMismatch types.length values.length)
      ∨ types.length = values.length ∧ ∃ entry ∈ types.zip values, Misfit entry.1 entry.2 error := by
  by_cases hlength : types.length = values.length
  . rw [encode, if_neg (not_not.mpr hlength), bind_pure_comp, map_eq_error_iff] at h
    rcases exists_encodeValue_eq_error h with ⟨entry, hmem, hentry⟩
    exact .inr ⟨hlength, entry, hmem, misfit_of_encodeValue hentry⟩
  . rw [encode, if_pos hlength] at h
    cases h
    exact .inl ⟨hlength, rfl⟩

theorem exists_encode_iff_forall₂ (types : List AbiType) (values : List Value) :
    (∃ data, encode types values = .ok data) ↔ List.Forall₂ HasType types values := by
  constructor
  . rintro ⟨data, hdata⟩
    exact forall₂_hasType_of_encode hdata
  . exact exists_encode

theorem encode_accepts_typed (types : List AbiType) (values : List Value) :
    ((∃ data, encode types values = .ok data)
      ↔ types.length = values.length ∧ ∀ entry ∈ types.zip values, HasType entry.1 entry.2)
    ∧ ∀ error, encode types values = .error error →
      ((∃ expected found, error = .arityMismatch expected found)
        ∨ (∃ expected found, error = .typeMismatch expected found)
        ∨ ∃ name numeral, error = .outOfRange name numeral)
      ∧ ((types.length ≠ values.length ∧ error = .arityMismatch types.length values.length)
        ∨ types.length = values.length ∧ ∃ entry ∈ types.zip values,
          ¬ HasType entry.1 entry.2 ∧ Misfit entry.1 entry.2 error) := by
  constructor
  . rw [exists_encode_iff_forall₂, List.forall₂_iff_zip]
    apply and_congr_right
    intro _
    simp only [Prod.forall]
  . intro error herror
    rcases misfit_of_encode herror with ⟨hne, rfl⟩ | ⟨hlength, entry, hmem, hentry⟩
    . exact ⟨.inl ⟨_, _, rfl⟩, .inl ⟨hne, rfl⟩⟩
    . exact ⟨hentry.error_cases, .inr ⟨hlength, entry, hmem, hentry.not_hasType, hentry⟩⟩

-- A signed integer of no bits has no values, not even zero.
set_option maxRecDepth 8000 in
theorem encode_accepts_typed_noBits :
    encode [.array (.int 0)] [.array [.int ⟨0⟩]] = .error (.outOfRange "int0" "0")
    ∧ ∃ entry ∈ [AbiType.array (.int 0)].zip [Value.array [.int ⟨0⟩]],
      ¬ HasType entry.1 entry.2 ∧ Misfit entry.1 entry.2 (.outOfRange "int0" "0") := by
  have herror : encode [.array (.int 0)] [.array [.int ⟨0⟩]] = .error (.outOfRange "int0" "0") := by
    rfl
  refine ⟨herror, ?_⟩
  rcases ((encode_accepts_typed _ _).2 _ herror).2 with ⟨hlength, _⟩ | ⟨_, hmisfit⟩
  . exact absurd rfl hlength
  . exact hmisfit

end Codec

end MessageAbi
