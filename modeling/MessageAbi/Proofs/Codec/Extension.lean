import Mathlib
import MessageAbi.Proofs.Codec.Budget

/-!
This module contains that bytes added behind the data leave what it decodes to as it is. Every test of
the reader against the length of the data becomes more permissive, and what is read stands where it stood.
-/

namespace MessageAbi.Codec

/--
The second run gives what the first one gives, if that gives something.
-/
def Keeps {α : Type} (x y : Except PayloadFault α) : Prop :=
  ∀ a, x = .ok a → y = .ok a

namespace Keeps

variable {α β : Type}

theorem refl (x : Except PayloadFault α) : Keeps x x := by
  intro a ha
  exact ha

theorem fail (fault : PayloadFault) (y : Except PayloadFault α) :
    Keeps (Metered.fail fault) y := by
  intro a ha
  contradiction

theorem bind {x y : Except PayloadFault α} {f g : α → Except PayloadFault β} (h : Keeps x y)
    (hf : ∀ a, Keeps (f a) (g a)) : Keeps (x >>= f) (y >>= g) := by
  intro b hb
  rw [bind_eq_ok_iff] at hb ⊢
  rcases hb with ⟨a, ha, hb⟩
  exact ⟨a, h a ha, hf a b hb⟩

theorem ite {p q : Prop} [Decidable p] [Decidable q] {x y : Except PayloadFault α}
    {fault fault' : PayloadFault} (hpq : p → q) (h : p → Keeps x y) :
    Keeps (if p then x else Metered.fail fault) (if q then y else Metered.fail fault') := by
  by_cases hp : p
  . rw [if_pos hp, if_pos (hpq hp)]
    exact h hp
  . rw [if_neg hp]
    apply fail

end Keeps

namespace Metered

variable (data suffix : Bytes)

theorem take_drop_append {data : Bytes} {position count : Nat} (h : position + count ≤ data.length)
    (suffix : Bytes) :
    ((data ++ suffix).drop position).take count = (data.drop position).take count := by
  rw [List.drop_append_of_le_length (by omega), List.take_append_of_le_length]
  rw [List.length_drop]
  omega

theorem word_keeps (position : Nat) :
    Keeps (word data position) (word (data ++ suffix) position) := by
  apply Keeps.ite
  . rw [List.length_append]
    omega
  . intro hle
    rw [take_drop_append hle]
    apply Keeps.refl

theorem number_keeps (position : Nat) :
    Keeps (number data position) (number (data ++ suffix) position) := by
  apply Keeps.bind
  . apply word_keeps
  . intro bytes
    apply Keeps.refl

theorem packed_keeps (position : Nat) :
    Keeps (packed data position) (packed (data ++ suffix) position) := by
  apply Keeps.bind
  . apply number_keeps
  . intro count
    apply Keeps.ite
    . rw [List.length_append]
      omega
    . intro hle
      rw [take_drop_append hle]
      apply Keeps.refl

variable {data suffix}

theorem member_keeps {type : AbiType}
    (hvalue : ∀ position, Keeps (value data type position) (value (data ++ suffix) type position))
    (base head : Nat) :
    Keeps (member data type.isDynamic (value data type) base head)
      (member (data ++ suffix) type.isDynamic (value (data ++ suffix) type) base head) := by
  unfold member
  split
  . apply Keeps.bind
    . apply number_keeps
    . intro offset
      apply Keeps.ite
      . exact id
      . intro _
        apply hvalue
  . apply hvalue

theorem sequence_keeps_of_values {types : List AbiType}
    (hvalues : ∀ type ∈ types, ∀ position,
      Keeps (value data type position) (value (data ++ suffix) type position))
    (base head : Nat) :
    Keeps (sequence data types base head) (sequence (data ++ suffix) types base head) := by
  induction types generalizing head with
  | nil => apply Keeps.refl
  | cons type types ih =>
    rcases List.forall_mem_cons.mp hvalues with ⟨hvalue, htypes⟩
    unfold sequence
    apply Keeps.bind
    . apply member_keeps
      exact hvalue
    . intro first
      apply Keeps.bind
      . apply ih
        exact htypes
      . intro rest
        apply Keeps.refl

variable (data suffix)

theorem value_keeps (type : AbiType) (position : Nat) :
    Keeps (value data type position) (value (data ++ suffix) type position) := by
  induction type generalizing position with
  | bool | uint _ | int _ | address =>
    unfold value
    apply Keeps.bind
    . apply word_keeps
    . intro bytes
      apply Keeps.refl
  | bytes | string =>
    unfold value
    apply Keeps.bind
    . apply packed_keeps
    . intro bytes
      apply Keeps.refl
  | array element ih =>
    unfold value
    apply Keeps.bind
    . apply number_keeps
    . intro count
      -- More bytes behind the length leave room for more elements.
      have hroom : (data.length - (position + Word.size)) / max element.headSize 1
          ≤ ((data ++ suffix).length - (position + Word.size)) / max element.headSize 1 := by
        apply Nat.div_le_div_right
        rw [List.length_append]
        omega
      simp only [gt_iff_lt, ← not_le, ite_not]
      apply Keeps.ite
      . intro hcount
        exact hcount.trans hroom
      . intro _
        apply Keeps.bind
        . rw [repeated_eq_sequence, repeated_eq_sequence]
          apply sequence_keeps_of_values
          intro other hother
          rw [List.eq_of_mem_replicate hother]
          exact ih
        . intro items
          apply Keeps.refl
  | tuple name components ih =>
    unfold value
    apply Keeps.bind
    . rw [members_eq_sequence, members_eq_sequence]
      apply sequence_keeps_of_values
      intro other hother
      rcases List.mem_map.mp hother with ⟨param, hparam, rfl⟩
      exact ih param hparam
    . intro members
      apply Keeps.refl

theorem sequence_keeps (types : List AbiType) (base head : Nat) :
    Keeps (sequence data types base head) (sequence (data ++ suffix) types base head) := by
  apply sequence_keeps_of_values
  intro type _
  apply value_keeps

end Metered

theorem decode_append (types : List AbiType) (data suffix : Bytes) (values : List Value)
    (h : decode types data = .ok values) : decode types (data ++ suffix) = .ok values := by
  rw [decode_eq_ok_iff] at h ⊢
  rcases h with ⟨hvalues, hfootprint⟩
  constructor
  . exact Metered.sequence_keeps data suffix types 0 0 values hvalues
  . rw [List.length_append]
    omega

set_option maxRecDepth 8000 in
theorem decode_append_behind_texts :
    decode [.array .bytes, .bool] (numberWord 64 ++ numberWord 1 ++ numberWord 1 ++ numberWord 32
      ++ encodePacked [7] ++ [0xff, 0xff]) = .ok [.array [.bytes [7]], .bool true] := by
  apply decode_append
  rfl

end MessageAbi.Codec
