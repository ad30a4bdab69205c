import Mathlib
import MessageAbi.Proofs.Codec.Budget

/-!
This module contains how often the bytes of data are read for the values it decodes to. The budget
counts bytes and not places, so it makes up for a byte that is read again with one that is not read.
-/

namespace MessageAbi.Codec

namespace Span

def Disjoint (span other : Span) : Prop :=
  ∀ byte, ¬ (span.covers byte = true ∧ other.covers byte = true)

/--
How often the first `size` bytes are read again after they were read once, all together.
-/
def rereads (spans : List Span) (size : Nat) : Nat :=
  ∑ byte ∈ Finset.range size, (spans.countP (·.covers byte) - 1)

def unread (spans : List Span) (size : Nat) : Nat :=
  ((Finset.range size).filter fun byte => spans.countP (·.covers byte) = 0).card

variable {spans : List Span} {size : Nat}

theorem pairwise_disjoint_iff (spans : List Span) :
    spans.Pairwise Disjoint ↔ ∀ byte, spans.countP (·.covers byte) ≤ 1 := by
  induction spans with
  | nil => simp
  | cons span spans ih =>
    rw [List.pairwise_cons, ih]
    constructor
    . rintro ⟨hspan, hspans⟩ byte
      rw [List.countP_cons]
      split
      . next hcovers =>
        have : spans.countP (·.covers byte) = 0 := by
          rw [List.countP_eq_zero]
          intro other hother hcovers'
          exact hspan other hother byte ⟨hcovers, hcovers'⟩
        omega
      . have := hspans byte
        omega
    . intro hcount
      constructor
      . rintro other hother byte ⟨hcovers, hcovers'⟩
        have hpos : 0 < spans.countP (·.covers byte) :=
          List.countP_pos_iff.mpr ⟨other, hother, hcovers'⟩
        have := hcount byte
        simp only [List.countP_cons, hcovers, if_true] at this
        omega
      . intro byte
        have := hcount byte
        rw [List.countP_cons] at this
        omega

theorem total_add_unread (h : ∀ span ∈ spans, span.position + span.count ≤ size) :
    total spans + unread spans size = size + rereads spans size := by
  have hunread : unread spans size
      = ∑ byte ∈ Finset.range size, if spans.countP (·.covers byte) = 0 then 1 else 0 :=
    Finset.card_filter _ _
  have hsize : size = ∑ _byte ∈ Finset.range size, 1 := by simp
  rw [← sum_countP_covers h, hunread, rereads]
  conv => rhs; lhs; rw [hsize]
  rw [← Finset.sum_add_distrib, ← Finset.sum_add_distrib]
  apply Finset.sum_congr rfl
  intro byte _
  split
  . omega
  . omega

theorem total_le_iff (h : ∀ span ∈ spans, span.position + span.count ≤ size) :
    total spans ≤ size ↔ rereads spans size ≤ unread spans size := by
  have := total_add_unread h
  omega

theorem countP_le_one_of_rereads_eq_zero
    (hbounded : ∀ span ∈ spans, span.position + span.count ≤ size)
    (h : rereads spans size = 0) (byte : Nat) : spans.countP (·.covers byte) ≤ 1 := by
  by_cases hlt : byte < size
  . have := (Finset.sum_eq_zero_iff.mp h) byte (Finset.mem_range.mpr hlt)
    omega
  . have : spans.countP (·.covers byte) = 0 := by
      rw [List.countP_eq_zero]
      intro span hspan hcovers
      have := hbounded span hspan
      simp only [covers, Bool.and_eq_true, decide_eq_true_eq] at hcovers
      omega
    omega

end Span

variable {types : List AbiType} {data : Bytes} {values : List Value}

theorem decode_eq_ok_iff_rereads (values : List Value) :
    decode types data = .ok values
      ↔ decodeUnmetered types data = .ok values
        ∧ Span.rereads (spansRead types data) data.length
          ≤ Span.unread (spansRead types data) data.length := by
  rw [decode_eq_ok_iff]
  apply and_congr_right
  intro hvalues
  rw [← total_spansRead hvalues]
  exact Span.total_le_iff (bounded_spansRead types data)

theorem exists_readTwice_of_rereads (types : List AbiType) (data : Bytes)
    (h : Span.unread (spansRead types data) data.length
      < Span.rereads (spansRead types data) data.length) :
    ∃ position, decode types data = .error (.malformedPayload (.readTwice position)) := by
  have htotal := Span.total_add_unread (bounded_spansRead types data)
  cases hcharge : Span.charge (spansRead types data) data.length with
  | ok rest =>
    have hle := ((Span.charge_eq_ok_iff _ _ _).mp hcharge).1
    omega
  | error fault =>
    rcases Span.charge_eq_error hcharge with ⟨_, last, _, hspans, _, hle, hlt⟩
    exact ⟨last.position, decode_eq_readTwice hspans hle hlt⟩

theorem decode_rereads_le_unread (types : List AbiType) (data : Bytes) :
    (∀ values, decode types data = .ok values
      ↔ decodeUnmetered types data = .ok values
        ∧ Span.rereads (spansRead types data) data.length
          ≤ Span.unread (spansRead types data) data.length)
    ∧ (Span.unread (spansRead types data) data.length
        < Span.rereads (spansRead types data) data.length →
      ∃ position, decode types data = .error (.malformedPayload (.readTwice position)))
    ∧ ∀ values, decode types data = .ok values →
      Span.unread (spansRead types data) data.length = 0 →
        (spansRead types data).Pairwise Span.Disjoint := by
  refine ⟨decode_eq_ok_iff_rereads, exists_readTwice_of_rereads types data, ?_⟩
  intro values hvalues hunread
  have hle := ((decode_eq_ok_iff_rereads values).mp hvalues).2
  rw [Span.pairwise_disjoint_iff]
  apply Span.countP_le_one_of_rereads_eq_zero (bounded_spansRead types data)
  omega

-- Two byte strings that fill their words: every byte is read, and none of them twice. The text that
-- both items share is read again, and only its padding is not read.
set_option maxRecDepth 8000 in
theorem decode_rereads_le_unread_filled :
    (spansRead [.bytes, .bytes] (numberWord 64 ++ numberWord 128
      ++ encodePacked (List.replicate 32 7) ++ encodePacked (List.replicate 32 7))).Pairwise
        Span.Disjoint
    ∧ ∃ position, decode [.array .string] (numberWord 32 ++ numberWord 2 ++ numberWord 64
      ++ numberWord 64 ++ encodePacked [97]) = .error (.malformedPayload (.readTwice position)) := by
  constructor
  . apply (decode_rereads_le_unread _ _).2.2
      [.bytes (List.replicate 32 7), .bytes (List.replicate 32 7)]
    . rfl
    . decide
  . apply (decode_rereads_le_unread _ _).2.1
    decide

-- Both items are the text at the same place; the word at the end is not read.
set_option maxRecDepth 8000 in
theorem decode_aliased_texts :
    decode [.array .string] (numberWord 32 ++ numberWord 2 ++ numberWord 64 ++ numberWord 64
        ++ encodePacked [97] ++ numberWord 0) = .ok [.array [.string "a", .string "a"]]
    ∧ ¬ (spansRead [.array .string] (numberWord 32 ++ numberWord 2 ++ numberWord 64
        ++ numberWord 64 ++ encodePacked [97] ++ numberWord 0)).Pairwise Span.Disjoint := by
  constructor
  . rfl
  . rw [Span.pairwise_disjoint_iff]
    intro hcount
    have := hcount 128
    revert this
    decide

end MessageAbi.Codec
