import Mathlib
import MessageAbi.Proofs.Codec.Footprint

/-!
This module contains what the budget of the reader amounts to: it refuses exactly the data whose
values have a greater footprint than the data has bytes, and only when something is read twice.
-/

namespace MessageAbi.Codec

namespace Span

def covers (span : Span) (byte : Nat) : Bool :=
  span.position ≤ byte && byte < span.position + span.count

theorem sum_covers {span : Span} {size : Nat} (h : span.position + span.count ≤ size) :
    ∑ byte ∈ Finset.range size, (if span.covers byte then 1 else 0) = span.count := by
  have hfilter : (Finset.range size).filter (fun byte => span.covers byte)
      = Finset.Ico span.position (span.position + span.count) := by
    ext byte
    simp only [Finset.mem_filter, Finset.mem_range, Finset.mem_Ico, covers, Bool.and_eq_true,
      decide_eq_true_eq]
    omega
  rw [Finset.sum_boole, hfilter]
  simp

theorem sum_countP_covers {spans : List Span} {size : Nat}
    (h : ∀ span ∈ spans, span.position + span.count ≤ size) :
    ∑ byte ∈ Finset.range size, spans.countP (·.covers byte) = total spans := by
  induction spans with
  | nil => simp
  | cons span spans ih =>
    rcases List.forall_mem_cons.mp h with ⟨hspan, hspans⟩
    simp only [List.countP_cons, Finset.sum_add_distrib, ih hspans, sum_covers hspan, total_cons]
    omega

theorem exists_covered_twice {spans : List Span} {size : Nat}
    (hbounded : ∀ span ∈ spans, span.position + span.count ≤ size) (h : size < total spans) :
    ∃ byte, 2 ≤ spans.countP (·.covers byte) := by
  by_contra hnone
  -- If no byte is covered twice, the spans have no more bytes together than there are.
  have hle : ∑ byte ∈ Finset.range size, spans.countP (·.covers byte)
      ≤ ∑ _byte ∈ Finset.range size, 1 := by
    apply Finset.sum_le_sum
    intro byte _
    by_contra hlt
    exact hnone ⟨byte, by omega⟩
  rw [sum_countP_covers hbounded] at hle
  simp at hle
  omega

end Span

def decodeUnmetered (types : List AbiType) (data : Bytes) : Except PayloadFault (List Value) :=
  Metered.sequence data types 0 0

/--
The ranges that are read one after the other as long as nothing is refused.
-/
def spansRead (types : List AbiType) (data : Bytes) : List Span :=
  (Metered.sequence data types 0 0 : Trace (List Value)).spans

variable {types : List AbiType} {data : Bytes}

theorem run_sequence_eq_settle (types : List AbiType) (data : Bytes) :
    (Metered.sequence data types 0 0 : Decoder (List Value)).run data.length
      = (⟨spansRead types data, decodeUnmetered types data⟩ : Trace (List Value)).settle
          data.length := by
  rw [Metered.run_sequence, decodeUnmetered, Metered.sequence_eq_outcome, spansRead]

theorem total_spansRead {values : List Value} (h : decodeUnmetered types data = .ok values) :
    Span.total (spansRead types data) = footprints types values := by
  rw [decodeUnmetered, Metered.sequence_eq_outcome] at h
  exact (Metered.sequence_returns data types 0 0 values h).2

theorem bounded_spansRead (types : List AbiType) (data : Bytes) :
    ∀ span ∈ spansRead types data, span.position + span.count ≤ data.length := by
  exact (Metered.sound_sequence data types 0 0).bounded

theorem decodeUnmetered_ne_readTwice (types : List AbiType) (data : Bytes) (position : Nat) :
    decodeUnmetered types data ≠ .error (.readTwice position) := by
  rw [decodeUnmetered, Metered.sequence_eq_outcome]
  exact (Metered.sound_sequence data types 0 0).outcome_ne position

theorem forall₂_hasType_of_decodeUnmetered {values : List Value}
    (h : decodeUnmetered types data = .ok values) : List.Forall₂ HasType types values := by
  rw [decodeUnmetered, Metered.sequence_eq_outcome] at h
  exact (Metered.sequence_returns data types 0 0 values h).1

theorem run_sequence_eq_ok_iff (values : List Value) (rest : Nat) :
    (Metered.sequence data types 0 0 : Decoder (List Value)).run data.length = .ok (values, rest)
      ↔ decodeUnmetered types data = .ok values ∧ footprints types values ≤ data.length
        ∧ rest = data.length - footprints types values := by
  rw [run_sequence_eq_settle, Trace.settle]
  cases hvalues : decodeUnmetered types data with
  | error _ =>
    cases Span.charge (spansRead types data) data.length with
    | ok _ => simp
    | error _ => simp
  | ok found =>
    -- The budget is charged with exactly the footprint of what the unmetered reader returns.
    have htotal := total_spansRead hvalues
    have hcharge := Span.charge_eq_ok_iff (spansRead types data) data.length
    rw [htotal] at hcharge
    cases hresult : Span.charge (spansRead types data) data.length with
    | ok left =>
      have hleft := (hcharge left).mp hresult
      simp only [Except.ok.injEq, Prod.mk.injEq]
      constructor
      . rintro ⟨rfl, rfl⟩
        exact ⟨rfl, hleft⟩
      . rintro ⟨rfl, _, rfl⟩
        exact ⟨rfl, hleft.2⟩
    | error _ =>
      simp only [reduceCtorEq, Except.ok.injEq, false_iff]
      rintro ⟨rfl, hle, _⟩
      have := (hcharge _).mpr ⟨hle, rfl⟩
      rw [hresult] at this
      contradiction

theorem decode_eq_ok_iff_run (values : List Value) :
    decode types data = .ok values
      ↔ ∃ rest, (Metered.sequence data types 0 0 : Decoder (List Value)).run data.length
          = .ok (values, rest) := by
  rw [decode, StateT.run'_eq]
  cases (Metered.sequence data types 0 0 : Decoder (List Value)).run data.length with
  | ok result =>
    rcases result with ⟨found, left⟩
    simp [Functor.map, Except.map]
  | error _ => simp [Functor.map, Except.map]

theorem decode_eq_ok_iff (values : List Value) :
    decode types data = .ok values
      ↔ decodeUnmetered types data = .ok values ∧ footprints types values ≤ data.length := by
  simp only [decode_eq_ok_iff_run, run_sequence_eq_ok_iff, exists_and_left, exists_eq, and_true]

theorem decode_eq_error {error : AbiError} (h : decode types data = .error error) :
    (∃ before last after, spansRead types data = before ++ last :: after
      ∧ error = .malformedPayload (.readTwice last.position)
      ∧ Span.total before ≤ data.length ∧ data.length < Span.total before + last.count)
    ∨ ∃ fault, decodeUnmetered types data = .error fault ∧ error = .malformedPayload fault := by
  rw [decode, StateT.run'_eq, run_sequence_eq_settle, Trace.settle] at h
  cases hcharge : Span.charge (spansRead types data) data.length with
  | ok left =>
    rw [hcharge] at h
    cases hvalues : decodeUnmetered types data with
    | ok _ =>
      rw [hvalues] at h
      contradiction
    | error fault =>
      rw [hvalues] at h
      injection h with h
      right
      exact ⟨fault, rfl, h.symm⟩
  | error fault =>
    rw [hcharge] at h
    injection h with h
    rcases Span.charge_eq_error hcharge with ⟨before, last, after, hspans, hfault, hle, hlt⟩
    left
    refine ⟨before, last, after, hspans, ?_, hle, hlt⟩
    rw [← h, hfault]

theorem decode_eq_readTwice {before after : List Span} {last : Span}
    (hspans : spansRead types data = before ++ last :: after)
    (hle : Span.total before ≤ data.length) (hlt : data.length < Span.total before + last.count) :
    decode types data = .error (.malformedPayload (.readTwice last.position)) := by
  have hbefore := (Span.charge_eq_ok_iff before data.length _).mpr ⟨hle, rfl⟩
  have hover : ¬ last.count ≤ data.length - Span.total before := by omega
  rw [decode, StateT.run'_eq, run_sequence_eq_settle]
  rw [Trace.settle, hspans, Span.charge_append, hbefore]
  simp [Except.bind, Span.charge, hover, Functor.map, Except.map]

theorem exists_covered_twice_of_decode {position : Nat}
    (h : decode types data = .error (.malformedPayload (.readTwice position))) :
    ∃ before last after, spansRead types data = before ++ last :: after
      ∧ last.position = position
      ∧ Span.total before ≤ data.length ∧ data.length < Span.total before + last.count
      ∧ ∃ byte, 2 ≤ (before ++ [last]).countP (·.covers byte) := by
  cases decode_eq_error h with
  | inl hread =>
    rcases hread with ⟨before, last, after, hspans, hfault, hle, hlt⟩
    injection hfault with hfault
    injection hfault with hposition
    have hbounded : ∀ span ∈ before ++ [last], span.position + span.count ≤ data.length := by
      intro span hspan
      apply bounded_spansRead types data
      rw [hspans]
      simp only [List.mem_append, List.mem_cons, List.not_mem_nil, or_false] at hspan ⊢
      tauto
    have htotal : data.length < Span.total (before ++ [last]) := by simpa using hlt
    have hcovered := Span.exists_covered_twice hbounded htotal
    exact ⟨before, last, after, hspans, hposition.symm, hle, hlt, hcovered⟩
  | inr hrefused =>
    rcases hrefused with ⟨fault, hvalues, hfault⟩
    injection hfault with hfault
    rw [← hfault] at hvalues
    exact absurd hvalues (decodeUnmetered_ne_readTwice types data position)

theorem holdings_le_length {values : List Value}
    (htuples : ∀ type ∈ types, type.tuplesNonempty = true) (h : decode types data = .ok values) :
    Word.size * Value.elementCounts values + Value.byteCounts values ≤ data.length := by
  rw [decode_eq_ok_iff] at h
  rcases h with ⟨hvalues, hfootprint⟩
  have hle := holdings_le_footprints 0 ?_ (forall₂_hasType_of_decodeUnmetered hvalues)
  . omega
  . intro type htype value hvalue
    have := holdings_le_footprint hvalue (htuples type htype)
    omega

theorem decode_budget (types : List AbiType) (data : Bytes) :
    (∀ values, decode types data = .ok values
      ↔ decodeUnmetered types data = .ok values ∧ footprints types values ≤ data.length)
    ∧ (∀ values rest,
      (Metered.sequence data types 0 0 : Decoder (List Value)).run data.length = .ok (values, rest)
        ↔ decode types data = .ok values ∧ rest = data.length - footprints types values)
    ∧ ((∀ type ∈ types, type.tuplesNonempty = true) →
      ∀ values, decode types data = .ok values →
        Word.size * Value.elementCounts values + Value.byteCounts values ≤ data.length)
    ∧ (∀ position, decode types data = .error (.malformedPayload (.readTwice position))
      ↔ ∃ before last after, spansRead types data = before ++ last :: after
        ∧ last.position = position
        ∧ Span.total before ≤ data.length ∧ data.length < Span.total before + last.count
        ∧ ∃ byte, 2 ≤ (before ++ [last]).countP (·.covers byte)) := by
  refine ⟨decode_eq_ok_iff, ?_, ?_, ?_⟩
  . intro values rest
    rw [run_sequence_eq_ok_iff, decode_eq_ok_iff, and_assoc]
  . intro htuples values
    exact holdings_le_length htuples
  . intro position
    constructor
    . exact exists_covered_twice_of_decode
    . rintro ⟨before, last, after, hspans, rfl, hle, hlt, _⟩
      exact decode_eq_readTwice hspans hle hlt

-- The two items of the first array are apart, those of the second lead to the same bytes.
set_option maxRecDepth 8000 in
theorem decode_budget_aliased :
    Word.size * Value.elementCounts [.array [.bytes [7], .bytes []]]
        + Value.byteCounts [.array [.bytes [7], .bytes []]]
      ≤ (numberWord 32 ++ numberWord 2 ++ numberWord 64 ++ numberWord 128
        ++ encodePacked [7] ++ encodePacked []).length
    ∧ ∃ before last after,
      spansRead [.array .bytes] (numberWord 32 ++ numberWord 2 ++ numberWord 64 ++ numberWord 64
          ++ encodePacked (List.replicate 40 7)) = before ++ last :: after
        ∧ ∃ byte, 2 ≤ (before ++ [last]).countP (·.covers byte) := by
  constructor
  . apply (decode_budget [.array .bytes] _).2.2.1
    . decide
    . rfl
  . have haliased : decode [.array .bytes] (numberWord 32 ++ numberWord 2 ++ numberWord 64
        ++ numberWord 64 ++ encodePacked (List.replicate 40 7))
          = .error (.malformedPayload (.readTwice 128)) := by
      rfl
    rcases ((decode_budget _ _).2.2.2 128).mp haliased with
      ⟨before, last, after, hspans, _, _, _, hcovered⟩
    exact ⟨before, last, after, hspans, hcovered⟩

end MessageAbi.Codec
