import Mathlib
import MessageAbi.Codec.Decode
import MessageAbi.Proofs.AbiType

/-!
This module contains two more ways to run the reader of encoded values: without a meter, and with an
account of every range that is read. Both and the budgeted reader are runs of one definition, so a
relation that respects its steps holds between the runs.
-/

namespace MessageAbi.Codec

namespace Metered

variable {m n : Type → Type} [Monad m] [Metered m] [Monad n] [Metered n]

/--
A relation between runs over data of `size` bytes that every step of reading respects.
-/
structure Respected (size : Nat) (R : (α : Type) → m α → n α → Prop) : Prop where
  pure {α : Type} (a : α) : R α (pure a) (pure a)
  bind {α β : Type} {x : m α} {y : n α} {f : α → m β} {g : α → n β} :
    R α x y → (∀ a, R β (f a) (g a)) → R β (x >>= f) (y >>= g)
  fail {α : Type} (fault : PayloadFault) :
    (∀ position, fault ≠ .readTwice position) → R α (fail fault) (fail fault)
  spend (count position : Nat) :
    position + count ≤ size → R Unit (spend count position) (spend count position)

variable {R : (α : Type) → m α → n α → Prop} {data : Bytes}

namespace Respected

theorem word (h : Respected data.length R) (position : Nat) :
    R Bytes (word data position) (word data position) := by
  unfold Metered.word
  split
  . next hle =>
    apply h.bind
    . apply h.spend
      exact hle
    . intro _
      apply h.pure
  . apply h.fail
    simp

theorem number (h : Respected data.length R) (position : Nat) :
    R Nat (number data position) (number data position) := by
  unfold Metered.number
  apply h.bind
  . apply h.word
  . intro bytes
    dsimp only
    split
    . apply h.pure
    . apply h.fail
      simp

theorem packed (h : Respected data.length R) (position : Nat) :
    R Bytes (packed data position) (packed data position) := by
  unfold Metered.packed
  apply h.bind
  . apply h.number
  . intro count
    dsimp only
    split
    . next hle =>
      apply h.bind
      . apply h.spend
        exact hle
      . intro _
        apply h.pure
    . apply h.fail
      simp

theorem member (h : Respected data.length R) {type : AbiType}
    (hvalue : ∀ position, R Value (value data type position) (value data type position))
    (base head : Nat) :
    R Value (member data type.isDynamic (value data type) base head)
      (member data type.isDynamic (value data type) base head) := by
  unfold Metered.member
  split
  . apply h.bind
    . apply h.number
    . intro offset
      split
      . apply hvalue
      . apply h.fail
        simp
  . apply hvalue

theorem sequence_of_values (h : Respected data.length R) {types : List AbiType}
    (hvalues : ∀ type ∈ types, ∀ position, R Value (value data type position) (value data type position))
    (base head : Nat) :
    R (List Value) (sequence data types base head) (sequence data types base head) := by
  induction types generalizing head with
  | nil => apply h.pure
  | cons type types ih =>
    unfold Metered.sequence
    apply h.bind
    . apply h.member
      apply hvalues
      simp
    . intro first
      apply h.bind
      . apply ih
        intro other hother
        apply hvalues
        simp [hother]
      . intro rest
        apply h.pure

theorem value (h : Respected data.length R) (type : AbiType) (position : Nat) :
    R Value (value data type position) (value data type position) := by
  induction type generalizing position with
  | bool | uint _ | int _ =>
    unfold Metered.value
    apply h.bind
    . apply h.word
    . intro bytes
      dsimp only
      split
      . apply h.pure
      . apply h.fail
        simp
  | address =>
    unfold Metered.value
    apply h.bind
    . apply h.word
    . intro bytes
      split
      . apply h.fail
        simp
      . apply h.pure
  | bytes =>
    unfold Metered.value
    apply h.bind
    . apply h.packed
    . intro bytes
      apply h.pure
  | string =>
    unfold Metered.value
    apply h.bind
    . apply h.packed
    . intro bytes
      split
      . apply h.pure
      . apply h.fail
        simp
  | array element ih =>
    unfold Metered.value
    apply h.bind
    . apply h.number
    . intro count
      dsimp only
      split
      . apply h.fail
        simp
      . apply h.bind
        . rw [repeated_eq_sequence, repeated_eq_sequence]
          apply h.sequence_of_values
          intro other hother
          rw [List.eq_of_mem_replicate hother]
          exact ih
        . intro items
          apply h.pure
  | tuple name components ih =>
    unfold Metered.value
    apply h.bind
    . rw [members_eq_sequence, members_eq_sequence]
      apply h.sequence_of_values
      intro other hother
      rcases List.mem_map.mp hother with ⟨param, hparam, rfl⟩
      exact ih param hparam
    . intro members
      apply h.pure

theorem sequence (h : Respected data.length R) (types : List AbiType) (base head : Nat) :
    R (List Value) (sequence data types base head) (sequence data types base head) := by
  apply h.sequence_of_values
  intro type _
  exact h.value type

end Respected

end Metered

instance : Metered (Except PayloadFault) where
  fail := .error
  spend _ _ := .ok ()

structure Span where
  position : Nat
  count : Nat

namespace Span

def total (spans : List Span) : Nat :=
  (spans.map (·.count)).sum

@[simp]
theorem total_nil : total [] = 0 := by
  rfl

@[simp]
theorem total_cons (span : Span) (spans : List Span) :
    total (span :: spans) = span.count + total spans := by
  simp [total]

@[simp]
theorem total_append (spans others : List Span) :
    total (spans ++ others) = total spans + total others := by
  simp [total]

def charge : List Span → Nat → Except PayloadFault Nat
  | [], budget => .ok budget
  | span :: spans, budget =>
    if span.count ≤ budget then charge spans (budget - span.count)
    else .error (.readTwice span.position)

theorem charge_append (spans others : List Span) (budget : Nat) :
    charge (spans ++ others) budget = (charge spans budget).bind (charge others) := by
  induction spans generalizing budget with
  | nil => rfl
  | cons span spans ih =>
    simp only [List.cons_append, charge]
    split
    . apply ih
    . rfl

theorem charge_eq_ok_iff (spans : List Span) (budget rest : Nat) :
    charge spans budget = .ok rest ↔ total spans ≤ budget ∧ rest = budget - total spans := by
  induction spans generalizing budget with
  | nil => simp [charge, eq_comm]
  | cons span spans ih =>
    simp only [charge, total_cons]
    split
    . rw [ih]
      omega
    . simp
      omega

theorem charge_eq_error {spans : List Span} {budget : Nat} {fault : PayloadFault}
    (h : charge spans budget = .error fault) :
    ∃ before last after, spans = before ++ last :: after ∧ fault = .readTwice last.position
      ∧ total before ≤ budget ∧ budget < total before + last.count := by
  induction spans generalizing budget with
  | nil => simp [charge] at h
  | cons span spans ih =>
    simp only [charge] at h
    split at h
    . rcases ih h with ⟨before, last, after, heq, hfault, hle, hlt⟩
      refine ⟨span :: before, last, after, ?_, hfault, ?_, ?_⟩
      . rw [heq, List.cons_append]
      . rw [total_cons]
        omega
      . rw [total_cons]
        omega
    . refine ⟨[], span, spans, rfl, ?_, ?_, ?_⟩
      . injection h with h
        exact h.symm
      . simp
      . simp only [total_nil]
        omega

end Span

/--
A run that no budget stops: the ranges that it reads, in order, and how it ends.
-/
structure Trace (α : Type) where
  spans : List Span
  outcome : Except PayloadFault α

namespace Trace

instance : Monad Trace where
  pure a := ⟨[], .ok a⟩
  bind x f :=
    match x.outcome with
    | .ok a => ⟨x.spans ++ (f a).spans, (f a).outcome⟩
    | .error fault => ⟨x.spans, .error fault⟩

instance : Metered Trace where
  fail fault := ⟨[], .error fault⟩
  spend count position := ⟨[⟨position, count⟩], .ok ()⟩

def settle {α : Type} (x : Trace α) (budget : Nat) : Except AbiError (α × Nat) :=
  match Span.charge x.spans budget, x.outcome with
  | .ok rest, .ok a => .ok (a, rest)
  | .ok _, .error fault => .error (.malformedPayload fault)
  | .error fault, _ => .error (.malformedPayload fault)

theorem settle_bind {α β : Type} (x : Trace α) (f : α → Trace β) (budget : Nat) :
    (x >>= f).settle budget = (x.settle budget).bind fun (a, rest) => (f a).settle rest := by
  rcases x with ⟨spans, outcome⟩
  cases outcome with
  | ok a =>
    have hbind : (⟨spans, .ok a⟩ : Trace α) >>= f = ⟨spans ++ (f a).spans, (f a).outcome⟩ := rfl
    rw [hbind]
    simp only [settle, Span.charge_append]
    cases Span.charge spans budget with
    | ok rest => rfl
    | error fault => rfl
  | error fault =>
    have hbind : (⟨spans, .error fault⟩ : Trace α) >>= f = ⟨spans, .error fault⟩ := rfl
    rw [hbind]
    simp only [settle]
    cases Span.charge spans budget with
    | ok rest => rfl
    | error fault => rfl

theorem respected_run_settle (size : Nat) :
    Metered.Respected (m := Decoder) (n := Trace) size
      fun _ x y => ∀ budget, x.run budget = y.settle budget := by
  constructor
  case pure =>
    intro α a budget
    rfl
  case bind =>
    intro α β x y f g hx hf budget
    rw [settle_bind, ← hx, StateT.run_bind]
    cases x.run budget with
    | ok result => exact hf result.1 result.2
    | error _ => rfl
  case fail =>
    intro α fault _ budget
    rfl
  case spend =>
    intro count position _ budget
    change (Decoder.spend count position).run budget = settle ⟨[⟨position, count⟩], .ok ()⟩ budget
    by_cases hle : count ≤ budget
    . simp only [Decoder.spend, settle, Span.charge, if_pos hle, StateT.run_bind, StateT.run_get,
        pure_bind]
      rfl
    . simp only [Decoder.spend, settle, Span.charge, if_neg hle, StateT.run_bind, StateT.run_get,
        pure_bind]
      rfl

theorem respected_outcome (size : Nat) :
    Metered.Respected (m := Except PayloadFault) (n := Trace) size fun _ x y => x = y.outcome := by
  constructor
  case pure =>
    intro α a
    rfl
  case bind =>
    intro α β x y f g hx hf
    rcases y with ⟨spans, outcome⟩
    rw [hx]
    cases outcome with
    | ok a => exact hf a
    | error _ => rfl
  case fail =>
    intro α fault _
    rfl
  case spend =>
    intro count position _
    rfl

/--
Reading keeps to the data, and only a budget finds that something is read twice.
-/
structure Sound {α : Type} (size : Nat) (x : Trace α) : Prop where
  bounded : ∀ span ∈ x.spans, span.position + span.count ≤ size
  outcome_ne : ∀ position, x.outcome ≠ .error (.readTwice position)

theorem respected_sound (size : Nat) :
    Metered.Respected (m := Trace) (n := Trace) size fun _ x _ => Sound size x := by
  constructor
  case pure =>
    intro α a
    constructor
    . simp [pure]
    . simp [pure]
  case bind =>
    intro α β x _ f _ hx hf
    rcases x with ⟨spans, outcome⟩
    cases outcome with
    | ok a =>
      constructor
      . intro span hspan
        cases List.mem_append.mp hspan with
        | inl hleft => exact hx.bounded span hleft
        | inr hright => exact (hf a).bounded span hright
      . exact (hf a).outcome_ne
    | error fault =>
      constructor
      . exact hx.bounded
      . intro position heq
        apply hx.outcome_ne position
        injection heq with heq
        rw [heq]
  case fail =>
    intro α fault hfault
    constructor
    . simp [Metered.fail]
    . intro position heq
      injection heq with heq
      exact hfault position heq
  case spend =>
    intro count position hle
    constructor
    . simpa [Metered.spend] using hle
    . simp [Metered.spend]

end Trace

namespace Metered

variable (data : Bytes) (types : List AbiType) (base head : Nat)

theorem run_sequence (budget : Nat) :
    (sequence data types base head : Decoder (List Value)).run budget
      = (sequence data types base head : Trace (List Value)).settle budget := by
  apply (Trace.respected_run_settle data.length).sequence

theorem sequence_eq_outcome :
    (sequence data types base head : Except PayloadFault (List Value))
      = (sequence data types base head : Trace (List Value)).outcome := by
  apply (Trace.respected_outcome data.length).sequence

theorem sound_sequence :
    (sequence data types base head : Trace (List Value)).Sound data.length := by
  apply (Trace.respected_sound data.length).sequence

end Metered

end MessageAbi.Codec
