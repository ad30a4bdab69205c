import Mathlib
import MessageAbi.Proofs.Codec.Trace
import MessageAbi.Proofs.Typing

/-!
This module contains the number of bytes that are read for a value of a type, without the padding that
the encoding adds, and how it bounds what a value holds.
-/

namespace MessageAbi

namespace Value

mutual

def elementCount : Value → Nat
  | array items => items.length + elementCounts items
  | tuple members => elementCounts members
  | _ => 0

def elementCounts : List Value → Nat
  | [] => 0
  | value :: values => value.elementCount + elementCounts values

end

mutual

def byteCount : Value → Nat
  | bytes b => b.length
  | string s => s.utf8ByteSize
  | array items => byteCounts items
  | tuple members => byteCounts members
  | _ => 0

def byteCounts : List Value → Nat
  | [] => 0
  | value :: values => value.byteCount + byteCounts values

end

end Value

namespace Codec

def offsetSize (type : AbiType) : Nat :=
  if type.isDynamic then Word.size else 0

mutual

/--
Number of bytes read for a value, the offset to it aside.
-/
def footprint : AbiType → Value → Nat
  | .bool, .bool _ => Word.size
  | .uint _, .uint _ => Word.size
  | .int _, .int _ => Word.size
  | .address, .address _ => Word.size
  | .bytes, .bytes b => Word.size + b.length
  | .string, .string s => Word.size + s.utf8ByteSize
  | .array element, .array items =>
    Word.size + (items.map fun item => offsetSize element + footprint element item).sum
  | .tuple _ components, .tuple members => footprintMembers components members
  | _, _ => 0

def footprintMembers : List Param → List Value → Nat
  | ⟨_, type⟩ :: params, value :: values =>
    offsetSize type + footprint type value + footprintMembers params values
  | _, _ => 0

end

def footprints : List AbiType → List Value → Nat
  | type :: types, value :: values =>
    offsetSize type + footprint type value + footprints types values
  | _, _ => 0

@[simp]
theorem footprints_nil : footprints [] [] = 0 := by
  rfl

@[simp]
theorem footprints_cons (type : AbiType) (types : List AbiType) (value : Value)
    (values : List Value) :
    footprints (type :: types) (value :: values)
      = offsetSize type + footprint type value + footprints types values := by
  rfl

@[simp]
theorem footprint_tuple (name : String) (components : List Param) (members : List Value) :
    footprint (.tuple name components) (.tuple members)
      = footprints (components.map (·.type)) members := by
  rw [footprint]
  induction components generalizing members with
  | nil => cases members <;> rfl
  | cons param params ih =>
    cases param
    cases members with
    | nil => rfl
    | cons member members => rw [footprintMembers, ih, List.map_cons, footprints_cons]

@[simp]
theorem footprint_array (element : AbiType) (items : List Value) :
    footprint (.array element) (.array items)
      = Word.size + footprints (List.replicate items.length element) items := by
  rw [footprint]
  congr 1
  induction items with
  | nil => rfl
  | cons item items ih =>
    rw [List.map_cons, List.sum_cons, ih]
    rw [List.length_cons, List.replicate_succ, footprints_cons]

theorem footprints_of_static {types : List AbiType} {values : List Value}
    (hstatic : ∀ type ∈ types, type.isDynamic = false)
    (hvalues : ∀ type ∈ types, ∀ value, HasType type value → type.isDynamic = false →
      value.elementCount = 0 ∧ value.byteCount = 0 ∧ footprint type value = type.headSize)
    (h : List.Forall₂ HasType types values) :
    Value.elementCounts values = 0 ∧ Value.byteCounts values = 0
      ∧ footprints types values = headSize types := by
  induction h with
  | nil => simp [Value.elementCounts, Value.byteCounts]
  | @cons type value types values hvalue _ ih =>
    rcases List.forall_mem_cons.mp hstatic with ⟨hdyn, hstatic⟩
    rcases List.forall_mem_cons.mp hvalues with ⟨htype, hvalues⟩
    rcases htype value hvalue hdyn with ⟨helements, hbytes, hfootprint⟩
    rcases ih hstatic hvalues with ⟨ihelements, ihbytes, ihfootprint⟩
    refine ⟨?_, ?_, ?_⟩
    . rw [Value.elementCounts, helements, ihelements]
    . rw [Value.byteCounts, hbytes, ihbytes]
    . rw [footprints_cons, headSize_cons, offsetSize, hdyn, hfootprint, ihfootprint]
      simp

theorem footprint_of_static {type : AbiType} {value : Value} (h : HasType type value)
    (hstatic : type.isDynamic = false) :
    value.elementCount = 0 ∧ value.byteCount = 0 ∧ footprint type value = type.headSize := by
  induction type generalizing value with
  | bool | uint _ | int _ | address =>
    cases h
    simp [Value.elementCount, Value.byteCount, footprint, AbiType.headSize]
  | bytes | string | array _ _ => simp [AbiType.isDynamic] at hstatic
  | tuple name components ih =>
    cases h with
    | tuple _ _ members hmembers =>
      rw [← forall₂_hasType_map_iff] at hmembers
      rw [AbiType.headSize_tuple_of_static hstatic, footprint_tuple]
      rw [Value.elementCount, Value.byteCount]
      rw [AbiType.isDynamic_tuple_eq_false_iff] at hstatic
      apply footprints_of_static ?_ ?_ hmembers
      . simpa using hstatic
      . intro type htype value
        rcases List.mem_map.mp htype with ⟨param, hparam, rfl⟩
        apply ih
        exact hparam

theorem holdings_le_footprints {types : List AbiType} {values : List Value} (each : Nat)
    (hvalues : ∀ type ∈ types, ∀ value, HasType type value →
      each + Word.size * value.elementCount + value.byteCount
        ≤ offsetSize type + footprint type value)
    (h : List.Forall₂ HasType types values) :
    each * values.length + Word.size * Value.elementCounts values + Value.byteCounts values
      ≤ footprints types values := by
  induction h with
  | nil => simp [Value.elementCounts, Value.byteCounts]
  | @cons type value types values hvalue _ ih =>
    rcases List.forall_mem_cons.mp hvalues with ⟨htype, hvalues⟩
    have hfirst := htype value hvalue
    have hrest := ih hvalues
    rw [Value.elementCounts, Value.byteCounts, footprints_cons, List.length_cons]
    rw [Nat.mul_add, Nat.mul_add, Nat.mul_one]
    omega

theorem holdings_le_footprint {type : AbiType} {value : Value} (h : HasType type value)
    (htuples : type.tuplesNonempty = true) :
    Word.size * value.elementCount + value.byteCount ≤ footprint type value := by
  induction type generalizing value with
  | bool | uint _ | int _ | address | bytes | string =>
    cases h
    simp [Value.elementCount, Value.byteCount, footprint]
  | array element ih =>
    cases h with
    | array _ items hitems =>
      rw [← forall₂_hasType_replicate_iff] at hitems
      rw [Value.elementCount, Value.byteCount, footprint_array, Nat.mul_add]
      have hle := holdings_le_footprints Word.size ?_ hitems
      . omega
      . intro type htype value hvalue
        rw [List.eq_of_mem_replicate htype] at hvalue ⊢
        -- An element pays for itself: a dynamic one by its offset, a static one by its head.
        cases hdyn : element.isDynamic with
        | true =>
          have := ih hvalue htuples
          rw [offsetSize, hdyn, if_pos rfl]
          omega
        | false =>
          rcases footprint_of_static hvalue hdyn with ⟨helements, hbytes, hfootprint⟩
          rw [helements, hbytes, hfootprint]
          have : Word.size ≤ element.headSize := AbiType.size_le_headSize htuples
          omega
  | tuple name components ih =>
    cases h with
    | tuple _ _ members hmembers =>
      rw [AbiType.tuplesNonempty_tuple_iff] at htuples
      rw [← forall₂_hasType_map_iff] at hmembers
      rw [Value.elementCount, Value.byteCount, footprint_tuple]
      have hle := holdings_le_footprints 0 ?_ hmembers
      . omega
      . intro type htype value hvalue
        rcases List.mem_map.mp htype with ⟨param, hparam, rfl⟩
        have := ih param hparam hvalue (htuples.2 param hparam)
        omega

theorem utf8ByteSize_of_fromUTF8? {bytes : Bytes} {s : String}
    (h : String.fromUTF8? ⟨bytes.toArray⟩ = some s) : s.utf8ByteSize = bytes.length := by
  unfold String.fromUTF8? at h
  split at h
  . injection h with h
    rw [← h]
    rfl
  . contradiction

namespace Trace

/--
What holds of the result of a run and of the number of bytes it reads, if it has a result.
-/
def Returns {α : Type} (x : Trace α) (Q : α → Nat → Prop) : Prop :=
  ∀ a, x.outcome = .ok a → Q a (Span.total x.spans)

namespace Returns

variable {α β : Type} {Q : α → Nat → Prop}

theorem pure {a : α} (h : Q a 0) : Returns (pure a) Q := by
  intro b hb
  injection hb with hb
  rw [← hb]
  exact h

theorem bind {x : Trace α} {f : α → Trace β} {P : β → Nat → Prop} (hx : x.Returns Q)
    (hf : ∀ a k, Q a k → (f a).Returns fun b l => P b (k + l)) : (x >>= f).Returns P := by
  rcases x with ⟨spans, outcome⟩
  intro b hb
  cases outcome with
  | ok a =>
    change P b (Span.total (spans ++ (f a).spans))
    rw [Span.total_append]
    exact hf a _ (hx a rfl) b hb
  | error _ => contradiction

theorem fail (fault : PayloadFault) : Returns (Metered.fail fault : Trace α) Q := by
  intro a ha
  contradiction

theorem spend (count position : Nat) :
    Returns (Metered.spend count position) fun _ k => k = count := by
  intro a _
  simp [Metered.spend]

end Returns

end Trace

namespace Metered

open Trace

variable (data : Bytes)

theorem word_returns (position : Nat) :
    Returns (word data position) fun bytes count =>
      count = Word.size ∧ bytes.length = Word.size := by
  unfold word
  split
  . next hle =>
    refine Returns.bind (Returns.spend _ _) ?_
    intro _ count hcount
    apply Returns.pure
    constructor
    . omega
    . simp
      omega
  . apply Returns.fail

theorem number_returns (position : Nat) :
    Returns (number data position) fun _ count => count = Word.size := by
  unfold number
  refine Returns.bind (word_returns data position) ?_
  intro bytes count hcount
  dsimp only
  split
  . apply Returns.pure
    exact hcount.1
  . apply Returns.fail

theorem packed_returns (position : Nat) :
    Returns (packed data position) fun bytes count => count = Word.size + bytes.length := by
  unfold packed
  refine Returns.bind (number_returns data position) ?_
  intro n count hcount
  dsimp only
  split
  . next hle =>
    refine Returns.bind (Returns.spend _ _) ?_
    intro _ more hmore
    apply Returns.pure
    simp only [List.length_take, List.length_drop]
    omega
  . apply Returns.fail

variable {data}

theorem member_returns {type : AbiType}
    (hvalue : ∀ position, Returns (value data type position) fun v count =>
      HasType type v ∧ count = footprint type v)
    (base head : Nat) :
    Returns (member data type.isDynamic (value data type) base head) fun v count =>
      HasType type v ∧ count = offsetSize type + footprint type v := by
  unfold member
  cases hdyn : type.isDynamic with
  | true =>
    simp only [if_true, offsetSize, hdyn]
    refine Returns.bind (number_returns data head) ?_
    intro offset count hcount
    split
    . intro v hv
      rcases hvalue (base + offset) v hv with ⟨htype, htotal⟩
      constructor
      . exact htype
      . omega
    . apply Returns.fail
  | false =>
    simp only [Bool.false_eq_true, if_false, offsetSize, hdyn, Nat.zero_add]
    apply hvalue

theorem sequence_returns_of_values {types : List AbiType}
    (hvalues : ∀ type ∈ types, ∀ position, Returns (value data type position) fun v count =>
      HasType type v ∧ count = footprint type v)
    (base head : Nat) :
    Returns (sequence data types base head) fun values count =>
      List.Forall₂ HasType types values ∧ count = footprints types values := by
  induction types generalizing head with
  | nil =>
    apply Returns.pure
    simp
  | cons type types ih =>
    rcases List.forall_mem_cons.mp hvalues with ⟨hvalue, htypes⟩
    unfold sequence
    refine Returns.bind (member_returns hvalue base head) ?_
    intro first count hfirst
    refine Returns.bind (ih htypes _) ?_
    intro rest more hrest
    apply Returns.pure
    constructor
    . exact .cons hfirst.1 hrest.1
    . rw [footprints_cons]
      omega

theorem value_returns (type : AbiType) (position : Nat) :
    Returns (value data type position) fun v count =>
      HasType type v ∧ count = footprint type v := by
  induction type generalizing position with
  | bool =>
    unfold value
    refine Returns.bind (word_returns data position) ?_
    intro bytes count hcount
    dsimp only
    split
    . apply Returns.pure
      exact ⟨.bool _, hcount.1⟩
    . apply Returns.fail
  | uint bits =>
    unfold value
    refine Returns.bind (word_returns data position) ?_
    intro bytes count hcount
    dsimp only
    split
    . next hle =>
      apply Returns.pure
      rw [Word.bitLength_le_iff] at hle
      exact ⟨.uint _ _ hle, hcount.1⟩
    . apply Returns.fail
  | int bits =>
    unfold value
    refine Returns.bind (word_returns data position) ?_
    intro bytes count hcount
    dsimp only
    split
    . next hfits =>
      apply Returns.pure
      rcases (Int256.fits_iff _ bits).mp hfits with ⟨hpos, hlower, hupper⟩
      exact ⟨.int _ _ hpos hlower hupper, hcount.1⟩
    . apply Returns.fail
  | address =>
    unfold value
    refine Returns.bind (word_returns data position) ?_
    intro bytes count hcount
    split
    . apply Returns.fail
    . apply Returns.pure
      exact ⟨.address _, hcount.1⟩
  | bytes =>
    unfold value
    refine Returns.bind (packed_returns data position) ?_
    intro bytes count hcount
    apply Returns.pure
    exact ⟨.bytes _, hcount⟩
  | string =>
    unfold value
    refine Returns.bind (packed_returns data position) ?_
    intro bytes count hcount
    split
    . next s hs =>
      apply Returns.pure
      refine ⟨.string _, ?_⟩
      rw [Nat.add_zero, hcount, footprint, utf8ByteSize_of_fromUTF8? hs]
    . apply Returns.fail
  | array element ih =>
    unfold value
    refine Returns.bind (number_returns data position) ?_
    intro n count hcount
    dsimp only
    split
    . apply Returns.fail
    . rw [repeated_eq_sequence]
      refine Returns.bind (sequence_returns_of_values ?_ _ _) ?_
      . intro type htype
        rw [List.eq_of_mem_replicate htype]
        exact ih
      . intro items more hmore
        rcases hmore with ⟨hitems, hmore⟩
        have hn : n = items.length := by
          rw [← hitems.length_eq, List.length_replicate]
        rw [hn, forall₂_hasType_replicate_iff] at hitems
        apply Returns.pure
        refine ⟨.array _ _ hitems, ?_⟩
        rw [footprint_array, ← hn]
        omega
  | tuple name components ih =>
    unfold value
    rw [members_eq_sequence]
    refine Returns.bind (sequence_returns_of_values ?_ _ _) ?_
    . intro type htype
      rcases List.mem_map.mp htype with ⟨param, hparam, rfl⟩
      exact ih param hparam
    . intro members count hcount
      rcases hcount with ⟨hmembers, hcount⟩
      rw [forall₂_hasType_map_iff] at hmembers
      apply Returns.pure
      refine ⟨.tuple _ _ _ hmembers, ?_⟩
      rw [footprint_tuple]
      exact hcount

variable (data)

theorem sequence_returns (types : List AbiType) (base head : Nat) :
    Returns (sequence data types base head) fun values count =>
      List.Forall₂ HasType types values ∧ count = footprints types values := by
  apply sequence_returns_of_values
  intro type _
  exact value_returns type

end Metered

end Codec

end MessageAbi
