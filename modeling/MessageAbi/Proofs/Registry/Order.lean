import Mathlib
import MessageAbi.Proofs.Schema.Totality

/-!
This module contains that the order in which messages are added to an empty registry matters only if
some of them clash: which sets of messages can be added at all, and that no question put to the
registry tells the order in which they were.
-/

namespace MessageAbi.Registry

variable {registry other after : Registry} {specs others : List MessageSpec}

def AddsEach (registry : Registry) (specs : List MessageSpec) : Prop :=
  ∀ outcome ∈ ((addEach specs).run registry).1, outcome.isOk = true

structure Distinct (specs : List MessageSpec) : Prop where
  names : (specs.map (·.name)).Nodup
  selectors : (specs.map (·.selector)).Nodup

/--
Two registries that give the same answers. How they keep the selectors of the names may differ.
-/
structure Alike (registry other : Registry) : Prop where
  get?_eq : ∀ selector, registry.get? selector = other.get? selector
  byName?_eq : ∀ name, registry.byName? name = other.byName? name
  toList_eq : registry.toList = other.toList
  size_eq : registry.size = other.size
  isEmpty_eq : registry.isEmpty = other.isEmpty
  pack_eq : ∀ name values, registry.pack name values = other.pack name values
  unpack_eq : ∀ payload, registry.unpack payload = other.unpack payload

theorem Distinct.of_perm (h : Distinct specs) (hperm : specs.Perm others) : Distinct others :=
  ⟨(hperm.map _).nodup_iff.mp h.names, (hperm.map _).nodup_iff.mp h.selectors⟩

theorem distinct_iff_pairwise (specs : List MessageSpec) :
    Distinct specs ↔ specs.Pairwise (fun left right =>
      left.name ≠ right.name ∧ left.selector ≠ right.selector) := by
  rw [List.pairwise_and_iff]
  constructor
  . intro h
    exact ⟨List.pairwise_map.mp h.names, List.pairwise_map.mp h.selectors⟩
  . rintro ⟨hnames, hselectors⟩
    exact ⟨List.pairwise_map.mpr hnames, List.pairwise_map.mpr hselectors⟩

theorem addsEach_cons (registry : Registry) (spec : MessageSpec) (specs : List MessageSpec) :
    registry.AddsEach (spec :: specs)
      ↔ ∃ middle, registry.register spec = .ok middle ∧ middle.AddsEach specs := by
  unfold AddsEach
  rw [run_addEach_cons, run_add, List.forall_mem_cons]
  cases registry.register spec with
  | error error => simp [Except.isOk, Except.toBool]
  | ok middle => simp [Except.isOk, Except.toBool]

theorem registerAll_eq_ok_iff (registry after : Registry) (specs : List MessageSpec) :
    registry.registerAll specs = .ok after
      ↔ registry.AddsEach specs ∧ after = ((addEach specs).run registry).2 := by
  induction specs generalizing registry with
  | nil =>
    have hadds : registry.AddsEach [] := fun _ houtcome => absurd houtcome List.not_mem_nil
    have hrun : ((addEach []).run registry).2 = registry := rfl
    rw [hrun, and_iff_right hadds, registerAll, List.foldlM_nil, pure_eq_ok_iff, eq_comm]
  | cons spec specs ih =>
    rw [registerAll_cons, addsEach_cons, run_addEach_cons, run_add]
    cases registry.register spec with
    | error error => simp
    | ok middle => simp [ih]

theorem names_of_registerAll (h : registry.registerAll specs = .ok after) :
    after.names = (specs.map fun spec => (spec.name, spec.selector)).reverse ++ registry.names := by
  induction specs generalizing registry with
  | nil =>
    cases h
    rfl
  | cons spec specs ih =>
    rcases (registerAll_cons _ _ _ _).mp h with ⟨middle, hmiddle, hafter⟩
    rcases (register_eq_ok_iff _ _ _).mp hmiddle with ⟨_, _, rfl⟩
    rw [ih hafter]
    simp

theorem exists_registerAll_iff_addsEach (registry : Registry) (specs : List MessageSpec) :
    (∃ after, registry.registerAll specs = .ok after) ↔ registry.AddsEach specs := by
  simp only [registerAll_eq_ok_iff, exists_and_left, exists_eq, and_true]

namespace Consistent

variable (h : registry.Consistent)

include h

theorem exists_register_iff (spec : MessageSpec) :
    (∃ after, registry.register spec = .ok after)
      ↔ ∀ other ∈ registry.toList, other.name ≠ spec.name ∧ other.selector ≠ spec.selector := by
  constructor
  . rintro ⟨after, hregister⟩
    exact h.ne_of_register hregister
  . intro hfresh
    refine ⟨_, (register_eq_ok_iff _ _ _).mpr ⟨?_, ?_, rfl⟩⟩
    . rw [Option.eq_none_iff_forall_ne_some]
      intro selector hselector
      rcases (h.indexes.lookup_names_iff _ _).mp hselector with ⟨other, hget, hname⟩
      exact (hfresh other ((h.get?_eq_some_iff _ _).mp hget).1).1 hname
    . rw [Option.eq_none_iff_forall_ne_some]
      intro other hother
      rcases (h.get?_eq_some_iff _ _).mp hother with ⟨hmem, hselector⟩
      exact (hfresh other hmem).2 hselector

theorem exists_registerAll_iff (specs : List MessageSpec) :
    (∃ after, registry.registerAll specs = .ok after)
      ↔ specs.Pairwise (fun left right => left.name ≠ right.name ∧ left.selector ≠ right.selector)
        ∧ ∀ spec ∈ specs, ∀ other ∈ registry.toList,
          other.name ≠ spec.name ∧ other.selector ≠ spec.selector := by
  constructor
  . rintro ⟨after, hregister⟩
    exact h.pairwise_of_registerAll hregister
  . rintro ⟨hpairwise, hfresh⟩
    induction specs generalizing registry with
    | nil => exact ⟨registry, rfl⟩
    | cons spec specs ih =>
      rcases List.pairwise_cons.mp hpairwise with ⟨hhead, htail⟩
      rcases List.forall_mem_cons.mp hfresh with ⟨hspec, hspecs⟩
      rcases (h.exists_register_iff spec).mpr hspec with ⟨middle, hmiddle⟩
      have hrest : ∀ later ∈ specs, ∀ other ∈ middle.toList,
          other.name ≠ later.name ∧ other.selector ≠ later.selector := by
        intro later hlater other hother
        rcases (h.mem_toList_register hmiddle other).mp hother with rfl | hmem
        . exact hhead later hlater
        . exact hspecs later hlater other hmem
      rcases ih (h.register hmiddle) htail hrest with ⟨after, hafter⟩
      exact ⟨after, (registerAll_cons _ _ _ _).mpr ⟨middle, hmiddle, hafter⟩⟩

theorem toList_eq_of_perm (hother : other.Consistent) (hperm : registry.toList.Perm other.toList) :
    registry.toList = other.toList := by
  apply hperm.eq_of_pairwise _ h.toList_sorted hother.toList_sorted
  -- Both lists are in strict order, in which no two messages are on both sides of each other.
  intro left right _ _ hlt hgt
  exact absurd rfl (Selector.ne_of_lt (Selector.lt_trans hlt hgt))

theorem alike_of_perm (hother : other.Consistent) (hperm : registry.toList.Perm other.toList) :
    registry.Alike other := by
  have hlist := h.toList_eq_of_perm hother hperm
  have hget : ∀ selector, registry.get? selector = other.get? selector := by
    intro selector
    ext spec
    rw [h.get?_eq_some_iff, hother.get?_eq_some_iff, hlist]
  have hname : ∀ name, registry.byName? name = other.byName? name := by
    intro name
    ext spec
    rw [h.byName?_eq_some_iff, hother.byName?_eq_some_iff, hlist]
  constructor
  . exact hget
  . exact hname
  . exact hlist
  . simpa [toList, size] using congrArg List.length hlist
  . simpa [toList, isEmpty] using congrArg List.isEmpty hlist
  . intro name values
    rw [pack, pack, hname]
  . intro payload
    simp only [unpack, hget]

end Consistent

theorem addsEach_empty_iff (specs : List MessageSpec) : empty.AddsEach specs ↔ Distinct specs := by
  rw [← exists_registerAll_iff_addsEach, consistent_empty.exists_registerAll_iff,
    distinct_iff_pairwise]
  simp [empty, toList]

theorem alike_of_addsEach (hperm : specs.Perm others) (hspecs : empty.AddsEach specs)
    (hothers : empty.AddsEach others) :
    ((addEach specs).run empty).2.Alike ((addEach others).run empty).2 := by
  have hfirst := (registerAll_eq_ok_iff empty _ specs).mpr ⟨hspecs, rfl⟩
  have hsecond := (registerAll_eq_ok_iff empty _ others).mpr ⟨hothers, rfl⟩
  apply (consistent_of_registerAll hfirst).1.alike_of_perm (consistent_of_registerAll hsecond).1
  apply (consistent_empty.perm_registerAll hfirst).trans
  apply (hperm.append_right _).trans
  exact (consistent_empty.perm_registerAll hsecond).symm

theorem registration_order_irrelevant (hperm : specs.Perm others) :
    (empty.AddsEach specs ↔ Distinct specs)
    ∧ (empty.AddsEach specs ↔ empty.AddsEach others)
    ∧ (∀ registry, empty.registerAll specs = .ok registry
      ↔ empty.AddsEach specs ∧ registry = ((addEach specs).run empty).2)
    ∧ (empty.AddsEach specs →
      ((addEach specs).run empty).2.Alike ((addEach others).run empty).2) := by
  have hiff : empty.AddsEach specs ↔ empty.AddsEach others := by
    rw [addsEach_empty_iff, addsEach_empty_iff]
    exact ⟨fun h => h.of_perm hperm, fun h => h.of_perm hperm.symm⟩
  refine ⟨addsEach_empty_iff specs, hiff, ?_, ?_⟩
  . intro registry
    exact registerAll_eq_ok_iff empty registry specs
  . intro hspecs
    exact alike_of_addsEach hperm hspecs (hiff.mp hspecs)

-- The names tell the two registries apart, as the latest comes first, but no question does.
theorem registration_order_irrelevant_swapped :
    let transfer : MessageSpec := ⟨"transfer", [⟨"to", .address⟩, ⟨"amount", .uint 256⟩]⟩
    let ping : MessageSpec := ⟨"ping", []⟩
    let first := ((addEach [transfer, ping]).run empty).2
    let second := ((addEach [ping, transfer]).run empty).2
    [transfer, ping].Perm [ping, transfer]
      ∧ empty.AddsEach [transfer, ping] ∧ empty.AddsEach [ping, transfer]
      ∧ first.names = [("ping", ⟨0x5c36b186⟩), ("transfer", ⟨0xa9059cbb⟩)]
      ∧ second.names = [("transfer", ⟨0xa9059cbb⟩), ("ping", ⟨0x5c36b186⟩)]
      ∧ first.Alike second := by
  intro transfer ping first second
  have htransfer : transfer.selector = ⟨0xa9059cbb⟩ := by decide +kernel
  have hping : ping.selector = ⟨0x5c36b186⟩ := by decide +kernel
  have hperm : [transfer, ping].Perm [ping, transfer] := .swap _ _ _
  have hdistinct : Distinct [transfer, ping] := by
    constructor
    . decide
    . rw [List.map_cons, List.map_singleton, htransfer, hping]
      decide
  rcases registration_order_irrelevant hperm with ⟨hadds, hothers, hfirst, halike⟩
  rcases registration_order_irrelevant hperm.symm with ⟨_, _, hsecond, _⟩
  have haddsFirst := hadds.mpr hdistinct
  have haddsSecond := hothers.mp haddsFirst
  refine ⟨hperm, haddsFirst, haddsSecond, ?_, ?_, halike haddsFirst⟩
  . rw [names_of_registerAll ((hfirst first).mpr ⟨haddsFirst, rfl⟩), ← hping, ← htransfer]
    rfl
  . rw [names_of_registerAll ((hsecond second).mpr ⟨haddsSecond, rfl⟩), ← hping, ← htransfer]
    rfl

end MessageAbi.Registry
