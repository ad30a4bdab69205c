import Mathlib
import MessageAbi.Registry

/-!
This module contains the invariant of the registries that are reached from the empty one by offering
messages, some of which may be refused.
-/

namespace MessageAbi

namespace Selector

theorem lt_iff (a b : Selector) : a < b ↔ a.code.toNat < b.code.toNat :=
  BitVec.lt_def

theorem ne_of_lt {a b : Selector} (h : a < b) : a ≠ b := by
  rintro rfl
  rw [lt_iff] at h
  omega

theorem lt_trans {a b c : Selector} (hab : a < b) (hbc : b < c) : a < c := by
  rw [lt_iff] at *
  omega

theorem lt_of_not_lt {a b : Selector} (hlt : ¬ a < b) (hne : a ≠ b) : b < a := by
  have hcode : a.code.toNat ≠ b.code.toNat := by
    intro heq
    apply hne
    cases a
    cases b
    simpa [BitVec.toNat_inj] using heq
  rw [lt_iff] at *
  omega

end Selector

namespace Registry

variable {registry after : Registry} {messages : List (Selector × MessageSpec)}
variable {selector : Selector} {spec : MessageSpec}

theorem mem_insert (spec : MessageSpec) (hfree : ∀ entry ∈ messages, entry.1 ≠ selector)
    (entry : Selector × MessageSpec) :
    entry ∈ insert selector spec messages ↔ entry = (selector, spec) ∨ entry ∈ messages := by
  induction messages with
  | nil => simp [insert]
  | cons head rest ih =>
    rcases head with ⟨other, otherSpec⟩
    have hne : other ≠ selector := hfree (other, otherSpec) (by simp)
    unfold insert
    split
    . simp
    . rw [if_neg hne.symm, List.mem_cons, ih (fun entry hentry => hfree entry (by simp [hentry]))]
      simp only [List.mem_cons]
      tauto

theorem sorted_insert (spec : MessageSpec) (hfree : ∀ entry ∈ messages, entry.1 ≠ selector)
    (hsorted : messages.Pairwise (fun left right => left.1 < right.1)) :
    (insert selector spec messages).Pairwise (fun left right => left.1 < right.1) := by
  induction messages with
  | nil => simp [insert]
  | cons head rest ih =>
    rcases head with ⟨other, otherSpec⟩
    have hne : other ≠ selector := hfree (other, otherSpec) (by simp)
    have hrest : ∀ entry ∈ rest, entry.1 ≠ selector := fun entry hentry =>
      hfree entry (by simp [hentry])
    rcases List.pairwise_cons.mp hsorted with ⟨hhead, htail⟩
    unfold insert
    split
    next hlt =>
      apply List.Pairwise.cons
      . intro entry hentry
        cases List.mem_cons.mp hentry with
        | inl heq => simpa [heq] using hlt
        | inr hmem => exact Selector.lt_trans hlt (hhead entry hmem)
      . exact hsorted
    next hlt =>
      rw [if_neg hne.symm]
      apply List.Pairwise.cons
      . intro entry hentry
        cases (mem_insert spec hrest entry).mp hentry with
        | inl heq => simpa [heq] using Selector.lt_of_not_lt hlt hne.symm
        | inr hmem => exact hhead entry hmem
      . exact ih hrest htail

theorem lookup_eq_some_iff_mem (hsorted : messages.Pairwise (fun left right => left.1 < right.1))
    (selector : Selector) (spec : MessageSpec) :
    messages.lookup selector = some spec ↔ (selector, spec) ∈ messages := by
  induction messages with
  | nil => simp
  | cons head rest ih =>
    rcases head with ⟨other, otherSpec⟩
    rcases List.pairwise_cons.mp hsorted with ⟨hhead, htail⟩
    rw [List.lookup_cons, List.mem_cons, ← ih htail]
    by_cases heq : selector = other
    . subst heq
      have hnotMem : rest.lookup selector ≠ some spec := by
        rw [ne_eq, ih htail]
        intro hmem
        exact Selector.ne_of_lt (hhead _ hmem) rfl
      simp [hnotMem, eq_comm]
    . have hbeq : (selector == other) = false := beq_false_of_ne heq
      simp [hbeq, heq]

/--
The selectors are in strict order, each message is under its own, and the names lead to the selectors
of exactly the messages that have them.
-/
structure Consistent (registry : Registry) : Prop where
  sorted : registry.messages.Pairwise (fun left right => left.1 < right.1)
  selector_eq : ∀ entry ∈ registry.messages, entry.1 = entry.2.selector
  lookup_names_iff : ∀ name selector, registry.names.lookup name = some selector
    ↔ ∃ spec, (selector, spec) ∈ registry.messages ∧ spec.name = name

theorem consistent_empty : empty.Consistent := by
  constructor
  . exact List.Pairwise.nil
  . simp [empty]
  . simp [empty]

theorem register_eq_ok_iff (registry after : Registry) (spec : MessageSpec) :
    registry.register spec = .ok after
      ↔ registry.names.lookup spec.name = none
        ∧ registry.get? spec.selector = none
        ∧ after = ⟨insert spec.selector spec registry.messages,
          (spec.name, spec.selector) :: registry.names⟩ := by
  unfold register
  split
  next hname =>
    have : registry.names.lookup spec.name ≠ none := Option.isSome_iff_ne_none.mp hname
    simp [this]
  next hname =>
    rw [Option.not_isSome_iff_eq_none] at hname
    split
    next hget => simp [hget]
    next hget => simp [hname, hget, eq_comm]

namespace Consistent

variable (h : registry.Consistent)

include h

theorem get?_eq_some_iff_mem (selector : Selector) (spec : MessageSpec) :
    registry.get? selector = some spec ↔ (selector, spec) ∈ registry.messages :=
  lookup_eq_some_iff_mem h.sorted selector spec

theorem get?_eq_some_iff (selector : Selector) (spec : MessageSpec) :
    registry.get? selector = some spec ↔ spec ∈ registry.toList ∧ spec.selector = selector := by
  rw [h.get?_eq_some_iff_mem, toList, List.mem_map]
  constructor
  . intro hmem
    exact ⟨⟨_, hmem, rfl⟩, (h.selector_eq _ hmem).symm⟩
  . rintro ⟨⟨⟨other, _⟩, hmem, rfl⟩, rfl⟩
    rwa [← h.selector_eq _ hmem]

theorem eq_of_selector_eq {left right : MessageSpec} (hleft : left ∈ registry.toList)
    (hright : right ∈ registry.toList) (hselector : left.selector = right.selector) :
    left = right := by
  have hgetLeft := (h.get?_eq_some_iff _ _).mpr ⟨hleft, hselector⟩
  have hgetRight := (h.get?_eq_some_iff _ _).mpr ⟨hright, rfl⟩
  rw [hgetLeft] at hgetRight
  injection hgetRight

theorem byName?_eq_some_iff (name : String) (spec : MessageSpec) :
    registry.byName? name = some spec ↔ spec ∈ registry.toList ∧ spec.name = name := by
  simp only [byName?, Option.bind_eq_some_iff, h.lookup_names_iff, ← h.get?_eq_some_iff_mem]
  constructor
  . rintro ⟨selector, ⟨other, hother, hname⟩, hspec⟩
    rw [hother] at hspec
    injection hspec with heq
    exact ⟨heq ▸ ((h.get?_eq_some_iff _ _).mp hother).1, heq ▸ hname⟩
  . rintro ⟨hmem, hname⟩
    have hget := (h.get?_eq_some_iff _ _).mpr ⟨hmem, rfl⟩
    exact ⟨spec.selector, ⟨spec, hget, hname⟩, hget⟩

theorem ne_of_get?_eq_none (hget : registry.get? selector = none) :
    ∀ entry ∈ registry.messages, entry.1 ≠ selector := by
  rintro ⟨other, otherSpec⟩ hentry rfl
  rw [(h.get?_eq_some_iff_mem _ _).mpr hentry] at hget
  contradiction

theorem mem_toList_register (hregister : registry.register spec = .ok after)
    (other : MessageSpec) : other ∈ after.toList ↔ other = spec ∨ other ∈ registry.toList := by
  rcases (register_eq_ok_iff _ _ _).mp hregister with ⟨_, hget, rfl⟩
  simp only [toList, List.mem_map, mem_insert spec (h.ne_of_get?_eq_none hget)]
  constructor
  . rintro ⟨entry, rfl | hmem, rfl⟩
    . exact .inl rfl
    . exact .inr ⟨entry, hmem, rfl⟩
  . rintro (rfl | ⟨entry, hmem, rfl⟩)
    . exact ⟨_, .inl rfl, rfl⟩
    . exact ⟨entry, .inr hmem, rfl⟩

theorem register (hregister : registry.register spec = .ok after) : after.Consistent := by
  rcases (register_eq_ok_iff _ _ _).mp hregister with ⟨hname, hget, rfl⟩
  have hfree := h.ne_of_get?_eq_none hget
  constructor
  . exact sorted_insert spec hfree h.sorted
  . intro entry hentry
    cases (mem_insert spec hfree entry).mp hentry with
    | inl heq => rw [heq]
    | inr hmem => exact h.selector_eq entry hmem
  . intro name selector
    simp only [mem_insert spec hfree, List.lookup_cons, Prod.mk.injEq]
    by_cases heq : name = spec.name
    . subst heq
      rw [beq_self_eq_true]
      constructor
      . intro hselector
        injection hselector with hselector
        exact ⟨spec, .inl ⟨hselector.symm, rfl⟩, rfl⟩
      . rintro ⟨other, ⟨rfl, _⟩ | hmem, hother⟩
        . rfl
        . -- The name was free, so no other message can have it.
          have := (h.lookup_names_iff _ _).mpr ⟨other, hmem, hother⟩
          rw [hname] at this
          contradiction
    . rw [beq_false_of_ne heq, h.lookup_names_iff]
      constructor
      . rintro ⟨other, hmem, hother⟩
        exact ⟨other, .inr hmem, hother⟩
      . rintro ⟨other, ⟨_, rfl⟩ | hmem, hother⟩
        . exact absurd hother.symm heq
        . exact ⟨other, hmem, hother⟩

end Consistent

def offer (registry : Registry) (spec : MessageSpec) : Registry :=
  match registry.register spec with
  | .ok after => after
  | .error _ => registry

def offerAll (specs : List MessageSpec) : Registry :=
  specs.foldl offer empty

theorem foldl_offer_induction {motive : Registry → Prop} {specs : List MessageSpec}
    (hstart : motive registry)
    (hstep : ∀ registry spec after, spec ∈ specs → motive registry →
      registry.register spec = .ok after → motive after) :
    motive (specs.foldl offer registry) := by
  induction specs generalizing registry with
  | nil => exact hstart
  | cons spec specs ih =>
    apply ih
    . unfold offer
      split
      next hregister => exact hstep _ spec _ (by simp) hstart hregister
      next => exact hstart
    . intro registry other after hother
      exact hstep registry other after (by simp [hother])

theorem consistent_offerAll (specs : List MessageSpec) : (offerAll specs).Consistent := by
  apply foldl_offer_induction consistent_empty
  intro registry spec after _ h hregister
  exact h.register hregister

theorem mem_of_mem_offerAll {specs : List MessageSpec} (hmem : spec ∈ (offerAll specs).toList) :
    spec ∈ specs := by
  have hall : (offerAll specs).Consistent ∧ ∀ other ∈ (offerAll specs).toList, other ∈ specs := by
    apply foldl_offer_induction (motive := fun registry =>
      registry.Consistent ∧ ∀ other ∈ registry.toList, other ∈ specs)
    . exact ⟨consistent_empty, by simp [empty, toList]⟩
    . intro registry spec after hspec ⟨h, hsubset⟩ hregister
      refine ⟨h.register hregister, ?_⟩
      intro other hother
      cases (h.mem_toList_register hregister other).mp hother with
      | inl heq => exact heq ▸ hspec
      | inr hmem => exact hsubset other hmem
  exact hall.2 spec hmem

end Registry

end MessageAbi
