import Mathlib
import MessageAbi.Proofs.Registry.Consistent

/-!
This module contains what a registry holds after any session of calls that add messages to it, some of
which are refused, and what the next call does.
-/

namespace MessageAbi.Registry

variable {registry middle after : Registry} {spec : MessageSpec} {specs : List MessageSpec}
variable {outcome : Except AbiError Selector} {outcomes : List (Except AbiError Selector)}

def accepted (specs : List MessageSpec) (outcomes : List (Except AbiError Selector)) :
    List MessageSpec :=
  ((specs.zip outcomes).filter (·.2.isOk)).map (·.1)

/--
The names lead to the selectors of exactly the messages that have them, and each message is under the
selector of its own signature.
-/
structure Indexes (registry : Registry) : Prop where
  lookup_names_iff : ∀ name selector, registry.names.lookup name = some selector
    ↔ ∃ spec, registry.get? selector = some spec ∧ spec.name = name
  selector_eq : ∀ selector spec, registry.get? selector = some spec →
    selector = Selector.ofSignature (signature spec.name spec.params)

structure Extends (registry after : Registry) : Prop where
  get?_eq : ∀ selector spec, registry.get? selector = some spec → after.get? selector = some spec
  lookup_names_eq : ∀ name selector, registry.names.lookup name = some selector →
    after.names.lookup name = some selector

structure Answers (registry : Registry) (spec : MessageSpec) (outcome : Except AbiError Selector)
    (after : Registry) : Prop where
  isOk_iff : outcome.isOk = true
    ↔ registry.names.lookup spec.name = none ∧ registry.get? spec.selector = none
  of_name_taken : ∀ selector, registry.names.lookup spec.name = some selector →
    outcome = .error (.duplicateMessage spec.name)
  of_selector_taken : registry.names.lookup spec.name = none →
    ∀ existing, registry.get? spec.selector = some existing →
      outcome = .error (.duplicateSelector spec.selector existing.signature spec.signature)
  of_ok : ∀ selector, outcome = .ok selector → selector = spec.selector
    ∧ after.get? selector = some spec ∧ after.names.lookup spec.name = some selector
  of_error : ∀ error, outcome = .error error → after = registry

theorem run_get_bind {α : Type} (next : Registry → ExceptT AbiError (StateM Registry) α)
    (registry : Registry) :
    (get >>= next).run.run registry = (next registry).run.run registry :=
  rfl

theorem run_add (registry : Registry) (spec : MessageSpec) :
    (add spec).run.run registry = match registry.register spec with
      | .ok after => (.ok spec.selector, after)
      | .error error => (.error error, registry) := by
  unfold add register
  rw [run_get_bind]
  cases (registry.names.lookup spec.name).isSome with
  | true => rfl
  | false =>
    simp only [Bool.false_eq_true, if_false]
    rw [run_get_bind]
    cases registry.get? spec.selector with
    | some existing => rfl
    | none => rfl

/--
The three things that a call can do.
-/
inductive Step (registry : Registry) (spec : MessageSpec) :
    Except AbiError Selector → Registry → Prop where
  | duplicateMessage {selector : Selector} (hname : registry.names.lookup spec.name = some selector) :
    Step registry spec (.error (.duplicateMessage spec.name)) registry
  | duplicateSelector {existing : MessageSpec} (hname : registry.names.lookup spec.name = none)
    (hget : registry.get? spec.selector = some existing) :
    Step registry spec
      (.error (.duplicateSelector spec.selector existing.signature spec.signature)) registry
  | added {after : Registry} (hname : registry.names.lookup spec.name = none)
    (hget : registry.get? spec.selector = none) (hregister : registry.register spec = .ok after) :
    Step registry spec (.ok spec.selector) after

theorem step_of_run_add (h : (add spec).run.run registry = (outcome, after)) :
    Step registry spec outcome after := by
  rw [run_add] at h
  unfold register at h
  cases hname : registry.names.lookup spec.name with
  | some selector =>
    simp only [hname, Option.isSome_some, if_true] at h
    cases h
    exact .duplicateMessage hname
  | none =>
    simp only [hname, Option.isSome_none, Bool.false_eq_true, if_false] at h
    cases hget : registry.get? spec.selector with
    | some existing =>
      simp only [hget] at h
      cases h
      exact .duplicateSelector hname hget
    | none =>
      simp only [hget] at h
      cases h
      exact .added hname hget ((register_eq_ok_iff _ _ _).mpr ⟨hname, hget, rfl⟩)

theorem perm_insert {messages : List (Selector × MessageSpec)} {selector : Selector}
    (spec : MessageSpec) (hfree : ∀ entry ∈ messages, entry.1 ≠ selector) :
    (insert selector spec messages).Perm ((selector, spec) :: messages) := by
  induction messages with
  | nil => exact .refl _
  | cons head rest ih =>
    rcases head with ⟨other, otherSpec⟩
    have hne : other ≠ selector := hfree (other, otherSpec) (by simp)
    unfold insert
    split
    . exact .refl _
    . rw [if_neg hne.symm]
      apply List.Perm.trans (.cons _ (ih (fun entry hentry => hfree entry (by simp [hentry]))))
      exact .swap _ _ _

theorem Extends.refl (registry : Registry) : registry.Extends registry :=
  ⟨fun _ _ h => h, fun _ _ h => h⟩

theorem Extends.trans (hleft : registry.Extends middle) (hright : middle.Extends after) :
    registry.Extends after :=
  ⟨fun selector spec h => hright.get?_eq selector spec (hleft.get?_eq selector spec h),
    fun name selector h =>
      hright.lookup_names_eq name selector (hleft.lookup_names_eq name selector h)⟩

namespace Consistent

variable (h : registry.Consistent)

include h

theorem indexes : registry.Indexes := by
  constructor
  . intro name selector
    simp only [h.lookup_names_iff, h.get?_eq_some_iff_mem]
  . intro selector spec hget
    exact h.selector_eq _ ((h.get?_eq_some_iff_mem _ _).mp hget)

theorem toList_sorted :
    registry.toList.Pairwise (fun left right => left.selector < right.selector) := by
  rw [toList, List.pairwise_map]
  apply h.sorted.imp_of_mem
  intro left right hleft hright hlt
  rwa [← h.selector_eq left hleft, ← h.selector_eq right hright]

theorem perm_toList_register (hregister : registry.register spec = .ok after) :
    after.toList.Perm (spec :: registry.toList) := by
  rcases (register_eq_ok_iff _ _ _).mp hregister with ⟨_, hget, rfl⟩
  exact (perm_insert spec (h.ne_of_get?_eq_none hget)).map (·.2)

theorem extends_register (hregister : registry.register spec = .ok after) :
    registry.Extends after := by
  have hafter := h.register hregister
  constructor
  . intro selector other hother
    rw [hafter.get?_eq_some_iff, h.mem_toList_register hregister]
    rw [h.get?_eq_some_iff] at hother
    exact ⟨.inr hother.1, hother.2⟩
  . intro name selector hselector
    rcases (register_eq_ok_iff _ _ _).mp hregister with ⟨hname, _, rfl⟩
    have hne : name ≠ spec.name := by
      intro heq
      rw [heq, hname] at hselector
      contradiction
    rw [List.lookup_cons, beq_false_of_ne hne]
    exact hselector

theorem answers (hrun : (add spec).run.run registry = (outcome, after)) :
    registry.Answers spec outcome after := by
  cases step_of_run_add hrun with
  | duplicateMessage hname => constructor <;> simp [hname, Except.isOk, Except.toBool]
  | duplicateSelector hname hget =>
    constructor <;> simp [hname, hget, Except.isOk, Except.toBool]
  | added hname hget hregister =>
    have hmem := (h.mem_toList_register hregister spec).mpr (.inl rfl)
    have hgetAfter := ((h.register hregister).get?_eq_some_iff _ _).mpr ⟨hmem, rfl⟩
    have hnameAfter := ((h.register hregister).indexes.lookup_names_iff _ _).mpr
      ⟨spec, hgetAfter, rfl⟩
    constructor <;> simp [hname, hget, hgetAfter, hnameAfter, Except.isOk, Except.toBool]

end Consistent

/--
What a session of calls makes of a registry.
-/
structure Reaches (registry : Registry) (specs : List MessageSpec)
    (outcomes : List (Except AbiError Selector)) (after : Registry) : Prop where
  consistent : after.Consistent
  length_eq : outcomes.length = specs.length
  perm : after.toList.Perm (accepted specs outcomes ++ registry.toList)
  extends_after : registry.Extends after

theorem Reaches.nil (h : registry.Consistent) : registry.Reaches [] [] registry :=
  ⟨h, rfl, .refl _, .refl _⟩

theorem Reaches.cons (h : registry.Consistent)
    (hadd : (add spec).run.run registry = (outcome, middle))
    (hrest : middle.Consistent → middle.Reaches specs outcomes after) :
    registry.Reaches (spec :: specs) (outcome :: outcomes) after := by
  cases step_of_run_add hadd with
  | duplicateMessage | duplicateSelector =>
    rcases hrest h with ⟨hafter, hlength, hperm, hextends⟩
    exact ⟨hafter, congrArg (· + 1) hlength, hperm, hextends⟩
  | added hname hget hregister =>
    rcases hrest (h.register hregister) with ⟨hafter, hlength, hperm, hextends⟩
    refine ⟨hafter, congrArg (· + 1) hlength, ?_, (h.extends_register hregister).trans hextends⟩
    apply hperm.trans
    apply ((h.perm_toList_register hregister).append_left _).trans
    exact List.perm_middle

theorem run_addEach_cons (registry : Registry) (spec : MessageSpec) (specs : List MessageSpec) :
    (addEach (spec :: specs)).run registry
      = (((add spec).run.run registry).1 ::
          ((addEach specs).run ((add spec).run.run registry).2).1,
        ((addEach specs).run ((add spec).run.run registry).2).2) := by
  unfold addEach
  rw [List.mapM_cons]
  rfl

theorem run_addEach_append (registry : Registry) (specs later : List MessageSpec) :
    ((addEach (specs ++ later)).run registry).2
      = ((addEach later).run ((addEach specs).run registry).2).2 := by
  induction specs generalizing registry with
  | nil => rfl
  | cons spec specs ih => rw [List.cons_append, run_addEach_cons, run_addEach_cons, ih]

theorem Consistent.reaches (h : registry.Consistent) (specs : List MessageSpec) :
    registry.Reaches specs ((addEach specs).run registry).1 ((addEach specs).run registry).2 := by
  induction specs generalizing registry with
  | nil => exact .nil h
  | cons spec specs ih =>
    rw [run_addEach_cons]
    exact .cons h rfl ih

theorem length_accepted (hlength : outcomes.length = specs.length) :
    (accepted specs outcomes).length = outcomes.countP (·.isOk) := by
  have hzip : (specs.zip outcomes).map (·.2) = outcomes := List.map_snd_zip (by omega)
  rw [accepted, List.length_map, ← List.countP_eq_length_filter]
  conv_rhs => rw [← hzip, List.countP_map]
  rfl

theorem addEach_indexes {before : List MessageSpec}
    (h : (addEach before).run empty = (outcomes, registry)) :
    registry.Indexes
      ∧ outcomes.length = before.length
      ∧ registry.size = outcomes.countP (·.isOk)
      ∧ registry.toList.Pairwise (fun left right => left.selector < right.selector)
      ∧ registry.toList.Perm (accepted before outcomes)
      ∧ (∀ spec outcome after, (add spec).run.run registry = (outcome, after) →
        registry.Answers spec outcome after)
      ∧ ∀ later, registry.Extends ((addEach (before ++ later)).run empty).2 := by
  have hreaches := consistent_empty.reaches before
  have happend := run_addEach_append empty before
  rw [h] at hreaches happend
  rcases hreaches with ⟨hconsistent, hlength, hperm, _⟩
  rw [show empty.toList = [] from rfl, List.append_nil] at hperm
  have hsize : registry.size = outcomes.countP (·.isOk) := by
    rw [← length_accepted hlength, ← hperm.length_eq, toList, List.length_map, size]
  refine ⟨hconsistent.indexes, hlength, hsize, hconsistent.toList_sorted, hperm, ?_, ?_⟩
  . intro spec outcome after hadd
    exact hconsistent.answers hadd
  . intro later
    rw [happend]
    exact (hconsistent.reaches later).extends_after

/--
Four calls of which the second repeats a name and the third has the selector of the first.
-/
def collidingSpecs : List MessageSpec :=
  [⟨"transfer", [⟨"to", .address⟩, ⟨"amount", .uint 256⟩]⟩,
    ⟨"transfer", []⟩,
    ⟨"func_2093253501", [⟨"data", .bytes⟩]⟩,
    ⟨"ping", []⟩]

set_option maxRecDepth 8000 in
theorem addEach_indexes_colliding :
    ((addEach collidingSpecs).run empty).1
        = [.ok ⟨0xa9059cbb⟩,
          .error (.duplicateMessage "transfer"),
          .error (.duplicateSelector ⟨0xa9059cbb⟩ "transfer(address,uint256)"
            "func_2093253501(bytes)"),
          .ok ⟨0x5c36b186⟩]
      ∧ ((addEach collidingSpecs).run empty).2.size = 2
      ∧ ((addEach collidingSpecs).run empty).2.Indexes := by
  have houtcomes : ((addEach collidingSpecs).run empty).1
      = [.ok ⟨0xa9059cbb⟩,
        .error (.duplicateMessage "transfer"),
        .error (.duplicateSelector ⟨0xa9059cbb⟩ "transfer(address,uint256)"
          "func_2093253501(bytes)"),
        .ok ⟨0x5c36b186⟩] := by
    decide +kernel
  have hsession := addEach_indexes
    (Prod.eta ((addEach collidingSpecs).run empty)).symm
  refine ⟨houtcomes, ?_, hsession.1⟩
  rw [hsession.2.2.1, houtcomes]
  rfl

end MessageAbi.Registry
