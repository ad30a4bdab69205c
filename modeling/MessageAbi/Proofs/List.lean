import Mathlib

/-!
This module contains what is used of lists without repetitions, among them the names of association
lists, and of lists that are related element by element.
-/

namespace MessageAbi

theorem lookup_eq_some_iff_mem_of_nodup {α β : Type} [BEq α] [LawfulBEq α] {entries : List (α × β)}
    (hnodup : (entries.map (·.1)).Nodup) (name : α) (value : β) :
    entries.lookup name = some value ↔ (name, value) ∈ entries := by
  induction entries with
  | nil => simp
  | cons entry entries ih =>
    rcases entry with ⟨other, otherValue⟩
    rcases List.nodup_cons.mp hnodup with ⟨hfresh, hrest⟩
    rw [List.lookup_cons, List.mem_cons, ← ih hrest]
    by_cases heq : name = other
    . subst heq
      have hnone : entries.lookup name ≠ some value := by
        rw [ne_eq, ih hrest]
        intro hmem
        exact hfresh (List.mem_map.mpr ⟨_, hmem, rfl⟩)
      simp [hnone, eq_comm]
    . simp [beq_false_of_ne heq, heq]

theorem lookup_eq_none_iff_notMem {α β : Type} [BEq α] [LawfulBEq α] (entries : List (α × β))
    (name : α) :
    entries.lookup name = none ↔ name ∉ entries.map (·.1) := by
  simp only [List.lookup_eq_none_iff, List.mem_map, bne_iff_ne, ne_eq, not_exists, not_and, @eq_comm _ name]

theorem find?_eq_some_iff_of_nodup {α κ : Type} {key : α → κ} {as : List α} {p : α → Bool} {k : κ}
    (hp : ∀ a, p a = true ↔ key a = k) (hnodup : (as.map key).Nodup) (a : α) :
    as.find? p = some a ↔ a ∈ as ∧ key a = k := by
  induction as with
  | nil => simp
  | cons other as ih =>
    rcases List.nodup_cons.mp hnodup with ⟨hfresh, hrest⟩
    rw [List.find?_cons, List.mem_cons]
    cases hother : p other with
    | true =>
      have hk := (hp other).mp hother
      have hnotMem : ¬ (a ∈ as ∧ key a = k) := by
        rintro ⟨hmem, ha⟩
        exact hfresh (List.mem_map.mpr ⟨a, hmem, ha.trans hk.symm⟩)
      simp only [Option.some.injEq]
      constructor
      . rintro rfl
        exact ⟨.inl rfl, hk⟩
      . rintro ⟨heq | hmem, ha⟩
        . exact heq.symm
        . exact absurd ⟨hmem, ha⟩ hnotMem
    | false =>
      have hne : key other ≠ k := by
        intro hk
        rw [(hp other).mpr hk] at hother
        contradiction
      rw [ih hrest]
      constructor
      . rintro ⟨hmem, ha⟩
        exact ⟨.inr hmem, ha⟩
      . rintro ⟨rfl | hmem, ha⟩
        . exact absurd ha hne
        . exact ⟨hmem, ha⟩

theorem findSome?_flatMap {α β γ : Type} (f : β → Option γ) (g : α → List β) (as : List α) :
    (as.flatMap g).findSome? f = as.findSome? fun a => (g a).findSome? f := by
  simp only [← List.head?_filterMap, List.filterMap_flatMap, List.head?_flatMap]

theorem findSome?_ite_eq_map_find? {α β : Type} (p : α → Bool) (f : α → β) (as : List α) :
    (as.findSome? fun a => if p a then some (f a) else none) = (as.find? p).map f := by
  induction as with
  | nil => rfl
  | cons a as ih =>
    rw [List.findSome?_cons, List.find?_cons, ih]
    cases p a <;> rfl

theorem findSome?_eq_of_nodup {α β κ : Type} {key : α → κ} {f : α → Option β} {as : List α} {a : α}
    (hnodup : (as.map key).Nodup) (ha : a ∈ as) (hf : ∀ b, key b ≠ key a → f b = none) :
    as.findSome? f = f a := by
  induction as with
  | nil => contradiction
  | cons b as ih =>
    rcases List.nodup_cons.mp hnodup with ⟨hfresh, hrest⟩
    rw [List.findSome?_cons]
    rcases List.mem_cons.mp ha with rfl | ha
    . have hnone : as.findSome? f = none := by
        rw [List.findSome?_eq_none_iff]
        intro b hb
        apply hf
        intro heq
        exact hfresh (List.mem_map.mpr ⟨b, hb, heq⟩)
      rw [hnone]
      cases f a <;> rfl
    . have hb : f b = none := by
        apply hf
        intro heq
        exact hfresh (List.mem_map.mpr ⟨a, ha, heq.symm⟩)
      rw [hb]
      exact ih hrest ha

theorem nodup_cons_append_iff {α : Type} (a : α) (as bs : List α) :
    (a :: as ++ bs).Nodup ↔ a ∉ bs ∧ (as ++ a :: bs).Nodup := by
  rw [List.perm_middle.nodup_iff, List.cons_append, List.nodup_cons, List.mem_append]
  tauto

theorem notMem_map_take_of_nodup {α β : Type} {f : α → β} {as : List α} {index : Nat} {a : α}
    (hnodup : (as.map f).Nodup) (h : as[index]? = some a) : f a ∉ (as.take index).map f := by
  rcases List.getElem?_eq_some_iff.mp h with ⟨hlt, rfl⟩
  have hsplit := List.take_append_drop index as
  rw [List.drop_eq_getElem_cons hlt] at hsplit
  rw [← hsplit, List.map_append, List.map_cons] at hnodup
  intro hmem
  exact List.disjoint_of_nodup_append hnodup hmem List.mem_cons_self

theorem exists_forall₂_iff {α β : Type} (R : α → β → Prop) (as : List α) :
    (∃ bs, List.Forall₂ R as bs) ↔ ∀ a ∈ as, ∃ b, R a b := by
  induction as with
  | nil => simp
  | cons a as ih =>
    rw [List.forall_mem_cons, ← ih]
    constructor
    . rintro ⟨_, hbs⟩
      cases hbs with
      | cons hb hbs => exact ⟨⟨_, hb⟩, _, hbs⟩
    . rintro ⟨⟨b, hb⟩, bs, hbs⟩
      exact ⟨b :: bs, .cons hb hbs⟩

theorem forall₂_imp_of_mem {α β : Type} {R S : α → β → Prop} {as : List α} {bs : List β}
    (h : List.Forall₂ R as bs) (himp : ∀ a ∈ as, ∀ b ∈ bs, R a b → S a b) :
    List.Forall₂ S as bs := by
  rw [List.forall₂_iff_zip] at h ⊢
  refine ⟨h.1, ?_⟩
  intro a b hmem
  rcases List.of_mem_zip hmem with ⟨ha, hb⟩
  exact himp a ha b hb (h.2 hmem)

theorem exists_mem_of_forall₂ {α β : Type} {R : α → β → Prop} {as : List α} {bs : List β}
    (h : List.Forall₂ R as bs) {b : β} (hmem : b ∈ bs) : ∃ a ∈ as, R a b := by
  induction h with
  | nil => contradiction
  | @cons a b' as bs hhead _ ih =>
    cases List.mem_cons.mp hmem with
    | inl heq => exact ⟨a, List.mem_cons_self, heq ▸ hhead⟩
    | inr hrest =>
      rcases ih hrest with ⟨a', hmem', ha'⟩
      exact ⟨a', List.mem_cons_of_mem a hmem', ha'⟩

theorem forall₂_comp {α β γ : Type} {R : α → β → Prop} {S : β → γ → Prop} {as : List α}
    {bs : List β} {cs : List γ} (h : List.Forall₂ R as bs) (h' : List.Forall₂ S bs cs) :
    List.Forall₂ (Relation.Comp R S) as cs := by
  induction h generalizing cs with
  | nil =>
    cases h'
    exact .nil
  | cons hhead _ ih =>
    cases h' with
    | cons hhead' htail' => exact .cons ⟨_, hhead, hhead'⟩ (ih htail')

theorem exists_of_forall₂_comp {α β γ : Type} {R : α → β → Prop} {S : β → γ → Prop} {as : List α}
    {cs : List γ} (h : List.Forall₂ (Relation.Comp R S) as cs) :
    ∃ bs, List.Forall₂ R as bs ∧ List.Forall₂ S bs cs := by
  induction h with
  | nil => exact ⟨[], .nil, .nil⟩
  | cons hhead _ ih =>
    rcases hhead with ⟨b, hr, hs⟩
    rcases ih with ⟨bs, hrs, hss⟩
    exact ⟨b :: bs, .cons hr hrs, .cons hs hss⟩

theorem exists_mem_of_map_eq_map {α β γ : Type} {f : α → γ} {g : β → γ} {as : List α} {bs : List β}
    (h : as.map f = bs.map g) {a : α} (hmem : a ∈ as) : ∃ b ∈ bs, g b = f a := by
  rw [← List.mem_map, ← h]
  exact List.mem_map_of_mem hmem

theorem map_eq_of_forall₂ {α β : Type} {f : α → β} {as : List α} {bs : List β}
    (h : List.Forall₂ (fun a b => f a = b) as bs) : as.map f = bs := by
  rwa [← List.forall₂_eq_eq_eq, List.forall₂_map_left_iff]

end MessageAbi
