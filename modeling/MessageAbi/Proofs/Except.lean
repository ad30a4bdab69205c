import Mathlib

/-!
This module contains the ways in which a sequence of steps that may fail ends.
-/

namespace MessageAbi

@[simp]
theorem throw_eq_error {ε α : Type} (error : ε) : (throw error : Except ε α) = .error error :=
  rfl

theorem bind_eq_ok_iff {ε α β : Type} (x : Except ε α) (f : α → Except ε β) (b : β) :
    x >>= f = .ok b ↔ ∃ a, x = .ok a ∧ f a = .ok b := by
  cases x with
  | ok a => simp [bind, Except.bind]
  | error e => simp [bind, Except.bind]

theorem bind_eq_error_iff {ε α β : Type} (x : Except ε α) (f : α → Except ε β) (error : ε) :
    x >>= f = .error error ↔ x = .error error ∨ ∃ a, x = .ok a ∧ f a = .error error := by
  cases x with
  | ok a => simp [bind, Except.bind]
  | error e => simp [bind, Except.bind]

theorem pure_eq_ok_iff {ε α : Type} (a b : α) : (pure a : Except ε α) = .ok b ↔ b = a := by
  simp [pure, Except.pure, eq_comm]

theorem map_eq_ok_iff {ε α β : Type} (f : α → β) (x : Except ε α) (b : β) :
    f <$> x = .ok b ↔ ∃ a, x = .ok a ∧ f a = b := by
  cases x with
  | ok a => simp [Functor.map, Except.map]
  | error e => simp [Functor.map, Except.map]

theorem map_eq_error_iff {ε α β : Type} (f : α → β) (x : Except ε α) (error : ε) :
    f <$> x = .error error ↔ x = .error error := by
  cases x with
  | ok a => simp [Functor.map, Except.map]
  | error e => simp [Functor.map, Except.map]

theorem mapError_eq_ok_iff {ε ε' α : Type} (f : ε → ε') (x : Except ε α) (a : α) :
    x.mapError f = .ok a ↔ x = .ok a := by
  cases x with
  | ok b => simp [Except.mapError]
  | error e => simp [Except.mapError]

theorem mapError_eq_error_iff {ε ε' α : Type} (f : ε → ε') (x : Except ε α) (error : ε') :
    x.mapError f = .error error ↔ ∃ e, x = .error e ∧ f e = error := by
  cases x with
  | ok a => simp [Except.mapError]
  | error e => simp [Except.mapError]

theorem mapError_mapError {ε ε' ε'' α : Type} (f : ε → ε') (g : ε' → ε'') (x : Except ε α) :
    (x.mapError f).mapError g = x.mapError fun e => g (f e) := by
  cases x with
  | ok a => rfl
  | error e => rfl

theorem mapError_map {ε ε' α β : Type} (f : ε → ε') (g : α → β) (x : Except ε α) :
    (g <$> x).mapError f = g <$> x.mapError f := by
  cases x with
  | ok a => rfl
  | error e => rfl

theorem ite_throw_eq_ok_iff {ε α : Type} {p : Prop} [Decidable p] (error : ε)
    (f : PUnit → Except ε α) (a : α) :
    (if p then throw error >>= f else f ()) = .ok a ↔ ¬ p ∧ f () = .ok a := by
  by_cases hp : p
  . simp [hp, bind, Except.bind]
  . simp [hp]

theorem ite_throw_eq_error_iff {ε α : Type} {p : Prop} [Decidable p] (thrown error : ε)
    (f : PUnit → Except ε α) :
    (if p then throw thrown >>= f else f ()) = .error error
      ↔ p ∧ error = thrown ∨ ¬ p ∧ f () = .error error := by
  by_cases hp : p
  . simp [hp, bind, Except.bind, eq_comm]
  . simp [hp]

theorem mapM_eq_ok_iff {ε α β : Type} (f : α → Except ε β) (as : List α) (bs : List β) :
    as.mapM f = .ok bs ↔ List.Forall₂ (fun a b => f a = .ok b) as bs := by
  induction as generalizing bs with
  | nil => simp [pure_eq_ok_iff]
  | cons a as ih =>
    simp only [List.mapM_cons, bind_eq_ok_iff, pure_eq_ok_iff, ih, List.forall₂_cons_left_iff]
    constructor
    . rintro ⟨b, hb, rest, hrest, rfl⟩
      exact ⟨b, rest, hb, hrest, rfl⟩
    . rintro ⟨b, rest, hb, hrest, rfl⟩
      exact ⟨b, hb, rest, hrest, rfl⟩

theorem mapM_eq_error_iff {ε α β : Type} (f : α → Except ε β) (as : List α) (error : ε) :
    as.mapM f = .error error
      ↔ ∃ front a back, as = front ++ a :: back ∧ (∀ b ∈ front, ∃ c, f b = .ok c)
        ∧ f a = .error error := by
  induction as with
  | nil => simp [pure, Except.pure]
  | cons a as ih =>
    rw [List.mapM_cons, bind_eq_error_iff]
    simp only [bind_eq_error_iff, ih]
    constructor
    . rintro (ha | ⟨c, hc, ⟨front, b, back, rfl, hfront, hb⟩ | ⟨_, _, hpure⟩⟩)
      . exact ⟨[], a, as, rfl, by simp, ha⟩
      . refine ⟨a :: front, b, back, rfl, ?_, hb⟩
        rw [List.forall_mem_cons]
        exact ⟨⟨c, hc⟩, hfront⟩
      . contradiction
    . rintro ⟨front, b, back, has, hfront, hb⟩
      cases front with
      | nil =>
        injection has with ha _
        rw [ha]
        exact .inl hb
      | cons a' front =>
        injection has with ha has
        rw [List.forall_mem_cons, ← ha] at hfront
        rcases hfront with ⟨⟨c, hc⟩, hfront⟩
        exact .inr ⟨c, hc, .inl ⟨front, b, back, has, hfront, hb⟩⟩

theorem mapM_eq_mapError {ε ε' α β : Type} {f : α → Except ε β} {g : α → Except ε' β} {h : ε → ε'}
    {as : List α} (hfg : ∀ a ∈ as, g a = (f a).mapError h) :
    as.mapM g = (as.mapM f).mapError h := by
  induction as with
  | nil => rfl
  | cons a as ih =>
    rcases List.forall_mem_cons.mp hfg with ⟨ha, has⟩
    rw [List.mapM_cons, List.mapM_cons, ha, ih has]
    cases f a with
    | error e => rfl
    | ok b =>
      cases as.mapM f with
      | error e => rfl
      | ok bs => rfl

theorem mapM_eq_some_iff {α β : Type} (f : α → Option β) (as : List α) (bs : List β) :
    as.mapM f = some bs ↔ List.Forall₂ (fun a b => f a = some b) as bs := by
  induction as generalizing bs with
  | nil => simp [eq_comm]
  | cons a as ih =>
    simp only [List.mapM_cons, Option.bind_eq_bind, Option.pure_def, Option.bind_eq_some_iff,
      Option.some.injEq, ih, List.forall₂_cons_left_iff]
    constructor
    . rintro ⟨b, hb, rest, hrest, rfl⟩
      exact ⟨b, rest, hb, hrest, rfl⟩
    . rintro ⟨b, rest, hb, hrest, rfl⟩
      exact ⟨b, hb, rest, hrest, rfl⟩

theorem mapM_map_eq_map {α β γ : Type} (f : α → Option β) (g : β → γ) (as : List α) :
    (as.mapM fun a => (f a).map g) = (as.mapM f).map (List.map g) := by
  induction as with
  | nil => rfl
  | cons a as ih =>
    rw [List.mapM_cons, List.mapM_cons, ih]
    cases f a with
    | none => rfl
    | some b => cases as.mapM f <;> rfl

theorem length_of_mapM {α β : Type} {f : α → Option β} {as : List α} {bs : List β}
    (h : as.mapM f = some bs) : bs.length = as.length := by
  rw [mapM_eq_some_iff] at h
  exact h.length_eq.symm

theorem toOption_eq_some_iff {ε α : Type} (x : Except ε α) (a : α) :
    x.toOption = some a ↔ x = .ok a := by
  cases x with
  | ok b => simp [Except.toOption]
  | error error => simp [Except.toOption]

theorem toOption_bind {ε α β : Type} (x : Except ε α) (f : α → Except ε β) :
    (x >>= f).toOption = x.toOption.bind fun a => (f a).toOption := by
  cases x with
  | ok a => rfl
  | error error => rfl

theorem exists_eq_ok_of_any {ε α : Type} {x : Except ε α} {p : α → Bool}
    (h : x.toOption.any p = true) : ∃ a, x = .ok a ∧ p a = true := by
  cases x with
  | ok a => exact ⟨a, rfl, h⟩
  | error error => contradiction

theorem exists_eq_ok_of_isSome {ε α : Type} {x : Except ε α} (h : x.toOption.isSome = true) :
    ∃ a, x = .ok a := by
  cases x with
  | ok a => exact ⟨a, rfl⟩
  | error error => contradiction

end MessageAbi
