import Mathlib
import MessageAbi.CommandLine.Files
import MessageAbi.Proofs.Except

/-!
This module contains what a directory holds after a file was written: the output at the path it was
written to, and under every other name what was there before.
-/

namespace MessageAbi.CommandLine

section State

variable {σ α β : Type}

theorem run_pure_eq_iff (a b : α) (s t : σ) :
    (pure a : StateM σ α).run s = (b, t) ↔ a = b ∧ s = t :=
  Prod.mk_inj

theorem run_bind_eq_iff (x : StateM σ α) (f : α → StateM σ β) (s t : σ) (b : β) :
    (x >>= f).run s = (b, t) ↔ ∃ a r, x.run s = (a, r) ∧ (f a).run r = (b, t) := by
  constructor
  . intro h
    exact ⟨(x.run s).1, (x.run s).2, rfl, h⟩
  . rintro ⟨a, r, hx, hf⟩
    rw [StateT.run_bind, hx]
    exact hf

end State

namespace Directory

variable {directory written : Directory} {path : String} {output : Output}

theorem get?_insert_self (directory : Directory) (name : String) (output : Output) :
    (directory.insert name output).get? name = some output := by
  simp [get?, insert]

theorem lookup_filter_of_ne {name other : String} (h : other ≠ name)
    (entries : List (String × Output)) :
    (entries.filter (·.1 != name)).lookup other = entries.lookup other := by
  induction entries with
  | nil => rfl
  | cons entry entries ih =>
    by_cases hname : entry.1 = name
    . rw [List.filter_cons_of_neg (by simpa using hname), ih, List.lookup_cons,
        show (other == entry.1) = false by simpa [hname] using h]
    . rw [List.filter_cons_of_pos (by simpa using hname), List.lookup_cons, List.lookup_cons, ih]

theorem get?_insert_of_ne (directory : Directory) {name other : String} (output : Output)
    (h : other ≠ name) : (directory.insert name output).get? other = directory.get? other := by
  rw [get?, insert, List.lookup_cons, show (other == name) = false by simpa using h]
  exact lookup_filter_of_ne h directory.entries

def Place.name? : Place → Option String
  | .directory => none
  | .file name _ | .vacant name => some name

theorem name?_of_enter {height : Nat} {name : String} {behind : List String} {place : Place}
    (h : directory.enter height name behind = .ok place) : place.name? = some name := by
  unfold enter at h
  split_ifs at h
  split at h
  . obtain rfl := Except.ok.inj h
    rfl
  . contradiction
  . obtain rfl := Except.ok.inj h
    rfl
  . contradiction

theorem enter_insert {height : Nat} {first name : String} {behind : List String} {place : Place}
    (h : directory.enter height first behind = .ok place) (hname : place.name? = some name) :
    (directory.insert name output).enter height first behind = .ok (.file name output) := by
  obtain rfl := Option.some.inj ((name?_of_enter h).symm.trans hname)
  unfold enter at h ⊢
  split_ifs at h ⊢
  rw [get?_insert_self]
  split at h
  . rfl
  . contradiction
  . rfl
  . contradiction

theorem follow_cons {height : Nat} {name : String} {names : List String} (hdot : name ≠ ".")
    (hdots : name ≠ "..") :
    directory.follow height (name :: names) = directory.enter height name names := by
  rw [follow]
  . exact hdot
  . exact hdots

theorem follow_insert {height : Nat} {names : List String} {place : Place} {name : String}
    (h : directory.follow height names = .ok place) (hname : place.name? = some name) :
    (directory.insert name output).follow height names = .ok (.file name output) := by
  induction height, names using follow.induct with
  | case1 height =>
    obtain rfl : .directory = place := Except.ok.inj h
    contradiction
  | case2 height names ih => exact ih h
  | case3 height names ih => exact ih h
  | case4 height first names hdot hdots =>
    rw [follow_cons hdot hdots] at h ⊢
    exact enter_insert h hname

theorem enter_insert_of_ne {height : Nat} {first name : String} {behind : List String} {place : Place}
    (h : directory.enter height first behind = .ok place) (hname : place.name? ≠ some name) :
    (directory.insert name output).enter height first behind = .ok place := by
  have hne : first ≠ name := by
    rintro rfl
    exact hname (name?_of_enter h)
  unfold enter at h ⊢
  rw [get?_insert_of_ne directory output hne]
  exact h

theorem follow_insert_of_ne {height : Nat} {names : List String} {place : Place} {name : String}
    (h : directory.follow height names = .ok place) (hname : place.name? ≠ some name) :
    (directory.insert name output).follow height names = .ok place := by
  induction height, names using follow.induct with
  | case1 height => exact h
  | case2 height names ih => exact ih h
  | case3 height names ih => exact ih h
  | case4 height first names hdot hdots =>
    rw [follow_cons hdot hdots] at h ⊢
    exact enter_insert_of_ne h hname

theorem locate_insert {place : Place} {name : String} (h : directory.locate path = .ok place)
    (hname : place.name? = some name) :
    (directory.insert name output).locate path = .ok (.file name output) := by
  unfold locate at h ⊢
  split_ifs at h ⊢
  exact follow_insert h hname

theorem locate_insert_of_ne {place : Place} {name : String} (h : directory.locate path = .ok place)
    (hname : place.name? ≠ some name) :
    (directory.insert name output).locate path = .ok place := by
  unfold locate at h ⊢
  split_ifs at h ⊢
  exact follow_insert_of_ne h hname

theorem write_eq_ok_iff :
    directory.write path output = .ok written
      ↔ ∃ place name, directory.locate path = .ok place ∧ place.name? = some name
        ∧ endsWithSlash path = false ∧ written = directory.insert name output := by
  rw [write, bind_eq_ok_iff]
  apply exists_congr
  rintro (_ | ⟨name, found⟩ | name) <;> cases endsWithSlash path
    <;> simp [Place.name?, throw_eq_error, pure_eq_ok_iff]

theorem read_of_write (h : directory.write path output = .ok written) :
    written.read path = .ok output.toBytes := by
  rcases write_eq_ok_iff.mp h with ⟨place, name, hplace, hname, hslash, rfl⟩
  rw [read, locate_insert hplace hname]
  simp [hslash, bind, Except.bind, pure, Except.pure]

theorem read_of_write_of_ne {other : String} {place place' : Place}
    (h : directory.write path output = .ok written) (hpath : directory.locate path = .ok place)
    (hother : directory.locate other = .ok place') (hne : place'.name? ≠ place.name?) :
    written.read other = directory.read other := by
  rcases write_eq_ok_iff.mp h with ⟨_, name, hplace, hname, _, rfl⟩
  obtain rfl := Except.ok.inj (hpath.symm.trans hplace)
  rw [read, read, locate_insert_of_ne hother (hname ▸ hne), hother]

theorem run_read_eq_iff {start finish : Directory} (result : Except FileFault Bytes) :
    (files.read path).run start = (result, finish) ↔ start.read path = result ∧ start = finish :=
  Prod.mk_inj

theorem run_write (start : Directory) :
    (files.write path output).run start
      = match start.write path output with
        | .ok written => (.ok (), written)
        | .error fault => (.error fault, start) := by
  cases h : start.write path output with
  | ok written =>
    simp only [files, StateT.run_bind, StateT.run_get, pure_bind, h]
    rfl
  | error fault =>
    simp only [files, StateT.run_bind, StateT.run_get, pure_bind, h]
    rfl

theorem run_write_eq_ok_iff {start finish : Directory} :
    (files.write path output).run start = (.ok (), finish)
      ↔ start.write path output = .ok finish := by
  rw [run_write]
  cases start.write path output with
  | ok written =>
    rw [Except.ok.injEq]
    exact Prod.mk_inj.trans (and_iff_right rfl)
  | error fault => exact iff_of_false nofun nofun

theorem run_write_eq_error_iff {start finish : Directory} {fault : FileFault} :
    (files.write path output).run start = (.error fault, finish)
      ↔ start.write path output = .error fault ∧ start = finish := by
  rw [run_write]
  cases start.write path output with
  | ok written => exact iff_of_false nofun nofun
  | error other =>
    rw [Except.error.injEq]
    exact Prod.mk_inj.trans (and_congr_left' (by simp))

end Directory

end MessageAbi.CommandLine
