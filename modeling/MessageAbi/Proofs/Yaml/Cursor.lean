import Mathlib
import MessageAbi.Yaml.Property
import MessageAbi.Yaml.ScalarText

/-!
This module contains that scanning goes forward only: what is left of a stream is the end of what was
left before.
-/

namespace MessageAbi.Yaml

namespace Cursor

variable {cursor next after : Cursor}

/--
The second place is the first one, or behind it.
-/
def LeadsTo (cursor after : Cursor) : Prop :=
  after.rest <:+ cursor.rest

theorem LeadsTo.refl (cursor : Cursor) : cursor.LeadsTo cursor :=
  List.suffix_rfl

theorem LeadsTo.trans (h : cursor.LeadsTo next) (h' : next.LeadsTo after) :
    cursor.LeadsTo after :=
  List.IsSuffix.trans h' h

theorem LeadsTo.length_le (h : cursor.LeadsTo after) : after.rest.length ≤ cursor.rest.length :=
  List.IsSuffix.length_le h

theorem leadsTo_skip (cursor : Cursor) (n : Nat) : cursor.LeadsTo (cursor.skip n) :=
  List.drop_suffix n cursor.rest

theorem LeadsTo.skip (h : cursor.LeadsTo next) (n : Nat) : cursor.LeadsTo (next.skip n) :=
  h.trans (leadsTo_skip next n)

theorem leadsTo_skip_skip (cursor : Cursor) {m n : Nat} (h : m ≤ n) :
    (cursor.skip m).LeadsTo (cursor.skip n) :=
  List.drop_suffix_drop_left cursor.rest h

theorem leadsTo_span (cursor : Cursor) (test : Char → Bool) :
    cursor.LeadsTo (cursor.span test).2 :=
  leadsTo_skip cursor _

theorem leadsTo_skipWhile (cursor : Cursor) (test : Char → Bool) :
    cursor.LeadsTo (cursor.skipWhile test) :=
  leadsTo_span cursor test

theorem leadsTo_takeBreak (cursor : Cursor) : cursor.LeadsTo cursor.takeBreak.2 := by
  rcases cursor with ⟨rest, index, line, column⟩
  unfold takeBreak LeadsTo
  split
  next rest' hrest =>
    rw [show rest = _ from hrest]
    exact List.suffix_append ['\r', '\n'] rest'
  next c rest' _ hrest =>
    rw [show rest = _ from hrest]
    split_ifs
    . exact List.suffix_cons c rest'
    . exact List.suffix_cons c rest'
    . exact List.suffix_rfl
  next => exact List.suffix_rfl

theorem leadsTo_skipBreak (cursor : Cursor) : cursor.LeadsTo cursor.skipBreak :=
  leadsTo_takeBreak cursor

theorem leadsTo_comment (cursor : Cursor) :
    cursor.LeadsTo (if cursor.isAt '#' then cursor.skipWhile (!isBreak ·) else cursor) := by
  split_ifs
  . exact leadsTo_skipWhile cursor _
  . exact LeadsTo.refl cursor

theorem length_skipBreak_lt (h : cursor.has 0 isBreak = true) :
    cursor.skipBreak.rest.length < cursor.rest.length := by
  rcases cursor with ⟨rest, index, line, column⟩
  unfold skipBreak takeBreak
  split
  next rest' hrest =>
    rw [show rest = _ from hrest]
    simp
  next c rest' _ hrest =>
    rw [show rest = _ from hrest] at h ⊢
    have hbreak : isBreak c = true := by simpa [has, peek?] using h
    split_ifs <;> simp
  next hrest =>
    rw [show rest = _ from hrest] at h
    simp [has, peek?] at h

/--
Scanning from a place that, if it succeeds, ends there or behind it.
-/
def Precedes {α : Type} (cursor : Cursor) (place : α → Cursor) (found : Option α) : Prop :=
  ∀ result, found = some result → cursor.LeadsTo (place result)

variable {α β : Type} {place : α → Cursor} {placeOf : β → Cursor}

theorem precedes_none : cursor.Precedes place none :=
  nofun

theorem precedes_some {result : α} (h : cursor.LeadsTo (place result)) :
    cursor.Precedes place (some result) := by
  intro result' hresult
  rw [← Option.some.inj hresult]
  exact h

theorem LeadsTo.precedes_of (h : cursor.LeadsTo next) {found : Option α}
    (hfound : next.Precedes place found) : cursor.Precedes place found := by
  intro result hresult
  exact h.trans (hfound result hresult)

theorem Precedes.bind {found : Option α} {f : α → Option β} (h : cursor.Precedes place found)
    (hf : ∀ result, (place result).Precedes placeOf (f result)) :
    cursor.Precedes placeOf (found >>= f) := by
  intro result hresult
  rcases Option.bind_eq_some_iff.mp hresult with ⟨first, hfirst, hsecond⟩
  exact (h first hfirst).trans (hf first result hsecond)

theorem Precedes.map {found : Option α} {f : α → β} (h : cursor.Precedes place found)
    (hf : ∀ result, (place result).LeadsTo (placeOf (f result))) :
    cursor.Precedes placeOf (found.map f) := by
  intro result hresult
  rcases Option.map_eq_some_iff.mp hresult with ⟨first, hfirst, rfl⟩
  exact (h first hfirst).trans (hf first)

theorem precedes_ite_of {p : Prop} [Decidable p] {found other : Option α}
    (h : p → cursor.Precedes place found) (h' : ¬p → cursor.Precedes place other) :
    cursor.Precedes place (if p then found else other) := by
  split_ifs with hp
  . exact h hp
  . exact h' hp

theorem precedes_ite {p : Prop} [Decidable p] {found other : Option α}
    (h : cursor.Precedes place found) (h' : cursor.Precedes place other) :
    cursor.Precedes place (if p then found else other) :=
  precedes_ite_of (fun _ => h) (fun _ => h')

end Cursor

namespace Scan

variable {cursor : Cursor}

theorem anchorName?_precedes (cursor : Cursor) : cursor.Precedes (·.2) (anchorName? cursor) := by
  unfold anchorName?
  apply Cursor.precedes_ite
  . exact Cursor.precedes_none
  . exact Cursor.precedes_some (Cursor.leadsTo_span _ _)

theorem byte?_precedes (cursor : Cursor) : cursor.Precedes (·.2) (tagEscape?.byte? cursor) := by
  unfold tagEscape?.byte?
  split
  . apply Cursor.precedes_ite
    . exact Cursor.precedes_none
    . intro result h
      simp only [bind, Option.bind_eq_some_iff] at h
      rcases h with ⟨high, _, low, _, h⟩
      rw [← Option.some.inj h]
      exact Cursor.leadsTo_skip _ _
  . exact Cursor.precedes_none

theorem more_precedes (count : Nat) (bytes : Bytes) (cursor : Cursor) :
    cursor.Precedes (·.2) (tagEscape?.more count bytes cursor) := by
  induction count generalizing bytes cursor with
  | zero => exact Cursor.precedes_some (Cursor.LeadsTo.refl cursor)
  | succ count ih =>
    unfold tagEscape?.more
    apply (byte?_precedes cursor).bind
    rintro ⟨byte, next⟩
    apply Cursor.precedes_ite
    . exact ih _ next
    . exact Cursor.precedes_none

theorem tagEscape?_precedes (cursor : Cursor) : cursor.Precedes (·.2) (tagEscape? cursor) := by
  unfold tagEscape?
  apply (byte?_precedes cursor).bind
  rintro ⟨first, next⟩
  apply Cursor.precedes_ite
  . exact Cursor.precedes_some (Cursor.LeadsTo.refl next)
  repeat' apply Cursor.precedes_ite
  . exact more_precedes _ _ _
  . exact more_precedes _ _ _
  . exact more_precedes _ _ _
  . exact Cursor.precedes_none

theorem tagBytes?_precedes (verbatim : Bool) (fuel : Nat) (cursor : Cursor) :
    cursor.Precedes (·.2) (tagBytes? verbatim fuel cursor) := by
  induction fuel generalizing cursor with
  | zero => exact Cursor.precedes_some (Cursor.LeadsTo.refl cursor)
  | succ fuel ih =>
    unfold tagBytes?
    split
    . exact Cursor.precedes_some (Cursor.LeadsTo.refl cursor)
    . apply Cursor.precedes_ite
      . apply (tagEscape?_precedes cursor).bind
        rintro ⟨bytes, next⟩
        apply (ih next).bind
        rintro ⟨rest, after⟩
        exact Cursor.precedes_some (Cursor.LeadsTo.refl after)
      . apply Cursor.precedes_ite
        . apply ((Cursor.leadsTo_skip cursor 1).precedes_of (ih _)).bind
          rintro ⟨rest, after⟩
          exact Cursor.precedes_some (Cursor.LeadsTo.refl after)
        . exact Cursor.precedes_some (Cursor.LeadsTo.refl cursor)

theorem tagUri?_precedes (verbatim : Bool) (start : List Char) (cursor : Cursor) :
    cursor.Precedes (·.2) (tagUri? verbatim start cursor) := by
  unfold tagUri?
  apply (tagBytes?_precedes verbatim _ cursor).bind
  rintro ⟨bytes, next⟩
  apply Cursor.precedes_ite
  . exact Cursor.precedes_none
  . exact Cursor.precedes_some (Cursor.LeadsTo.refl next)

theorem tagHandle?_precedes (cursor : Cursor) :
    cursor.skip.Precedes (·.2) (tagHandle? cursor) := by
  unfold tagHandle?
  apply Cursor.precedes_ite
  . exact Cursor.precedes_none
  . have h := Cursor.leadsTo_span cursor.skip isWordChar
    apply Cursor.precedes_ite
    . exact Cursor.precedes_some (h.skip 1)
    . exact Cursor.precedes_some h

theorem tag?_precedes (isFlow : Bool) (cursor : Cursor) :
    cursor.skip.Precedes (·.2) (tag? isFlow cursor) := by
  have hend : ∀ (token : Token) (next : Cursor), next.Precedes (·.2)
      (if next.isSpaceAt 0 || (isFlow && next.isAt ',') then some (token, next) else none) := by
    intro token next
    apply Cursor.precedes_ite
    . exact Cursor.precedes_some (Cursor.LeadsTo.refl next)
    . exact Cursor.precedes_none
  unfold tag?
  dsimp only
  apply Cursor.precedes_ite
  . apply ((Cursor.leadsTo_skip_skip cursor (by decide)).precedes_of
      (tagUri?_precedes true [] _)).bind
    rintro ⟨suffix, next⟩
    apply Cursor.precedes_ite
    . exact (Cursor.leadsTo_skip next 1).precedes_of (hend _ _)
    . exact Cursor.precedes_none
  . apply (tagHandle?_precedes cursor).bind
    rintro ⟨handle, next⟩
    apply Cursor.precedes_ite
    . apply (tagUri?_precedes false [] next).bind
      rintro ⟨suffix, after⟩
      exact hend _ _
    . apply (tagUri?_precedes false handle next).bind
      rintro ⟨suffix, after⟩
      exact hend _ _

theorem versionNumber?_precedes (cursor : Cursor) :
    cursor.Precedes (·.2) (versionNumber? cursor) := by
  unfold versionNumber?
  apply Cursor.precedes_ite
  . exact Cursor.precedes_none
  . intro result h
    rcases Option.map_eq_some_iff.mp h with ⟨n, _, rfl⟩
    exact Cursor.leadsTo_span _ _

theorem directive?_precedes (cursor : Cursor) : cursor.Precedes (·.2) (directive? cursor) := by
  have hend : ∀ (token : Token) (next : Cursor), next.Precedes (·.2)
      (let cursor := next.skipWhile isBlank
      let cursor := if cursor.isAt '#' then cursor.skipWhile (!isBreak ·) else cursor
      if cursor.isAtBreakOrEnd then some (token, cursor.skipBreak) else none) := by
    intro token next
    apply Cursor.precedes_ite
    . apply Cursor.precedes_some
      exact ((Cursor.leadsTo_skipWhile next isBlank).trans (Cursor.leadsTo_comment _)).trans
        (Cursor.leadsTo_skipBreak _)
    . exact Cursor.precedes_none
  unfold directive?
  dsimp only
  apply Cursor.precedes_ite
  . exact Cursor.precedes_none
  . have hname := Cursor.leadsTo_span cursor isWordChar
    apply (hname.trans (Cursor.leadsTo_skipWhile _ isBlank)).precedes_of
    split
    . apply (versionNumber?_precedes _).bind
      rintro ⟨major, next⟩
      apply Cursor.precedes_ite
      . exact Cursor.precedes_none
      . apply ((Cursor.leadsTo_skip next 1).precedes_of (versionNumber?_precedes _)).bind
        rintro ⟨minor, after⟩
        exact hend _ _
    . apply ((Cursor.leadsTo_skip _ 1).precedes_of (tagHandle?_precedes _)).bind
      rintro ⟨handle, next⟩
      apply Cursor.precedes_ite
      . exact Cursor.precedes_none
      apply Cursor.precedes_ite
      . exact Cursor.precedes_none
      apply ((Cursor.leadsTo_skipWhile next isBlank).precedes_of (tagUri?_precedes true [] _)).bind
      rintro ⟨expansion, after⟩
      apply Cursor.precedes_ite
      . exact Cursor.precedes_none
      . exact hend _ _
    . exact Cursor.precedes_none

theorem scan?_precedes (minColumn fuel : Nat) (gap : Gap) (cursor : Cursor) :
    cursor.Precedes (·.2) (Gap.scan? minColumn fuel gap cursor) := by
  induction fuel generalizing gap cursor with
  | zero => exact Cursor.precedes_some (Cursor.LeadsTo.refl cursor)
  | succ fuel ih =>
    unfold Gap.scan?
    split
    . exact Cursor.precedes_some (Cursor.LeadsTo.refl cursor)
    apply Cursor.precedes_ite
    . have hskip : ∀ gap, cursor.Precedes (·.2) (Gap.scan? minColumn fuel gap cursor.skip) :=
        fun gap => (Cursor.leadsTo_skip cursor 1).precedes_of (ih gap _)
      apply Cursor.precedes_ite
      . exact hskip _
      apply Cursor.precedes_ite
      . exact Cursor.precedes_none
      . exact hskip _
    . have hbreak : ∀ gap, cursor.Precedes (·.2) (Gap.scan? minColumn fuel gap cursor.skipBreak) :=
        fun gap => (Cursor.leadsTo_skipBreak cursor).precedes_of (ih gap _)
      apply Cursor.precedes_ite
      . apply Cursor.precedes_ite
        . exact hbreak _
        . exact hbreak _
      . exact Cursor.precedes_some (Cursor.LeadsTo.refl cursor)

theorem plainRun?_precedes (isFlow : Bool) (fuel : Nat) (cursor : Cursor) :
    cursor.Precedes (·.2) (plainRun? isFlow fuel cursor) := by
  induction fuel generalizing cursor with
  | zero => exact Cursor.precedes_some (Cursor.LeadsTo.refl cursor)
  | succ fuel ih =>
    unfold plainRun?
    split
    . exact Cursor.precedes_some (Cursor.LeadsTo.refl cursor)
    apply Cursor.precedes_ite
    . exact Cursor.precedes_some (Cursor.LeadsTo.refl cursor)
    apply Cursor.precedes_ite
    . exact Cursor.precedes_none
    apply Cursor.precedes_ite
    . exact Cursor.precedes_some (Cursor.LeadsTo.refl cursor)
    . apply ((Cursor.leadsTo_skip cursor 1).precedes_of (ih _)).bind
      rintro ⟨run, after⟩
      exact Cursor.precedes_some (Cursor.LeadsTo.refl after)

theorem plain?_precedes (isFlow : Bool) (minColumn fuel : Nat) (gap : Gap) (cursor : Cursor) :
    cursor.Precedes (·.2.2) (plain? isFlow minColumn fuel gap cursor) := by
  induction fuel generalizing gap cursor with
  | zero => exact Cursor.precedes_some (Cursor.LeadsTo.refl cursor)
  | succ fuel ih =>
    unfold plain?
    apply Cursor.precedes_ite
    . exact Cursor.precedes_some (Cursor.LeadsTo.refl cursor)
    apply (plainRun?_precedes isFlow _ cursor).bind
    rintro ⟨run, behind⟩
    apply Cursor.precedes_ite
    . exact Cursor.precedes_some (Cursor.LeadsTo.refl behind)
    intro result h
    rcases Option.bind_eq_some_iff.mp h with ⟨⟨gap, next⟩, hscan, h⟩
    have hnext : behind.LeadsTo next := scan?_precedes minColumn _ _ behind _ hscan
    dsimp only at h
    split_ifs at h
    . cases h
      exact Cursor.LeadsTo.refl behind
    . cases h
      exact hnext
    . rcases Option.bind_eq_some_iff.mp h with ⟨⟨more, hasBreak, after⟩, hmore, h⟩
      have hafter : next.LeadsTo after := ih _ next _ hmore
      cases h
      exact hnext.trans hafter

theorem code?_precedes (digits : Nat) (cursor : Cursor) :
    cursor.Precedes (·.2) (escape?.code? digits cursor) := by
  unfold escape?.code?
  intro result h
  rcases Option.bind_eq_some_iff.mp h with ⟨values, _, h⟩
  refine Cursor.precedes_ite Cursor.precedes_none ?_ result h
  dsimp only
  split_ifs
  . exact Cursor.precedes_some (Cursor.leadsTo_skip cursor digits)
  . exact Cursor.precedes_none

theorem escape?_precedes (cursor : Cursor) : cursor.Precedes (·.2) (escape? cursor) := by
  have hskip := Cursor.leadsTo_skip cursor 1
  intro result h
  rcases Option.bind_eq_some_iff.mp h with ⟨c, _, h⟩
  split at h
  all_goals first
    | exact hskip.precedes_of (code?_precedes _ _) result h
    | contradiction
    | cases h; exact hskip

theorem quotedRun?_precedes (isSingle : Bool) (fuel : Nat) (cursor : Cursor) :
    cursor.Precedes (·.2.2) (quotedRun? isSingle fuel cursor) := by
  induction fuel generalizing cursor with
  | zero => exact Cursor.precedes_some (Cursor.LeadsTo.refl cursor)
  | succ fuel ih =>
    have hstop (passed : Bool) : cursor.Precedes (·.2.2)
        (some (([], passed, cursor) : List Char × Bool × Cursor)) :=
      Cursor.precedes_some (Cursor.LeadsTo.refl cursor)
    have hmore : ∀ (c : Char) (next : Cursor), cursor.LeadsTo next → cursor.Precedes (·.2.2)
        (quotedRun? isSingle fuel next >>= fun found => some (c :: found.1, found.2)) := by
      intro c next hnext
      apply (hnext.precedes_of (ih next)).bind
      intro found
      exact Cursor.precedes_some (Cursor.LeadsTo.refl found.2.2)
    unfold quotedRun?
    split
    . exact hstop _
    next c rest _ =>
      repeat' apply Cursor.precedes_ite
      . exact hstop _
      . exact hmore _ _ (Cursor.leadsTo_skip cursor 2)
      . exact hstop _
      . exact hmore _ _ (Cursor.leadsTo_skip cursor 1)
      . exact hstop _
      . exact Cursor.precedes_some ((Cursor.leadsTo_skip cursor 1).trans (Cursor.leadsTo_skipBreak _))
      . apply ((Cursor.leadsTo_skip cursor 1).precedes_of (escape?_precedes _)).bind
        rintro ⟨escaped, next⟩
        apply (ih next).bind
        rintro ⟨run, passed, after⟩
        exact Cursor.precedes_some (Cursor.LeadsTo.refl after)
      . exact hmore _ _ (Cursor.leadsTo_skip cursor 1)

theorem quoted?_precedes (isSingle : Bool) (fuel : Nat) (cursor : Cursor) :
    cursor.Precedes (·.2) (quoted? isSingle fuel cursor) := by
  induction fuel generalizing cursor with
  | zero => exact Cursor.precedes_none
  | succ fuel ih =>
    unfold quoted?
    apply Cursor.precedes_ite
    . exact Cursor.precedes_none
    apply (quotedRun?_precedes isSingle _ cursor).bind
    rintro ⟨run, passed, next⟩
    apply Cursor.precedes_ite
    . exact Cursor.precedes_some (Cursor.leadsTo_skip next 1)
    apply (scan?_precedes 0 _ _ next).bind
    rintro ⟨gap, next⟩
    apply (ih next).bind
    rintro ⟨more, after⟩
    exact Cursor.precedes_some (Cursor.LeadsTo.refl after)

theorem increment?_precedes (cursor : Cursor) :
    cursor.Precedes (·.2) (blockHeader?.increment? cursor) := by
  unfold blockHeader?.increment?
  split
  . apply Cursor.precedes_ite
    . exact Cursor.precedes_none
    apply Cursor.precedes_ite
    . exact Cursor.precedes_some (Cursor.leadsTo_skip cursor 1)
    . exact Cursor.precedes_some (Cursor.LeadsTo.refl cursor)
  . exact Cursor.precedes_some (Cursor.LeadsTo.refl cursor)

theorem blockHeader?_precedes (cursor : Cursor) :
    cursor.Precedes (·.2.2) (blockHeader? cursor) := by
  unfold blockHeader?
  split
  . apply ((Cursor.leadsTo_skip cursor 1).precedes_of (increment?_precedes _)).bind
    rintro ⟨increment, next⟩
    exact Cursor.precedes_some (Cursor.LeadsTo.refl next)
  . apply (increment?_precedes cursor).bind
    rintro ⟨increment, next⟩
    dsimp only
    split
    . exact Cursor.precedes_some (Cursor.leadsTo_skip next 1)
    . exact Cursor.precedes_some (Cursor.LeadsTo.refl next)

theorem blockBreaks?_precedes (indent : Option Nat) (fuel maxIndent : Nat) (cursor : Cursor) :
    cursor.Precedes (·.2.2) (blockBreaks? indent fuel maxIndent cursor) := by
  induction fuel generalizing maxIndent cursor with
  | zero => exact Cursor.precedes_some (Cursor.LeadsTo.refl cursor)
  | succ fuel ih =>
    unfold blockBreaks?
    apply (Cursor.leadsTo_skip cursor _).precedes_of
    apply Cursor.precedes_ite
    . exact Cursor.precedes_none
    apply Cursor.precedes_ite
    . apply ((Cursor.leadsTo_takeBreak _).precedes_of (ih _ _)).bind
      rintro ⟨more, maxIndent, after⟩
      exact Cursor.precedes_some (Cursor.LeadsTo.refl after)
    . exact Cursor.precedes_some (Cursor.LeadsTo.refl _)

theorem blockLines?_precedes (isLiteral : Bool) (indent : Nat) (chomping : Chomping) (fuel : Nat)
    (lineBreak emptyLines : List Char) (wasBlank : Bool) (cursor : Cursor) :
    cursor.Precedes (·.2)
      (blockLines? isLiteral indent chomping fuel lineBreak emptyLines wasBlank cursor) := by
  induction fuel generalizing lineBreak emptyLines wasBlank cursor with
  | zero => exact Cursor.precedes_none
  | succ fuel ih =>
    unfold blockLines?
    apply Cursor.precedes_ite
    . have hline := (Cursor.leadsTo_span cursor (!isBreak ·)).trans (Cursor.leadsTo_takeBreak _)
      apply (hline.precedes_of (blockBreaks?_precedes _ _ _ _)).bind
      rintro ⟨emptyLines, maxIndent, next⟩
      apply (ih _ _ _ next).bind
      rintro ⟨more, after⟩
      exact Cursor.precedes_some (Cursor.LeadsTo.refl after)
    . exact Cursor.precedes_some (Cursor.LeadsTo.refl cursor)

theorem block?_precedes (isLiteral : Bool) (parentIndent : Int) (cursor : Cursor) :
    cursor.Precedes (·.2) (block? isLiteral parentIndent cursor) := by
  unfold block?
  apply (blockHeader?_precedes cursor).bind
  rintro ⟨chomping, increment, next⟩
  have hline := (Cursor.leadsTo_skipWhile next isBlank).trans (Cursor.leadsTo_comment _)
  apply Cursor.precedes_ite
  . exact Cursor.precedes_none
  apply ((hline.trans (Cursor.leadsTo_skipBreak _)).precedes_of (blockBreaks?_precedes _ _ _ _)).bind
  rintro ⟨emptyLines, maxIndent, next⟩
  exact blockLines?_precedes _ _ _ _ _ _ _ next

end Scan

end MessageAbi.Yaml
