import Mathlib
import MessageAbi.Proofs.Yaml.Cursor
import MessageAbi.Yaml.Scanner

/-!
This module contains that every token takes characters from the stream, so that the division into
tokens comes to its end.
-/

namespace MessageAbi.Yaml

namespace Scanner

variable {s s' : Scanner} {c : Char}

section Cursors

theorem cursor_of_setKey? {key? : Option SimpleKey} (h : s.setKey? key? = some s') :
    s'.cursor = s.cursor := by
  unfold setKey? at h
  split at h
  . split_ifs at h
    cases h
    rfl
  . cases h
    rfl
  . contradiction

theorem cursor_of_saveKey? (h : s.saveKey? = some s') : s'.cursor = s.cursor := by
  unfold saveKey? at h
  split_ifs at h
  . exact cursor_of_setKey? h
  . cases h
    rfl

theorem cursor_of_dropStaleKeys? (h : s.dropStaleKeys? = some s') : s'.cursor = s.cursor := by
  rcases Option.bind_eq_some_iff.mp h with ⟨keys, _, hkeys⟩
  cases hkeys
  rfl

theorem cursor_go (column : Int) (outers : List Int) (s : Scanner) :
    (unroll.go column outers s).cursor = s.cursor := by
  induction outers generalizing s with
  | nil => rfl
  | cons outer outers ih =>
    unfold unroll.go
    split_ifs
    . exact ih _
    . rfl

@[simp]
theorem cursor_unroll (s : Scanner) (column : Int) : (s.unroll column).cursor = s.cursor := by
  unfold unroll
  split_ifs
  . rfl
  . exact cursor_go column s.outerIndents s

@[simp]
theorem cursor_roll (s : Scanner) (column count : Nat) (token : Token) :
    (s.roll column count token).cursor = s.cursor := by
  unfold roll
  split_ifs <;> rfl

end Cursors

section Spaces

theorem leadsTo_skipComment (s : Scanner) : s.cursor.LeadsTo s.skipComment := by
  have hmark : s.cursor.LeadsTo
      (if s.cursor.index = 0 && s.cursor.isAt '\ufeff' then s.cursor.skip else s.cursor) := by
    split_ifs
    . exact Cursor.leadsTo_skip s.cursor 1
    . exact Cursor.LeadsTo.refl s.cursor
  exact (hmark.trans (Cursor.leadsTo_skipWhile _ _)).trans (Cursor.leadsTo_comment _)

theorem leadsTo_toNextToken (fuel : Nat) (s : Scanner) :
    s.cursor.LeadsTo (s.toNextToken fuel).cursor := by
  induction fuel generalizing s with
  | zero => exact Cursor.LeadsTo.refl s.cursor
  | succ fuel ih =>
    unfold toNextToken
    dsimp only
    split_ifs
    . exact ((leadsTo_skipComment s).trans (Cursor.leadsTo_skipBreak _)).trans (ih _)
    . exact leadsTo_skipComment s

theorem not_atBreak_toNextToken {fuel : Nat} (hfuel : s.cursor.rest.length < fuel) :
    (s.toNextToken fuel).cursor.has 0 isBreak = false := by
  induction fuel generalizing s with
  | zero => contradiction
  | succ fuel ih =>
    unfold toNextToken
    dsimp only
    split_ifs with hbreak
    . apply ih
      have hle := (leadsTo_skipComment s).length_le
      have hlt := Cursor.length_skipBreak_lt hbreak
      dsimp only
      omega
    . simpa using hbreak

end Spaces

section Tokens

theorem approach?_spec (h : s.approach? = some s') :
    s.cursor.LeadsTo s'.cursor ∧ s'.cursor.has 0 isBreak = false := by
  rcases Option.bind_eq_some_iff.mp h with ⟨next, hnext, hcloses⟩
  rw [← Option.some.inj hcloses, cursor_unroll, cursor_of_dropStaleKeys? hnext]
  exact ⟨leadsTo_toNextToken _ s, not_atBreak_toNextToken (Nat.lt_succ_self _)⟩

theorem startsPlain_spec (h : s.startsPlain c = true) :
    isBlank c = false ∧ c ≠ '#' ∧ (c = ':' → s.cursor.isSpaceAt 1 = false)
      ∧ c ∉ [',', '[', ']', '\x7b', '\x7d'] := by
  unfold startsPlain at h
  split_ifs at h with hdash hmark
  . subst hdash
    exact ⟨by decide, by decide, nofun, by decide⟩
  . simp only [Bool.or_eq_true, decide_eq_true_eq] at hmark
    rcases hmark with rfl | rfl
    . exact ⟨by decide, by decide, nofun, by decide⟩
    . simp only [Bool.and_eq_true, Bool.not_eq_true'] at h
      exact ⟨by decide, by decide, fun _ => h.2, by decide⟩
  . simp only [Bool.and_eq_true, Bool.not_eq_true', decide_eq_false_iff_not, List.mem_cons,
      not_or] at h
    simp only [Bool.or_eq_true, decide_eq_true_eq, not_or] at hmark
    simp_all

theorem plainRun?_of_startsPlain {fuel : Nat} {run : List Char} {after : Cursor}
    (hpeek : s.cursor.peek? 0 = some c) (hstart : s.startsPlain c = true)
    (hbreak : isBreak c = false)
    (h : Scan.plainRun? s.isFlow (fuel + 1) s.cursor = some (run, after)) :
    run ≠ [] ∧ s.cursor.skip.LeadsTo after := by
  rcases startsPlain_spec hstart with ⟨hblank, _, hcolon, hflow⟩
  have hends : ¬ ((c = ':' && s.cursor.isSpaceAt 1)
      || (s.isFlow && c ∈ [',', '[', ']', '\x7b', '\x7d'])) = true := by
    simp only [hflow, Bool.or_eq_true, Bool.and_eq_true, decide_eq_true_eq, and_false, or_false,
      not_and, Bool.not_eq_true]
    exact hcolon
  unfold Scan.plainRun? at h
  rw [hpeek] at h
  dsimp only at h
  rw [hblank, hbreak, Bool.or_false, if_neg (by decide)] at h
  split_ifs at h
  rcases Option.bind_eq_some_iff.mp h with ⟨⟨more, behind⟩, hmore, h⟩
  have hbehind : s.cursor.skip.LeadsTo behind := Scan.plainRun?_precedes _ _ _ _ hmore
  cases h
  exact ⟨List.cons_ne_nil c more, hbehind⟩

theorem plain?_of_startsPlain {minColumn fuel : Nat} {gap : Gap}
    (hpeek : s.cursor.peek? 0 = some c) (hstart : s.startsPlain c = true)
    (hbreak : isBreak c = false) (hmarker : s.cursor.isAtMarker = false) :
    s.cursor.skip.Precedes (·.2.2) (Scan.plain? s.isFlow minColumn (fuel + 1) gap s.cursor) := by
  have hcomment : s.cursor.isAt '#' = false := by
    simpa [Cursor.isAt, Cursor.has, hpeek] using (startsPlain_spec hstart).2.1
  intro result h
  unfold Scan.plain? at h
  rw [hmarker, hcomment, if_neg (by decide)] at h
  rcases Option.bind_eq_some_iff.mp h with ⟨⟨run, behind⟩, hrun, h⟩
  rcases plainRun?_of_startsPlain hpeek hstart hbreak hrun with ⟨hne, hbehind⟩
  dsimp only at h
  rw [if_neg (by simpa using hne)] at h
  rcases Option.bind_eq_some_iff.mp h with ⟨⟨gap, next⟩, hscan, h⟩
  have hnext : behind.LeadsTo next := Scan.scan?_precedes _ _ _ behind _ hscan
  dsimp only at h
  split_ifs at h
  . cases h
    exact hbehind
  . cases h
    exact hbehind.trans hnext
  . rcases Option.bind_eq_some_iff.mp h with ⟨⟨more, hasBreak, after⟩, hmore, h⟩
    have hafter : next.LeadsTo after := Scan.plain?_precedes _ _ _ _ next _ hmore
    cases h
    exact (hbehind.trans hnext).trans hafter

theorem isFlow_of_saveKey? (h : s.saveKey? = some s') : s'.isFlow = s.isFlow := by
  unfold saveKey? setKey? at h
  split_ifs at h
  . split at h
    . split_ifs at h
      cases h
      simp_all [isFlow]
    . cases h
      simp_all [isFlow]
    . contradiction
  . cases h
    rfl

theorem leadsTo_take {other : Scanner} (h : other.cursor = s.cursor) (token : Token) :
    s.cursor.skip.LeadsTo (other.take 1 token).cursor := by
  rw [← h]
  exact Cursor.LeadsTo.refl other.cursor.skip

theorem removeKey?_unroll (s : Scanner) (column : Int) (h : (s.unroll column).removeKey? = some s') :
    s'.cursor = s.cursor := by
  rw [cursor_of_setKey? h, cursor_unroll]

theorem fetchDirective?_precedes (s : Scanner) : s.cursor.skip.Precedes cursor s.fetchDirective? := by
  intro s' h
  rcases Option.bind_eq_some_iff.mp h with ⟨closed, hclosed, h⟩
  rcases Option.bind_eq_some_iff.mp h with ⟨⟨token, after⟩, hdirective, h⟩
  rw [removeKey?_unroll s _ hclosed] at hdirective
  cases h
  exact Scan.directive?_precedes _ _ hdirective

theorem fetchMarker?_precedes (s : Scanner) (token : Token) :
    s.cursor.skip.Precedes cursor (s.fetchMarker? token) := by
  intro s' h
  rcases Option.bind_eq_some_iff.mp h with ⟨closed, hclosed, h⟩
  cases h
  rw [← removeKey?_unroll s _ hclosed]
  exact Cursor.leadsTo_skip_skip closed.cursor (by decide)

theorem fetchFlowStart?_precedes (s : Scanner) (token : Token) :
    s.cursor.skip.Precedes cursor (s.fetchFlowStart? token) := by
  intro s' h
  rcases Option.bind_eq_some_iff.mp h with ⟨saved, hsaved, h⟩
  cases h
  exact leadsTo_take (cursor_of_saveKey? hsaved) token

theorem fetchFlowEnd?_precedes (s : Scanner) (token : Token) :
    s.cursor.skip.Precedes cursor (s.fetchFlowEnd? token) := by
  intro s' h
  rcases Option.bind_eq_some_iff.mp h with ⟨removed, hremoved, h⟩
  cases h
  exact leadsTo_take (cursor_of_setKey? hremoved) token

theorem fetchFlowEntry?_precedes (s : Scanner) :
    s.cursor.skip.Precedes cursor s.fetchFlowEntry? := by
  intro s' h
  rcases Option.bind_eq_some_iff.mp h with ⟨removed, hremoved, h⟩
  cases h
  exact leadsTo_take (cursor_of_setKey? hremoved) .flowEntry

theorem fetchBlockEntry?_precedes (s : Scanner) :
    s.cursor.skip.Precedes cursor s.fetchBlockEntry? := by
  apply Cursor.precedes_ite
  . exact Cursor.precedes_none
  intro s' h
  rcases Option.bind_eq_some_iff.mp h with ⟨removed, hremoved, h⟩
  cases h
  exact leadsTo_take ((cursor_of_setKey? hremoved).trans (cursor_roll _ _ _ _)) .blockEntry

theorem fetchKey?_precedes (s : Scanner) : s.cursor.skip.Precedes cursor s.fetchKey? := by
  apply Cursor.precedes_ite
  . exact Cursor.precedes_none
  intro s' h
  rcases Option.bind_eq_some_iff.mp h with ⟨removed, hremoved, h⟩
  cases h
  exact leadsTo_take ((cursor_of_setKey? hremoved).trans (cursor_roll _ _ _ _)) .key

theorem fetchValue?_precedes (s : Scanner) : s.cursor.skip.Precedes cursor s.fetchValue? := by
  unfold fetchValue?
  split
  . exact Cursor.precedes_some (leadsTo_take (cursor_roll _ _ _ _) .value)
  . apply Cursor.precedes_ite
    . exact Cursor.precedes_none
    . exact Cursor.precedes_some (leadsTo_take (cursor_roll _ _ _ _) .value)

theorem fetchProperty?_precedes {scan? : Cursor → Option (Token × Cursor)}
    (hscan : s.cursor.skip.Precedes (·.2) (scan? s.cursor)) :
    s.cursor.skip.Precedes cursor (s.fetchProperty? scan?) := by
  intro s' h
  rcases Option.bind_eq_some_iff.mp h with ⟨saved, hsaved, h⟩
  rcases Option.bind_eq_some_iff.mp h with ⟨⟨token, after⟩, hfound, h⟩
  rw [cursor_of_saveKey? hsaved] at hfound
  cases h
  exact hscan _ hfound

theorem fetchBlockScalar?_precedes (s : Scanner) (isLiteral : Bool) :
    s.cursor.skip.Precedes cursor (s.fetchBlockScalar? isLiteral) := by
  intro s' h
  rcases Option.bind_eq_some_iff.mp h with ⟨removed, hremoved, h⟩
  rcases Option.bind_eq_some_iff.mp h with ⟨⟨text, after⟩, hblock, h⟩
  rw [cursor_of_setKey? hremoved] at hblock
  cases h
  exact Scan.block?_precedes _ _ _ _ hblock

theorem fetchQuoted?_precedes (s : Scanner) (isSingle : Bool) :
    s.cursor.skip.Precedes cursor (s.fetchQuoted? isSingle) := by
  intro s' h
  rcases Option.bind_eq_some_iff.mp h with ⟨saved, hsaved, h⟩
  rcases Option.bind_eq_some_iff.mp h with ⟨⟨text, after⟩, hquoted, h⟩
  rw [cursor_of_saveKey? hsaved] at hquoted
  cases h
  exact Scan.quoted?_precedes _ _ _ _ hquoted

theorem fetchPlain?_precedes (hpeek : s.cursor.peek? 0 = some c) (hstart : s.startsPlain c = true)
    (hbreak : isBreak c = false) (hmarker : s.cursor.isAtMarker = false) :
    s.cursor.skip.Precedes cursor s.fetchPlain? := by
  intro s' h
  rcases Option.bind_eq_some_iff.mp h with ⟨saved, hsaved, h⟩
  rcases Option.bind_eq_some_iff.mp h with ⟨⟨text, hasBreak, after⟩, hplain, h⟩
  rw [isFlow_of_saveKey? hsaved, cursor_of_saveKey? hsaved] at hplain
  cases h
  exact plain?_of_startsPlain hpeek hstart hbreak hmarker _ hplain

theorem anchorName?_map_precedes (token : String → Token) (cursor : Cursor) :
    cursor.skip.Precedes (·.2)
      ((Scan.anchorName? cursor.skip).map fun (name, after) => (token name, after)) := by
  apply (Scan.anchorName?_precedes cursor.skip).map
  rintro ⟨name, after⟩
  exact Cursor.LeadsTo.refl after

theorem fetch?_precedes (hpeek : s.cursor.peek? 0 = some c) (hbreak : isBreak c = false) :
    s.cursor.skip.Precedes cursor (s.fetch? c) := by
  unfold fetch?
  apply Cursor.precedes_ite (fetchDirective?_precedes s)
  apply Cursor.precedes_ite_of (fun _ => fetchMarker?_precedes s _)
  intro hmarker
  apply Cursor.precedes_ite (fetchFlowStart?_precedes s _)
  apply Cursor.precedes_ite (fetchFlowStart?_precedes s _)
  apply Cursor.precedes_ite (fetchFlowEnd?_precedes s _)
  apply Cursor.precedes_ite (fetchFlowEnd?_precedes s _)
  apply Cursor.precedes_ite (fetchFlowEntry?_precedes s)
  apply Cursor.precedes_ite (fetchBlockEntry?_precedes s)
  apply Cursor.precedes_ite (fetchKey?_precedes s)
  apply Cursor.precedes_ite (fetchValue?_precedes s)
  apply Cursor.precedes_ite (fetchProperty?_precedes (anchorName?_map_precedes .aliasOf s.cursor))
  apply Cursor.precedes_ite (fetchProperty?_precedes (anchorName?_map_precedes .anchor s.cursor))
  apply Cursor.precedes_ite (fetchProperty?_precedes (Scan.tag?_precedes s.isFlow s.cursor))
  apply Cursor.precedes_ite (fetchBlockScalar?_precedes s _)
  apply Cursor.precedes_ite (fetchQuoted?_precedes s _)
  apply Cursor.precedes_ite_of
  . intro hstart
    exact fetchPlain?_precedes hpeek hstart hbreak (by simpa using hmarker)
  . intro _
    exact Cursor.precedes_none

end Tokens

section Runs

/--
The tokens that the division of a stream ends with.
-/
inductive Scans : Scanner → List Token → Prop where
  | finish {s next last : Scanner} :
    s.approach? = some next → next.cursor.peek? 0 = none → next.fetchEnd? = some last →
      Scans s last.tokens.reverse
  | step {s next after : Scanner} {c : Char} {tokens : List Token} :
    s.approach? = some next → next.cursor.peek? 0 = some c → next.fetch? c = some after →
      Scans after tokens → Scans s tokens

theorem length_fetch?_lt {next after : Scanner} (hnext : s.approach? = some next)
    (hpeek : next.cursor.peek? 0 = some c) (hafter : next.fetch? c = some after) :
    after.cursor.rest.length < s.cursor.rest.length := by
  rcases approach?_spec hnext with ⟨hleads, hbreak⟩
  have hle := hleads.length_le
  have hlt := (fetch?_precedes hpeek (by simpa [Cursor.has, hpeek] using hbreak) _ hafter).length_le
  have hpos : 0 < next.cursor.rest.length := (List.getElem?_eq_some_iff.mp hpeek).1
  simp only [Cursor.skip, List.length_drop] at hlt
  omega

theorem run?_eq_some_iff {fuel : Nat} {tokens : List Token} (hfuel : s.cursor.rest.length < fuel) :
    run? fuel s = some tokens ↔ Scans s tokens := by
  induction fuel generalizing s with
  | zero => contradiction
  | succ fuel ih =>
    unfold run?
    constructor
    . intro h
      rcases Option.bind_eq_some_iff.mp h with ⟨next, hnext, h⟩
      split at h
      next hpeek =>
        rcases Option.bind_eq_some_iff.mp h with ⟨last, hlast, h⟩
        cases h
        exact .finish hnext hpeek hlast
      next c hpeek =>
        rcases Option.bind_eq_some_iff.mp h with ⟨after, hafter, h⟩
        have hlt := length_fetch?_lt hnext hpeek hafter
        exact .step hnext hpeek hafter ((ih (by omega)).mp h)
    . intro h
      cases h with
      | finish hnext hpeek hlast => simp [hnext, hpeek, hlast]
      | step hnext hpeek hafter htokens =>
        have hlt := length_fetch?_lt hnext hpeek hafter
        have hrun := (ih (Nat.lt_of_lt_of_le hlt (Nat.le_of_lt_succ hfuel))).mpr htokens
        simp [hnext, hpeek, hafter, hrun]

end Runs

end Scanner

theorem Token.ofChars?_eq_some_iff {chars : List Char} {tokens : List Token} :
    Token.ofChars? chars = some tokens ↔ (Scanner.start chars).Scans tokens :=
  Scanner.run?_eq_some_iff (show chars.length < chars.length + 2 by omega)

end MessageAbi.Yaml
