import Mathlib
import MessageAbi.Json.Writer
import MessageAbi.Yaml.ScalarText

/-!
This module contains that JSON strings are double-quoted scalars of YAML, unless they hold characters
that YAML does not allow or takes for line breaks.
-/

namespace MessageAbi.Yaml

/--
Whether the text of a character in a JSON string may stand inside a line of YAML.
-/
def InLine (c : Char) : Prop :=
  ∀ d ∈ Json.escape c, isAllowed d = true ∧ isBreak d = false

/--
What stands between the quotes of a JSON string.
-/
def escaped (text : List Char) : List Char :=
  text.flatMap Json.escape

theorem escaped_cons (c : Char) (text : List Char) :
    escaped (c :: text) = Json.escape c ++ escaped text :=
  rfl

theorem escaped_append (text more : List Char) :
    escaped (text ++ more) = escaped text ++ escaped more :=
  List.flatMap_append

theorem escaped_blanks (blanks : Nat) :
    escaped (List.replicate blanks ' ') = List.replicate blanks ' ' := by
  induction blanks with
  | zero => rfl
  | succ blanks ih =>
    rw [List.replicate_succ, escaped_cons, ih]
    rfl

theorem length_le_escaped (text : List Char) : text.length ≤ (escaped text).length := by
  induction text with
  | nil => exact le_rfl
  | cons c text ih =>
    have hpos : 0 < (Json.escape c).length := by
      unfold Json.escape
      split_ifs <;> simp
    rw [escaped_cons, List.length_append, List.length_cons]
    omega

namespace Cursor

variable {cursor : Cursor}

@[simp]
theorem skip_zero (cursor : Cursor) : cursor.skip 0 = cursor :=
  rfl

@[simp]
theorem skip_skip (cursor : Cursor) (m n : Nat) : (cursor.skip m).skip n = cursor.skip (m + n) := by
  simp [skip, Nat.add_assoc]

theorem rest_skip {front rest : List Char} (h : cursor.rest = front ++ rest) :
    (cursor.skip front.length).rest = rest := by
  simp [skip, h]

theorem peek?_of_rest {c : Char} {rest : List Char} (h : cursor.rest = c :: rest) :
    cursor.peek? 0 = some c := by
  simp [peek?, h]

theorem isAt_of_rest {c : Char} {rest : List Char} (h : cursor.rest = c :: rest) (d : Char) :
    cursor.isAt d = (c == d) := by
  simp [isAt, has, peek?_of_rest h]

end Cursor

namespace Scan

variable {cursor : Cursor} {c : Char} {rest : List Char}

theorem quotedRun?_backslash {name : Char} {count fuel : Nat} {run : List Char} {after : Cursor}
    (hrest : cursor.rest = '\\' :: name :: rest) (hbreak : isBreak name = false)
    (hescape : escape? cursor.skip = some (c, cursor.skip count))
    (h : quotedRun? false fuel (cursor.skip count) = some (run, false, after)) :
    quotedRun? false (fuel + 1) cursor = some (c :: run, false, after) := by
  unfold quotedRun?
  rw [hrest]
  simp [hbreak, hescape, h, isBlank, show isBreak '\\' = false by decide]

theorem code?_of_lt (n : Nat) (hlt : n < 0x20)
    (hrest : cursor.rest = '0' :: '0' :: Nat.digitChar (n / 16) :: Nat.digitChar (n % 16) :: rest) :
    escape?.code? 4 cursor = some (Char.ofNat n, cursor.skip 4) := by
  have hdigits : ∀ n < 0x20, ['0', '0', Nat.digitChar (n / 16), Nat.digitChar (n % 16)].mapM
      Json.Reader.hexValue? = some [0, 0, n / 16, n % 16] := by decide
  have hvalid : n.isValidChar := .inl (by omega)
  have hvalue : n / 16 * 16 + n % 16 = n := Nat.div_add_mod' n 16
  unfold escape?.code?
  rw [hrest]
  simp [hdigits n hlt, hvalue, hvalid, Char.ofNat]

theorem escape?_self (h : c = '"' ∨ c = '\\') (hrest : cursor.rest = c :: rest) :
    escape? cursor = some (c, cursor.skip) := by
  rcases h with rfl | rfl <;> simp [escape?, Cursor.peek?_of_rest hrest]

/--
The letters that stand for characters in JSON strings and in double-quoted scalars alike.
-/
def sharedEscapes : List (Char × Char) :=
  [('b', '\x08'), ('f', '\x0c'), ('n', '\n'), ('r', '\r'), ('t', '\t')]

theorem escape?_shared {name : Char} (h : (name, c) ∈ sharedEscapes)
    (hrest : cursor.rest = name :: rest) : escape? cursor = some (c, cursor.skip) := by
  simp only [sharedEscapes, List.mem_cons, Prod.mk.injEq, List.not_mem_nil, or_false] at h
  rcases h with ⟨rfl, rfl⟩ | ⟨rfl, rfl⟩ | ⟨rfl, rfl⟩ | ⟨rfl, rfl⟩ | ⟨rfl, rfl⟩ <;>
    simp [escape?, Cursor.peek?_of_rest hrest]

theorem quotedRun?_plain {fuel : Nat} {run : List Char} {after : Cursor} (hblank : isBlank c = false)
    (hbreak : isBreak c = false) (hquote : c ≠ '"') (hbackslash : c ≠ '\\')
    (hrest : cursor.rest = c :: rest)
    (h : quotedRun? false fuel cursor.skip = some (run, false, after)) :
    quotedRun? false (fuel + 1) cursor = some (c :: run, false, after) := by
  unfold quotedRun?
  rw [hrest]
  simp [hblank, hbreak, hquote, hbackslash, h]

theorem quotedRun?_escape {fuel : Nat} {run : List Char} {after : Cursor} (hline : InLine c)
    (hspace : c ≠ ' ') (hrest : cursor.rest = Json.escape c ++ rest)
    (h : quotedRun? false fuel (cursor.skip (Json.escape c).length) = some (run, false, after)) :
    quotedRun? false (fuel + 1) cursor = some (c :: run, false, after) := by
  have hshared : ∀ name, (name, c) ∈ sharedEscapes → isBreak name = false →
      cursor.rest = '\\' :: name :: rest →
      quotedRun? false fuel (cursor.skip 2) = some (run, false, after) →
      quotedRun? false (fuel + 1) cursor = some (c :: run, false, after) := by
    intro name hname hbreak hrest h
    have hskip : cursor.skip.rest = name :: rest := by simp [Cursor.skip, hrest]
    have hescape := escape?_shared hname hskip
    rw [Cursor.skip_skip] at hescape
    exact quotedRun?_backslash hrest hbreak hescape h
  unfold InLine at hline
  unfold Json.escape at hline hrest h
  split_ifs at hline hrest h with hself hb hf hn hr ht hcontrol
  . have hskip : cursor.skip.rest = c :: rest := by simp [Cursor.skip, hrest]
    have hescape := escape?_self hself hskip
    rw [Cursor.skip_skip] at hescape
    exact quotedRun?_backslash hrest (hline c (by simp)).2 hescape h
  . exact hshared 'b' (by rw [hb]; decide) (by decide) hrest h
  . exact hshared 'f' (by rw [hf]; decide) (by decide) hrest h
  . exact hshared 'n' (by rw [hn]; decide) (by decide) hrest h
  . exact hshared 'r' (by rw [hr]; decide) (by decide) hrest h
  . exact hshared 't' (by rw [ht]; decide) (by decide) hrest h
  . have hskip : cursor.skip.rest = ['u'] ++ ('0' :: '0' :: Nat.digitChar (c.toNat / 16)
        :: Nat.digitChar (c.toNat % 16) :: rest) := by
      simp [Cursor.skip, hrest]
    have hcode := code?_of_lt c.toNat hcontrol (Cursor.rest_skip hskip)
    rw [c.ofNat_toNat] at hcode
    refine quotedRun?_backslash hrest (by decide) ?_ h
    simp [escape?, Cursor.peek?_of_rest hskip]
    simpa using hcode
  . rw [not_or] at hself
    exact quotedRun?_plain (by simp [isBlank, hspace, ht]) (hline c (by simp)).2 hself.1 hself.2
      hrest h

theorem quotedRun?_word {word : List Char} (hline : ∀ c ∈ word, InLine c) (hspace : ' ' ∉ word)
    (hrest : cursor.rest = escaped word ++ c :: rest) (hc : c = ' ' ∨ c = '"') {fuel : Nat}
    (hfuel : word.length < fuel) :
    quotedRun? false fuel cursor
      = some (word, false, cursor.skip (escaped word).length) := by
  induction word generalizing cursor fuel with
  | nil =>
    rcases fuel with _ | fuel
    . contradiction
    . unfold quotedRun?
      rw [show cursor.rest = c :: rest from hrest]
      rcases hc with rfl | rfl
      . rfl
      . rfl
  | cons d word ih =>
    rcases fuel with _ | fuel
    . contradiction
    rw [List.forall_mem_cons] at hline
    rw [List.mem_cons, not_or] at hspace
    rw [escaped_cons, List.append_assoc] at hrest
    have hrun := ih hline.2 hspace.2 (Cursor.rest_skip hrest) (Nat.lt_of_succ_lt_succ hfuel)
    rw [Cursor.skip_skip] at hrun
    rw [escaped_cons, List.length_append]
    exact quotedRun?_escape hline.1 (Ne.symm hspace.1) hrest hrun

theorem scan?_blanks {blanks : Nat} (hrest : cursor.rest = List.replicate blanks ' ' ++ c :: rest)
    (hblank : isBlank c = false) (hbreak : isBreak c = false) (before : List Char) {fuel : Nat}
    (hfuel : blanks < fuel) :
    Gap.scan? 0 fuel ⟨false, before, [], []⟩ cursor
      = some (⟨false, before ++ List.replicate blanks ' ', [], []⟩, cursor.skip blanks) := by
  induction blanks generalizing cursor before fuel with
  | zero =>
    rcases fuel with _ | fuel
    . contradiction
    unfold Gap.scan?
    simp [Cursor.peek?_of_rest (show cursor.rest = c :: rest from hrest), hblank, hbreak]
  | succ blanks ih =>
    rcases fuel with _ | fuel
    . contradiction
    have hskip : cursor.skip.rest = List.replicate blanks ' ' ++ c :: rest := by
      simp [Cursor.skip, hrest, List.replicate_succ]
    have hscan := ih hskip (before ++ [' ']) (Nat.lt_of_succ_lt_succ hfuel)
    rw [Cursor.skip_skip, Nat.add_comm, List.append_assoc] at hscan
    unfold Gap.scan?
    rw [Cursor.peek?_of_rest (show cursor.rest = ' ' :: _ from hrest)]
    simpa [show isBlank ' ' = true by decide, List.replicate_succ] using hscan

theorem exists_words (text : List Char) :
    ∃ word tail, text = word ++ tail ∧ ' ' ∉ word
      ∧ (tail = [] ∨ ∃ blanks more, tail = List.replicate (blanks + 1) ' ' ++ more
        ∧ more.head? ≠ some ' ') := by
  refine ⟨text.takeWhile (· != ' '), text.dropWhile (· != ' '), ?_, ?_, ?_⟩
  . rw [List.takeWhile_append_dropWhile]
  . intro hmem
    simpa using List.mem_takeWhile_imp hmem
  . cases htail : text.dropWhile (· != ' ') with
    | nil => exact .inl rfl
    | cons c tail =>
      have hc : c = ' ' := by
        have hhead := List.head?_dropWhile_not (· != ' ') text
        simpa [htail] using hhead
      have hblanks : tail.takeWhile (· == ' ')
          = List.replicate (tail.takeWhile (· == ' ')).length ' ' := by
        apply List.eq_replicate_of_mem
        intro d hd
        simpa using List.mem_takeWhile_imp hd
      refine .inr ⟨(tail.takeWhile (· == ' ')).length, tail.dropWhile (· == ' '), ?_, ?_⟩
      . rw [List.replicate_succ, ← hblanks, List.cons_append, List.takeWhile_append_dropWhile, hc]
      . intro hhead
        have hnot := List.head?_dropWhile_not (· == ' ') tail
        simp [hhead] at hnot

theorem escape_eq_cons (hline : InLine c) (hspace : c ≠ ' ') :
    ∃ d behind, Json.escape c = d :: behind ∧ isBlank d = false ∧ isBreak d = false := by
  unfold InLine at hline
  unfold Json.escape at hline ⊢
  split_ifs at hline ⊢
  all_goals try exact ⟨_, _, rfl, by decide, by decide⟩
  refine ⟨_, _, rfl, ?_, (hline c (by simp)).2⟩
  simp_all [isBlank]

theorem exists_escaped_append {text : List Char} (hline : ∀ c ∈ text, InLine c)
    (hhead : text.head? ≠ some ' ') (rest : List Char) :
    ∃ c behind, escaped text ++ '"' :: rest = c :: behind ∧ isBlank c = false
      ∧ isBreak c = false := by
  cases text with
  | nil => exact ⟨'"', rest, rfl, by decide, by decide⟩
  | cons c text =>
    rcases escape_eq_cons (hline c List.mem_cons_self) (by simpa using hhead) with
      ⟨d, behind, hescape, hblank, hbreak⟩
    rw [escaped_cons, hescape]
    exact ⟨d, _, rfl, hblank, hbreak⟩

theorem quoted?_escape {text : List Char} (hline : ∀ c ∈ text, InLine c)
    (hrest : cursor.rest = escaped text ++ '"' :: rest) (hcolumn : cursor.column ≠ 0)
    {fuel : Nat} (hfuel : text.length < fuel) :
    quoted? false fuel cursor
      = some (text, cursor.skip ((escaped text).length + 1)) := by
  induction fuel generalizing text cursor with
  | zero => contradiction
  | succ fuel ih =>
    have hmarker : cursor.isAtMarker = false := by simp [Cursor.isAtMarker, hcolumn]
    have hend : cursor.isAtEnd = false := by simp [Cursor.isAtEnd, hrest]
    unfold quoted?
    rw [hmarker, hend]
    rcases exists_words text with ⟨word, tail, rfl, hspace, rfl | ⟨blanks, more, rfl, hmore⟩⟩
    . rw [List.append_nil] at *
      have hlength := length_le_escaped word
      have hrun := quotedRun?_word hline hspace hrest (.inr rfl)
        (show word.length < cursor.rest.length + 1 by rw [hrest, List.length_append]; omega)
      simp [hrun, Cursor.isAt_of_rest (Cursor.rest_skip hrest)]
    . rw [List.forall_mem_append, List.forall_mem_append] at hline
      rw [escaped_append, escaped_append, escaped_blanks, List.append_assoc, List.append_assoc]
        at hrest
      have hlength := length_le_escaped word
      have hrun := quotedRun?_word hline.1 hspace hrest (.inl rfl)
        (show word.length < cursor.rest.length + 1 by rw [hrest, List.length_append]; omega)
      have hbehind := Cursor.rest_skip hrest
      have hquote := Cursor.isAt_of_rest (c := ' ') hbehind '"'
      rcases exists_escaped_append hline.2.2 hmore rest with ⟨d, behind, hd, hblank, hbreak⟩
      rw [hd] at hbehind
      have hscan := scan?_blanks hbehind hblank hbreak []
        (show blanks + 1 < (cursor.skip (escaped word).length).rest.length + 1 by
          rw [hbehind, List.length_append, List.length_replicate, List.length_cons]; omega)
      have hnext := Cursor.rest_skip hbehind
      rw [List.length_replicate, Cursor.skip_skip, ← hd] at hnext
      rw [Cursor.skip_skip, List.nil_append] at hscan
      simp only [List.length_append, List.length_replicate] at hfuel
      have hmoreQuoted := ih hline.2.2 hnext (by simp [Cursor.skip, hcolumn]) (by omega)
      rw [Cursor.skip_skip] at hmoreQuoted
      rw [escaped_append, escaped_append, escaped_blanks, List.length_append, List.length_append,
        List.length_replicate]
      simp [hrun, hquote, Gap.empty, hscan, hmoreQuoted, Gap.folded, Nat.add_assoc]

end Scan

end MessageAbi.Yaml
