import Mathlib
import MessageAbi.Proofs.Json.Writing
import MessageAbi.Proofs.Yaml.JsonString
import MessageAbi.Proofs.Yaml.Scanner

/-!
This module contains that JSON is divided into the tokens of flow collections, if all its scalars are
strings and no name of a member is too long for a key without an indicator.
-/

namespace MessageAbi.Yaml

mutual

def tokensOf : Json → List Token
  | .string s => [.scalar s false]
  | .array items =>
    .flowSequenceStart :: ([.flowEntry].intercalate (itemTokens items) ++ [.flowSequenceEnd])
  | .object members =>
    .flowMappingStart :: ([.flowEntry].intercalate (memberTokens members) ++ [.flowMappingEnd])
  | _ => []

def itemTokens : List Json → List (List Token)
  | [] => []
  | item :: items => tokensOf item :: itemTokens items

def memberTokens : List (String × Json) → List (List Token)
  | [] => []
  | (name, value) :: members =>
    (.key :: .scalar name false :: .value :: tokensOf value) :: memberTokens members

end

/--
JSON without scalars other than strings, whose text stands inside a line of YAML.
-/
inductive OfStrings : (depth : Nat) → Json → Prop where
  | string {depth : Nat} {s : String} : (∀ c ∈ s.toList, InLine c) → OfStrings depth (.string s)
  | array {depth : Nat} {items : List Json} :
    (∀ item ∈ items, OfStrings depth item) → OfStrings (depth + 1) (.array items)
  | object {depth : Nat} {members : List (String × Json)} :
    (∀ member ∈ members, (∀ c ∈ member.1.toList, InLine c) ∧ (Json.quote member.1).length ≤ 1024) →
      (∀ member ∈ members, OfStrings depth member.2) → OfStrings (depth + 1) (.object members)

namespace Scanner

variable {s s' : Scanner} {c : Char} {rest : List Char}

/--
A state outside of block collections, in which no key has to follow.
-/
structure Calm (s : Scanner) : Prop where
  indent : s.indent = -1
  keys : ∀ key, some key ∈ s.keys → key.isRequired = false

def Step (s after : Scanner) : Prop :=
  ∃ next c, s.approach? = some next ∧ next.cursor.peek? 0 = some c ∧ next.fetch? c = some after

theorem Scans.of_steps {tokens : List Token} (h : Relation.ReflTransGen Step s s')
    (hscans : s'.Scans tokens) : s.Scans tokens := by
  induction h using Relation.ReflTransGen.head_induction_on with
  | refl => exact hscans
  | head hstep _ ih =>
    rcases hstep with ⟨next, c, hnext, hpeek, hfetch⟩
    exact .step hnext hpeek hfetch ih

/--
The possible keys that are not too far back.
-/
def freshKeys (s : Scanner) : List (Option SimpleKey) :=
  s.keys.map (·.filter fun key =>
    !(key.line < s.cursor.line || key.index + 1024 < s.cursor.index))

theorem Calm.of_keys (h : s.Calm) (hindent : s'.indent = s.indent)
    (hkeys : ∀ key, some key ∈ s'.keys → some key ∈ s.keys ∨ key.isRequired = false) : s'.Calm :=
  ⟨hindent.trans h.indent, fun key hkey => (hkeys key hkey).elim (h.keys key) id⟩

/--
The state in front of a token.
-/
def fresh (s : Scanner) : Scanner :=
  { s with keys := s.freshKeys }

theorem Calm.fresh (h : s.Calm) : s.fresh.Calm := by
  refine h.of_keys rfl ?_
  intro key hkey
  rcases List.mem_map.mp hkey with ⟨key?, hmem, hfilter⟩
  rw [(Option.filter_eq_some_iff.mp hfilter).1] at hmem
  exact .inl hmem

theorem dropStaleKeys?_of_calm (h : s.Calm) :
    s.dropStaleKeys? = some s.fresh := by
  refine Option.bind_eq_some_iff.mpr ⟨s.freshKeys, ?_, rfl⟩
  rw [mapM_eq_some_iff, freshKeys, List.forall₂_map_right_iff, List.forall₂_same]
  intro key? hkey
  cases key? with
  | none => rfl
  | some key =>
    dsimp only
    rw [h.keys key hkey, Option.filter_some]
    cases key.line < s.cursor.line || key.index + 1024 < s.cursor.index <;> rfl

/--
The characters that tokens of JSON start with.
-/
def startsFlow (c : Char) : Bool :=
  c ∈ ['[', ']', '\x7b', '\x7d', ',', ':', '"']

theorem skipWhile_of_rest {cursor : Cursor} {test : Char → Bool} (hrest : cursor.rest = c :: rest)
    (hc : test c = false) : cursor.skipWhile test = cursor := by
  simp [Cursor.skipWhile, Cursor.span, hrest, hc]

theorem toNextToken_of_startsFlow (fuel : Nat) (hrest : s.cursor.rest = c :: rest)
    (hc : startsFlow c = true) : s.toNextToken fuel = s := by
  have hplain : c ≠ '\ufeff' ∧ c ≠ ' ' ∧ c ≠ '\t' ∧ c ≠ '#' ∧ isBreak c = false := by
    simp only [startsFlow, List.mem_cons, List.not_mem_nil, or_false, decide_eq_true_eq] at hc
    rcases hc with rfl | rfl | rfl | rfl | rfl | rfl | rfl <;> decide
  rcases hplain with ⟨hmark, hspace, htab, hcomment, hbreak⟩
  have hskip : s.skipComment = s.cursor := by
    simp [skipComment, Cursor.isAt_of_rest hrest, hmark, hcomment,
      skipWhile_of_rest hrest, hspace, htab]
  cases fuel with
  | zero => rfl
  | succ fuel =>
    unfold toNextToken
    simp [hskip, Cursor.has, Cursor.peek?_of_rest hrest, hbreak]

theorem unroll_of_calm {column : Int} (h : s.Calm) (hcolumn : -1 ≤ column) : s.unroll column = s := by
  unfold unroll
  split_ifs
  . rfl
  cases s.outerIndents with
  | nil => rfl
  | cons outer outers =>
    unfold unroll.go
    rw [h.indent, if_neg (by omega)]

theorem approach?_of_calm (h : s.Calm) (hrest : s.cursor.rest = c :: rest) (hc : startsFlow c = true) :
    s.approach? = some s.fresh := by
  unfold approach?
  rw [toNextToken_of_startsFlow _ hrest hc, dropStaleKeys?_of_calm h]
  exact congrArg some (unroll_of_calm h.fresh (by omega))

theorem isAtMarker_of_startsFlow {cursor : Cursor} (hrest : cursor.rest = c :: rest)
    (hc : startsFlow c = true) : cursor.isAtMarker = false := by
  have hmarker : c ≠ '-' ∧ c ≠ '.' := by
    simp only [startsFlow, List.mem_cons, List.not_mem_nil, or_false, decide_eq_true_eq] at hc
    rcases hc with rfl | rfl | rfl | rfl | rfl | rfl | rfl <;> decide
  unfold Cursor.isAtMarker
  rw [hrest]
  split <;> simp_all

theorem removeKey?_of_calm (h : s.Calm) (hne : s.keys ≠ []) :
    s.removeKey? = some { s with keys := none :: s.keys.tail } := by
  unfold removeKey? setKey?
  rcases List.exists_cons_of_ne_nil hne with ⟨key?, keys, hkeys⟩
  rw [hkeys]
  cases key? with
  | none => rfl
  | some key => simp [h.keys key (by simp [hkeys])]

theorem setKey?_of_calm (h : s.Calm) (hne : s.keys ≠ []) (key : SimpleKey) :
    s.setKey? (some key) = some { s with keys := some key :: s.keys.tail } := by
  unfold setKey?
  rcases List.exists_cons_of_ne_nil hne with ⟨key?, keys, hkeys⟩
  rw [hkeys]
  cases key? with
  | none => rfl
  | some old => simp [h.keys old (by simp [hkeys])]

/--
The key without an indicator that may start here.
-/
def keyHere (s : Scanner) : SimpleKey :=
  ⟨false, s.tokens.length, s.cursor.index, s.cursor.line, s.cursor.column⟩

def saved (s : Scanner) : Scanner :=
  if s.keyAllowed then { s with keys := some s.keyHere :: s.keys.tail } else s

theorem saveKey?_of_calm (h : s.Calm) (hne : s.keys ≠ []) : s.saveKey? = some s.saved := by
  unfold saveKey? saved
  split_ifs
  . have hrequired : (!s.isFlow && decide (s.indent = s.cursor.column)) = false := by
      simp [h.indent]
    rw [hrequired, setKey?_of_calm h hne]
    rfl
  . rfl

theorem Calm.saved (h : s.Calm) : s.saved.Calm := by
  unfold Scanner.saved
  split_ifs
  . refine h.of_keys rfl ?_
    intro key hkey
    rcases List.mem_cons.mp hkey with hhere | htail
    . rw [Option.some.inj hhere]
      exact .inr rfl
    . exact .inl (List.mem_of_mem_tail htail)
  . exact h

/--
That a scanner goes on with a text, which is divided into tokens.
-/
structure Follows (s s' : Scanner) (text : List Char) (tokens : List Token) : Prop where
  steps : Relation.ReflTransGen Step s s'
  calm : s'.Calm
  cursor : s'.cursor = s.cursor.skip text.length
  tokens : s'.tokens = tokens.reverse ++ s.tokens

theorem Follows.trans {next : Scanner} {text more : List Char} {tokens others : List Token}
    (h : s.Follows next text tokens) (h' : next.Follows s' more others) :
    s.Follows s' (text ++ more) (tokens ++ others) := by
  refine ⟨h.steps.trans h'.steps, h'.calm, ?_, ?_⟩
  . rw [h'.cursor, h.cursor, Cursor.skip_skip, List.length_append]
  . rw [h'.tokens, h.tokens, List.reverse_append, List.append_assoc]

theorem Follows.rest_eq {text more : List Char} {tokens : List Token} (h : s.Follows s' text tokens)
    (hrest : s.cursor.rest = text ++ more) : s'.cursor.rest = more := by
  rw [h.cursor, Cursor.rest_skip hrest]

theorem step_of_fetch? {after : Scanner} (h : s.Calm) (hrest : s.cursor.rest = c :: rest)
    (hc : startsFlow c = true) (hfetch : s.fresh.fetch? c = some after) : s.Step after :=
  ⟨s.fresh, c, approach?_of_calm h hrest hc, Cursor.peek?_of_rest hrest, hfetch⟩

theorem cursor_saved (s : Scanner) : s.saved.cursor = s.cursor := by
  unfold saved
  split_ifs <;> rfl

theorem tokens_saved (s : Scanner) : s.saved.tokens = s.tokens := by
  unfold saved
  split_ifs <;> rfl

theorem length_keys_saved (hne : s.keys ≠ []) : s.saved.keys.length = s.keys.length := by
  unfold saved
  split_ifs
  . rcases List.exists_cons_of_ne_nil hne with ⟨key?, keys, hkeys⟩
    simp [hkeys]
  . rfl

theorem length_keys_fresh (s : Scanner) : s.fresh.keys.length = s.keys.length :=
  List.length_map _

theorem fresh_keys_ne_nil (hne : s.keys ≠ []) : s.fresh.keys ≠ [] := by
  simpa [fresh, freshKeys] using hne

theorem exists_follows_start {token : Token} (h : s.Calm) (hne : s.keys ≠ [])
    (hrest : s.cursor.rest = c :: rest)
    (hc : c = '[' ∧ token = .flowSequenceStart ∨ c = '\x7b' ∧ token = .flowMappingStart) :
    ∃ s', s.Follows s' [c] [token] ∧ s'.keys.length = s.keys.length + 1 ∧ s'.keyAllowed = true := by
  have hflow : startsFlow c = true := by
    rcases hc with ⟨rfl, _⟩ | ⟨rfl, _⟩ <;> decide
  have hfresh := fresh_keys_ne_nil hne
  have hcalm := h.fresh
  have hfetch : s.fresh.fetch? c = s.fresh.fetchFlowStart? token := by
    have hmarker : s.fresh.cursor.isAtMarker = false := isAtMarker_of_startsFlow hrest hflow
    rcases hc with ⟨rfl, rfl⟩ | ⟨rfl, rfl⟩ <;> simp [fetch?, hmarker]
  have hstep := step_of_fetch? h hrest hflow
    (hfetch.trans (by rw [fetchFlowStart?, saveKey?_of_calm hcalm hfresh]; rfl))
  refine ⟨_, ⟨.single hstep, ?_, ?_, ?_⟩, ?_, rfl⟩
  . refine hcalm.saved.of_keys rfl ?_
    simpa using fun key hkey => .inl hkey
  . simp [take, push, cursor_saved, fresh]
  . simp [take, push, tokens_saved, fresh]
  . simp [length_keys_saved hfresh, length_keys_fresh]

theorem isFlow_iff (s : Scanner) : s.isFlow = true ↔ 1 < s.keys.length := by
  simp [isFlow]

theorem exists_follows_end {token : Token} (h : s.Calm) (hdepth : 1 < s.keys.length)
    (hrest : s.cursor.rest = c :: rest)
    (hc : c = ']' ∧ token = .flowSequenceEnd ∨ c = '\x7d' ∧ token = .flowMappingEnd) :
    ∃ s', s.Follows s' [c] [token] ∧ s'.keys.length + 1 = s.keys.length := by
  have hflow : startsFlow c = true := by
    rcases hc with ⟨rfl, _⟩ | ⟨rfl, _⟩ <;> decide
  have hfresh := fresh_keys_ne_nil (List.ne_nil_of_length_pos (Nat.lt_of_succ_lt hdepth))
  have hcalm := h.fresh
  have hlength := length_keys_fresh s
  rcases List.exists_cons_of_ne_nil hfresh with ⟨key?, keys, hkeys⟩
  rw [hkeys, List.length_cons] at hlength
  have hfetch : s.fresh.fetch? c = s.fresh.fetchFlowEnd? token := by
    have hmarker : s.fresh.cursor.isAtMarker = false := isAtMarker_of_startsFlow hrest hflow
    rcases hc with ⟨rfl, rfl⟩ | ⟨rfl, rfl⟩ <;> simp [fetch?, hmarker]
  have hremoved : s.fresh.fetchFlowEnd? token
      = some { s.fresh.take 1 token with keys := keys, keyAllowed := false } := by
    have hopen : ({ s.fresh with keys := none :: keys } : Scanner).isFlow = true := by
      rw [isFlow_iff, List.length_cons]
      omega
    rw [fetchFlowEnd?, removeKey?_of_calm hcalm hfresh, hkeys]
    simp [hopen, take, push]
  refine ⟨_, ⟨.single (step_of_fetch? h hrest hflow (hfetch.trans hremoved)), ?_, rfl, rfl⟩, ?_⟩
  . refine hcalm.of_keys rfl ?_
    rw [hkeys]
    exact fun key hkey => .inl (List.mem_cons_of_mem key? hkey)
  . simpa using hlength

theorem exists_follows_entry (h : s.Calm) (hne : s.keys ≠ []) (hrest : s.cursor.rest = ',' :: rest) :
    ∃ s', s.Follows s' [','] [.flowEntry] ∧ s'.keys.length = s.keys.length
      ∧ s'.keyAllowed = true := by
  have hcalm := h.fresh
  have hlength := length_keys_fresh s
  rcases List.exists_cons_of_ne_nil (fresh_keys_ne_nil hne) with ⟨key?, keys, hkeys⟩
  have hfetch : s.fresh.fetch? ',' = s.fresh.fetchFlowEntry? := by
    have hmarker : s.fresh.cursor.isAtMarker = false := isAtMarker_of_startsFlow hrest (by decide)
    simp [fetch?, hmarker]
  have hremoved : s.fresh.fetchFlowEntry?
      = some { s.fresh.take 1 .flowEntry with keys := none :: keys, keyAllowed := true } := by
    unfold fetchFlowEntry?
    rw [removeKey?_of_calm hcalm (fresh_keys_ne_nil hne), hkeys]
    rfl
  refine ⟨_, ⟨.single (step_of_fetch? h hrest (by decide) (hfetch.trans hremoved)), ?_, rfl, rfl⟩,
    ?_, rfl⟩
  . refine hcalm.of_keys rfl ?_
    simpa [hkeys] using fun key hkey => .inl (.inr hkey)
  . rw [← hlength, hkeys]
    rfl

theorem toList_quote (text : String) :
    (Json.quote text).toList = '"' :: (escaped text.toList ++ ['"']) := by
  simp [Json.quote, escaped]

theorem exists_follows_string {text : String} (h : s.Calm) (hne : s.keys ≠ [])
    (hline : ∀ c ∈ text.toList, InLine c)
    (hrest : s.cursor.rest = (Json.quote text).toList ++ rest) :
    ∃ s', s.Follows s' (Json.quote text).toList [.scalar text false]
      ∧ s'.keys = s.fresh.saved.keys := by
  rw [toList_quote, List.cons_append, List.append_assoc] at hrest
  have hcalm := h.fresh
  have hfetch : s.fresh.fetch? '"' = s.fresh.fetchQuoted? false := by
    have hmarker : s.fresh.cursor.isAtMarker = false := isAtMarker_of_startsFlow hrest (by decide)
    simp [fetch?, hmarker]
  have hskip : s.cursor.skip.rest = escaped text.toList ++ '"' :: rest := by
    simp [Cursor.skip, hrest]
  have hlength := length_le_escaped text.toList
  have hquoted := Scan.quoted?_escape hline hskip (by simp [Cursor.skip])
    (show text.toList.length < s.cursor.rest.length + 1 by
      rw [hrest, List.length_cons, List.length_append]
      omega)
  have hscalar : s.fresh.fetchQuoted? false = some { s.fresh.saved.push (.scalar text false) with
      cursor := s.cursor.skip.skip ((escaped text.toList).length + 1)
      keyAllowed := false } := by
    rw [fetchQuoted?, saveKey?_of_calm hcalm (fresh_keys_ne_nil hne)]
    simp [cursor_saved, fresh, hquoted]
  refine ⟨_, ⟨.single (step_of_fetch? h hrest (by decide) (hfetch.trans hscalar)), ?_, ?_, ?_⟩, rfl⟩
  . exact hcalm.saved.of_keys rfl fun key hkey => .inl hkey
  . simp [toList_quote, Nat.add_comm]
  . simp [push, tokens_saved, fresh]

theorem fresh_keys_of_name {key : SimpleKey} {keys : List (Option SimpleKey)}
    (hkeys : s.keys = some key :: keys) (hline : s.cursor.line ≤ key.line)
    (hindex : s.cursor.index ≤ key.index + 1024) :
    s.fresh.keys = some key :: s.fresh.keys.tail := by
  have hfresh : (some key).filter (fun key =>
      !(key.line < s.cursor.line || key.index + 1024 < s.cursor.index)) = some key := by
    rw [Option.filter_some, if_pos]
    simp [hline, hindex]
  rw [fresh, freshKeys, hkeys, List.map_cons, hfresh, List.tail_cons]

theorem fetchValue?_of_name {key : SimpleKey} {keys : List (Option SimpleKey)} {token : Token}
    {tokens : List Token} (hkeys : s.keys = some key :: keys) (hflow : s.isFlow = true)
    (htokens : s.tokens = token :: tokens) (hcount : key.tokenCount = tokens.length) :
    s.fetchValue? = some { s with
      tokens := .value :: token :: .key :: tokens
      cursor := s.cursor.skip
      keys := none :: keys
      keyAllowed := false } := by
  have hinsert : (s.insertAt key.tokenCount .key).tokens = token :: .key :: tokens := by
    simp [insertAt, htokens, hcount]
  have hroll : (s.insertAt key.tokenCount .key).roll key.column key.tokenCount .blockMappingStart
      = s.insertAt key.tokenCount .key := by
    have hflow' : (s.insertAt key.tokenCount .key).isFlow = true := hflow
    simp [roll, hflow']
  unfold fetchValue?
  rw [hkeys]
  dsimp only
  rw [hroll, take, push, hinsert]
  rfl

theorem exists_follows_name {name : String} (h : s.Calm) (hdepth : 1 < s.keys.length)
    (hallowed : s.keyAllowed = true) (hline : ∀ c ∈ name.toList, InLine c)
    (hlength : (Json.quote name).length ≤ 1024)
    (hrest : s.cursor.rest = (Json.quote name).toList ++ ':' :: rest) :
    ∃ s', s.Follows s' ((Json.quote name).toList ++ [':']) [.key, .scalar name false, .value]
      ∧ s'.keys.length = s.keys.length := by
  have hne := List.ne_nil_of_length_pos (Nat.lt_of_succ_lt hdepth)
  rcases exists_follows_string h hne hline hrest with ⟨next, hnext, hkeys⟩
  have hcolon := hnext.rest_eq hrest
  have hfreshAllowed : s.fresh.keyAllowed = true := hallowed
  rw [saved, if_pos hfreshAllowed] at hkeys
  have hline : next.cursor.line ≤ s.fresh.keyHere.line := by
    rw [hnext.cursor]
    exact le_rfl
  have hindex : next.cursor.index ≤ s.fresh.keyHere.index + 1024 := by
    rw [hnext.cursor]
    exact Nat.add_le_add_left hlength _
  have hfresh := fresh_keys_of_name hkeys hline hindex
  have hdepth' : next.fresh.keys.length = s.keys.length := by
    have hlengths := congrArg List.length hkeys
    rw [length_keys_fresh, hlengths, List.length_cons, List.length_tail, length_keys_fresh]
    omega
  have hflow : next.fresh.isFlow = true := by
    rw [isFlow_iff, hdepth']
    exact hdepth
  have hvalue := fetchValue?_of_name hfresh hflow hnext.tokens rfl
  have hfetch : next.fresh.fetch? ':' = next.fresh.fetchValue? := by
    have hmarker : next.fresh.cursor.isAtMarker = false := isAtMarker_of_startsFlow hcolon (by decide)
    simp [fetch?, hmarker, hflow]
  refine ⟨_, ⟨hnext.steps.tail (step_of_fetch? hnext.calm hcolon (by decide) (hfetch.trans hvalue)),
    ?_, ?_, rfl⟩, ?_⟩
  . refine hnext.calm.fresh.of_keys rfl ?_
    simpa using fun key hkey => .inl (List.mem_of_mem_tail hkey)
  . rw [List.length_append, ← Cursor.skip_skip, ← hnext.cursor]
    rfl
  . rw [hfresh, List.length_cons] at hdepth'
    exact hdepth'

/--
Whether any scanner goes on with a text, where it is behind a token after which a key may start.
-/
def Scannable (text : List Char) (tokens : List Token) : Prop :=
  ∀ (s : Scanner) (rest : List Char), s.Calm → 1 < s.keys.length → s.keyAllowed = true →
    s.cursor.rest = text ++ rest →
      ∃ s', s.Follows s' text tokens ∧ s'.keys.length = s.keys.length

theorem Follows.refl (h : s.Calm) : s.Follows s [] [] :=
  ⟨.refl, h, rfl, rfl⟩

theorem scannable_intercalate {texts : List (List Char)} {parts : List (List Token)}
    (h : List.Forall₂ Scannable texts parts) :
    Scannable ([','].intercalate texts) ([.flowEntry].intercalate parts) := by
  induction h with
  | nil =>
    intro s rest hcalm _ _ _
    exact ⟨s, .refl hcalm, rfl⟩
  | @cons text part texts parts hpart h ih =>
    cases h with
    | nil => simpa using hpart
    | cons _ _ =>
      rw [List.intercalate_cons_cons, List.intercalate_cons_cons]
      intro s rest hcalm hdepth hallowed hrest
      rw [List.append_assoc, List.append_assoc] at hrest
      rcases hpart s _ hcalm hdepth hallowed hrest with ⟨first, hfirst, hfirstKeys⟩
      rcases exists_follows_entry hfirst.calm (List.ne_nil_of_length_pos (by omega))
        (hfirst.rest_eq hrest) with
        ⟨next, hnext, hnextKeys, hnextAllowed⟩
      rcases ih next rest hnext.calm (by omega) hnextAllowed
        (hnext.rest_eq (hfirst.rest_eq hrest)) with ⟨last, hlast, hlastKeys⟩
      refine ⟨last, ?_, by omega⟩
      exact (hfirst.trans hnext).trans hlast

theorem exists_follows_collection {opening closing : Char} {start ending : Token} {text : List Char}
    {tokens : List Token} (hbody : Scannable text tokens)
    (hopening : opening = '[' ∧ start = .flowSequenceStart
      ∨ opening = '\x7b' ∧ start = .flowMappingStart)
    (hclosing : closing = ']' ∧ ending = .flowSequenceEnd
      ∨ closing = '\x7d' ∧ ending = .flowMappingEnd)
    (h : s.Calm) (hne : s.keys ≠ []) (hrest : s.cursor.rest = opening :: (text ++ [closing]) ++ rest) :
    ∃ s', s.Follows s' (opening :: (text ++ [closing])) (start :: (tokens ++ [ending]))
      ∧ s'.keys.length = s.keys.length := by
  rw [List.cons_append, List.append_assoc] at hrest
  rcases exists_follows_start h hne hrest hopening with ⟨first, hfirst, hfirstKeys, hallowed⟩
  have hpos := List.length_pos_of_ne_nil hne
  rcases hbody first _ hfirst.calm (by omega) hallowed (hfirst.rest_eq hrest) with
    ⟨next, hnext, hnextKeys⟩
  rcases exists_follows_end hnext.calm (by omega) (hnext.rest_eq (hfirst.rest_eq hrest)) hclosing with
    ⟨last, hlast, hlastKeys⟩
  exact ⟨last, hfirst.trans (hnext.trans hlast), by omega⟩

theorem itemTokens_eq_map (items : List Json) : itemTokens items = items.map tokensOf := by
  induction items with
  | nil => rfl
  | cons item items ih => rw [itemTokens, ih, List.map_cons]

theorem memberTokens_eq_map (members : List (String × Json)) :
    memberTokens members = members.map fun (name, value) =>
      [.key, .scalar name false, .value] ++ tokensOf value := by
  induction members with
  | nil => rfl
  | cons member members ih =>
    rw [memberTokens, ih, List.map_cons]
    rfl

theorem toList_compact_array (items : List Json) : (Json.array items).compact.toList
    = '[' :: ([','].intercalate (items.map (·.compact.toList)) ++ [']']) := by
  simp [Json.compact, Json.compactItems_eq_map, String.toList_intercalate, Function.comp_def]

theorem toList_compact_object (members : List (String × Json)) : (Json.object members).compact.toList
    = '\x7b' :: ([','].intercalate (members.map fun (name, value) =>
      (Json.quote name).toList ++ [':'] ++ value.compact.toList) ++ ['\x7d']) := by
  simp [Json.compact, Json.compactMembers_eq_map, String.toList_intercalate, Function.comp_def]

theorem exists_follows_compact {json : Json} {depth : Nat} (hjson : OfStrings depth json) :
    ∀ (s : Scanner) (rest : List Char), s.Calm → s.keys ≠ [] →
      s.cursor.rest = json.compact.toList ++ rest →
        ∃ s', s.Follows s' json.compact.toList (tokensOf json) ∧ s'.keys.length = s.keys.length := by
  induction hjson with
  | string hline =>
    intro s rest h hne hrest
    rcases exists_follows_string h hne hline hrest with ⟨s', hs', hkeys⟩
    rw [tokensOf]
    refine ⟨s', hs', ?_⟩
    rw [hkeys, length_keys_saved (fresh_keys_ne_nil hne), length_keys_fresh]
  | @array depth items hitems ih =>
    intro s rest h hne hrest
    have hbody : Scannable ([','].intercalate (items.map (·.compact.toList)))
        ([.flowEntry].intercalate (items.map tokensOf)) := by
      apply scannable_intercalate
      rw [List.forall₂_map_left_iff, List.forall₂_map_right_iff, List.forall₂_same]
      intro item hitem s rest h hdepth _ hrest
      exact ih item hitem s rest h (List.ne_nil_of_length_pos (by omega)) hrest
    rw [toList_compact_array] at hrest ⊢
    rw [tokensOf, itemTokens_eq_map]
    exact exists_follows_collection hbody (.inl ⟨rfl, rfl⟩) (.inl ⟨rfl, rfl⟩) h hne hrest
  | @object depth members hnames hvalues ih =>
    intro s rest h hne hrest
    have hbody : Scannable ([','].intercalate (members.map fun (name, value) =>
          (Json.quote name).toList ++ [':'] ++ value.compact.toList))
        ([.flowEntry].intercalate (members.map fun (name, value) =>
          [.key, .scalar name false, .value] ++ tokensOf value)) := by
      apply scannable_intercalate
      rw [List.forall₂_map_left_iff, List.forall₂_map_right_iff, List.forall₂_same]
      rintro ⟨name, value⟩ hmember s rest h hdepth hallowed hrest
      rw [List.append_assoc, List.append_assoc] at hrest
      rcases hnames _ hmember with ⟨hline, hlength⟩
      rcases exists_follows_name h hdepth hallowed hline hlength hrest with ⟨next, hnext, hnextKeys⟩
      have hvalue : next.cursor.rest = value.compact.toList ++ rest :=
        hnext.rest_eq (by rw [hrest, List.append_assoc])
      rcases ih _ hmember next rest hnext.calm (List.ne_nil_of_length_pos (by omega)) hvalue with
        ⟨last, hlast, hlastKeys⟩
      exact ⟨last, hnext.trans hlast, by omega⟩
    rw [toList_compact_object] at hrest ⊢
    rw [tokensOf, memberTokens_eq_map]
    exact exists_follows_collection hbody (.inr ⟨rfl, rfl⟩) (.inr ⟨rfl, rfl⟩) h hne hrest

theorem approach?_of_end (h : s.Calm) (hrest : s.cursor.rest = []) : s.approach? = some s.fresh := by
  have hskip : s.skipComment = s.cursor := by
    simp [skipComment, Cursor.isAt, Cursor.has, Cursor.peek?, Cursor.skipWhile, Cursor.span, hrest]
  have hnext : s.toNextToken (s.cursor.rest.length + 1) = s := by
    unfold toNextToken
    simp [hskip, Cursor.has, Cursor.peek?, hrest]
  unfold approach?
  rw [hnext, dropStaleKeys?_of_calm h]
  exact congrArg some (unroll_of_calm h.fresh (by omega))

theorem fetchEnd?_of_calm (h : s.Calm) (hne : s.keys ≠ []) :
    ∃ last, s.fetchEnd? = some last ∧ last.tokens = .streamEnd :: s.tokens := by
  rw [fetchEnd?, unroll_of_calm h le_rfl, removeKey?_of_calm h hne]
  exact ⟨_, rfl, rfl⟩

end Scanner

theorem ofChars?_compact {json : Json} {depth : Nat} (hjson : OfStrings depth json) :
    Token.ofChars? json.compact.toList = some (tokensOf json ++ [.streamEnd]) := by
  have hcalm : (Scanner.start json.compact.toList).Calm := ⟨rfl, by simp [Scanner.start]⟩
  have hrest : (Scanner.start json.compact.toList).cursor.rest = json.compact.toList ++ [] := by
    simp [Scanner.start, Cursor.start]
  rcases Scanner.exists_follows_compact hjson _ [] hcalm (by simp [Scanner.start]) hrest with
    ⟨s, hs, hkeys⟩
  have hend := hs.rest_eq hrest
  have hne : s.fresh.keys ≠ [] :=
    Scanner.fresh_keys_ne_nil (List.ne_nil_of_length_pos (by simp [hkeys, Scanner.start]))
  rcases Scanner.fetchEnd?_of_calm hs.calm.fresh hne with ⟨last, hlast, htokens⟩
  have htext : last.tokens.reverse = tokensOf json ++ [.streamEnd] := by
    rw [htokens, List.reverse_cons, show s.fresh.tokens = s.tokens from rfl, hs.tokens]
    simp [Scanner.start]
  rw [Token.ofChars?_eq_some_iff, ← htext]
  apply Scanner.Scans.of_steps hs.steps
  exact .finish (Scanner.approach?_of_end hs.calm hend)
    (by simp [Cursor.peek?, Scanner.fresh, hend]) hlast

end MessageAbi.Yaml
