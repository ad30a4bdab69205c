import Mathlib
import MessageAbi.Proofs.Word
import MessageAbi.Proofs.Yaml.JsonTokens
import MessageAbi.Yaml.Tree

/-!
This module contains that the text of JSON is a YAML document for the same tree, if all its scalars
are strings.
-/

namespace MessageAbi.Yaml

mutual

def nodeOf : Json → Node
  | .string s => .scalar none none s false
  | .array items => .sequence none none (itemNodes items)
  | .object members => .mapping none none (memberNodes members)
  | _ => Grammar.absent

def itemNodes : List Json → List Node
  | [] => []
  | item :: items => nodeOf item :: itemNodes items

def memberNodes : List (String × Json) → List (Node × Node)
  | [] => []
  | (name, value) :: members =>
    (.scalar none none name false, nodeOf value) :: memberNodes members

end

namespace Grammar

theorem run_peek (g : Grammar) : peek.run g = some (g.tokens.headD .streamEnd, g) :=
  rfl

theorem run_skip (g : Grammar) : skip.run g = some ((), { g with tokens := g.tokens.tail }) :=
  rfl

/--
That a rule takes tokens, whatever stands behind them.
-/
def Parses {α : Type} (rule : Rule α) (tokens : List Token) (result : α) : Prop :=
  ∀ (rest : List Token) (handles : List (String × String)) (anchors : List (String × Nat)),
    rule.run ⟨tokens ++ rest, handles, anchors⟩ = some (result, ⟨rest, handles, anchors⟩)

variable {α β : Type} {rest : List Token} {handles : List (String × String)}
  {anchors : List (String × Nat)}

theorem Parses.bind {rule : Rule α} {f : α → Rule β} {tokens others : List Token} {a : α} {b : β}
    (h : Parses rule tokens a) (h' : Parses (f a) others b) :
    Parses (rule >>= f) (tokens ++ others) b := by
  intro rest handles anchors
  rw [StateT.run_bind, List.append_assoc, h]
  exact h' rest handles anchors

theorem Parses.map {rule : Rule α} {f : α → β} {tokens : List Token} {a : α}
    (h : Parses rule tokens a) : Parses (do return f (← rule)) tokens (f a) := by
  have hpure : Parses (pure (f a)) [] (f a) := fun _ _ _ => rfl
  have hbind := h.bind (f := fun a => pure (f a)) hpure
  rwa [List.append_nil] at hbind

theorem parses_string (inBlock mayBeFlush : Bool) (fuel : Nat) (s : String) :
    Parses (node inBlock mayBeFlush (fuel + 1)) [.scalar s false] (.scalar none none s false) := by
  intro rest handles anchors
  unfold node
  simp [run_peek, run_skip, properties]

theorem parses_sequence {fuel : Nat} {tokens : List Token} {items : List Node}
    (h : Parses (flowItems true fuel) tokens items) (inBlock mayBeFlush : Bool) :
    Parses (node inBlock mayBeFlush (fuel + 1)) (.flowSequenceStart :: tokens)
      (.sequence none none items) := by
  intro rest handles anchors
  unfold node
  simp [run_peek, run_skip, properties, h rest handles anchors]

theorem parses_mapping {fuel : Nat} {tokens : List Token} {entries : List (Node × Node)}
    (h : Parses (flowEntries true fuel) tokens entries) (inBlock mayBeFlush : Bool) :
    Parses (node inBlock mayBeFlush (fuel + 1)) (.flowMappingStart :: tokens)
      (.mapping none none entries) := by
  intro rest handles anchors
  unfold node
  simp [run_peek, run_skip, properties, h rest handles anchors]

/--
The tokens that the nodes of JSON start with.
-/
inductive StartsNode : List Token → Prop where
  | scalar (s : String) (tokens : List Token) : StartsNode (.scalar s false :: tokens)
  | sequence (tokens : List Token) : StartsNode (.flowSequenceStart :: tokens)
  | mapping (tokens : List Token) : StartsNode (.flowMappingStart :: tokens)

/--
What stands in front of an entry of a flow collection.
-/
def separator (isFirst : Bool) : List Token :=
  if isFirst then [] else [.flowEntry]

theorem parses_flowItems_nil (isFirst : Bool) (fuel : Nat) :
    Parses (flowItems isFirst (fuel + 1)) [.flowSequenceEnd] [] := by
  intro rest handles anchors
  unfold flowItems
  simp [run_peek, run_skip]

theorem parses_flowItems_cons {isFirst : Bool} {fuel : Nat} {tokens others : List Token}
    {item : Node} {items : List Node} (hstart : StartsNode tokens)
    (hitem : Parses (node false false fuel) tokens item)
    (hitems : Parses (flowItems false fuel) others items) :
    Parses (flowItems isFirst (fuel + 1)) (separator isFirst ++ (tokens ++ others))
      (item :: items) := by
  have hboth : Parses (do
      let item ← node false false fuel
      return item :: (← flowItems false fuel)) (tokens ++ others) (item :: items) :=
    hitem.bind hitems.map
  intro rest handles anchors
  have hrun := hboth rest handles anchors
  unfold flowItems
  cases hstart <;> cases isFirst <;> simpa [run_peek, run_skip, separator, expect] using hrun

theorem parses_nodeUnless {endings tokens : List Token} {fuel : Nat} {result : Node}
    (hstart : StartsNode tokens) (hendings : endings ⊆ [.value, .flowEntry, .flowMappingEnd])
    (h : Parses (node false false fuel) tokens result) :
    Parses (nodeUnless endings false false (fuel + 1)) tokens result := by
  have hnot : ∀ token ∈ endings, token ∈ [Token.value, .flowEntry, .flowMappingEnd] := hendings
  intro rest handles anchors
  have hrun := h rest handles anchors
  unfold nodeUnless
  cases hstart with
  | scalar s tokens =>
    have hscalar : Token.scalar s false ∉ endings := fun hmem => by simpa using hnot _ hmem
    simpa [run_peek, hscalar] using hrun
  | sequence tokens =>
    have hsequence : Token.flowSequenceStart ∉ endings := fun hmem => by simpa using hnot _ hmem
    simpa [run_peek, hsequence] using hrun
  | mapping tokens =>
    have hmapping : Token.flowMappingStart ∉ endings := fun hmem => by simpa using hnot _ hmem
    simpa [run_peek, hmapping] using hrun

theorem parses_flowValue {tokens : List Token} {fuel : Nat} {result : Node}
    (hstart : StartsNode tokens) (h : Parses (node false false fuel) tokens result) :
    Parses (flowValue .flowMappingEnd (fuel + 2)) (.value :: tokens) result := by
  intro rest handles anchors
  have hrun := parses_nodeUnless hstart
    (show [Token.flowEntry, .flowMappingEnd] ⊆ [Token.value, .flowEntry, .flowMappingEnd] by simp) h
    rest handles anchors
  unfold flowValue
  simpa [run_peek, run_skip] using hrun

theorem parses_flowEntries_nil (isFirst : Bool) (fuel : Nat) :
    Parses (flowEntries isFirst (fuel + 1)) [.flowMappingEnd] [] := by
  intro rest handles anchors
  unfold flowEntries
  simp [run_peek, run_skip]

theorem parses_flowEntries_cons {isFirst : Bool} {fuel : Nat} {tokens others : List Token}
    {name : String} {value : Node} {entries : List (Node × Node)} (hstart : StartsNode tokens)
    (hvalue : Parses (node false false fuel) tokens value)
    (hentries : Parses (flowEntries false (fuel + 2)) others entries) :
    Parses (flowEntries isFirst (fuel + 3))
      (separator isFirst ++ (.key :: .scalar name false :: .value :: tokens ++ others))
      ((.scalar none none name false, value) :: entries) := by
  have hname : Parses (nodeUnless [.value, .flowEntry, .flowMappingEnd] false false (fuel + 2))
      [.scalar name false] (.scalar none none name false) :=
    parses_nodeUnless (.scalar name []) (List.Subset.refl _) (parses_string false false fuel name)
  have hentry : Parses (do
      let key ← nodeUnless [.value, .flowEntry, .flowMappingEnd] false false (fuel + 2)
      let value ← flowValue .flowMappingEnd (fuel + 2)
      return (key, value) :: (← flowEntries false (fuel + 2)))
      ([.scalar name false] ++ (.value :: tokens ++ others))
      ((.scalar none none name false, value) :: entries) :=
    hname.bind ((parses_flowValue hstart hvalue).bind hentries.map)
  intro rest handles anchors
  have hrun := hentry rest handles anchors
  unfold flowEntries
  cases isFirst <;> simpa [run_peek, run_skip, separator, expect] using hrun

theorem startsNode_tokensOf {depth : Nat} {json : Json} (h : OfStrings depth json) :
    StartsNode (tokensOf json) := by
  cases h with
  | string _ =>
    rw [tokensOf]
    exact .scalar _ _
  | array _ =>
    rw [tokensOf]
    exact .sequence _
  | object _ _ =>
    rw [tokensOf]
    exact .mapping _

def joined : (isFirst : Bool) → List (List Token) → List Token
  | _, [] => []
  | isFirst, part :: parts => separator isFirst ++ (part ++ joined false parts)

theorem joined_true (parts : List (List Token)) :
    joined true parts = [.flowEntry].intercalate parts := by
  induction parts with
  | nil => rfl
  | cons part parts ih =>
    cases parts with
    | nil => simp [joined, separator]
    | cons next parts =>
      rw [List.intercalate_cons_cons, ← ih]
      simp [joined, separator]

/--
That JSON is parsed with enough fuel.
-/
def NodeParses (json : Json) : Prop :=
  StartsNode (tokensOf json) ∧ ∀ fuel, 4 * (tokensOf json).length ≤ fuel →
    ∀ inBlock mayBeFlush, Parses (node inBlock mayBeFlush fuel) (tokensOf json) (nodeOf json)

theorem StartsNode.length_pos {tokens : List Token} (h : StartsNode tokens) : 0 < tokens.length := by
  cases h <;> simp

theorem parses_flowItems {items : List Json} (hitems : ∀ item ∈ items, NodeParses item)
    {isFirst : Bool} {fuel : Nat}
    (hfuel : 4 * (joined isFirst (items.map tokensOf)).length < fuel) :
    Parses (flowItems isFirst fuel) (joined isFirst (items.map tokensOf) ++ [.flowSequenceEnd])
      (items.map nodeOf) := by
  induction items generalizing isFirst fuel with
  | nil =>
    rcases fuel with _ | fuel
    . contradiction
    . exact parses_flowItems_nil isFirst fuel
  | cons item items ih =>
    rcases fuel with _ | fuel
    . contradiction
    rw [List.forall_mem_cons] at hitems
    rcases hitems with ⟨⟨hstart, hitem⟩, hitems⟩
    have hpos := hstart.length_pos
    simp only [List.map_cons, joined, List.length_append] at hfuel
    rw [List.map_cons, List.map_cons, joined, List.append_assoc, List.append_assoc]
    exact parses_flowItems_cons hstart (hitem fuel (by omega) false false)
      (ih hitems (by omega))

theorem parses_flowEntries {members : List (String × Json)}
    (hmembers : ∀ member ∈ members, NodeParses member.2) {isFirst : Bool} {fuel : Nat}
    (hfuel : 4 * (joined isFirst (memberTokens members)).length < fuel) :
    Parses (flowEntries isFirst fuel) (joined isFirst (memberTokens members) ++ [.flowMappingEnd])
      (memberNodes members) := by
  induction members generalizing isFirst fuel with
  | nil =>
    rcases fuel with _ | fuel
    . contradiction
    . exact parses_flowEntries_nil isFirst fuel
  | cons member members ih =>
    rw [List.forall_mem_cons] at hmembers
    rcases hmembers with ⟨⟨hstart, hvalue⟩, hmembers⟩
    simp only [memberTokens, joined, List.length_append, List.length_cons] at hfuel
    obtain ⟨fuel, rfl⟩ : ∃ count, fuel = count + 3 := ⟨fuel - 3, by omega⟩
    rw [memberTokens, memberNodes, joined, List.append_assoc, List.append_assoc]
    exact parses_flowEntries_cons hstart (hvalue fuel (by omega) false false)
      (ih hmembers (by omega))

theorem itemNodes_eq_map (items : List Json) : itemNodes items = items.map nodeOf := by
  induction items with
  | nil => rfl
  | cons item items ih => rw [itemNodes, ih, List.map_cons]

theorem nodeParses {depth : Nat} {json : Json} (h : OfStrings depth json) : NodeParses json := by
  refine ⟨startsNode_tokensOf h, ?_⟩
  induction h with
  | string _ =>
    intro fuel hfuel inBlock mayBeFlush
    rw [tokensOf, List.length_singleton] at hfuel
    rw [tokensOf, nodeOf]
    obtain ⟨fuel, rfl⟩ : ∃ count, fuel = count + 1 := ⟨fuel - 1, by omega⟩
    exact parses_string inBlock mayBeFlush fuel _
  | @array depth items hitems ih =>
    intro fuel hfuel inBlock mayBeFlush
    rw [tokensOf, Scanner.itemTokens_eq_map, ← joined_true] at hfuel ⊢
    rw [nodeOf, itemNodes_eq_map]
    simp only [List.length_cons, List.length_append, List.length_nil] at hfuel
    obtain ⟨fuel, rfl⟩ : ∃ count, fuel = count + 1 := ⟨fuel - 1, by omega⟩
    have hparses : ∀ item ∈ items, NodeParses item :=
      fun item hitem => ⟨startsNode_tokensOf (hitems item hitem), ih item hitem⟩
    exact parses_sequence (parses_flowItems hparses (by omega)) inBlock mayBeFlush
  | @object depth members hnames hvalues ih =>
    intro fuel hfuel inBlock mayBeFlush
    rw [tokensOf, ← joined_true] at hfuel ⊢
    rw [nodeOf]
    simp only [List.length_cons, List.length_append, List.length_nil] at hfuel
    obtain ⟨fuel, rfl⟩ : ∃ count, fuel = count + 1 := ⟨fuel - 1, by omega⟩
    have hparses : ∀ member ∈ members, NodeParses member.2 :=
      fun member hmember => ⟨startsNode_tokensOf (hvalues member hmember), ih member hmember⟩
    exact parses_mapping (parses_flowEntries hparses (by omega)) inBlock mayBeFlush

theorem run_directives {tokens : List Token} (hstart : StartsNode tokens) (fuel : Nat) :
    (directives (fuel + 1) false []).run ⟨tokens ++ rest, handles, anchors⟩
      = some ([], ⟨tokens ++ rest, handles, anchors⟩) := by
  unfold directives
  cases hstart <;> simp [run_peek]

theorem run_document {tokens : List Token} {root : Node} {fuel : Nat} (hstart : StartsNode tokens)
    (h : Parses (node true false (fuel + 1)) tokens root) :
    (document (fuel + 1)).run ⟨tokens ++ [.streamEnd], [], []⟩
      = some (some root, ⟨[.streamEnd], defaultHandles, []⟩) := by
  have hdirectives : (directives (fuel + 1) false []).run ⟨tokens ++ [.streamEnd], [], []⟩
      = some ([], ⟨tokens ++ [.streamEnd], [], []⟩) := run_directives hstart fuel
  have hroot := h [.streamEnd] defaultHandles []
  unfold document
  cases hstart <;> rw [List.cons_append] at hdirectives hroot ⊢ <;>
    simp [run_peek, hdirectives, hroot, isContentEnd]

theorem run_stream {tokens : List Token} {root : Node} {fuel : Nat} (hstart : StartsNode tokens)
    (h : Parses (node true false (fuel + 1)) tokens root) :
    (stream (fuel + 1)).run' ⟨tokens ++ [.streamEnd], [], []⟩ = some (some root) := by
  unfold stream
  simp [StateT.run'_eq, run_document hstart h, skipEnds, run_peek, run_skip, expect]

end Grammar

theorem ofTokens?_tokensOf {depth : Nat} {json : Json} (h : OfStrings depth json) :
    Node.ofTokens? (tokensOf json ++ [.streamEnd]) = some (some (nodeOf json)) := by
  rcases Grammar.nodeParses h with ⟨hstart, hparses⟩
  apply Grammar.run_stream hstart
  apply hparses
  rw [List.length_append]
  omega

mutual

def treeOf : Json → Tree
  | .string s => .scalar ⟨none, s, false⟩
  | .array items => .sequence none (itemTrees items)
  | .object members => .mapping none (memberEntries members)
  | _ => .scalar ⟨none, "", true⟩

def itemTrees : List Json → List Tree
  | [] => []
  | item :: items => treeOf item :: itemTrees items

def memberEntries : List (String × Json) → List Entry
  | [] => []
  | (name, value) :: members =>
    ⟨.scalar ⟨none, name, false⟩, some name, treeOf value⟩ :: memberEntries members

end

namespace Tree

theorem itemTrees_eq_map (items : List Json) : itemTrees items = items.map treeOf := by
  induction items with
  | nil => rfl
  | cons item items ih => rw [itemTrees, ih, List.map_cons]

theorem run_mapM {α β : Type} {f : α → StateT Nat Option β} {g : α → β} {as : List α} {count : Nat}
    (h : ∀ a ∈ as, (f a).run count = some (g a, count)) :
    (as.mapM f).run count = some (as.map g, count) := by
  induction as with
  | nil => rfl
  | cons a as ih =>
    rw [List.forall_mem_cons] at h
    simp [h.1, ih h.2]

variable {anchored : List (Nat × Node)} {limit depth count : Nat} {anchor : Option Nat}
  {tag : Option String}

theorem run_expand_scalar (text : String) (isPlain : Bool) :
    (expand anchored limit depth (.scalar anchor tag text isPlain)).run count
      = some (.scalar ⟨tag, text, isPlain⟩, count) := by
  cases depth <;> rfl

theorem run_expand_sequence {items : List Node} {trees : List Tree}
    (h : (items.mapM (expand anchored limit depth)).run count = some (trees, count)) :
    (expand anchored limit (depth + 1) (.sequence anchor tag items)).run count
      = some (.sequence tag trees, count) := by
  unfold expand
  simp [contentOf, h]

theorem memberNodes_eq_map (members : List (String × Json)) :
    memberNodes members = members.map fun (name, value) =>
      (.scalar none none name false, nodeOf value) := by
  induction members with
  | nil => rfl
  | cons member members ih =>
    rw [memberNodes, ih]
    rfl

theorem memberEntries_eq_map (members : List (String × Json)) :
    memberEntries members = members.map fun (name, value) =>
      ⟨.scalar ⟨none, name, false⟩, some name, treeOf value⟩ := by
  induction members with
  | nil => rfl
  | cons member members ih =>
    rw [memberEntries, ih]
    rfl

theorem run_expand_mapping {members : List (String × Json)}
    (h : ∀ member ∈ members,
      (expand anchored limit depth (nodeOf member.2)).run count = some (treeOf member.2, count)) :
    (expand anchored limit (depth + 1) (.mapping anchor tag (memberNodes members))).run count
      = some (.mapping tag (memberEntries members), count) := by
  have hentries : ((memberNodes members).mapM fun entry => (do
      let key ← expand anchored limit depth entry.1
      Entry.mk key (labelOf entry.1) <$> expand anchored limit depth entry.2
        : StateT Nat Option Entry)).run count = some (memberEntries members, count) := by
    rw [memberNodes_eq_map, memberEntries_eq_map, List.mapM_map]
    apply run_mapM
    rintro ⟨name, value⟩ hmember
    have hvalue := h _ hmember
    simp [run_expand_scalar, labelOf, hvalue]
  unfold expand
  simp [contentOf, hentries]

theorem run_expand {json : Json} (h : OfStrings depth json) :
    (expand anchored limit depth (nodeOf json)).run count = some (treeOf json, count) := by
  induction h with
  | string _ =>
    rw [nodeOf, treeOf]
    exact run_expand_scalar _ _
  | array hitems ih =>
    rw [nodeOf, treeOf, Grammar.itemNodes_eq_map, itemTrees_eq_map]
    apply run_expand_sequence
    rw [List.mapM_map]
    exact run_mapM ih
  | object hnames hvalues ih =>
    rw [nodeOf, treeOf]
    exact run_expand_mapping ih

end Tree

theorem ofNode?_nodeOf {json : Json} (h : OfStrings Tree.maxDepth json) :
    Tree.ofNode? (nodeOf json) = some (treeOf json) := by
  rw [Tree.ofNode?, StateT.run'_eq, Tree.run_expand h]
  rfl

theorem forall_mem_intercalate {α : Type} {p : α → Prop} {separator : List α} {parts : List (List α)}
    (hseparator : ∀ a ∈ separator, p a) (hparts : ∀ part ∈ parts, ∀ a ∈ part, p a) :
    ∀ a ∈ separator.intercalate parts, p a := by
  induction parts with
  | nil => simp
  | cons part parts ih =>
    rw [List.forall_mem_cons] at hparts
    cases parts with
    | nil => simpa using hparts.1
    | cons next parts =>
      rw [List.intercalate_cons_cons, List.forall_mem_append, List.forall_mem_append]
      exact ⟨⟨hparts.1, hseparator⟩, ih hparts.2⟩

theorem isAllowed_quote {s : String} (hline : ∀ c ∈ s.toList, InLine c) :
    ∀ c ∈ (Json.quote s).toList, isAllowed c = true := by
  rw [Scanner.toList_quote, List.forall_mem_cons, List.forall_mem_append, List.forall_mem_singleton]
  refine ⟨by decide, ?_, by decide⟩
  intro c hc
  rcases List.mem_flatMap.mp hc with ⟨d, hd, hescape⟩
  exact (hline d hd c hescape).1

theorem isAllowed_compact {depth : Nat} {json : Json} (h : OfStrings depth json) :
    ∀ c ∈ json.compact.toList, isAllowed c = true := by
  induction h with
  | string hline => exact isAllowed_quote hline
  | array hitems ih =>
    rw [Scanner.toList_compact_array, List.forall_mem_cons, List.forall_mem_append,
      List.forall_mem_singleton]
    refine ⟨by decide, forall_mem_intercalate (List.forall_mem_singleton.mpr (by decide)) ?_,
      by decide⟩
    simpa using ih
  | object hnames hvalues ih =>
    rw [Scanner.toList_compact_object, List.forall_mem_cons, List.forall_mem_append,
      List.forall_mem_singleton]
    refine ⟨by decide, forall_mem_intercalate (List.forall_mem_singleton.mpr (by decide)) ?_,
      by decide⟩
    rw [List.forall_mem_map]
    rintro ⟨name, value⟩ hmember
    rw [List.forall_mem_append, List.forall_mem_append, List.forall_mem_singleton]
    exact ⟨⟨isAllowed_quote (hnames _ hmember).1, by decide⟩, ih _ hmember⟩

/--
The text of JSON is a YAML document for the same tree.
-/
theorem Stream.ofBytes_compact {json : Json} (h : OfStrings Tree.maxDepth json) :
    Stream.ofBytes json.compact.toUTF8.data.toList = .document (treeOf json) := by
  have hchars : chars? json.compact.toUTF8.data.toList = some json.compact.toList := by
    have hall : json.compact.toList.all isAllowed = true :=
      List.all_eq_true.mpr (isAllowed_compact h)
    rw [chars?, fromUTF8?_toUTF8]
    exact if_pos hall
  unfold Stream.ofBytes
  rw [hchars, Option.bind_some, ofChars?_compact h, Option.bind_some, ofTokens?_tokensOf h]
  dsimp only
  rw [ofNode?_nodeOf h]

end MessageAbi.Yaml
