import MessageAbi.Yaml.Token

/-!
This module contains the nodes of a YAML document as they are written, with anchors and aliases, and
the grammar by which tokens form nodes.
-/

namespace MessageAbi.Yaml

/--
A node as written. Anchors and aliases go by numbers. The number of an anchor is that of the
different anchor names in front of it, so two anchors may share one; the later node counts.
-/
inductive Node where
  | aliasOf (anchor : Nat)
  | scalar (anchor : Option Nat) (tag : Option String) (text : String) (isPlain : Bool)
  | sequence (anchor : Option Nat) (tag : Option String) (items : List Node)
  | mapping (anchor : Option Nat) (tag : Option String) (entries : List (Node × Node))

namespace Node

mutual

/--
Number of parse events of a node: one for an alias or a scalar, and the start and the end of a
collection.
-/
def eventCount : Node → Nat
  | aliasOf _ | scalar .. => 1
  | sequence _ _ items => 2 + itemEventCount items
  | mapping _ _ entries => 2 + entryEventCount entries

def itemEventCount : List Node → Nat
  | [] => 0
  | item :: items => item.eventCount + itemEventCount items

def entryEventCount : List (Node × Node) → Nat
  | [] => 0
  | (key, value) :: entries => key.eventCount + value.eventCount + entryEventCount entries

end

mutual

def anchored : Node → List (Nat × Node)
  | aliasOf _ => []
  | node@(scalar anchor _ _ _) => anchor.toList.map (·, node)
  | node@(sequence anchor _ items) => anchor.toList.map (·, node) ++ anchoredItems items
  | node@(mapping anchor _ entries) => anchor.toList.map (·, node) ++ anchoredEntries entries

def anchoredItems : List Node → List (Nat × Node)
  | [] => []
  | item :: items => item.anchored ++ anchoredItems items

def anchoredEntries : List (Node × Node) → List (Nat × Node)
  | [] => []
  | (key, value) :: entries => key.anchored ++ value.anchored ++ anchoredEntries entries

end

end Node

structure Grammar where
  tokens : List Token
  handles : List (String × String)
  anchors : List (String × Nat)

namespace Grammar

abbrev Rule (α : Type) := StateT Grammar Option α

def peek : Rule Token := do
  return (← get).tokens.headD .streamEnd

def skip : Rule Unit :=
  modify fun g => { g with tokens := g.tokens.tail }

def expect (token : Token) : Rule Unit := do
  if (← peek) = token then skip else failure

def absent : Node :=
  .scalar none none "" true

def nameAnchor (name : String) : Rule Nat := do
  let g ← get
  let number := (g.anchors.map (·.1)).eraseDups.length
  set { g with anchors := (name, number) :: g.anchors }
  return number

def resolveTag (handle suffix : String) : Rule String := do
  if handle.isEmpty then return suffix
  let some expansion := (← get).handles.lookup handle | failure
  return expansion ++ suffix

def properties : Rule (Option String × Option String) := do
  match ← peek with
  | .anchor name =>
    skip
    match ← peek with
    | .tag handle suffix => skip; return (some name, some (← resolveTag handle suffix))
    | _ => return (some name, none)
  | .tag handle suffix =>
    skip
    match ← peek with
    | .anchor name => skip; return (some name, some (← resolveTag handle suffix))
    | _ => return (none, some (← resolveTag handle suffix))
  | _ => return (none, none)

mutual

/--
A node. Block collections stand only where `inBlock` holds, and a sequence without an indentation of
its own only where `mayBeFlush` holds.
-/
def node (inBlock mayBeFlush : Bool) : (fuel : Nat) → Rule Node
  | 0 => failure
  | fuel + 1 => do
    if let .aliasOf name ← peek then
      skip
      let some number := (← get).anchors.lookup name | failure
      return .aliasOf number
    let (anchorName, tag) ← properties
    let anchor ← anchorName.mapM nameAnchor
    match ← peek with
    | .scalar text isPlain =>
      skip
      -- a lone exclamation mark in front of a scalar says nothing
      return .scalar anchor (tag.filter (· ≠ "!")) text isPlain
    | .flowSequenceStart => skip; return .sequence anchor tag (← flowItems true fuel)
    | .flowMappingStart => skip; return .mapping anchor tag (← flowEntries true fuel)
    | token =>
      if mayBeFlush && token = .blockEntry then
        return .sequence anchor tag (← flushItems fuel)
      else if inBlock && token = .blockSequenceStart then
        skip
        return .sequence anchor tag (← blockItems fuel)
      else if inBlock && token = .blockMappingStart then
        skip
        return .mapping anchor tag (← blockEntries fuel)
      else if anchor.isSome || tag.isSome then
        return .scalar anchor tag "" true
      else failure

def blockItems : (fuel : Nat) → Rule (List Node)
  | 0 => failure
  | fuel + 1 => do
    match ← peek with
    | .blockEntry =>
      skip
      let item ← nodeUnless [.blockEntry, .blockEnd] true false fuel
      return item :: (← blockItems fuel)
    | .blockEnd => skip; return []
    | _ => failure

/--
The items of a sequence that is indented no further than the mapping around it.
-/
def flushItems : (fuel : Nat) → Rule (List Node)
  | 0 => failure
  | fuel + 1 => do
    if (← peek) = .blockEntry then
      skip
      let item ← nodeUnless [.blockEntry, .key, .value, .blockEnd] true false fuel
      return item :: (← flushItems fuel)
    else
      return []

def blockEntries : (fuel : Nat) → Rule (List (Node × Node))
  | 0 => failure
  | fuel + 1 => do
    match ← peek with
    | .key =>
      skip
      let key ← nodeUnless [.key, .value, .blockEnd] true true fuel
      let value ← blockValue fuel
      return (key, value) :: (← blockEntries fuel)
    | .blockEnd => skip; return []
    | _ => failure

def blockValue : (fuel : Nat) → Rule Node
  | 0 => failure
  | fuel + 1 => do
    if (← peek) = .value then
      skip
      nodeUnless [.key, .value, .blockEnd] true true fuel
    else
      return absent

def flowItems (isFirst : Bool) : (fuel : Nat) → Rule (List Node)
  | 0 => failure
  | fuel + 1 => do
    if (← peek) = .flowSequenceEnd then
      skip
      return []
    if !isFirst then expect .flowEntry
    match ← peek with
    | .flowSequenceEnd => skip; return []
    | .key =>
      skip
      let key ← flowPairKey fuel
      let value ← flowValue .flowSequenceEnd fuel
      return .mapping none none [(key, value)] :: (← flowItems false fuel)
    | _ =>
      let item ← node false false fuel
      return item :: (← flowItems false fuel)

/--
The key of a mapping of one entry in a flow sequence. Where it is missing, the token that shows this
is passed over.
-/
def flowPairKey : (fuel : Nat) → Rule Node
  | 0 => failure
  | fuel + 1 => do
    if (← peek) ∈ [.value, .flowEntry, .flowSequenceEnd] then
      skip
      return absent
    else
      node false false fuel

def flowEntries (isFirst : Bool) : (fuel : Nat) → Rule (List (Node × Node))
  | 0 => failure
  | fuel + 1 => do
    if (← peek) = .flowMappingEnd then
      skip
      return []
    if !isFirst then expect .flowEntry
    match ← peek with
    | .flowMappingEnd => skip; return []
    | .key =>
      skip
      let key ← nodeUnless [.value, .flowEntry, .flowMappingEnd] false false fuel
      let value ← flowValue .flowMappingEnd fuel
      return (key, value) :: (← flowEntries false fuel)
    | _ =>
      let key ← node false false fuel
      return (key, absent) :: (← flowEntries false fuel)

def flowValue (ending : Token) : (fuel : Nat) → Rule Node
  | 0 => failure
  | fuel + 1 => do
    if (← peek) = .value then
      skip
      nodeUnless [.flowEntry, ending] false false fuel
    else
      return absent

def nodeUnless (tokens : List Token) (inBlock mayBeFlush : Bool) : (fuel : Nat) → Rule Node
  | 0 => failure
  | fuel + 1 => do
    if (← peek) ∈ tokens then return absent else node inBlock mayBeFlush fuel

end

def defaultHandles : List (String × String) :=
  [("!", "!"), ("!!", "tag:yaml.org,2002:")]

/--
The directives in front of a document. There is at most one version, 1.1 or 1.2, and at most one
directive for each tag handle. The handles are given back, and whether there was a directive.
-/
def directives : (fuel : Nat) → (hasVersion : Bool) → (handles : List (String × String)) →
    Rule (List (String × String))
  | 0, _, _ => failure
  | fuel + 1, hasVersion, handles => do
    match ← peek with
    | .version major minor =>
      if hasVersion || major ≠ 1 || !(minor ∈ [1, 2]) then failure
      skip
      directives fuel true handles
    | .tagHandle handle expansion =>
      if (handles.lookup handle).isSome then failure
      skip
      directives fuel hasVersion (handles ++ [(handle, expansion)])
    | _ => return handles

def isContentEnd : Token → Bool
  | .version .. | .tagHandle .. | .documentStart | .documentEnd | .streamEnd => true
  | _ => false

def document (fuel : Nat) : Rule (Option Node) := do
  let first ← peek
  if first = .streamEnd then return none
  let handles ← directives fuel false []
  modify fun g => { g with handles := handles ++ defaultHandles }
  match ← peek with
  | .documentStart =>
    skip
    if isContentEnd (← peek) then return some absent
    return some (← node true false fuel)
  | _ =>
    if isContentEnd first then failure
    return some (← node true false fuel)

def skipEnds : (fuel : Nat) → Rule Unit
  | 0 => failure
  | fuel + 1 => do
    if (← peek) = .documentEnd then
      skip
      skipEnds fuel
    else return ()

def stream (fuel : Nat) : Rule (Option Node) := do
  let root ← document fuel
  if root.isSome then skipEnds fuel
  expect .streamEnd
  return root

end Grammar

/--
The document that tokens form, if they form at most one; nothing in it for a stream without a
document.
-/
def Node.ofTokens? (tokens : List Token) : Option (Option Node) :=
  (Grammar.stream (8 * tokens.length + 8)).run' ⟨tokens, [], []⟩

end MessageAbi.Yaml
