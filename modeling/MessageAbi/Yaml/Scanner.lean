import MessageAbi.Yaml.Property
import MessageAbi.Yaml.ScalarText

/-!
This module contains the division of a YAML stream into tokens. Indentation opens and closes block
collections; a mapping key that has no indicator of its own is only known as a key when its colon is
reached, and its token is then put in front of it.
-/

namespace MessageAbi.Yaml

/--
A place where a key without an indicator may have started.
-/
structure SimpleKey where
  isRequired : Bool
  tokenCount : Nat
  index : Nat
  line : Nat
  column : Nat

structure Scanner where
  cursor : Cursor
  tokens : List Token
  indent : Int
  outerIndents : List Int
  /--
  The possible key of the block collections and of each open flow collection, innermost first.
  -/
  keys : List (Option SimpleKey)
  keyAllowed : Bool

namespace Scanner

def start (chars : List Char) : Scanner :=
  ⟨.start chars, [], -1, [], [none], true⟩

def isFlow (s : Scanner) : Bool :=
  s.keys.length > 1

def push (s : Scanner) (token : Token) : Scanner :=
  { s with tokens := token :: s.tokens }

def insertAt (s : Scanner) (count : Nat) (token : Token) : Scanner :=
  let later := s.tokens.length - count
  { s with tokens := s.tokens.take later ++ token :: s.tokens.drop later }

/--
The place behind blanks and a comment. In block collections, tabs are no indentation.
-/
def skipComment (s : Scanner) : Cursor :=
  let cursor :=
    if s.cursor.index = 0 && s.cursor.isAt '\ufeff' then s.cursor.skip else s.cursor
  let cursor := cursor.skipWhile fun c => c == ' ' || (c == '\t' && (s.isFlow || !s.keyAllowed))
  if cursor.isAt '#' then cursor.skipWhile (!isBreak ·) else cursor

/--
Skips blanks, comments and line breaks. In block collections, a new line may start a key.
-/
def toNextToken : (fuel : Nat) → Scanner → Scanner
  | 0, s => s
  | fuel + 1, s =>
    let cursor := s.skipComment
    if cursor.has 0 isBreak then
      toNextToken fuel
        { s with cursor := cursor.skipBreak, keyAllowed := s.keyAllowed || !s.isFlow }
    else
      { s with cursor }

/--
Gives up possible keys that are in an earlier line or more than 1024 characters back.
-/
def dropStaleKeys? (s : Scanner) : Option Scanner := do
  let keys ← s.keys.mapM fun key? =>
    match key? with
    | none => some none
    | some key =>
      if key.line < s.cursor.line || key.index + 1024 < s.cursor.index then
        if key.isRequired then none else some none
      else some (some key)
  return { s with keys }

def setKey? (s : Scanner) (key? : Option SimpleKey) : Option Scanner :=
  match s.keys with
  | some key :: keys => if key.isRequired then none else some { s with keys := key? :: keys }
  | _ :: keys => some { s with keys := key? :: keys }
  | [] => none

def removeKey? (s : Scanner) : Option Scanner :=
  s.setKey? none

def saveKey? (s : Scanner) : Option Scanner :=
  if s.keyAllowed then
    let isRequired := !s.isFlow && s.indent = s.cursor.column
    s.setKey? (some
      ⟨isRequired, s.tokens.length, s.cursor.index, s.cursor.line, s.cursor.column⟩)
  else some s

def unroll (s : Scanner) (column : Int) : Scanner :=
  if s.isFlow then s else go s.outerIndents s
where
  go : List Int → Scanner → Scanner
    | [], s => s
    | outer :: outers, s =>
      if s.indent > column then
        go outers { s.push .blockEnd with indent := outer, outerIndents := outers }
      else s

/--
Opens a block collection at the given column if it is indented further than those that are open. Its
token goes behind the first `count` ones.
-/
def roll (s : Scanner) (column : Nat) (count : Nat) (token : Token) : Scanner :=
  if !s.isFlow && s.indent < column then
    { s.insertAt count token with
      indent := column
      outerIndents := s.indent :: s.outerIndents }
  else s

def take (s : Scanner) (length : Nat) (token : Token) : Scanner :=
  { s.push token with cursor := s.cursor.skip length }

def fetchEnd? (s : Scanner) : Option Scanner := do
  let s ← (s.unroll (-1)).removeKey?
  return s.push .streamEnd

def fetchDirective? (s : Scanner) : Option Scanner := do
  let s ← (s.unroll (-1)).removeKey?
  let (token, cursor) ← Scan.directive? s.cursor.skip
  return { s.push token with cursor, keyAllowed := false }

def fetchMarker? (s : Scanner) (token : Token) : Option Scanner := do
  let s ← (s.unroll (-1)).removeKey?
  return { s.take 3 token with keyAllowed := false }

def fetchFlowStart? (s : Scanner) (token : Token) : Option Scanner := do
  let s ← s.saveKey?
  return { s.take 1 token with keys := none :: s.keys, keyAllowed := true }

def fetchFlowEnd? (s : Scanner) (token : Token) : Option Scanner := do
  let s ← s.removeKey?
  let keys := if s.isFlow then s.keys.tail else s.keys
  return { s.take 1 token with keys, keyAllowed := false }

def fetchFlowEntry? (s : Scanner) : Option Scanner := do
  let s ← s.removeKey?
  return { s.take 1 .flowEntry with keyAllowed := true }

def fetchBlockEntry? (s : Scanner) : Option Scanner := do
  if !s.isFlow && !s.keyAllowed then none
  let s ← (s.roll s.cursor.column s.tokens.length .blockSequenceStart).removeKey?
  return { s.take 1 .blockEntry with keyAllowed := true }

def fetchKey? (s : Scanner) : Option Scanner := do
  if !s.isFlow && !s.keyAllowed then none
  let s ← (s.roll s.cursor.column s.tokens.length .blockMappingStart).removeKey?
  return { s.take 1 .key with keyAllowed := !s.isFlow }

def fetchValue? (s : Scanner) : Option Scanner :=
  match s.keys with
  | some key :: keys =>
    let s := s.insertAt key.tokenCount .key
    let s := s.roll key.column key.tokenCount .blockMappingStart
    some { s.take 1 .value with keys := none :: keys, keyAllowed := false }
  | _ =>
    if !s.isFlow && !s.keyAllowed then none
    else
      let s := s.roll s.cursor.column s.tokens.length .blockMappingStart
      some { s.take 1 .value with keyAllowed := !s.isFlow }

def fetchProperty? (s : Scanner) (scan? : Cursor → Option (Token × Cursor)) : Option Scanner := do
  let s ← s.saveKey?
  let (token, cursor) ← scan? s.cursor
  return { s.push token with cursor, keyAllowed := false }

def fetchBlockScalar? (s : Scanner) (isLiteral : Bool) : Option Scanner := do
  let s ← s.removeKey?
  let (text, cursor) ← Scan.block? isLiteral s.indent s.cursor.skip
  return { s.push (.scalar (String.ofList text) false) with cursor, keyAllowed := true }

def fetchQuoted? (s : Scanner) (isSingle : Bool) : Option Scanner := do
  let s ← s.saveKey?
  let (text, cursor) ← Scan.quoted? isSingle (s.cursor.rest.length + 1) s.cursor.skip
  return { s.push (.scalar (String.ofList text) false) with cursor, keyAllowed := false }

def fetchPlain? (s : Scanner) : Option Scanner := do
  let s ← s.saveKey?
  let minColumn := (s.indent + 1).toNat
  let (text, hasBreak, cursor) ←
    Scan.plain? s.isFlow minColumn (s.cursor.rest.length + 1) .empty s.cursor
  return { s.push (.scalar (String.ofList text) true) with cursor, keyAllowed := hasBreak }

def startsPlain (s : Scanner) (c : Char) : Bool :=
  if c = '-' then !s.cursor.has 1 isBlank
  else if c = '?' || c = ':' then !s.isFlow && !s.cursor.isSpaceAt 1
  else !isBlank c && !(c ∈ [',', '[', ']', '\x7b', '\x7d', '#', '&', '*', '!', '|', '>', '\'', '"',
    '%', '@', '\x60'])

def fetch? (s : Scanner) (c : Char) : Option Scanner :=
  if s.cursor.column = 0 && c = '%' then s.fetchDirective?
  else if s.cursor.isAtMarker then
    s.fetchMarker? (if c = '-' then .documentStart else .documentEnd)
  else if c = '[' then s.fetchFlowStart? .flowSequenceStart
  else if c = '\x7b' then s.fetchFlowStart? .flowMappingStart
  else if c = ']' then s.fetchFlowEnd? .flowSequenceEnd
  else if c = '\x7d' then s.fetchFlowEnd? .flowMappingEnd
  else if c = ',' then s.fetchFlowEntry?
  else if c = '-' && s.cursor.isSpaceAt 1 then s.fetchBlockEntry?
  else if c = '?' && (s.isFlow || s.cursor.isSpaceAt 1) then s.fetchKey?
  else if c = ':' && (s.isFlow || s.cursor.isSpaceAt 1) then s.fetchValue?
  else if c = '*' then
    s.fetchProperty? fun cursor => (Scan.anchorName? cursor.skip).map fun (name, cursor) =>
      (.aliasOf name, cursor)
  else if c = '&' then
    s.fetchProperty? fun cursor => (Scan.anchorName? cursor.skip).map fun (name, cursor) =>
      (.anchor name, cursor)
  else if c = '!' then s.fetchProperty? (Scan.tag? s.isFlow)
  else if (c = '|' || c = '>') && !s.isFlow then s.fetchBlockScalar? (c = '|')
  else if c = '\'' || c = '"' then s.fetchQuoted? (c = '\'')
  else if s.startsPlain c then s.fetchPlain?
  else none

/--
The state in front of the next token or the end. Block collections that end there are closed.
-/
def approach? (s : Scanner) : Option Scanner := do
  let s ← (s.toNextToken (s.cursor.rest.length + 1)).dropStaleKeys?
  return s.unroll s.cursor.column

def run? : (fuel : Nat) → Scanner → Option (List Token)
  | 0, _ => none
  | fuel + 1, s => do
    let s ← s.approach?
    match s.cursor.peek? 0 with
    | none => return (← s.fetchEnd?).tokens.reverse
    | some c => run? fuel (← s.fetch? c)

end Scanner

def Token.ofChars? (chars : List Char) : Option (List Token) :=
  Scanner.run? (chars.length + 2) (.start chars)

end MessageAbi.Yaml
