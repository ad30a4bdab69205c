import MessageAbi.Text.Hex
import MessageAbi.Yaml.Cursor
import MessageAbi.Yaml.Token

/-!
This module contains the scanning of anchors, aliases, tags and directives.
-/

namespace MessageAbi.Yaml

namespace Scan

def anchorName? (cursor : Cursor) : Option (String × Cursor) :=
  let (name, cursor) := cursor.span isWordChar
  let isEnd := cursor.isSpaceAt 0
    || cursor.has 0 fun c => c ∈ ['?', ':', ',', ']', '\x7d', '%', '@', '\x60']
  if name.isEmpty || !isEnd then none else some (String.ofList name, cursor)

/--
The bytes of one escaped character of a tag: as many escapes as the first byte says.
-/
def tagEscape? (cursor : Cursor) : Option (Bytes × Cursor) := do
  let (first, cursor) ← byte? cursor
  if first < 0x80 then return ([first], cursor)
  else if 0xc0 ≤ first ∧ first < 0xe0 then more 1 [first] cursor
  else if 0xe0 ≤ first ∧ first < 0xf0 then more 2 [first] cursor
  else if 0xf0 ≤ first ∧ first < 0xf8 then more 3 [first] cursor
  else none
where
  byte? (cursor : Cursor) : Option (UInt8 × Cursor) :=
    match cursor.rest with
    | '%' :: high :: low :: _ => do
      if high.toNat ≥ 0x80 ∨ low.toNat ≥ 0x80 then none
      let high ← Hex.digitValue? high.toUInt8
      let low ← Hex.digitValue? low.toUInt8
      return (high * 16 + low, cursor.skip 3)
    | _ => none
  more : Nat → Bytes → Cursor → Option (Bytes × Cursor)
    | 0, bytes, cursor => some (bytes, cursor)
    | n + 1, bytes, cursor => do
      let (byte, cursor) ← byte? cursor
      if 0x80 ≤ byte ∧ byte < 0xc0 then more n (bytes ++ [byte]) cursor else none

def isTagChar (verbatim : Bool) (c : Char) : Bool :=
  isWordChar c
    || c ∈ [';', '/', '?', ':', '@', '&', '=', '+', '$', '.', '%', '!', '~', '*', '\'', '(', ')']
    || (verbatim && c ∈ [',', '[', ']'])

def tagBytes? (verbatim : Bool) : (fuel : Nat) → Cursor → Option (Bytes × Cursor)
  | 0, cursor => some ([], cursor)
  | fuel + 1, cursor =>
    match cursor.peek? 0 with
    | none => some ([], cursor)
    | some c =>
      if c = '%' then do
        let (bytes, cursor) ← tagEscape? cursor
        let (rest, cursor) ← tagBytes? verbatim fuel cursor
        return (bytes ++ rest, cursor)
      else if isTagChar verbatim c then do
        let (rest, cursor) ← tagBytes? verbatim fuel cursor.skip
        return (c.toUInt8 :: rest, cursor)
      else some ([], cursor)

def tagText (bytes : Bytes) : String :=
  (String.fromUTF8? ⟨bytes.toArray⟩).getD "\ufffd"

/--
The characters of a tag behind `start`, not both empty. The exclamation mark that `start` begins
with is left out.
-/
def tagUri? (verbatim : Bool) (start : List Char) (cursor : Cursor) :
    Option (String × Cursor) := do
  let (bytes, cursor) ← tagBytes? verbatim (cursor.rest.length + 1) cursor
  if start.isEmpty && bytes.isEmpty then none
  return (String.ofList start.tail ++ tagText bytes, cursor)

def tagHandle? (cursor : Cursor) : Option (List Char × Cursor) :=
  if !cursor.isAt '!' then none
  else
    let (name, cursor) := cursor.skip.span isWordChar
    if cursor.isAt '!' then some ('!' :: name ++ ['!'], cursor.skip)
    else some ('!' :: name, cursor)

/--
A tag: between angle brackets, or a handle and a suffix. Without a second exclamation mark the
handle is a single one. A lone exclamation mark is a tag without a handle.
-/
def tag? (isFlow : Bool) (cursor : Cursor) : Option (Token × Cursor) := do
  let (token, cursor) ←
    if cursor.has 1 (· == '<') then do
      let (suffix, cursor) ← tagUri? true [] (cursor.skip 2)
      if cursor.isAt '>' then some (Token.tag "" suffix, cursor.skip) else none
    else do
      let (handle, cursor) ← tagHandle? cursor
      if handle.length > 1 && handle.getLast? == some '!' then
        let (suffix, cursor) ← tagUri? false [] cursor
        some (Token.tag (String.ofList handle) suffix, cursor)
      else
        let (suffix, cursor) ← tagUri? false handle cursor
        some (if suffix.isEmpty then Token.tag "" "!" else Token.tag "!" suffix, cursor)
  if cursor.isSpaceAt 0 || (isFlow && cursor.isAt ',') then some (token, cursor) else none

def versionNumber? (cursor : Cursor) : Option (Nat × Cursor) :=
  let (digits, cursor) := cursor.span Char.isDigit
  if digits.isEmpty ∨ digits.length > 9 then none
  else (ofDigits? digits).map fun n => (n, cursor)

def directive? (cursor : Cursor) : Option (Token × Cursor) := do
  let (name, cursor) := cursor.span isWordChar
  if name.isEmpty || !cursor.isSpaceAt 0 then none
  let (token, cursor) ←
    match String.ofList name with
    | "YAML" => do
      let (major, cursor) ← versionNumber? (cursor.skipWhile isBlank)
      if !cursor.isAt '.' then none
      let (minor, cursor) ← versionNumber? cursor.skip
      some (Token.version major minor, cursor)
    | "TAG" => do
      let (handle, cursor) ← tagHandle? (cursor.skipWhile isBlank)
      if handle.length > 1 && handle.getLast? != some '!' then none
      if !cursor.has 0 isBlank then none
      let (expansion, cursor) ← tagUri? true [] (cursor.skipWhile isBlank)
      if !cursor.isSpaceAt 0 then none
      some (Token.tagHandle (String.ofList handle) expansion, cursor)
    | _ => none
  let cursor := cursor.skipWhile isBlank
  let cursor := if cursor.isAt '#' then cursor.skipWhile (!isBreak ·) else cursor
  if cursor.isAtBreakOrEnd then some (token, cursor.skipBreak) else none

end Scan

end MessageAbi.Yaml
