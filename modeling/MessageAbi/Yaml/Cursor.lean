import MessageAbi.Word

/-!
This module contains the characters a YAML stream may hold, and places in a stream.
-/

namespace MessageAbi.Yaml

def isAllowed (c : Char) : Bool :=
  let n := c.toNat
  n = 0x09 || n = 0x0a || n = 0x0d || (0x20 ≤ n && n ≤ 0x7e) || n = 0x85
    || (0xa0 ≤ n && n ≤ 0xd7ff) || (0xe000 ≤ n && n ≤ 0xfffd) || 0x10000 ≤ n

def chars? (document : Bytes) : Option (List Char) := do
  let text ← String.fromUTF8? ⟨document.toArray⟩
  if text.toList.all isAllowed then some text.toList else none

def isBreak (c : Char) : Bool :=
  c = '\n' || c = '\r' || c = '\u0085' || c = '\u2028' || c = '\u2029'

def isBlank (c : Char) : Bool :=
  c = ' ' || c = '\t'

def isWordChar (c : Char) : Bool :=
  c.isAlphanum || c = '-' || c = '_'

/--
A place in a stream: the characters from there on, and where they stand.
-/
structure Cursor where
  rest : List Char
  index : Nat
  line : Nat
  column : Nat

namespace Cursor

def start (chars : List Char) : Cursor :=
  ⟨chars, 0, 0, 0⟩

def peek? (cursor : Cursor) (n : Nat) : Option Char :=
  cursor.rest[n]?

def has (cursor : Cursor) (n : Nat) (test : Char → Bool) : Bool :=
  (cursor.peek? n).any test

def isAt (cursor : Cursor) (c : Char) : Bool :=
  cursor.has 0 (· == c)

def isAtEnd (cursor : Cursor) : Bool :=
  cursor.rest.isEmpty

def isSpaceAt (cursor : Cursor) (n : Nat) : Bool :=
  (cursor.peek? n).all fun c => isBlank c || isBreak c

def isAtBreakOrEnd (cursor : Cursor) : Bool :=
  (cursor.peek? 0).all isBreak

def skip (cursor : Cursor) (n : Nat := 1) : Cursor :=
  { cursor with
    rest := cursor.rest.drop n
    index := cursor.index + n
    column := cursor.column + n }

def span (cursor : Cursor) (test : Char → Bool) : List Char × Cursor :=
  let chars := cursor.rest.takeWhile test
  (chars, cursor.skip chars.length)

def skipWhile (cursor : Cursor) (test : Char → Bool) : Cursor :=
  (cursor.span test).2

/--
Takes a line break, if there is one. A carriage return, a line feed, both together and a next line
all count as a line feed.
-/
def takeBreak (cursor : Cursor) : List Char × Cursor :=
  match cursor.rest with
  | '\r' :: '\n' :: rest => (['\n'], ⟨rest, cursor.index + 2, cursor.line + 1, 0⟩)
  | c :: rest =>
    if c = '\u2028' ∨ c = '\u2029' then ([c], ⟨rest, cursor.index + 1, cursor.line + 1, 0⟩)
    else if isBreak c then (['\n'], ⟨rest, cursor.index + 1, cursor.line + 1, 0⟩)
    else ([], cursor)
  | [] => ([], cursor)

def skipBreak (cursor : Cursor) : Cursor :=
  cursor.takeBreak.2

def isAtMarker (cursor : Cursor) : Bool :=
  cursor.column = 0 && cursor.isSpaceAt 3 &&
    match cursor.rest with
    | '-' :: '-' :: '-' :: _ => true
    | '.' :: '.' :: '.' :: _ => true
    | _ => false

end Cursor

end MessageAbi.Yaml
