import MessageAbi.Json.Basic

/-!
This module contains the text of JSON values: the compact form, and the form with one member or
element on each line.
-/

namespace MessageAbi.Json

def escape (c : Char) : List Char :=
  if c = '"' ∨ c = '\\' then ['\\', c]
  else if c = '\x08' then ['\\', 'b']
  else if c = '\x0c' then ['\\', 'f']
  else if c = '\n' then ['\\', 'n']
  else if c = '\r' then ['\\', 'r']
  else if c = '\t' then ['\\', 't']
  else if c.toNat < 0x20 then
    ['\\', 'u', '0', '0', Nat.digitChar (c.toNat / 16), Nat.digitChar (c.toNat % 16)]
  else [c]

def quote (text : String) : String :=
  String.ofList (['"'] ++ text.toList.flatMap escape ++ ['"'])

def Number.text : Number → String
  | integer n => toString n
  | real literal => literal

mutual

def compact : Json → String
  | null => "null"
  | bool b => if b then "true" else "false"
  | number n => n.text
  | string s => quote s
  | array items => "[" ++ ",".intercalate (compactItems items) ++ "]"
  | object members => "\x7b" ++ ",".intercalate (compactMembers members) ++ "\x7d"

def compactItems : List Json → List String
  | [] => []
  | item :: items => item.compact :: compactItems items

def compactMembers : List (String × Json) → List String
  | [] => []
  | (name, value) :: members => (quote name ++ ":" ++ value.compact) :: compactMembers members

end

def indentation (level : Nat) : String :=
  String.ofList (List.replicate (2 * level) ' ')

def block (level : Nat) (opening closing : String) (parts : List String) : String :=
  if parts.isEmpty then opening ++ closing
  else
    let lines := parts.map fun part => indentation (level + 1) ++ part
    opening ++ "\n" ++ ",\n".intercalate lines ++ "\n" ++ indentation level ++ closing

mutual

def prettyAt (level : Nat) : Json → String
  | null => "null"
  | bool b => if b then "true" else "false"
  | number n => n.text
  | string s => quote s
  | array items => block level "[" "]" (prettyItems (level + 1) items)
  | object members => block level "\x7b" "\x7d" (prettyMembers (level + 1) members)

def prettyItems (level : Nat) : List Json → List String
  | [] => []
  | item :: items => item.prettyAt level :: prettyItems level items

def prettyMembers (level : Nat) : List (String × Json) → List String
  | [] => []
  | (name, value) :: members =>
    (quote name ++ ": " ++ value.prettyAt level) :: prettyMembers level members

end

def pretty (json : Json) : String :=
  json.prettyAt 0

end MessageAbi.Json
