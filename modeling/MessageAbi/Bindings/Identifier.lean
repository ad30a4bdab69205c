import MessageAbi.Schema.Compiled
import MessageAbi.Schema.Identifier
import MessageAbi.Text.Blank
import MessageAbi.Text.CaseWords
import MessageAbi.Text.IdentifierChar

/-!
This module contains the identifiers that bindings give to declarations, fields and modules.
-/

namespace MessageAbi.Bindings

def plainKeywords : List String :=
  ["crate", "self", "super", "Self"]

/--
The identifier for a name that is already in the right case. Reserved words are written in raw form,
or with an underscore behind them where there is none.
-/
def toIdentifier (name : String) : Except GenerationError String :=
  if plainKeywords.contains name then .ok (name ++ "_")
  else if Schema.isReserved name then .ok ("r#" ++ name)
  else if Text.isIdentifier name.toList then .ok name
  else .error (.invalidIdentifier name)

namespace ModuleName

def isSpace (c : Char) : Bool :=
  Text.isBlank c || c = '\u200e' || c = '\u200f'

def skipBlockComment? : (depth fuel : Nat) → List Char → Option (List Char)
  | _, 0, _ => none
  | depth, fuel + 1, text =>
    match text with
    | '/' :: '*' :: rest => skipBlockComment? (depth + 1) fuel rest
    | '*' :: '/' :: rest =>
      match depth with
      | 0 => some rest
      | depth + 1 => skipBlockComment? depth fuel rest
    | _ :: rest => skipBlockComment? depth fuel rest
    | [] => none

/--
Skips white space and comments. Documentation comments are no mere comments and stay.
-/
def skipTrivia : (fuel : Nat) → List Char → List Char
  | 0, text => text
  | fuel + 1, text =>
    match text with
    | '/' :: '/' :: rest =>
      let isDoc := rest.head? = some '!'
        || (rest.head? = some '/' && (rest.drop 1).head? != some '/')
      if isDoc then text else skipTrivia fuel (rest.dropWhile (· != '\n'))
    | '/' :: '*' :: '*' :: '/' :: rest => skipTrivia fuel rest
    | '/' :: '*' :: rest =>
      let isDoc := rest.head? = some '!'
        || (rest.head? = some '*' && (rest.drop 1).head? != some '*')
      if isDoc then text
      else
        match skipBlockComment? 0 (rest.length + 1) rest with
        | some rest => skipTrivia fuel rest
        | none => text
    | c :: rest => if isSpace c then skipTrivia fuel rest else text
    | [] => []

def identifier? (text : List Char) : Option (List Char × List Char) :=
  let (mark, text) := match text with
    | 'r' :: '#' :: rest => (['r', '#'], rest)
    | text => ([], text)
  let name := text.takeWhile Text.isIdentifierContinue
  let rest := text.dropWhile Text.isIdentifierContinue
  let isReserved :=
    if mark.isEmpty then Schema.isReserved (String.ofList name)
    else plainKeywords.contains (String.ofList name)
  if Text.isIdentifier name && name ≠ ['_'] && !isReserved then some (mark ++ name, rest) else none

end ModuleName

open ModuleName in
/--
The identifier of a module: exactly one identifier that is no reserved word, with white space and
comments around it.
-/
def moduleName (text : String) : Except GenerationError String :=
  let chars := match text.toList with
    | '\ufeff' :: rest => rest
    | chars => chars
  match identifier? (skipTrivia (chars.length + 1) chars) with
  | some (name, rest) =>
    if (skipTrivia (rest.length + 1) rest).isEmpty then .ok (String.ofList name)
    else .error (.invalidModuleName text)
  | none => .error (.invalidModuleName text)

end MessageAbi.Bindings
