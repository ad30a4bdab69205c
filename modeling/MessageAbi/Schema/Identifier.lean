import MessageAbi.Text.Quoted

/-!
This module contains the names that declarations and fields may have: ASCII letters and digits, a
letter first, and no reserved word of the binding language.
-/

namespace MessageAbi.Schema

inductive IdentifierError where
  | empty
  | invalidStart (c : Char) (text : String)
  | invalidCharacter (c : Char) (text : String)
  | reserved (text : String)
  deriving DecidableEq, Repr

def IdentifierError.message : IdentifierError → String
  | empty => "empty identifier"
  | invalidStart c text => s!"invalid first rune {Text.quotedChar c} in {Text.quoted text}"
  | invalidCharacter c text => s!"invalid rune {Text.quotedChar c} in {Text.quoted text}"
  | reserved text => Text.quoted text ++ " is a reserved word"

/--
The strict and the reserved keywords of the binding language in its 2021 edition. This is assumed to be
what the keyword check of the language reports: a weak keyword, such as `union`, is an identifier.
-/
def reservedWords : List String :=
  ["as", "break", "const", "continue", "crate", "else", "enum", "extern", "false", "fn", "for",
   "if", "impl", "in", "let", "loop", "match", "mod", "move", "mut", "pub", "ref", "return", "self",
   "Self", "static", "struct", "super", "trait", "true", "type", "unsafe", "use", "where", "while",
   "async", "await", "dyn", "abstract", "become", "box", "do", "final", "macro", "override", "priv",
   "typeof", "unsized", "virtual", "yield", "try"]

def isReserved (text : String) : Bool :=
  reservedWords.contains text

def checkIdentifier (text : String) : Except IdentifierError Unit :=
  match text.toList with
  | [] => .error .empty
  | first :: rest =>
    if !first.isAlpha then
      .error (.invalidStart first text)
    else
      match rest.find? (!·.isAlphanum) with
      | some c => .error (.invalidCharacter c text)
      | none => if isReserved text then .error (.reserved text) else .ok ()

end MessageAbi.Schema
