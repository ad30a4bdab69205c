import MessageAbi.Schema.Analysis
import MessageAbi.Schema.Document.Tree
import MessageAbi.Text.Blank

/-!
This module contains the reading of schema documents from bytes.
-/

namespace MessageAbi.Schema

namespace Document

def lossyChars : (fuel : Nat) → Bytes → List Char
  | 0, _ => []
  | _, [] => []
  | fuel + 1, byte :: bytes =>
    match [1, 2, 3, 4].findSome? fun length => decodeOne? ((byte :: bytes).take length) with
    | some (c, length) => c :: lossyChars fuel (bytes.drop (length - 1))
    | none => '\ufffd' :: lossyChars fuel bytes
where
  decodeOne? (bytes : Bytes) : Option (Char × Nat) := do
    let text ← String.fromUTF8? ⟨bytes.toArray⟩
    match text.toList with
    | [c] => some (c, bytes.length)
    | _ => none

def isBlank (document : Bytes) : Bool :=
  let lines := (lossyChars (document.length + 1) document).splitOnP (· == '\n')
  lines.all fun line =>
    let line := Text.trim line
    line.isEmpty || line.head? == some '#'

end Document

/--
Reads a schema document. Names are checked and type expressions split, but no type is resolved.
-/
def parse (document : Bytes) : Except ParseError Schema :=
  if Document.isBlank document then .ok .empty
  else
    match Yaml.Stream.ofBytes document with
    | .malformed => .error (.document none)
    | .empty => .ok .empty
    | .document tree => Document.toSchema tree

inductive ReadError where
  | parse (error : ParseError)
  | semantic (error : SemanticError)
  deriving DecidableEq, Repr

def ReadError.message : ReadError → String
  | parse error => error.message
  | semantic error => error.message

def read (document : Bytes) (policy : EmptySchemaPolicy) : Except ReadError Schema := do
  match parse document with
  | .error error => throw (.parse error)
  | .ok schema =>
    match schema.analyze policy with
    | .error error => throw (.semantic error)
    | .ok schema => return schema

end MessageAbi.Schema
