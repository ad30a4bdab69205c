import MessageAbi.Schema.Identifier

/-!
This module contains the types as a schema writes them: a name, or a name followed by `[]`.
-/

namespace MessageAbi.Schema

structure TypeExpr where
  base : String
  isArray : Bool
  deriving DecidableEq, Repr

structure TypeSyntaxError where
  text : String
  source : IdentifierError
  deriving DecidableEq, Repr

def TypeSyntaxError.message (error : TypeSyntaxError) : String :=
  s!"invalid type {Text.quoted error.text}: {error.source.message}"

namespace TypeExpr

def text (type : TypeExpr) : String :=
  type.base ++ if type.isArray then "[]" else ""

def stripArraySuffix? (text : List Char) : Option (List Char) :=
  match text.reverse with
  | ']' :: '[' :: base => some base.reverse
  | _ => none

/--
Splits a type expression. One array suffix is taken off; what is left has to be an identifier, so
nested arrays are refused.
-/
def parse (text : String) : Except TypeSyntaxError TypeExpr :=
  let type : TypeExpr :=
    match stripArraySuffix? text.toList with
    | some base => ⟨String.ofList base, true⟩
    | none => ⟨text, false⟩
  match checkIdentifier type.base with
  | .ok _ => .ok type
  | .error source => .error ⟨text, source⟩

end TypeExpr

end MessageAbi.Schema
