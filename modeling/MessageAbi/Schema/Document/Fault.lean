import MessageAbi.Text.Quoted
import MessageAbi.Yaml.Datum

/-!
This module contains what can be wrong with the shape of a schema document, and where.
-/

namespace MessageAbi.Schema.Document

open Yaml

/--
A step into a document tree. A value whose key is no written scalar has no name.
-/
inductive Step where
  | key (name : Option String)
  | item (index : Nat)
  deriving DecidableEq, Repr

abbrev Path := List Step

def pathText : Path → String
  | [] => ""
  | .key name :: steps => name.getD "?" ++ go steps
  | .item index :: steps => s!".[{index}]" ++ go steps
where
  go : Path → String
    | [] => ""
    | .key name :: steps => "." ++ name.getD "?" ++ go steps
    | .item index :: steps => s!"[{index}]" ++ go steps

inductive Found where
  | sequence
  | mapping
  | scalar (value : ScalarValue)
  deriving DecidableEq, Repr

def Found.text : Found → String
  | sequence => "sequence"
  | mapping => "map"
  | scalar .null => "unit value"
  | scalar (.bool b) => s!"boolean \x60{b}\x60"
  | scalar (.integer n) => s!"integer \x60{n}\x60"
  | scalar .negativeZero => "integer \x600\x60"
  | scalar (.wideInteger n) => s!"integer \x60{n}\x60 as u128"
  | scalar (.real x) => s!"floating point \x60{x.text}\x60"
  | scalar (.string s) => "string " ++ Text.quoted s

inductive Problem where
  | unexpected (found : Found) (expected : String)
  | missingName
  | unknownKey (name : String) (expected : String)
  | repeatedKey (name : String)
  | noFieldShape
  | taggedField
  | falseTag
  deriving DecidableEq, Repr

def Problem.text : Problem → String
  | unexpected found expected => s!"invalid type: {found.text}, expected {expected}"
  | missingName => "missing field \x60name\x60"
  | unknownKey name expected => s!"unknown field \x60{name}\x60, expected {expected}"
  | repeatedKey name => s!"duplicate field \x60{name}\x60"
  | noFieldShape => "data did not match any variant of untagged enum FieldDocument"
  | taggedField => "untagged and internally tagged enums do not support enum input"
  | falseTag => "invalid value"

structure Fault where
  path : Path
  problem : Problem
  deriving DecidableEq, Repr

def Fault.text (fault : Fault) : String :=
  match pathText fault.path with
  | "" => fault.problem.text
  | path => s!"{path}: {fault.problem.text}"

end MessageAbi.Schema.Document
