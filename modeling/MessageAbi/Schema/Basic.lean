import MessageAbi.Category
import MessageAbi.Schema.TypeExpr

/-!
This module contains schemas: declarations of structs and of three categories of messages.
-/

namespace MessageAbi

namespace Schema

inductive ResolvedType where
  | bool
  | uint (bits : Nat)
  | int (bits : Nat)
  | address
  | bytes
  | string
  | array (element : ResolvedType)
  | struct (index : Nat)
  deriving DecidableEq, Repr

structure Field where
  name : String
  type : TypeExpr
  resolved : Option ResolvedType
  deriving DecidableEq, Repr

structure Declaration where
  name : String
  fields : List Field
  deriving DecidableEq, Repr

end Schema

open Schema in
/--
A schema: structs and messages, each kind in order of declaration.
-/
structure Schema where
  structs : List Declaration
  reports : List Declaration
  advances : List Declaration
  inspects : List Declaration
  deriving DecidableEq, Repr

namespace Schema

def empty : Schema :=
  ⟨[], [], [], []⟩

def declarations (schema : Schema) : Category → List Declaration
  | .struct => schema.structs
  | .report => schema.reports
  | .advance => schema.advances
  | .inspect => schema.inspects

def messages (schema : Schema) : List (Category × Declaration) :=
  Category.messages.flatMap fun category =>
    (schema.declarations category).map fun declaration => (category, declaration)

def messageCount (schema : Schema) : Nat :=
  schema.reports.length + schema.advances.length + schema.inspects.length

def isEmpty (schema : Schema) : Bool :=
  schema.structs.isEmpty && schema.messageCount == 0

theorem length_messages (schema : Schema) : schema.messages.length = schema.messageCount := by
  simp [messages, messageCount, Category.messages, declarations, Nat.add_assoc]

end Schema

end MessageAbi
