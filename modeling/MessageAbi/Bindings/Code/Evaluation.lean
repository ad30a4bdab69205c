import MessageAbi.Bindings.Code.Item
import MessageAbi.Registry

/-!
This module contains the evaluation of code: of what its items define for types, and of functions that
build descriptions of messages with the library.
-/

namespace MessageAbi.Bindings.Code

/--
What code evaluates to.
-/
inductive Datum where
  | text (text : String)
  | number (n : Nat)
  | list (items : List Datum)
  | type (type : AbiType)
  | param (param : Param)
  | selector (selector : Selector)
  | registry (registry : Registry)
  | result (result : Except AbiError Datum)

namespace Datum

def byte? : Datum → Option UInt8
  | number n => if n < 256 then some (UInt8.ofNat n) else none
  | _ => none

def param? : Datum → Option Param
  | param content => some content
  | _ => none

def params? : Datum → Option (List Param)
  | list items => items.mapM param?
  | _ => none

end Datum

def resolve (uses : List (String × Path)) : Path → Path
  | [] => []
  | name :: names =>
    match uses.lookup name with
    | some path => path ++ names
    | none => name :: names

namespace Library

def path (names : List String) : Path :=
  "" :: "rollabi_abi" :: names

def constant? : Path → Option Datum
  | ["", "rollabi_abi", "AbiType", "Bool"] => some (.type .bool)
  | ["", "rollabi_abi", "AbiType", "Address"] => some (.type .address)
  | ["", "rollabi_abi", "AbiType", "Bytes"] => some (.type .bytes)
  | ["", "rollabi_abi", "AbiType", "String"] => some (.type .string)
  | _ => none

def call? : Path → List Datum → Option Datum
  | ["", "core", "result", "Result", "Ok"], [content] => some (.result (.ok content))
  | ["", "std", "string", "String", "from"], [.text text] => some (.text text)
  | ["", "rollabi_abi", "AbiType", "Uint"], [.number bits] => some (.type (.uint bits))
  | ["", "rollabi_abi", "AbiType", "Int"], [.number bits] => some (.type (.int bits))
  | ["", "rollabi_abi", "AbiType", "array"], [.type element] => some (.type (.array element))
  | ["", "rollabi_abi", "Param", "new"], [.text name, .type type] => some (.param ⟨name, type⟩)
  | ["", "rollabi_abi", "Registry", "new"], [] => some (.registry .empty)
  | ["", "rollabi_abi", "Selector"], [.list items] => do
    let bytes ← items.mapM Datum.byte?
    guard (bytes.length = Selector.size)
    return .selector (.ofBytes bytes)
  | _, _ => none

def construct? : Path → List (String × Datum) → Option Datum
  | ["", "rollabi_abi", "AbiType", "Tuple"], [("name", .text name), ("components", components)] => do
    return .type (.tuple name (← components.params?))
  | _, _ => none

end Library

/--
What a part of code is evaluated with: the names that paths may start with, the variables at hand, and
what the implementations of types have under their names.
-/
structure Scope where
  uses : List (String × Path)
  locals : List (String × Datum)
  associated : (trait : Option Path) → (type name : String) → Option Datum

namespace Scope

def bind (scope : Scope) (name : String) (content : Datum) : Scope :=
  { scope with locals := (name, content) :: scope.locals }

def call? (scope : Scope) : Path → List Datum → Option Datum
  | [type, name], [] => scope.associated none type name
  | names, arguments => Library.call? (resolve scope.uses names) arguments

def message? (scope : Scope) (type : String) : Option MessageSpec :=
  match scope.associated (some (Library.path ["Message"])) type "NAME",
    scope.associated (some (Library.path ["Message"])) type "params" with
  | some (.text name), some params => params.params?.map fun params => ⟨name, params⟩
  | _, _ => none

end Scope

mutual

def Expr.eval? (scope : Scope) : Expr → Option Datum
  | .path [name] => scope.locals.lookup name
  | .path names => Library.constant? (resolve scope.uses names)
  | .text content => some (.text content)
  | .number n => some (.number n)
  | .byte content => some (.number content.toNat)
  | .call (.path names) arguments => do
    scope.call? names (← Expr.listEval? scope arguments)
  | .vec items | .array items => (Expr.listEval? scope items).map .list
  | .construct names members => do
    Library.construct? (resolve scope.uses names) (← Expr.memberEval? scope members)
  | _ => none

def Expr.listEval? (scope : Scope) : List Expr → Option (List Datum)
  | [] => some []
  | expr :: exprs => do
    let content ← expr.eval? scope
    return content :: (← Expr.listEval? scope exprs)

def Expr.memberEval? (scope : Scope) : List Member → Option (List (String × Datum))
  | [] => some []
  | .given name value :: members => do
    let content ← value.eval? scope
    return (name, content) :: (← Expr.memberEval? scope members)
  | .shorthand name :: members => do
    let content ← scope.locals.lookup name
    return (name, content) :: (← Expr.memberEval? scope members)

end

def run? (scope : Scope) (result : Expr) : List Statement → Option Datum
  | [] => result.eval? scope
  | .bind (.named name) value :: statements | .bind (.mutable name) value :: statements => do
    run? (scope.bind name (← value.eval? scope)) result statements
  | .run (.propagate (.method (.path [name]) "register_message" [.path [type] []] []))
      :: statements => do
    let some (.registry registry) := scope.locals.lookup name | none
    match registry.register (← scope.message? type) with
    | .ok registry => run? (scope.bind name (.registry registry)) result statements
    | .error error => return .result (.error error)
  | _ => none

def Block.eval? (block : Block) (scope : Scope) : Option Datum :=
  run? scope block.result block.statements

def Function.block? (name : String) (function : Function) : Option Block :=
  if function.name = name ∧ function.receiver.isNone ∧ function.parameters.isEmpty then function.body
  else none

def Part.block? (name : String) : Part → Option Block
  | constant definition => if definition.name = name then some ⟨[], definition.value⟩ else none
  | function definition => definition.block? name

namespace Item

def use? : Item → Option (String × Path)
  | useAs path name => some (name, path)
  | _ => none

def associatedBlock? (uses : List (String × Path)) (trait : Option Path) (type name : String) :
    Item → Option Block
  | implementation bound implementor parts =>
    if bound.map (resolve uses) = trait ∧ implementor = type then
      parts.findSome? (·.block? name)
    else none
  | _ => none

def block? (name : String) : Item → Option Block
  | function definition => definition.block? name
  | _ => none

def implementor? (uses : List (String × Path)) (trait : Path) : Item → Option String
  | implementation (some bound) type _ => if resolve uses bound = trait then some type else none
  | _ => none

end Item

section Program

variable (program : List Item)

def uses : List (String × Path) :=
  program.filterMap (·.use?)

/--
What an implementation has under a name, if bodies do not ask each other more than `fuel` deep.
-/
def associated? : (fuel : Nat) → (trait : Option Path) → (type name : String) → Option Datum
  | 0, _, _, _ => none
  | fuel + 1, trait, type, name => do
    let block ← program.findSome? (·.associatedBlock? (uses program) trait type name)
    block.eval? ⟨uses program, [], associated? fuel⟩

def call? (fuel : Nat) (name : String) : Option Datum := do
  let block ← program.findSome? (·.block? name)
  block.eval? ⟨uses program, [], associated? program fuel⟩

def messageTypes : List String :=
  program.filterMap (·.implementor? (uses program) (Library.path ["Message"]))

end Program

end MessageAbi.Bindings.Code
