import MessageAbi.Word

/-!
This module contains the terms that bindings are written with: items, functions, expressions and
types of the target language, as far as bindings need them.
-/

namespace MessageAbi.Bindings.Code

/--
The names of a path. One that starts at the root has an empty name in front.
-/
abbrev Path := List String

inductive Ty where
  | path (path : Path) (arguments : List Ty)
  | inferred
  | unit
  | slice (element : Ty)
  | reference (modifier : Option String) (target : Ty)
  -- A number among the arguments of a path.
  | count (n : Nat)

inductive Pattern where
  | wildcard
  | named (name : String)
  | mutable (name : String)
  | borrowed (name : String)
  | array (names : List String)
  | constant (type trait : Ty) (name : String)
  | variant (path : Path) (content : Pattern)

mutual

inductive Expr where
  | path (path : Path)
  -- A path with arguments in front of its last names.
  | generic (path : Path) (arguments : List Ty) (rest : Path)
  -- What a trait has under a name for a type.
  | associated (type trait : Ty) (name : String)
  | text (text : String)
  | number (n : Nat)
  | byte (byte : UInt8)
  | borrow (place : Expr)
  | deref (reference : Expr)
  | field (receiver : Expr) (name : String)
  -- The value of a result, whose error ends the function.
  | propagate (result : Expr)
  | call (function : Expr) (arguments : List Expr)
  | method (receiver : Expr) (name : String) (types : List Ty) (arguments : List Expr)
  | closure (parameter : String) (body : Expr)
  | vec (items : List Expr)
  | array (items : List Expr)
  | construct (path : Path) (members : List Member)
  | select (subject : Expr) (arms : List Arm)

inductive Member where
  | given (name : String) (value : Expr)
  | shorthand (name : String)

inductive Arm where
  | mk (pattern : Pattern) (body : Expr)

end

inductive Statement where
  | bind (pattern : Pattern) (value : Expr)
  | run (expr : Expr)

structure Block where
  statements : List Statement
  result : Expr

inductive Receiver where
  | shared
  | exclusive

/--
A bound of a type parameter; a relaxed one takes back a bound that there is otherwise.
-/
structure Bound where
  isRelaxed : Bool
  type : Ty

structure Function where
  doc : Option String
  isPublic : Bool
  name : String
  generics : List (String × List Bound)
  receiver : Option Receiver
  parameters : List (String × Ty)
  result : Ty
  body : Option Block

structure Constant where
  doc : Option String
  isPublic : Bool
  name : String
  type : Ty
  value : Expr

inductive Part where
  | constant (constant : Constant)
  | function (function : Function)

inductive Item where
  | useAs (path : Path) (name : String)
  | struct (doc name : String) (fields : List (String × Ty))
  | enum (doc name : String) (variants : List (String × Ty))
  | implementation (trait : Option Path) (type : String) (parts : List Part)
  | trait (doc name : String) (types : List (String × Ty)) (functions : List Function)
  | constant (constant : Constant)
  | function (function : Function)

namespace Item

def typeName? : Item → Option String
  | struct _ name _ | enum _ name _ | trait _ name _ _ => some name
  | _ => none

end Item

end MessageAbi.Bindings.Code
