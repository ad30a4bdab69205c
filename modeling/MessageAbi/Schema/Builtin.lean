import MessageAbi.Schema.Basic

/-!
This module contains the types that every schema may use.
-/

namespace MessageAbi.Schema

def integerWidths : List Nat :=
  (List.range 32).map fun n => 8 * (n + 1)

/--
The basic types by name. Integers without a width have 256 bits.
-/
def builtinTypes : List (String × ResolvedType) :=
  [("bool", .bool), ("address", .address), ("bytes", .bytes), ("string", .string),
   ("int", .int 256), ("uint", .uint 256)]
    ++ integerWidths.map (fun bits => (s!"int{bits}", .int bits))
    ++ integerWidths.map (fun bits => (s!"uint{bits}", .uint bits))

def builtin? (name : String) : Option ResolvedType :=
  builtinTypes.lookup name

end MessageAbi.Schema
