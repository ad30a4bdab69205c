import MessageAbi.Word

/-!
This module contains the contract ABI types that messages are made of, their names and the shape of
their encoding. There are no arrays of fixed length and no byte strings of fixed length.
-/

namespace MessageAbi

mutual

/--
A contract ABI type as used on the wire.
-/
inductive AbiType where
  | bool
  | uint (bits : Nat)
  | int (bits : Nat)
  | address
  | bytes
  | string
  | array (element : AbiType)
  | tuple (name : String) (components : List Param)

structure Param where
  name : String
  type : AbiType

end

namespace AbiType

def joinWithCommas (parts : List String) : String :=
  ",".intercalate parts

mutual

def isDynamic : AbiType → Bool
  | bool | uint _ | int _ | address => false
  | bytes | string | array _ => true
  | tuple _ components => anyDynamic components

def anyDynamic : List Param → Bool
  | [] => false
  | ⟨_, type⟩ :: params => type.isDynamic || anyDynamic params

end

mutual

/--
Number of bytes a value takes in the head of the tuple around it. A dynamic value has one word
there.
-/
def headSize : AbiType → Nat
  | tuple _ components => if anyDynamic components then Word.size else headSizes components
  | _ => Word.size

def headSizes : List Param → Nat
  | [] => 0
  | ⟨_, type⟩ :: params => type.headSize + headSizes params

end

theorem headSize_of_isDynamic {type : AbiType} (h : type.isDynamic = true) :
    type.headSize = Word.size := by
  cases type <;> simp_all [headSize, isDynamic]

theorem anyDynamic_eq_any (params : List Param) :
    anyDynamic params = params.any (·.type.isDynamic) := by
  induction params with
  | nil => rfl
  | cons param params ih => cases param; simp [anyDynamic, ih]

theorem headSizes_eq_foldr (params : List Param) :
    headSizes params = (params.map (·.type.headSize)).foldr (· + ·) 0 := by
  induction params with
  | nil => rfl
  | cons param params ih => cases param; simp [headSizes, ih]

mutual

def canonical : AbiType → String
  | bool => "bool"
  | uint bits => s!"uint{bits}"
  | int bits => s!"int{bits}"
  | address => "address"
  | bytes => "bytes"
  | string => "string"
  | array element => element.canonical ++ "[]"
  | tuple _ components => "(" ++ joinWithCommas (canonicals components) ++ ")"

def canonicals : List Param → List String
  | [] => []
  | ⟨_, type⟩ :: params => type.canonical :: canonicals params

end

theorem canonicals_eq_map (params : List Param) :
    canonicals params = params.map (·.type.canonical) := by
  induction params with
  | nil => rfl
  | cons param params ih => cases param; simp [canonicals, ih]

def jsonType : AbiType → String
  | tuple _ _ => "tuple"
  | array element => element.jsonType ++ "[]"
  | type => type.canonical

def internalType : AbiType → String
  | tuple name _ => "struct " ++ name
  | array element => element.internalType ++ "[]"
  | type => type.canonical

def components? : AbiType → Option (List Param)
  | tuple _ components => some components
  | array element => element.components?
  | _ => none

end AbiType

def signature (name : String) (params : List Param) : String :=
  name ++ "(" ++ AbiType.joinWithCommas (params.map (·.type.canonical)) ++ ")"

end MessageAbi
