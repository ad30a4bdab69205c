/-!
This module contains JSON values. The members of an object keep the order in which they were first
given.
-/

namespace MessageAbi

/--
A JSON number: an integer of at most 64 bits, or any other number by its literal.
-/
inductive Json.Number where
  | integer (n : Int)
  | real (literal : String)
  deriving DecidableEq, Repr

inductive Json where
  | null
  | bool (b : Bool)
  | number (n : Json.Number)
  | string (s : String)
  | array (items : List Json)
  | object (members : List (String × Json))

namespace Json

def insertMember (name : String) (value : Json) : List (String × Json) → List (String × Json)
  | [] => [(name, value)]
  | (other, otherValue) :: rest =>
    if other = name then (name, value) :: rest
    else (other, otherValue) :: insertMember name value rest

/--
The object with the given members; of members with one name the last value counts.
-/
def ofMembers (members : List (String × Json)) : Json :=
  .object (members.foldl (fun acc (name, value) => insertMember name value acc) [])

def integer (n : Int) : Json :=
  .number (.integer n)

end Json

end MessageAbi
