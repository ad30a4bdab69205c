import MessageAbi.Binary64
import MessageAbi.Json.Reader
import MessageAbi.Yaml.Tree

/-!
This module contains the types of scalars, which their texts decide where they have neither quotes
nor a tag, and the plain data that a document tree stands for.
-/

namespace MessageAbi.Yaml

inductive Real where
  | nan
  | infinite (isNegative : Bool)
  | finite (isNegative : Bool) (magnitude : Binary64.Magnitude)
  deriving DecidableEq, Repr

namespace Real

def text : Real → String
  | nan => "NaN"
  | infinite isNegative => if isNegative then "-inf" else "inf"
  | finite isNegative magnitude =>
    (if isNegative then "-" else "") ++ magnitude.shortest.text

def isSame (x y : Real) : Bool :=
  match x, y with
  | finite _ m, finite _ n => x = y || (m.significand = 0 && n.significand = 0)
  | _, _ => x = y

end Real

inductive ScalarValue where
  | null
  | bool (b : Bool)
  | integer (n : Int)
  /--
  Zero behind a minus sign. As a number it is zero, but it counts no place.
  -/
  | negativeZero
  | wideInteger (n : Int)
  | real (x : Real)
  | string (s : String)
  deriving DecidableEq, Repr

namespace ScalarValue

def null? (text : String) : Option Unit :=
  if text ∈ ["null", "Null", "NULL", "~"] then some () else none

def bool? (text : String) : Option Bool :=
  if text ∈ ["true", "True", "TRUE"] then some true
  else if text ∈ ["false", "False", "FALSE"] then some false
  else none

def digit? (base : Nat) (c : Char) : Option Nat :=
  (Json.Reader.hexValue? c).filter (· < base)

def magnitude? (base : Nat) (digits : List Char) : Option Nat :=
  if digits.isEmpty then none
  else do
    let values ← digits.mapM (digit? base)
    return values.foldl (fun n digit => n * base + digit) 0

def hasLeadingZero (text : List Char) : Bool :=
  let digits := match text with
    | '-' :: digits | '+' :: digits => digits
    | digits => digits
  digits.length > 1 && digits.head? == some '0' && digits.tail.all Char.isDigit

def unsigned? (text : List Char) : Option Nat :=
  let number := match text with
    | '+' :: rest => rest
    | rest => rest
  match number with
  | '0' :: 'x' :: digits => magnitude? 16 digits
  | '0' :: 'o' :: digits => magnitude? 8 digits
  | '0' :: 'b' :: digits => magnitude? 2 digits
  | digits => if hasLeadingZero text then none else magnitude? 10 digits

def negative? (text : List Char) : Option Nat :=
  match text with
  | '-' :: '0' :: 'x' :: digits => magnitude? 16 digits
  | '-' :: '0' :: 'o' :: digits => magnitude? 8 digits
  | '-' :: '0' :: 'b' :: digits => magnitude? 2 digits
  | '-' :: digits => if hasLeadingZero text then none else magnitude? 10 digits
  | _ => none

def integer? (text : List Char) : Option ScalarValue :=
  match unsigned? text, negative? text with
  | some n, _ =>
    if n < Nat.pow 2 64 then some (.integer n)
    else if n < Nat.pow 2 128 then some (.wideInteger n)
    else none
  | none, some n =>
    if n = 0 then some .negativeZero
    else if n ≤ Nat.pow 2 63 then some (.integer (-(n : Int)))
    else if n ≤ Nat.pow 2 127 then some (.wideInteger (-(n : Int)))
    else none
  | none, none => none

def decimal? (text : List Char) : Option (Nat × Int) := do
  let whole := text.takeWhile Char.isDigit
  let rest := text.dropWhile Char.isDigit
  let (fraction, rest) := match rest with
    | '.' :: rest => (rest.takeWhile Char.isDigit, rest.dropWhile Char.isDigit)
    | rest => ([], rest)
  if whole.isEmpty && fraction.isEmpty then none
  let digits := Json.Reader.digitsValue (whole ++ fraction)
  match rest with
  | [] => return (digits, -fraction.length)
  | c :: rest =>
    if c ≠ 'e' ∧ c ≠ 'E' then none
    let (exponent, rest) ← Json.Reader.exponent? rest
    if rest.isEmpty then return (digits, exponent - fraction.length) else none

def finite? (isNegative : Bool) (text : List Char) : Option Real := do
  let (digits, power) ← decimal? text
  -- far below the least number, where the power alone decides
  if power < -(400 + (toString digits).length : Int) then
    return .finite isNegative ⟨0, Binary64.minExponent⟩
  let magnitude ← Binary64.ofDecimal? digits power
  return .finite isNegative magnitude

def real? (text : String) : Option Real :=
  let unsigned := match text.toList with
    | '+' :: rest => rest
    | rest => rest
  if unsigned ∈ [".inf".toList, ".Inf".toList, ".INF".toList] then some (.infinite false)
  else if text ∈ ["-.inf", "-.Inf", "-.INF"] then some (.infinite true)
  else if text ∈ [".nan", ".NaN", ".NAN"] then some .nan
  else
    match text.toList with
    | '+' :: rest => finite? false rest
    | '-' :: rest => finite? true rest
    | rest => finite? false rest

def ofPlain (text : String) : ScalarValue :=
  if text.isEmpty || (null? text).isSome then .null
  else
    match bool? text, integer? text.toList with
    | some b, _ => .bool b
    | none, some value => value
    | none, none =>
      if hasLeadingZero text.toList then .string text
      else
        match real? text with
        | some x => .real x
        | none => .string text

/--
The value of a scalar; nothing if it does not have the form that its tag asks for. Tags that start
with an exclamation mark leave the type open.
-/
def ofScalar? (scalar : Scalar) : Option ScalarValue :=
  match scalar.tag with
  | none => some (if scalar.isPlain then ofPlain scalar.text else .string scalar.text)
  | some "tag:yaml.org,2002:bool" => (bool? scalar.text).map .bool
  | some "tag:yaml.org,2002:int" => integer? scalar.text.toList
  | some "tag:yaml.org,2002:float" => (real? scalar.text).map .real
  | some "tag:yaml.org,2002:null" => (null? scalar.text).map fun _ => .null
  | some tag =>
    some (if tag.startsWith "!" && scalar.isPlain then ofPlain scalar.text
      else .string scalar.text)

def unsignedZero : ScalarValue → ScalarValue
  | negativeZero => integer 0
  | value => value

end ScalarValue

def localTag? (tag : Option String) : Option String :=
  match tag.map String.toList with
  | some ('!' :: name) => some (String.ofList name)
  | _ => none

inductive Datum where
  | scalar (value : ScalarValue)
  | sequence (items : List Datum)
  | mapping (entries : List (Datum × Datum))
  | tagged (tag : String) (content : Datum)

namespace Datum

mutual

def isSame : Datum → Datum → Bool
  | scalar (.real x), scalar (.real y) => x.isSame y
  | scalar v, scalar w => v.unsignedZero = w.unsignedZero
  | sequence xs, sequence ys => areSame xs ys
  | mapping xs, mapping ys => xs.length = ys.length && areIn xs ys
  | tagged t x, tagged u y => t = u && isSame x y
  | _, _ => false

def areSame : List Datum → List Datum → Bool
  | [], [] => true
  | x :: xs, y :: ys => isSame x y && areSame xs ys
  | _, _ => false

def areIn : List (Datum × Datum) → List (Datum × Datum) → Bool
  | [], _ => true
  | (key, value) :: xs, ys =>
    ys.any (fun (otherKey, otherValue) => isSame key otherKey && isSame value otherValue)
      && areIn xs ys

end

def withTag? (tag : Option String) (content : Datum) : Option Datum :=
  match localTag? tag with
  | none => some content
  | some "" => none
  | some name => some (.tagged name content)

mutual

/--
The data of a tree; nothing if a scalar is not what its tag says or has no type of at most 64 bits,
or if a mapping repeats a key.
-/
def ofTree? : Tree → Option Datum
  | .scalar s => do
    let value ←
      if (localTag? s.tag).isSome then ScalarValue.ofScalar? { s with tag := none }
      else ScalarValue.ofScalar? s
    match value with
    | .wideInteger _ => none
    | value => withTag? s.tag (.scalar value)
  | .sequence tag items => do
    withTag? tag (.sequence (← ofItems? items))
  | .mapping tag entries => do
    withTag? tag (.mapping (← ofEntries? entries []))

def ofItems? : List Tree → Option (List Datum)
  | [] => some []
  | item :: items => do
    let first ← ofTree? item
    let rest ← ofItems? items
    return first :: rest

def ofEntries? : List Entry → List (Datum × Datum) → Option (List (Datum × Datum))
  | [], found => some found
  | ⟨key, _, value⟩ :: entries, found => do
    let key ← ofTree? key
    if found.any fun (other, _) => isSame other key then none
    let value ← ofTree? value
    ofEntries? entries (found ++ [(key, value)])

end

end Datum

end MessageAbi.Yaml
