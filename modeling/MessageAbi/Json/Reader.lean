import MessageAbi.Binary64
import MessageAbi.Json.Basic

/-!
This module contains the reading of JSON text. The reader refuses what is not exactly one value with
white space around it, numbers out of the range of binary floating point, lone surrogates, and
nesting deeper than 127 arrays and objects.
-/

namespace MessageAbi.Json

namespace Reader

def isSpace (c : Char) : Bool :=
  c = ' ' || c = '\t' || c = '\n' || c = '\r'

def skipSpaces (text : List Char) : List Char :=
  text.dropWhile isSpace

def hexValue? (c : Char) : Option Nat :=
  if c.isDigit then some (c.toNat - '0'.toNat)
  else if 'a' ≤ c ∧ c ≤ 'f' then some (c.toNat - 'a'.toNat + 10)
  else if 'A' ≤ c ∧ c ≤ 'F' then some (c.toNat - 'A'.toNat + 10)
  else none

def codeUnit? : List Char → Option (Nat × List Char)
  | a :: b :: c :: d :: rest => do
    let a ← hexValue? a
    let b ← hexValue? b
    let c ← hexValue? c
    let d ← hexValue? d
    return (((a * 16 + b) * 16 + c) * 16 + d, rest)
  | _ => none

def unicodeEscape? (text : List Char) : Option (Char × List Char) := do
  let (unit, rest) ← codeUnit? text
  if 0xdc00 ≤ unit ∧ unit < 0xe000 then
    none
  else if 0xd800 ≤ unit ∧ unit < 0xdc00 then
    match rest with
    | '\\' :: 'u' :: rest =>
      let (low, rest) ← codeUnit? rest
      if 0xdc00 ≤ low ∧ low < 0xe000 then
        return (Char.ofNat (0x10000 + (unit - 0xd800) * 0x400 + (low - 0xdc00)), rest)
      else none
    | _ => none
  else
    return (Char.ofNat unit, rest)

def string? : (fuel : Nat) → List Char → Option (List Char × List Char)
  | 0, _ => none
  | fuel + 1, text =>
    match text with
    | '"' :: rest => some ([], rest)
    | '\\' :: 'u' :: rest => do
      let (c, rest) ← unicodeEscape? rest
      let (cs, rest) ← string? fuel rest
      return (c :: cs, rest)
    | '\\' :: c :: rest => do
      let c ← match c with
        | '"' | '\\' | '/' => some c
        | 'b' => some '\x08'
        | 'f' => some '\x0c'
        | 'n' => some '\n'
        | 'r' => some '\r'
        | 't' => some '\t'
        | _ => none
      let (cs, rest) ← string? fuel rest
      return (c :: cs, rest)
    | c :: rest => do
      if c.toNat < 0x20 ∨ c = '\\' then none
      else
        let (cs, rest) ← string? fuel rest
        return (c :: cs, rest)
    | [] => none

structure Literal where
  isNegative : Bool
  whole : List Char
  fraction : Option (List Char)
  exponent : Option Int

def digitsValue (digits : List Char) : Nat :=
  digits.foldl (fun n c => n * 10 + (c.toNat - '0'.toNat)) 0

def digits? (text : List Char) : Option (List Char × List Char) :=
  let digits := text.takeWhile Char.isDigit
  if digits.isEmpty then none else some (digits, text.dropWhile Char.isDigit)

def exponent? (text : List Char) : Option (Int × List Char) :=
  match text with
  | '-' :: text => (digits? text).map fun (digits, rest) => (-(digitsValue digits : Int), rest)
  | '+' :: text => (digits? text).map fun (digits, rest) => ((digitsValue digits : Int), rest)
  | text => (digits? text).map fun (digits, rest) => ((digitsValue digits : Int), rest)

def fraction? : List Char → Option (Option (List Char) × List Char)
  | '.' :: text => (digits? text).map fun (digits, rest) => (some digits, rest)
  | text => some (none, text)

def power? : List Char → Option (Option Int × List Char)
  | 'e' :: text | 'E' :: text => (exponent? text).map fun (n, rest) => (some n, rest)
  | text => some (none, text)

def magnitude? (isNegative : Bool) (text : List Char) : Option (Literal × List Char) := do
  let (whole, text) ← digits? text
  if whole.head? = some '0' ∧ whole.length > 1 then none
  else
    let (fraction, text) ← fraction? text
    let (exponent, text) ← power? text
    return (⟨isNegative, whole, fraction, exponent⟩, text)

def literal? : List Char → Option (Literal × List Char)
  | '-' :: text => magnitude? true text
  | text => magnitude? false text

/--
The digits of a number that fit in 64 bits together with the power of ten behind them. From the
first digit of the whole part on that does not fit, its digits only count for the power; from the
first such digit of the fraction on, its digits count for nothing.
-/
def Literal.significand (literal : Literal) : Nat × Int :=
  let (n, power) := whole literal.whole 0
  fraction (literal.fraction.getD []) n power
where
  whole : List Char → Nat → Nat × Int
    | [], n => (n, 0)
    | c :: digits, n =>
      let next := n * 10 + (c.toNat - '0'.toNat)
      if next < Nat.pow 2 64 then whole digits next else (n, digits.length + 1)
  fraction : List Char → Nat → Int → Nat × Int
    | [], n, power => (n, power)
    | c :: digits, n, power =>
      let next := n * 10 + (c.toNat - '0'.toNat)
      if next < Nat.pow 2 64 then fraction digits next (power - 1) else (n, power)

def Literal.isOutOfRange (literal : Literal) : Bool :=
  let (n, power) := literal.significand
  let power := power + literal.exponent.getD 0
  n ≠ 0 && power > 0 &&
    (power > 308 ||
      Binary64.roundNat n * Binary64.roundNat (Nat.pow 10 power.natAbs) ≥ Binary64.overflowBound)

def Literal.number? (literal : Literal) (written : List Char) : Option Number :=
  let n := digitsValue literal.whole
  let isInteger := literal.fraction.isNone && literal.exponent.isNone
  if isInteger && !literal.isNegative && n < Nat.pow 2 64 then
    some (.integer n)
  else if isInteger && literal.isNegative && 0 < n && n ≤ Nat.pow 2 63 then
    some (.integer (-(n : Int)))
  else if literal.isOutOfRange then
    none
  else
    some (.real (String.ofList written))

def number? (text : List Char) : Option (Number × List Char) := do
  let (literal, rest) ← literal? text
  let number ← literal.number? (text.take (text.length - rest.length))
  return (number, rest)

def name? : List Char → Option (String × List Char)
  | '"' :: text => do
    let (name, rest) ← string? (text.length + 1) text
    match skipSpaces rest with
    | ':' :: rest => return (String.ofList name, skipSpaces rest)
    | _ => none
  | _ => none

mutual

/--
A value at the start of a text that has no white space in front, inside fewer than 128 - `depth`
arrays and objects.
-/
def value? : (fuel depth : Nat) → List Char → Option (Json × List Char)
  | 0, _, _ => none
  | fuel + 1, depth, text =>
    match text with
    | 'n' :: 'u' :: 'l' :: 'l' :: rest => some (.null, rest)
    | 't' :: 'r' :: 'u' :: 'e' :: rest => some (.bool true, rest)
    | 'f' :: 'a' :: 'l' :: 's' :: 'e' :: rest => some (.bool false, rest)
    | '"' :: rest => do
      let (s, rest) ← string? (rest.length + 1) rest
      return (.string (String.ofList s), rest)
    | '[' :: rest =>
      match depth with
      | 0 => none
      | depth + 1 =>
        match skipSpaces rest with
        | ']' :: rest => some (.array [], rest)
        | rest => do
          let (items, rest) ← items? fuel depth rest
          return (.array items, rest)
    | '\x7b' :: rest =>
      match depth with
      | 0 => none
      | depth + 1 =>
        match skipSpaces rest with
        | '\x7d' :: rest => some (.object [], rest)
        | rest => do
          let (members, rest) ← members? fuel depth rest
          return (.ofMembers members, rest)
    | text => do
      let (n, rest) ← number? text
      return (.number n, rest)

def items? : (fuel depth : Nat) → List Char → Option (List Json × List Char)
  | 0, _, _ => none
  | fuel + 1, depth, text => do
    let (item, rest) ← value? fuel depth text
    match skipSpaces rest with
    | ',' :: rest =>
      let (items, rest) ← items? fuel depth (skipSpaces rest)
      return (item :: items, rest)
    | ']' :: rest => return ([item], rest)
    | _ => none

def members? : (fuel depth : Nat) → List Char → Option (List (String × Json) × List Char)
  | 0, _, _ => none
  | fuel + 1, depth, text => do
    let (name, rest) ← name? text
    let (value, rest) ← value? fuel depth rest
    match skipSpaces rest with
    | ',' :: rest =>
      let (members, rest) ← members? fuel depth (skipSpaces rest)
      return ((name, value) :: members, rest)
    | '\x7d' :: rest => return ([(name, value)], rest)
    | _ => none

end

def maxDepth : Nat := 127

end Reader

def parse? (text : String) : Option Json := do
  let chars := Reader.skipSpaces text.toList
  let (json, rest) ← Reader.value? (2 * chars.length + 2) Reader.maxDepth chars
  if (Reader.skipSpaces rest).isEmpty then some json else none

end MessageAbi.Json
