import MessageAbi.Text.Alphanumeric
import MessageAbi.Text.LetterCase

/-!
This module contains the words that a name in mixed case is made of, and the names in other cases
made from them.
-/

namespace MessageAbi.Text

inductive WordMode where
  | boundary
  | lower
  | upper
  deriving DecidableEq, Repr

/--
The words of a run of letters and digits, behind the letters `current` of the first one, the latest
first. A word ends between a lower-case and an upper-case letter, and before the last of several
upper-case letters if a lower-case one follows. Digits go with what stands in front of them.
-/
def splitRun (mode : WordMode) (current : List Char) : List Char → List (List Char)
  | [] => []
  | [c] => [(c :: current).reverse]
  | c :: next :: rest =>
    let nextMode := if isLower c then .lower else if isUpper c then .upper else mode
    if nextMode = .lower ∧ isUpper next then
      (c :: current).reverse :: splitRun .boundary [] (next :: rest)
    else if mode = .upper ∧ isUpper c ∧ isLower next then
      current.reverse :: splitRun .boundary [c] (next :: rest)
    else
      splitRun nextMode (c :: current) (next :: rest)

def caseWords (name : String) : List (List Char) :=
  (name.toList.splitOnP (!isAlphanumeric ·)).flatMap (splitRun .boundary [])

/--
A word in lower case. A capital sigma at its end becomes a final one.
-/
def lowerWord : List Char → List Char
  | [] => []
  | ['Σ'] => ['ς']
  | c :: rest => toLower c ++ lowerWord rest

def capitalWord : List Char → List Char
  | [] => []
  | c :: rest => toUpper c ++ lowerWord rest

def pascalCase (name : String) : String :=
  String.ofList ((caseWords name).flatMap capitalWord)

def snakeCase (name : String) : String :=
  String.ofList (List.intercalate ['_'] ((caseWords name).map lowerWord))

end MessageAbi.Text
