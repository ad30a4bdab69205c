import MessageAbi.Schema.Read

/-!
This module contains the report of what went wrong with a command, and its layout.
-/

namespace MessageAbi.CommandLine

/--
What went wrong, and its causes, each that of the one before.
-/
structure Report where
  message : String
  causes : List String
  deriving DecidableEq, Repr

namespace Report

def withMargins (first others : String) (text : String) : List String :=
  match text.splitOn "\n" with
  | [] => []
  | line :: lines => (first ++ line) :: lines.map (others ++ ·)

def numberMargin (number : Nat) : String :=
  let digits := toString number
  String.ofList (List.replicate (5 - digits.length) ' ') ++ digits ++ ": "

def lines (report : Report) : List String :=
  withMargins "Error: " "" report.message ++
    match report.causes with
    | [] => []
    | [cause] => "" :: "Caused by:" :: withMargins "    " "    " cause
    | causes =>
      "" :: "Caused by:" :: causes.zipIdx.flatMap fun (cause, number) =>
        withMargins (numberMargin number) "       " cause

end Report

end CommandLine

namespace Schema

def ParseError.causes (error : ParseError) : List String :=
  error.message ::
    match error with
    | document _ | fieldShape .. => []
    | messageName _ source | fieldName _ _ source => [source.message]
    | fieldType _ _ _ source => [source.message, source.source.message]

def ReadError.causes : ReadError → List String
  | parse error => error.causes
  | semantic error => [error.message]

end Schema

end MessageAbi
