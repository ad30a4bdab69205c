import MessageAbi.CommandLine.Arguments
import MessageAbi.Schema.Analysis

/-!
This module contains the commands and how arguments name them.
-/

namespace MessageAbi.CommandLine

inductive Target where
  | bindings
  | abiDocument
  deriving DecidableEq, Repr

def Target.ofName? : String → Option Target
  | "rust" => some bindings
  | "abi-json" => some abiDocument
  | _ => none

def policyOfName? : String → Option Schema.EmptySchemaPolicy
  | "deny" => some .deny
  | "warn" => some .warn
  | "allow" => some .allow
  | _ => none

inductive Action where
  | check
  | generate (target : Target) (moduleName destination : Option String)
  | pack (message arguments : String)
  | unpack (payload : String)
  deriving DecidableEq, Repr

/--
A command: where the schema is, whether it has to contain messages, and what is done with it.
-/
structure Command where
  source : String
  policy : Schema.EmptySchemaPolicy
  action : Action
  deriving DecidableEq, Repr

namespace Command

/--
The option for more output. It is given before the name of the command or behind it, and as nothing
is logged it has no effect.
-/
def verboseOption : OptionSpec :=
  ⟨"verbose", some 'v', false⟩

def sharedOptions : List OptionSpec :=
  [verboseOption, ⟨"empty-schema", none, true⟩]

def generateOptions : List OptionSpec :=
  [⟨"target", none, true⟩, ⟨"module", none, true⟩, ⟨"output", some 'o', true⟩]

def action? (name : String) (arguments : Arguments) (words : List String) : Option Action := do
  match name, words with
  | "check", [] => return .check
  | "generate", [] =>
    let target ← Target.ofName? ((arguments.value? "target").getD "rust")
    let destination := arguments.value? "output"
    guard (destination != some "")
    return .generate target (arguments.value? "module") destination
  | "pack", [message, values] => return .pack message values
  | "unpack", [payload] => return .unpack payload
  | _, _ => none

def isOption (argument : String) : Bool :=
  match argument.toList with
  | ['-', '-'] => false
  | '-' :: _ :: _ => true
  | _ => false

def ofArguments? (arguments : List String) : Option Command := do
  let leading := arguments.takeWhile isOption
  let _ ← Arguments.read? [verboseOption] leading
  match arguments.drop leading.length with
  | [] => none
  | name :: rest =>
    let options := sharedOptions ++ if name = "generate" then generateOptions else []
    let given ← Arguments.read? options rest
    let policy ← policyOfName? ((given.value? "empty-schema").getD "deny")
    match given.words with
    | [] => none
    | source :: words => return ⟨source, policy, ← action? name given words⟩

end Command

end MessageAbi.CommandLine
