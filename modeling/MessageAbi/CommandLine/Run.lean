import MessageAbi.AbiDocument
import MessageAbi.CommandLine.Command
import MessageAbi.CommandLine.Files
import MessageAbi.CommandLine.Report
import MessageAbi.Json.Reader
import MessageAbi.JsonCall
import MessageAbi.Text.Blank

/-!
This module contains what commands do: they read a schema, do their work on it and write the result.
-/

namespace MessageAbi.CommandLine

def isAddress (source : String) : Bool :=
  "http://".toList.isPrefixOf source.toList || "https://".toList.isPrefixOf source.toList

def orReport {α : Type} (result : Except AbiError α) : Except Report α :=
  result.mapError fun error => ⟨error.message, []⟩

def orReportGeneration {α : Type} (result : Except GenerationError α) : Except Report α :=
  result.mapError fun error => ⟨error.message, []⟩

def padRight (width : Nat) (text : String) : String :=
  text ++ String.ofList (List.replicate (width - text.length) ' ')

def listing (compiled : Schema.Compiled) : String :=
  String.join (compiled.messages.map fun (category, spec) =>
    s!"{padRight 8 category.name} {spec.selector.toHex} {spec.signature}\n")

/--
The bytes of a payload in hexadecimal digits, with or without `0x` in front of them and white space
around them.
-/
def readPayload (text : String) : Except Hex.Error Bytes :=
  match Text.trim text.toList with
  | '0' :: 'x' :: digits => Hex.decode (String.ofList digits)
  | digits => Hex.decode (String.ofList digits)

def generate (schema : Schema) (moduleName : Option String) :
    Target → Except GenerationError Output
  | .bindings => return .code (← Bindings.generate schema moduleName)
  | .abiDocument => return .text ((← schema.abiDocument).pretty ++ "\n")

def Action.perform (schema : Schema) : Action → Except Report Output
  | check => do
    return .text (listing (← orReportGeneration schema.compile))
  | generate target moduleName _ =>
    orReportGeneration (CommandLine.generate schema moduleName target)
  | pack message text => do
    let compiled ← orReportGeneration schema.compile
    let some spec := compiled.registry.byName? message
      | orReport (.error (.unknownMessage message))
    let some arguments := Json.parse? text
      | throw ⟨"arguments are not valid JSON", []⟩
    let payload ← orReport (spec.packJson arguments)
    return .text s!"0x{Hex.encode payload}\n"
  | unpack text => do
    let compiled ← orReportGeneration schema.compile
    match readPayload text with
    | .error error => throw ⟨s!"payload {Text.quoted text} is not valid hex", [error.message]⟩
    | .ok payload =>
      let (spec, arguments) ← orReport (compiled.registry.unpackJson payload)
      let result : Json := .object [("message", .string spec.name), ("args", arguments)]
      return .text (result.pretty ++ "\n")

def Action.destination? : Action → Option String
  | generate _ _ destination => destination
  | check | pack .. | unpack _ => none

namespace Command

def perform (command : Command) (document : Bytes) : Except Report Output :=
  match Schema.read document command.policy with
  | .error error => .error ⟨s!"invalid schema {command.source}", error.causes⟩
  | .ok schema => command.action.perform schema

variable {m : Type → Type} [Monad m]

/--
Reads the document that the schema of a command is in. Nothing is fetched from other machines.
-/
def load (files : Files m) (command : Command) : m (Except Report Bytes) := do
  if isAddress command.source then
    return .error ⟨s!"fetching {command.source}", []⟩
  else
    match ← files.read command.source with
    | .ok document => return .ok document
    | .error fault => return .error ⟨s!"reading {command.source}", [fault.message]⟩

def deliver (files : Files m) (command : Command) (output : Output) : m (Except Report Output) := do
  match command.action.destination? with
  | none => return .ok output
  | some path =>
    match ← files.write path output with
    | .ok () => return .ok (.text "")
    | .error fault => return .error ⟨s!"writing {path}", [fault.message]⟩

def run (files : Files m) (command : Command) : m (Except Report Output) := do
  match ← command.load files with
  | .error report => return .error report
  | .ok document =>
    match command.perform document with
    | .error report => return .error report
    | .ok output => command.deliver files output

end Command

inductive Outcome where
  | misused
  | failed (report : Report)
  | finished (output : Output)

def Outcome.exitCode : Outcome → Nat
  | finished _ => 0
  | failed _ => 1
  | misused => 2

def run {m : Type → Type} [Monad m] (files : Files m) (arguments : List String) : m Outcome := do
  match Command.ofArguments? arguments with
  | none => return .misused
  | some command =>
    match ← command.run files with
    | .ok output => return .finished output
    | .error report => return .failed report

end MessageAbi.CommandLine
