/-!
This module contains the reading of command line arguments: options with and without values, and
the words between them.
-/

namespace MessageAbi.CommandLine

/--
An option: its names, and whether a value belongs to it. A value can be attached to the name with an
equals sign, or without one to the short name, or be the next argument.
-/
structure OptionSpec where
  name : String
  short : Option Char
  takesValue : Bool
  deriving DecidableEq, Repr

structure Setting where
  name : String
  value : Option String
  deriving DecidableEq, Repr

structure ArgumentReader where
  settings : List Setting
  words : List String
  awaiting : Option OptionSpec
  isEscaped : Bool
  deriving DecidableEq, Repr

namespace ArgumentReader

def start : ArgumentReader :=
  ⟨[], [], none, false⟩

def addWord (reader : ArgumentReader) (word : String) : ArgumentReader :=
  { reader with words := reader.words ++ [word] }

def addSetting? (reader : ArgumentReader) (setting : Setting) : Option ArgumentReader :=
  if reader.settings.any (·.name == setting.name) then none
  else some { reader with settings := reader.settings ++ [setting] }

def addOption? (reader : ArgumentReader) (option : OptionSpec) (attached : Option String) :
    Option ArgumentReader :=
  match option.takesValue, attached with
  | true, none => some { reader with awaiting := some option }
  | true, some value => reader.addSetting? ⟨option.name, some value⟩
  | false, none => reader.addSetting? ⟨option.name, none⟩
  | false, some _ => none

def addLong? (options : List OptionSpec) (reader : ArgumentReader) (text : List Char) :
    Option ArgumentReader := do
  let name := text.takeWhile (· != '=')
  let option ← options.find? (·.name == String.ofList name)
  match text.drop name.length with
  | [] => reader.addOption? option none
  | _ :: value => reader.addOption? option (some (String.ofList value))

/--
Reads options by their short names. The first one that takes a value takes all that follows it.
-/
def addShort? (options : List OptionSpec) (reader : ArgumentReader) :
    List Char → Option ArgumentReader
  | [] => some reader
  | c :: rest => do
    let option ← options.find? (·.short == some c)
    if option.takesValue then
      match rest with
      | [] => reader.addOption? option none
      | '=' :: value => reader.addOption? option (some (String.ofList value))
      | value => reader.addOption? option (some (String.ofList value))
    else
      addShort? options (← reader.addOption? option none) rest

def read? (options : List OptionSpec) (reader : ArgumentReader) (argument : String) :
    Option ArgumentReader :=
  if reader.isEscaped then some (reader.addWord argument)
  else
    match reader.awaiting, argument.toList with
    | none, ['-', '-'] => some { reader with isEscaped := true }
    | none, '-' :: '-' :: text => reader.addLong? options text
    | none, '-' :: c :: rest => reader.addShort? options (c :: rest)
    | none, _ => some (reader.addWord argument)
    | some _, '-' :: _ :: _ => none
    | some option, _ =>
      { reader with awaiting := none }.addSetting? ⟨option.name, some argument⟩

end ArgumentReader

structure Arguments where
  settings : List Setting
  words : List String
  deriving DecidableEq, Repr

namespace Arguments

/--
Reads arguments. There are none to be had if an option is unknown, is given twice, lacks its value
or has one that does not belong to it.
-/
def read? (options : List OptionSpec) (arguments : List String) : Option Arguments := do
  let reader ← arguments.foldlM (ArgumentReader.read? options) ArgumentReader.start
  match reader.awaiting with
  | none => some ⟨reader.settings, reader.words⟩
  | some _ => none

def value? (arguments : Arguments) (name : String) : Option String :=
  (arguments.settings.find? (·.name == name)).bind (·.value)

end Arguments

end MessageAbi.CommandLine
