import MessageAbi.CommandLine.Run

/-!
This module contains the program: it runs commands on the files of the system.
-/

namespace MessageAbi.CommandLine

def usage : String :=
  "usage: check INPUT\n" ++
  "       generate INPUT [--target rust|abi-json] [--module NAME] [-o FILE]\n" ++
  "       pack INPUT MESSAGE ARGUMENTS\n" ++
  "       unpack INPUT PAYLOAD\n" ++
  "with [--empty-schema deny|warn|allow]"

/--
The fault with the number that the system has for it, which may come as its negative.
-/
def faultOfNumber (number : UInt32) (details : String) : FileFault :=
  let number := if number.toNat < 0x80000000 then number.toNat else 0x100000000 - number.toNat
  let known := [FileFault.notFound, .notDirectory, .isDirectory, .nameTooLong]
  match known.find? (·.number == number) with
  | some fault => fault
  | none => ⟨details, number⟩

def faultOfError : IO.Error → FileFault
  | .noFileOrDirectory _ number details
  | .inappropriateType _ number details
  | .invalidArgument _ number details
  | .permissionDenied _ number details
  | .resourceExhausted _ number details
  | .noSuchThing _ number details
  | .hardwareFault number details
  | .otherError number details => faultOfNumber number details
  | error => ⟨toString error, 0⟩

def systemFiles : Files IO where
  read path := do
    try return .ok (← IO.FS.readBinFile path).data.toList
    catch error => return .error (faultOfError error)
  write path output := do
    try
      IO.FS.writeBinFile path output.toText.toUTF8
      return .ok ()
    catch error => return .error (faultOfError error)

end MessageAbi.CommandLine

open MessageAbi.CommandLine in
def main (arguments : List String) : IO UInt32 := do
  let outcome ← run systemFiles arguments
  match outcome with
  | .misused => IO.eprintln usage
  | .failed report => report.lines.forM IO.eprintln
  | .finished output => IO.print output.toText
  return outcome.exitCode.toUInt32
