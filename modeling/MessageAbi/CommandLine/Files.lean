import MessageAbi.Bindings.Code

/-!
This module contains the access of commands to files, and a directory of files to run them in.
-/

namespace MessageAbi.CommandLine

inductive Output where
  | text (text : String)
  | code (code : Bindings.Code)

namespace Output

def toText : Output → String
  | .text content => content
  | .code content => content.text

def toBytes (output : Output) : Bytes :=
  output.toText.toUTF8.data.toList

end Output

structure FileFault where
  reason : String
  number : Nat
  deriving DecidableEq, Repr

namespace FileFault

def message (fault : FileFault) : String :=
  s!"{fault.reason} (os error {fault.number})"

def notFound : FileFault :=
  ⟨"No such file or directory", 2⟩

def notDirectory : FileFault :=
  ⟨"Not a directory", 20⟩

def isDirectory : FileFault :=
  ⟨"Is a directory", 21⟩

def nameTooLong : FileFault :=
  ⟨"File name too long", 36⟩

end FileFault

structure Files (m : Type → Type) where
  read : (path : String) → m (Except FileFault Bytes)
  write : (path : String) → Output → m (Except FileFault Unit)

/--
A directory that contains files only. The directories above it contain nothing else.
-/
structure Directory where
  entries : List (String × Output)

namespace Directory

def get? (directory : Directory) (name : String) : Option Output :=
  directory.entries.lookup name

def insert (directory : Directory) (name : String) (output : Output) : Directory :=
  ⟨(name, output) :: directory.entries.filter (·.1 != name)⟩

inductive Place where
  | directory
  | file (name : String) (output : Output)
  | vacant (name : String)

def maxNameSize : Nat := 255

def maxPathSize : Nat := 4095

def enter (directory : Directory) (height : Nat) (name : String) (behind : List String) :
    Except FileFault Place :=
  if name.utf8ByteSize > maxNameSize then .error .nameTooLong
  else
    match height, directory.get? name, behind with
    | 0, some output, [] => .ok (.file name output)
    | 0, some _, _ => .error .notDirectory
    | 0, none, [] => .ok (.vacant name)
    | _, _, _ => .error .notFound

def follow (directory : Directory) : (height : Nat) → List String → Except FileFault Place
  | _, [] => .ok .directory
  | height, "." :: names => follow directory height names
  | height, ".." :: names => follow directory (height + 1) names
  | height, name :: names => directory.enter height name names

def locate (directory : Directory) (path : String) : Except FileFault Place :=
  if path.isEmpty then .error .notFound
  else if path.utf8ByteSize > maxPathSize then .error .nameTooLong
  else
    let isAbsolute := path.toList.head? == some '/'
    directory.follow (if isAbsolute then 1 else 0) ((path.splitOn "/").filter (!·.isEmpty))

def endsWithSlash (path : String) : Bool :=
  path.toList.getLast? == some '/'

def read (directory : Directory) (path : String) : Except FileFault Bytes := do
  match ← directory.locate path with
  | .directory => throw .isDirectory
  | .vacant _ => throw .notFound
  | .file _ output => if endsWithSlash path then throw .notDirectory else return output.toBytes

def write (directory : Directory) (path : String) (output : Output) :
    Except FileFault Directory := do
  match ← directory.locate path with
  | .directory => throw .isDirectory
  | .vacant name | .file name _ =>
    if endsWithSlash path then throw .isDirectory else return directory.insert name output

def files : Files (StateM Directory) where
  read path := return (← get).read path
  write path output := do
    match (← get).write path output with
    | .ok directory =>
      set directory
      return .ok ()
    | .error fault => return .error fault

end Directory

end MessageAbi.CommandLine
