import MessageAbi.Category
import MessageAbi.Selector
import MessageAbi.Value

/-!
This module contains what can go wrong when messages are packed, unpacked, registered or read from
JSON, and the wording of it.
-/

namespace MessageAbi

/--
What is wrong with a payload. Positions count from the start of the argument data.
-/
inductive PayloadFault where
  | shorterThanSelector (length : Nat)
  | partialWord (length : Nat)
  | missingArguments
  | unexpectedArguments
  | readTwice (position : Nat)
  | wordOutOfBounds (position length : Nat)
  | tooLarge (position : Nat)
  | offsetOverflow (offset : Nat)
  | bytesOutOfBounds (count position : Nat)
  | arrayOutOfBounds (count position : Nat)
  | invalidBool (position : Nat)
  | integerOutOfRange (type : String) (position : Nat)
  | dirtyAddress (position : Nat)
  | invalidText (position : Nat)
  deriving DecidableEq, Repr

def PayloadFault.message : PayloadFault → String
  | shorterThanSelector length => s!"{length} bytes is shorter than a selector"
  | partialWord length => s!"argument data of {length} bytes is not a multiple of {Word.size}"
  | missingArguments => "missing argument data"
  | unexpectedArguments => "message takes no arguments"
  | readTwice position => s!"value at offset {position} reads data already decoded elsewhere"
  | wordOutOfBounds position length =>
    s!"word at offset {position} is out of bounds of {length} bytes"
  | tooLarge position => s!"offset or length at {position} is too large"
  | offsetOverflow offset => s!"offset {offset} overflows"
  | bytesOutOfBounds count position => s!"{count} bytes at offset {position} are out of bounds"
  | arrayOutOfBounds count position =>
    s!"array of {count} elements at offset {position} exceeds the payload"
  | invalidBool position => s!"invalid bool at offset {position}"
  | integerOutOfRange type position => s!"{type} at offset {position} is out of range"
  | dirtyAddress position => s!"dirty address padding at offset {position}"
  | invalidText position => s!"string at offset {position} is not UTF-8"

inductive JsonStep where
  | member (name : String)
  | element (index : Nat)
  deriving DecidableEq, Repr

def JsonStep.text : JsonStep → String
  | member name => "." ++ name
  | element index => s!"[{index}]"

abbrev JsonPath := List JsonStep

def JsonPath.text (path : JsonPath) : String :=
  "$" ++ String.join (path.map JsonStep.text)

inductive JsonFault where
  | expected (what : String)
  | notAddressSize
  | invalidHex (error : Hex.Error)
  | tooManyBits (limit : Nat)
  | unknownMember (name : String)
  | missing
  deriving DecidableEq, Repr

def JsonFault.message : JsonFault → String
  | expected what => "expected " ++ what
  | notAddressSize => "an address is 20 bytes"
  | invalidHex error => error.message
  | tooManyBits limit => s!"more than {limit} bits"
  | unknownMember name => "unknown member " ++ Text.quoted name
  | missing => "missing"

inductive AbiError where
  | malformedPayload (fault : PayloadFault)
  | selectorNotFound (selector : Selector)
  | unsupportedMessage (category : Category) (selector : Selector)
  | selectorMismatch (expected found : Selector)
  | unknownMessage (name : String)
  | typeMismatch (expected : String) (found : Value.Kind)
  | outOfRange (type value : String)
  | arityMismatch (expected found : Nat)
  | duplicateMessage (name : String)
  | duplicateSelector (selector : Selector) (first second : String)
  | invalidJson (path : JsonPath) (fault : JsonFault)
  deriving DecidableEq

def AbiError.message : AbiError → String
  | malformedPayload fault => "malformed payload: " ++ fault.message
  | selectorNotFound selector => s!"selector {selector.toHex} not found"
  | unsupportedMessage category selector =>
    s!"unsupported {category.name} message with selector {selector.toHex}"
  | selectorMismatch expected found =>
    s!"payload selector {found.toHex} does not match {expected.toHex}"
  | unknownMessage name => "unknown message " ++ Text.quoted name
  | typeMismatch expected found => s!"expected a value of type {expected}, found {found.name}"
  | outOfRange type value => s!"value {value} does not fit in {type}"
  | arityMismatch expected found => s!"expected {expected} values, found {found}"
  | duplicateMessage name => s!"message {Text.quoted name} is already registered"
  | duplicateSelector selector first second =>
    s!"selector {selector.toHex} of {second} collides with {first}"
  | invalidJson path fault => s!"invalid JSON value at {path.text}: {fault.message}"

end MessageAbi
