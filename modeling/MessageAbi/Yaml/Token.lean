/-!
This module contains the tokens of YAML streams.
-/

namespace MessageAbi.Yaml

inductive Token where
  | version (major minor : Nat)
  | tagHandle (handle expansion : String)
  | documentStart
  | documentEnd
  | blockSequenceStart
  | blockMappingStart
  | blockEnd
  | flowSequenceStart
  | flowSequenceEnd
  | flowMappingStart
  | flowMappingEnd
  | blockEntry
  | flowEntry
  | key
  | value
  | aliasOf (name : String)
  | anchor (name : String)
  | tag (handle suffix : String)
  | scalar (text : String) (isPlain : Bool)
  | streamEnd
  deriving DecidableEq, Repr

end MessageAbi.Yaml
