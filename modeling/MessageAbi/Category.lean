/-!
This module contains the sections a schema is divided into.
-/

namespace MessageAbi

inductive Category where
  | struct
  | report
  | advance
  | inspect
  deriving DecidableEq, Repr

namespace Category

def messages : List Category :=
  [.report, .advance, .inspect]

def name : Category → String
  | struct => "struct"
  | report => "report"
  | advance => "advance"
  | inspect => "inspect"

def sectionName : Category → String
  | struct => "structs"
  | report => "reports"
  | advance => "advances"
  | inspect => "inspects"

end Category

end MessageAbi
