import Handover.Yaml.Fault
import Handover.Yaml.Tag

/-! Nodes of a document, each with the place where it starts. An alias is replaced by the node it
stands for. -/

namespace Handover.Yaml

inductive Node where
  | scalar (tag : Tag) (text : String) (place : Place)
  | sequence (tag : Tag) (items : List Node) (place : Place)
  | mapping (tag : Tag) (pairs : List (Node × Node)) (place : Place)
  /-- An alias of a sequence or a mapping that it is part of. -/
  | enclosingSequence (place : Place)
  | enclosingMapping (place : Place)
  deriving Inhabited

namespace Node

def tag : Node → Tag
  | .scalar tag .. | .sequence tag .. | .mapping tag .. => tag
  | .enclosingSequence _ => .sequence
  | .enclosingMapping _ => .mapping

def place : Node → Place
  | .scalar _ _ place | .sequence _ _ place | .mapping _ _ place => place
  | .enclosingSequence place | .enclosingMapping place => place

def kind : Node → String
  | .scalar .. => "scalar"
  | .sequence .. | .enclosingSequence _ => "sequence"
  | .mapping .. | .enclosingMapping _ => "mapping"

end Node

end Handover.Yaml
