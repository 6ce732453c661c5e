import Handover.Yaml.Fault

/-! The lexemes of a document: indicators, marks of block structure, and scalars. -/

namespace Handover.Yaml

inductive Directive where
  | version (major : Nat)
  | tag (handle uri : String)
  | unknown
  deriving DecidableEq

inductive Lexeme where
  | directive (directive : Directive)
  | documentStart
  | documentEnd
  | blockSequenceStart
  | blockMappingStart
  | blockEnd
  | flowSequenceStart
  | flowSequenceEnd
  | flowMappingStart
  | flowMappingEnd
  | blockEntry
  | flowEntry
  | key
  | value
  | alias (name : String)
  | anchor (name : String)
  | tag (handle : Option String) (suffix : String)
  | scalar (text : String) (plain : Bool)
  | stop
  | broken (fault : Fault)
  deriving DecidableEq

def Lexeme.name : Lexeme → String
  | .directive _ => "<directive>"
  | .documentStart => "<document start>"
  | .documentEnd => "<document end>"
  | .blockSequenceStart => "<block sequence start>"
  | .blockMappingStart => "<block mapping start>"
  | .blockEnd => "<block end>"
  | .flowSequenceStart => "["
  | .flowSequenceEnd => "]"
  | .flowMappingStart => "\x7b"
  | .flowMappingEnd => "\x7d"
  | .blockEntry => "-"
  | .flowEntry => ","
  | .key => "?"
  | .value => ":"
  | .alias _ => "<alias>"
  | .anchor _ => "<anchor>"
  | .tag .. => "<tag>"
  | .scalar .. => "<scalar>"
  | .stop | .broken _ => "<stream end>"

structure Located where
  lexeme : Lexeme
  start : Place
  finish : Place

end Handover.Yaml
