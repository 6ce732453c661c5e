import Handover.Yaml.Lexeme.Lexer
import Handover.Yaml.Node.Basic
import Handover.Yaml.Plain

/-!
From lexemes to the node of a document. Every function takes lexemes from the front. The state keeps
the rest of them, the handles that abbreviate tags, and what anchors stand for.
-/

namespace Handover.Yaml

structure Parsing where
  rest : List Located
  handles : List (String × String) := [("!", "!"), ("!!", Tag.standard)]
  /-- What each anchor stands for. While a sequence or mapping is being read, its anchor stands for
  an enclosing one. -/
  anchors : List (String × Node) := []

abbrev Parse (α : Type) := StateT Parsing (Except Fault) α

namespace Parse

def peekLocated : Parse Located := fun s =>
  match s.rest with
  | [] => complain "found unexpected end of stream" ⟨0⟩
  | next :: _ =>
    match next.lexeme with
    | .broken fault => .error fault
    | _ => .ok (next, s)

def peek : Parse Lexeme := (·.lexeme) <$> peekLocated

def take : Parse Located := fun s => do
  let (next, _) ← peekLocated s
  .ok (next, { s with rest := s.rest.drop 1 })

def accept (lexeme : Lexeme) : Parse Bool := do
  if (← peek) = lexeme then
    let _ ← take
    return true
  else return false

def fault {α : Type} (result : Except Fault α) : Parse α := fun s => result.map (·, s)

def refuse {α : Type} (activity : String) (start : Place) (wanted : String) : Parse α := do
  let next ← peekLocated
  fault (complainWhile activity start (wanted ++ " " ++ Text.quoted next.lexeme.name) next.start)

def exhausted {α : Type} : Parse α := fault (complain "the document is nested too deeply" ⟨0⟩)

def setAnchor (name : Option String) (node : Node) : Parse Unit :=
  modify fun s =>
    match name with
    | some name => { s with anchors := (name, node) :: s.anchors }
    | none => s

end Parse

open Parse

structure Properties where
  anchor : Option String := none
  tag : Option String := none
  place : Place

namespace Properties

def isNone (p : Properties) : Bool := p.anchor.isNone && p.tag.isNone

/-- The tag of a scalar. A plain scalar without a tag is what its form says, and so is any scalar
with a lone exclamation mark. -/
def scalarTag (p : Properties) (plain : Bool) (text : String) : Tag :=
  match p.tag with
  | some "!" => Plain.tag text
  | some uri => Tag.ofUri uri
  | none => if plain then Plain.tag text else .text

def collectionTag (p : Properties) (standard : Tag) : Tag :=
  match p.tag with
  | some "!" | none => standard
  | some uri => Tag.ofUri uri

end Properties

def resolveTag (start place : Place) (handle : Option String) (suffix : String) : Parse String := do
  match handle with
  | none => return suffix
  | some handle =>
    match (← get).handles.lookup handle with
    | some head => return head ++ suffix
    | none =>
      fault (complainWhile "while parsing a node" start
        ("found undefined tag handle " ++ Text.quoted handle) place)

def properties : Parse Properties := do
  let first ← peekLocated
  let place := first.start
  match first.lexeme with
  | .anchor name =>
    let _ ← take
    let second ← peekLocated
    match second.lexeme with
    | .tag handle suffix =>
      let _ ← take
      let tag ← resolveTag place second.start handle suffix
      return { anchor := some name, tag := some tag, place }
    | _ => return { anchor := some name, place }
  | .tag handle suffix =>
    let _ ← take
    match ← peek with
    | .anchor name =>
      let _ ← take
      let tag ← resolveTag place place handle suffix
      return { anchor := some name, tag := some tag, place }
    | _ => return { tag := some (← resolveTag place place handle suffix), place }
  | _ => return { place }

def Properties.checkAnchor (p : Properties) : Parse Unit := do
  match p.anchor with
  | none => return
  | some name =>
    match (← get).anchors.lookup name with
    | none => return
    | some node =>
      fault (complainWhile
        ("found duplicate anchor " ++ Text.quoted name ++ "; first occurrence") node.place
        "second occurrence" p.place)

def emptyNode (place : Place) : Node := .scalar .null "" place

/-- Where a node stands: in brackets, in a block, or in a block where a sequence need not be
indented. -/
inductive Context where
  | flow
  | block
  | value
  deriving DecidableEq

def Context.activity : Context → String
  | .flow => "while parsing a flow node"
  | .block | .value => "while parsing a block node"

mutual

def parseNode (context : Context) : (fuel : Nat) → Parse Node
  | 0 => exhausted
  | fuel + 1 => do
    let first ← peekLocated
    match first.lexeme with
    | .alias name =>
      let _ ← take
      match (← get).anchors.lookup name with
      | some node => return node
      | none => fault (complain ("found undefined alias " ++ Text.quoted name) first.start)
    | _ =>
      let p ← properties
      let next ← peekLocated
      let isBlock := context ≠ .flow
      let scalar (text : String) (plain : Bool) : Parse Node := do
        p.checkAnchor
        let node := Node.scalar (p.scalarTag plain text) text p.place
        setAnchor p.anchor node
        return node
      let sequence (items : Parse (List Node)) : Parse Node := do
        p.checkAnchor
        setAnchor p.anchor (.enclosingSequence p.place)
        let node := Node.sequence (p.collectionTag .sequence) (← items) p.place
        setAnchor p.anchor node
        return node
      let mapping (pairs : Parse (List (Node × Node))) : Parse Node := do
        p.checkAnchor
        setAnchor p.anchor (.enclosingMapping p.place)
        let node := Node.mapping (p.collectionTag .mapping) (← pairs) p.place
        setAnchor p.anchor node
        return node
      match next.lexeme with
      | .scalar text plain =>
        let _ ← take
        scalar text plain
      | lexeme =>
        if context = .value ∧ lexeme = .blockEntry then sequence (parseBareEntries fuel)
        else if lexeme = .flowSequenceStart then do
          let _ ← take
          sequence (parseFlowItems next.start true fuel)
        else if lexeme = .flowMappingStart then do
          let _ ← take
          mapping (parseFlowPairs next.start true fuel)
        else if isBlock ∧ lexeme = .blockSequenceStart then do
          let _ ← take
          sequence (parseEntries next.start fuel)
        else if isBlock ∧ lexeme = .blockMappingStart then do
          let _ ← take
          mapping (parsePairs next.start fuel)
        else if !p.isNone then scalar "" true
        else refuse context.activity p.place "expected the node content, but found"

def parseOptional (context : Context) (without : List Lexeme) (place : Place) :
    (fuel : Nat) → Parse Node
  | 0 => exhausted
  | fuel + 1 => do
    if without.contains (← peek) then return emptyNode place
    else parseNode context fuel

def parseValue (context : Context) (without : List Lexeme) : (fuel : Nat) → Parse Node
  | 0 => exhausted
  | fuel + 1 => do
    let next ← peekLocated
    if ← accept .value then parseOptional context without next.finish fuel
    else return emptyNode next.start

def parseEntries (start : Place) : (fuel : Nat) → Parse (List Node)
  | 0 => exhausted
  | fuel + 1 => do
    let next ← peekLocated
    if ← accept .blockEntry then
      let item ← parseOptional .block [.blockEntry, .blockEnd] next.finish fuel
      return item :: (← parseEntries start fuel)
    else if ← accept .blockEnd then return []
    else refuse "while parsing a block collection" start "expected <block end>, but found"

def parseBareEntries : (fuel : Nat) → Parse (List Node)
  | 0 => exhausted
  | fuel + 1 => do
    let next ← peekLocated
    if ← accept .blockEntry then
      let item ← parseOptional .block [.blockEntry, .key, .value, .blockEnd] next.finish fuel
      return item :: (← parseBareEntries fuel)
    else return []

def parsePairs (start : Place) : (fuel : Nat) → Parse (List (Node × Node))
  | 0 => exhausted
  | fuel + 1 => do
    let next ← peekLocated
    if ← accept .key then
      let absent := [Lexeme.key, .value, .blockEnd]
      let key ← parseOptional .value absent next.finish fuel
      let value ← parseValue .value absent fuel
      return (key, value) :: (← parsePairs start fuel)
    else if ← accept .blockEnd then return []
    else refuse "while parsing a block mapping" start "expected <block end>, but found"

def parseFlowPair (closing : Lexeme) (place : Place) : (fuel : Nat) → Parse (Node × Node)
  | 0 => exhausted
  | fuel + 1 => do
    let key ← parseOptional .flow [.value, .flowEntry, closing] place fuel
    let value ← parseValue .flow [.flowEntry, closing] fuel
    return (key, value)

/-- The items of a flow sequence, to its end. A pair stands for a mapping of its own. -/
def parseFlowItems (start : Place) (first : Bool) : (fuel : Nat) → Parse (List Node)
  | 0 => exhausted
  | fuel + 1 => do
    if ← accept .flowSequenceEnd then return []
    else
      if !first then
        if !(← accept .flowEntry) then
          refuse "while parsing a flow sequence" start "expected ',' or ']', but got"
      let next ← peekLocated
      if ← accept .key then
        let pair ← parseFlowPair .flowSequenceEnd next.finish fuel
        return .mapping .mapping [pair] next.start :: (← parseFlowItems start false fuel)
      else if ← accept .flowSequenceEnd then return []
      else
        let item ← parseNode .flow fuel
        return item :: (← parseFlowItems start false fuel)

/-- The pairs of a flow mapping, to its end. A node alone is a key without a value. -/
def parseFlowPairs (start : Place) (first : Bool) : (fuel : Nat) → Parse (List (Node × Node))
  | 0 => exhausted
  | fuel + 1 => do
    if ← accept .flowMappingEnd then return []
    else
      if !first then
        if !(← accept .flowEntry) then
          refuse "while parsing a flow mapping" start "expected ',' or '\x7d', but got"
      let next ← peekLocated
      if ← accept .key then
        let pair ← parseFlowPair .flowMappingEnd next.finish fuel
        return pair :: (← parseFlowPairs start false fuel)
      else if ← accept .flowMappingEnd then return []
      else
        let key ← parseNode .flow fuel
        let after ← peekLocated
        return (key, emptyNode after.start) :: (← parseFlowPairs start false fuel)

end

/-- Directives before a document. Only versions 1 are known, and nothing is stated twice. -/
def parseDirectives : (fuel : Nat) → (versioned : Bool) → (handles : List (String × String)) →
    Parse (List (String × String))
  | 0, _, _ => exhausted
  | fuel + 1, versioned, handles => do
    let next ← peekLocated
    match next.lexeme with
    | .directive found =>
      let _ ← take
      match found with
      | .version major =>
        if versioned then fault (complain "found duplicate YAML directive" next.start)
        else if major ≠ 1 then
          fault (complain "found incompatible YAML document (version 1.* is required)" next.start)
        else parseDirectives fuel true handles
      | .tag handle uri =>
        if (handles.lookup handle).isSome then
          fault (complain ("duplicate tag handle " ++ Text.quoted handle) next.start)
        else parseDirectives fuel versioned (handles ++ [(handle, uri)])
      | .unknown => parseDirectives fuel versioned handles
    | _ => return handles

def parseStart (fuel : Nat) : Parse Unit := do
  let stated ← parseDirectives fuel false []
  modify fun s => { s with handles := stated ++ s.handles }
  let next ← peekLocated
  if !(← accept .documentStart) then
    fault (complain ("expected '<document start>', but found " ++ Text.quoted next.lexeme.name)
      next.start)

def skipEnds : (fuel : Nat) → Parse Unit
  | 0 => exhausted
  | fuel + 1 => do if ← accept .documentEnd then skipEnds fuel

def parseContent (fuel : Nat) : Parse Node := do
  let next ← peekLocated
  match next.lexeme with
  | .directive _ | .documentStart | .documentEnd | .stop => return emptyNode next.start
  | _ => parseNode .block fuel

def parseDocument (fuel : Nat) : Parse (Option Node) := do
  let node ←
    match ← peek with
    | .stop => return none
    | .directive _ | .documentStart =>
      parseStart fuel
      parseContent fuel
    | _ => parseNode .block fuel
  skipEnds fuel
  let next ← peekLocated
  if ← accept .stop then return some node
  else
    parseStart fuel
    fault (complainWhile "expected a single document in the stream" node.place
      "but found another document" next.start)

/-- No chain of nested calls is longer than a few calls for each lexeme. -/
def Node.ofLexemes (lexemes : List Located) : Except Fault (Option Node) :=
  ((parseDocument (4 * lexemes.length + 8)).run { rest := lexemes }).map (·.1)

end Handover.Yaml
