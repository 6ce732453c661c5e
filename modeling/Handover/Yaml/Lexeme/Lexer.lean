import Handover.Yaml.Lexeme.Scan

/-!
From characters to lexemes. Block structure is told by columns: a deeper column opens a block, and a
shallower one closes blocks. A key of a mapping shows only at the colon after it, so a lexeme that
may turn out to be a key is remembered, and the mark of the key is put before it later.
-/

namespace Handover.Yaml

structure KeyStart where
  position : Nat
  required : Bool
  place : Place
  line : Nat
  column : Nat

structure Lexer where
  cursor : Cursor
  lexemes : List Located := []
  depth : Nat := 0
  indent : Int := -1
  outer : List Int := []
  keyAllowed : Bool := true
  keys : List (Nat × KeyStart) := []
  ended : Bool := false

namespace Lexer

def inFlow (l : Lexer) : Bool := l.depth != 0

def place (l : Lexer) : Place := l.cursor.place

def emit (l : Lexer) (start : Place) (lexeme : Lexeme) : Lexer :=
  { l with lexemes := l.lexemes ++ [{ lexeme, start, finish := l.place }] }

def insertAt (l : Lexer) (position : Nat) (place : Place) (lexeme : Lexeme) : Lexer :=
  let located : Located := { lexeme, start := place, finish := place }
  { l with lexemes := l.lexemes.take position ++ located :: l.lexemes.drop position }

def gap : (comment : Bool) → List Char → Nat × Bool
  | _, [] => (0, false)
  | comment, c :: rest =>
    if isBreak c then ((gap false rest).1 + 1, true)
    else if comment ∨ c = ' ' ∨ c = '#' then
      let (count, crossed) := gap (comment || c == '#') rest
      (count + 1, crossed)
    else (0, false)

def toNextLexeme (l : Lexer) : Lexer :=
  let atMark := l.cursor.index = 0 ∧ l.cursor.peek = some '\ufeff'
  let start := if atMark then l.cursor.next else l.cursor
  let (count, crossed) := gap false start.rest
  { l with
    cursor := start.skip count
    keyAllowed := l.keyAllowed || (crossed && !l.inFlow) }

def keyAlone {α : Type} (l : Lexer) (key : KeyStart) : Except Fault α :=
  complainWhile "while scanning a simple key" key.place "could not find expected ':'" l.place

/-- A key stands on one line and is not longer than 1024 characters. -/
def isStale (l : Lexer) (key : KeyStart) : Bool :=
  key.line != l.cursor.line || decide (1024 < key.place.left - l.place.left)

def dropStaleKeys (l : Lexer) : Except Fault Lexer :=
  match l.keys.find? fun (_, key) => l.isStale key && key.required with
  | some (_, key) => l.keyAlone key
  | none => .ok { l with keys := l.keys.filter fun (_, key) => !l.isStale key }

def dropKey (l : Lexer) : Except Fault Lexer :=
  match l.keys.lookup l.depth with
  | some key =>
    if key.required then l.keyAlone key
    else .ok { l with keys := l.keys.filter (·.1 != l.depth) }
  | none => .ok l

def saveKey (l : Lexer) : Except Fault Lexer :=
  if l.keyAllowed then do
    let key : KeyStart := {
      position := l.lexemes.length
      required := !l.inFlow && l.indent == l.cursor.column
      place := l.place
      line := l.cursor.line
      column := l.cursor.column }
    let l ← l.dropKey
    .ok { l with keys := (l.depth, key) :: l.keys }
  else .ok l

def unwind (column : Int) (l : Lexer) : Lexer :=
  if l.inFlow then l
  else go l l.outer
where
  go (l : Lexer) : List Int → Lexer
    | [] => l
    | outer :: rest =>
      if column < l.indent then
        go { l.emit l.place .blockEnd with indent := outer, outer := rest } rest
      else l

def openBlock (l : Lexer) (column position : Nat) (place : Place) (start : Lexeme) : Lexer :=
  if l.indent < column then
    { l.insertAt position place start with indent := column, outer := l.indent :: l.outer }
  else l

def openHere (l : Lexer) (start : Lexeme) : Lexer :=
  if l.inFlow then l else l.openBlock l.cursor.column l.lexemes.length l.place start

def advance (l : Lexer) (count : Nat) (lexeme : Lexeme) : Lexer :=
  { l with cursor := l.cursor.skip count }.emit l.place lexeme

def moveTo (l : Lexer) (rest : List Char) (lexeme : Lexeme) : Lexer :=
  { l with cursor := l.cursor.skipTo rest }.emit l.place lexeme

def allowKey (l : Lexer) (allowed : Bool) : Lexer := { l with keyAllowed := allowed }

def fetchEnd (l : Lexer) : Except Fault Lexer := do
  let l ← (l.unwind (-1)).dropKey
  .ok ({ l with keyAllowed := false, keys := [], ended := true }.emit l.place .stop)

def fetchDirective (l : Lexer) : Except Fault Lexer := do
  let l ← (l.unwind (-1)).dropKey
  let (lexeme, rest) ← Lexeme.scanDirective l.cursor.rest
  .ok ((l.allowKey false).moveTo rest lexeme)

def fetchDocumentMark (l : Lexer) (lexeme : Lexeme) : Except Fault Lexer := do
  let l ← (l.unwind (-1)).dropKey
  .ok ((l.allowKey false).advance 3 lexeme)

def fetchFlowStart (l : Lexer) (lexeme : Lexeme) : Except Fault Lexer := do
  let l ← l.saveKey
  .ok ({ l with depth := l.depth + 1, keyAllowed := true }.advance 1 lexeme)

/-- Nothing is read beyond a closing bracket that was not opened. -/
def fetchFlowEnd (l : Lexer) (lexeme : Lexeme) : Except Fault Lexer := do
  let l ← l.dropKey
  .ok ({ l with depth := l.depth - 1, keyAllowed := false, ended := !l.inFlow }.advance 1 lexeme)

def fetchFlowEntry (l : Lexer) : Except Fault Lexer := do
  let l ← (l.allowKey true).dropKey
  .ok (l.advance 1 .flowEntry)

def misplaced (l : Lexer) (what : String) : Except Fault Lexer :=
  complain (what ++ " are not allowed here") l.place

def fetchBlockEntry (l : Lexer) : Except Fault Lexer := do
  if !l.inFlow ∧ !l.keyAllowed then l.misplaced "sequence entries"
  else
    let l ← ((l.openHere .blockSequenceStart).allowKey true).dropKey
    .ok (l.advance 1 .blockEntry)

def fetchKey (l : Lexer) : Except Fault Lexer := do
  if !l.inFlow ∧ !l.keyAllowed then l.misplaced "mapping keys"
  else
    let l ← ((l.openHere .blockMappingStart).allowKey !l.inFlow).dropKey
    .ok (l.advance 1 .key)

def fetchValue (l : Lexer) : Except Fault Lexer := do
  match l.keys.lookup l.depth with
  | some key =>
    let l := { l with keys := l.keys.filter (·.1 != l.depth) }
    let l := l.insertAt key.position key.place .key
    let l := if l.inFlow then l
      else l.openBlock key.column key.position key.place .blockMappingStart
    .ok ((l.allowKey false).advance 1 .value)
  | none =>
    if !l.inFlow ∧ !l.keyAllowed then l.misplaced "mapping values"
    else
      let l ← ((l.openHere .blockMappingStart).allowKey !l.inFlow).dropKey
      .ok (l.advance 1 .value)

def fetchNode (l : Lexer) (scan : List Char → Except Fault (Lexeme × List Char)) :
    Except Fault Lexer := do
  let l ← l.saveKey
  let (lexeme, rest) ← scan l.cursor.rest
  .ok ((l.allowKey false).moveTo rest lexeme)

def named (activity : String) (lexeme : String → Lexeme) (cs : List Char) :
    Except Fault (Lexeme × List Char) :=
  (Lexeme.scanName activity cs).map fun (name, rest) => (lexeme name, rest)

def quoted (quote : Char) (cs : List Char) : Except Fault (Lexeme × List Char) :=
  (Scalar.quoted quote (.before cs) (cs.length + 1) (cs.drop 1)).map fun (text, rest) =>
    (.scalar (String.ofList text) false, rest)

def fetchBlockScalar (l : Lexer) (folded : Bool) : Except Fault Lexer := do
  let l ← (l.allowKey true).dropKey
  let least := (max 1 (l.indent + 1)).toNat
  let (text, rest) ← Scalar.block folded least l.place (l.cursor.rest.drop 1)
  .ok (l.moveTo rest (.scalar (String.ofList text) false))

def fetchPlain (l : Lexer) : Except Fault Lexer := do
  let l ← l.saveKey
  let (text, cursor, crossed) :=
    Scalar.plain l.inFlow (l.indent + 1) (l.cursor.rest.length + 1) [] false l.cursor
  .ok ({ l with cursor, keyAllowed := crossed }.emit l.place (.scalar (String.ofList text) true))

def startsPlain (flow : Bool) (c : Char) (next : Option Char) : Bool :=
  !(endsWord (some c) || "-?:,[]\x7b\x7d#&*!|>\x27\x22%@\x60".toList.contains c) ||
    (!endsWord next && (c == '-' || (!flow && (c == '?' || c == ':'))))

def stray (l : Lexer) : Except Fault Lexer :=
  .error (.malformed {
    activity := some "while scanning for the next token"
    problem := "found character " ++ shownNext l.cursor.rest ++ " that cannot start any token"
    place := l.place })

def fetch (l : Lexer) : Except Fault Lexer := do
  let l ← l.toNextLexeme.dropStaleKeys
  let l := l.unwind l.cursor.column
  let next := l.cursor.ahead 1
  match l.cursor.peek with
  | none => l.fetchEnd
  | some c =>
    if l.cursor.column = 0 ∧ c = '%' then l.fetchDirective
    else if l.cursor.column = 0 ∧ atSeparator l.cursor.rest then
      l.fetchDocumentMark (if c = '-' then .documentStart else .documentEnd)
    else if c = '[' then l.fetchFlowStart .flowSequenceStart
    else if c = '\x7b' then l.fetchFlowStart .flowMappingStart
    else if c = ']' then l.fetchFlowEnd .flowSequenceEnd
    else if c = '\x7d' then l.fetchFlowEnd .flowMappingEnd
    else if c = ',' then l.fetchFlowEntry
    else if c = '-' ∧ endsWord next then l.fetchBlockEntry
    else if c = '?' ∧ (l.inFlow ∨ endsWord next) then l.fetchKey
    else if c = ':' ∧ (l.inFlow ∨ endsWord next) then l.fetchValue
    else if c = '*' then l.fetchNode (named "while scanning an alias" .alias)
    else if c = '&' then l.fetchNode (named "while scanning an anchor" .anchor)
    else if c = '!' then l.fetchNode Lexeme.scanTag
    else if c = '|' ∧ !l.inFlow then l.fetchBlockScalar false
    else if c = '>' ∧ !l.inFlow then l.fetchBlockScalar true
    else if c = '\x27' ∨ c = '\x22' then l.fetchNode (quoted c)
    else if startsPlain l.inFlow c next then l.fetchPlain
    else l.stray

/-- The lexemes up to a fault. A lexeme that may still become a key is not told apart before what
follows it has been read, so the fault comes in its place. -/
def brokenBy (l : Lexer) (fault : Fault) : List Located :=
  let told := l.keys.foldl (fun least (_, key) => min least key.position) l.lexemes.length
  l.lexemes.take told ++ [{ lexeme := .broken fault, start := l.place, finish := l.place }]

/-- Every step but the last takes at least one character. -/
def run : (steps : Nat) → Lexer → List Located
  | 0, l => l.lexemes
  | steps + 1, l =>
    match l.fetch with
    | .error fault => l.brokenBy fault
    | .ok next =>
      if next.ended then next.lexemes
      else
        match next.dropStaleKeys with
        | .error fault => l.brokenBy fault
        | .ok next => run steps next

end Lexer

def Located.ofText (cs : List Char) : List Located :=
  Lexer.run (cs.length + 1) { cursor := { rest := cs } }

end Handover.Yaml
