import Handover.Yaml.Fault

/-! Reading the text of a document, and the characters that matter there. -/

namespace Handover.Yaml

def isBreak (c : Char) : Bool :=
  c == '\n' || c == '\u0085' || c == '\u2028' || c == '\u2029'

/-- What a line break stands for in a scalar. The two separators of paragraphs stay as they are. -/
def breakText (c : Char) : Char := if c = '\u0085' then '\n' else c

def isGap (c : Char) : Bool := c == ' ' || c == '\t'

def endsLine : Option Char → Bool
  | none => true
  | some c => isBreak c

def endsWord : Option Char → Bool
  | none => true
  | some c => isGap c || isBreak c

def endsField : Option Char → Bool
  | none => true
  | some c => c == ' ' || isBreak c

def isNameChar (c : Char) : Bool := c.isAlphanum || c == '-' || c == '_'

def atSeparator : List Char → Bool
  | '-' :: '-' :: '-' :: rest => endsWord rest.head?
  | '.' :: '.' :: '.' :: rest => endsWord rest.head?
  | _ => false

structure Cursor where
  rest : List Char
  index : Nat := 0
  line : Nat := 0
  column : Nat := 0

namespace Cursor

def peek (c : Cursor) : Option Char := c.rest.head?

def place (c : Cursor) : Place := .before c.rest

def ahead (c : Cursor) (n : Nat) : Option Char := c.rest[n]?

/-- A byte order mark takes up no column. -/
def next (c : Cursor) : Cursor :=
  match c.rest with
  | [] => c
  | char :: rest =>
    if isBreak char then { rest, index := c.index + 1, line := c.line + 1, column := 0 }
    else if char = '\ufeff' then { c with rest, index := c.index + 1 }
    else { c with rest, index := c.index + 1, column := c.column + 1 }

def skip : Nat → Cursor → Cursor
  | 0, c => c
  | n + 1, c => skip n c.next

def skipTo (rest : List Char) (c : Cursor) : Cursor := c.skip (c.rest.length - rest.length)

end Cursor

end Handover.Yaml
