import Handover.Text.Hex
import Handover.Yaml.Cursor

/-!
The text of scalars: plain ones, quoted ones, and blocks. Each function reads from the start of
some characters and gives the text with the characters that are left. For complaints it is told the
place where the scalar starts.
-/

namespace Handover.Yaml.Scalar

/-! Plain scalars. -/

def isFlowIndicator (c : Char) : Bool := ",[]\x7b\x7d".toList.contains c

/-- Whether a plain scalar stops before a character, given the one after it. -/
def stopsPlain (flow : Bool) (c : Char) (next : Option Char) : Bool :=
  endsWord (some c) ||
    (c == ':' && (endsWord next || (flow && (next.map isFlowIndicator).getD false))) ||
    (flow && (isFlowIndicator c || c == '?'))

def plainWord (flow : Bool) : List Char → List Char
  | [] => []
  | c :: rest => if stopsPlain flow c rest.head? then [] else c :: plainWord flow rest

/-- Line breaks with the blanks around them, and how many characters that is. There are none to
speak of if a line separates documents. -/
def foldedBreaks : List Char → Option (List Char) × Nat
  | [] => (some [], 0)
  | c :: rest =>
    if c = ' ' then
      let (breaks, count) := foldedBreaks rest
      (breaks, count + 1)
    else if isBreak c then
      if atSeparator rest then (none, 1)
      else
        let (breaks, count) := foldedBreaks rest
        (breaks.map (breakText c :: ·), count + 1)
    else (some [], 0)

/-- A single line break becomes a blank. Of several the first disappears. -/
def fold (first : Char) (more : List Char) : List Char :=
  if first ≠ '\n' then first :: more else if more.isEmpty then [' '] else more

def plainGap (c : Cursor) : List Char × Cursor × Bool :=
  let blanks := c.rest.takeWhile (· == ' ')
  let c := c.skip blanks.length
  match c.rest with
  | first :: rest =>
    if isBreak first then
      if atSeparator rest then ([], c.next, true)
      else
        let (more, count) := foldedBreaks rest
        ((more.map (fold (breakText first))).getD [], c.skip (count + 1), true)
    else (blanks, c, false)
  | [] => (blanks, c, false)

def plain (flow : Bool) (indent : Int) :
    (words : Nat) → (gap : List Char) → (crossed : Bool) → Cursor → List Char × Cursor × Bool
  | 0, _, crossed, c => ([], c, crossed)
  | words + 1, gap, crossed, c =>
    let word := plainWord flow c.rest
    if c.peek = some '#' ∨ word.isEmpty then ([], c, crossed)
    else
      let (next, c, crossed) := plainGap (c.skip word.length)
      if next.isEmpty ∨ c.peek = some '#' ∨ (!flow ∧ c.column < indent) then
        (gap ++ word, c, crossed)
      else
        let (text, last) := plain flow indent words next crossed c
        (gap ++ word ++ text, last)

/-! Quoted scalars. -/

def inQuoted {α : Type} (start : Place) (problem : String) (rest : List Char) : Except Fault α :=
  complainWhile "while scanning a quoted scalar" start problem (.before rest)

def unclosed {α : Type} (start : Place) : Except Fault α :=
  inQuoted start "found unexpected end of stream" []

def quotedBreaks (start : Place) : (atStart : Bool) → List Char →
    Except Fault (List Char × List Char)
  | _, [] => .ok ([], [])
  | atStart, c :: rest =>
    if atStart && atSeparator (c :: rest) then
      inQuoted start "found unexpected document separator" (c :: rest)
    else if isGap c then quotedBreaks start false rest
    else if isBreak c then
      (quotedBreaks start true rest).map fun (breaks, rest) => (breakText c :: breaks, rest)
    else .ok ([], c :: rest)

def escapes : List (Char × Char) := [
  ('0', '\x00'), ('a', '\x07'), ('b', '\x08'), ('t', '\t'), ('\t', '\t'), ('n', '\n'),
  ('v', '\x0b'), ('f', '\x0c'), ('r', '\x0d'), ('e', '\x1b'), (' ', ' '), ('\x22', '\x22'),
  ('\\', '\\'), ('/', '/'), ('N', '\u0085'), ('_', '\u00a0'), ('L', '\u2028'), ('P', '\u2029')]

def escapeWidths : List (Char × Nat) := [('x', 2), ('u', 4), ('U', 8)]

/-- The character of a code point. Half a surrogate pair is replaced. -/
def ofCodePoint (n : Nat) : Except Fault Char :=
  if 0x10ffff < n then .error .outOfRange
  else if n.isValidChar then .ok (Char.ofNat n)
  else .ok '\ufffd'

def inDoubleQuoted : String := "while scanning a double-quoted scalar"

def fromNoDigit (cs : List Char) : List Char :=
  cs.dropWhile fun c => (Text.hexValue? c).isSome

def numericEscape (start : Place) (width : Nat) (rest : List Char) :
    Except Fault (List Char × List Char) :=
  match if (rest.take width).length = width then Text.ofHex? (rest.take width) else none with
  | some n => (ofCodePoint n).map fun image => ([image], rest.drop width)
  | none =>
    complainWhile inDoubleQuoted start ("expected escape sequence of " ++ Nat.repr width ++
      " hexadecimal numbers, but found " ++ shownNext (fromNoDigit rest)) (.before rest)

def escape (start : Place) (cs : List Char) : Except Fault (List Char × List Char) :=
  let unknown := complainWhile inDoubleQuoted start
    ("found unknown escape character " ++ shownNext cs) (.before cs)
  match cs with
  | [] => unknown
  | c :: rest =>
    match escapes.lookup c, escapeWidths.lookup c with
    | some image, _ => .ok ([image], rest)
    | none, some width => numericEscape start width rest
    | none, none => if isBreak c then quotedBreaks start true rest else unknown

def quoted (quote : Char) (start : Place) : (steps : Nat) → List Char →
    Except Fault (List Char × List Char)
  | 0, _ | _, [] => unclosed start
  | steps + 1, c :: rest =>
    let andThen (head rest : List Char) : Except Fault (List Char × List Char) :=
      (quoted quote start steps rest).map fun (text, rest) => (head ++ text, rest)
    if c = quote then
      match quote, rest with
      | '\x27', '\x27' :: rest => andThen ['\x27'] rest
      | _, _ => .ok ([], rest)
    else if quote = '\x22' ∧ c = '\\' then
      match escape start rest with
      | .ok (image, rest) => andThen image rest
      | .error fault => .error fault
    else if isGap c ∨ isBreak c then
      match (c :: rest).dropWhile isGap with
      | [] => unclosed start
      | first :: more =>
        if isBreak first then
          match quotedBreaks start true more with
          | .ok (breaks, rest) => andThen (fold (breakText first) breaks) rest
          | .error fault => .error fault
        else andThen ((c :: rest).takeWhile isGap) (first :: more)
    else andThen [c] rest

/-! Block scalars. -/

inductive Chomping where
  | clip
  | strip
  | keep
  deriving DecidableEq

structure Header where
  chomping : Chomping := .clip
  increment : Option Nat := none

def chomping? : List Char → Option (Chomping × List Char)
  | '+' :: rest => some (.keep, rest)
  | '-' :: rest => some (.strip, rest)
  | _ => none

def inBlock : String := "while scanning a block scalar"

/-- An indentation of zero cannot be stated. -/
def increment? (start : Place) : List Char → Except Fault (Option (Nat × List Char))
  | c :: rest =>
    if c = '0' then
      complainWhile inBlock start
        "expected indentation indicator in the range 1-9, but found 0" (.before (c :: rest))
    else if c.isDigit then .ok (some (c.toNat - 48, rest))
    else .ok none
  | [] => .ok none

def indicators (start : Place) (cs : List Char) : Except Fault (Header × List Char) :=
  match chomping? cs with
  | some (chomping, rest) =>
    (increment? start rest).map fun
      | some (increment, rest) => ({ chomping, increment := some increment }, rest)
      | none => ({ chomping }, rest)
  | none =>
    (increment? start cs).map fun
      | some (increment, rest) =>
        match chomping? rest with
        | some (chomping, rest) => ({ chomping, increment := some increment }, rest)
        | none => ({ increment := some increment }, rest)
      | none => ({}, cs)

def restOfLine (activity : String) (start : Place) (cs : List Char) : Except Fault (List Char) :=
  let rest := cs.dropWhile (· == ' ')
  let rest := if rest.head? = some '#' then rest.dropWhile (!isBreak ·) else rest
  if endsLine rest.head? then .ok (rest.drop 1)
  else expected activity start "a comment or a line break" rest

def header (start : Place) (cs : List Char) : Except Fault (Header × List Char) := do
  let (header, rest) ← indicators start cs
  if endsField rest.head? then .ok (header, ← restOfLine inBlock start rest)
  else expected inBlock start "chomping or indentation indicators" rest

def margin (column widest : Nat) : List Char → List Char × Nat × Nat × List Char
  | [] => ([], widest, column, [])
  | c :: rest =>
    if c = ' ' then margin (column + 1) (max widest (column + 1)) rest
    else if isBreak c then
      let (breaks, result) := margin 0 widest rest
      (breakText c :: breaks, result)
    else ([], widest, column, c :: rest)

def blockBreaks (indent column : Nat) : List Char → List Char × Nat × List Char
  | [] => ([], column, [])
  | c :: rest =>
    if c = ' ' ∧ column < indent then blockBreaks indent (column + 1) rest
    else if isBreak c then
      let (breaks, result) := blockBreaks indent 0 rest
      (breakText c :: breaks, result)
    else ([], column, c :: rest)

/-- Lines of a block: their text, the last line break, the empty lines after it, and the rest. -/
structure Lines where
  text : List Char := []
  last : List Char := []
  breaks : List Char
  rest : List Char

/-- What joins a line to the next. In a folded block a line break becomes a blank between lines that
both start at the margin. -/
def joint (folded : Bool) (line last breaks next : List Char) : List Char :=
  let flush (line : List Char) : Bool := !(line.head?.map isGap).getD false
  if folded && last == ['\n'] && flush line && flush next then
    if breaks.isEmpty then [' '] else []
  else last

def blockLines (folded : Bool) (indent : Nat) :
    (steps : Nat) → (breaks : List Char) → (column : Nat) → List Char → Lines
  | 0, breaks, _, cs => { breaks, rest := cs }
  | steps + 1, breaks, column, cs =>
    if column ≠ indent ∨ cs.isEmpty then { breaks, rest := cs }
    else
      let line := cs.takeWhile (!isBreak ·)
      let rest := cs.dropWhile (!isBreak ·)
      let last := (rest.take 1).map breakText
      let (more, column, rest) := blockBreaks indent 0 (rest.drop 1)
      if column = indent ∧ !rest.isEmpty then
        let following := blockLines folded indent steps more column rest
        let text := breaks ++ line ++ joint folded line last more rest ++ following.text
        { following with text }
      else { text := breaks ++ line, last, breaks := more, rest }

def block (folded : Bool) (least : Nat) (start : Place) (cs : List Char) :
    Except Fault (List Char × List Char) := do
  let (header, rest) ← header start cs
  let (indent, breaks, column, rest) :=
    match header.increment with
    | none =>
      let (breaks, widest, column, rest) := margin 0 0 rest
      (max least widest, breaks, column, rest)
    | some increment =>
      let indent := least + increment - 1
      let (breaks, column, rest) := blockBreaks indent 0 rest
      (indent, breaks, column, rest)
  let lines := blockLines folded indent (rest.length + 1) breaks column rest
  match header.chomping with
  | .strip => .ok (lines.text, lines.rest)
  | .clip => .ok (lines.text ++ lines.last, lines.rest)
  | .keep => .ok (lines.text ++ lines.last ++ lines.breaks, lines.rest)

end Handover.Yaml.Scalar
