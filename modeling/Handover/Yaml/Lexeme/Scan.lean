import Handover.Yaml.Lexeme.Basic
import Handover.Yaml.Scalar

/-! Lexemes that are neither indicators nor scalars: directives, anchors and tags. -/

namespace Handover.Yaml.Lexeme

def isUriChar (c : Char) : Bool :=
  c.isAlphanum || "-;/?:@&=+$,_.!~*\x27()[]%".toList.contains c

inductive Context where
  | tag
  | directive

namespace Context

def name : Context → String
  | .tag => "a tag"
  | .directive => "a directive"

def scanning (c : Context) : String := "while scanning " ++ c.name

def parsing (c : Context) : String := "while parsing " ++ c.name

end Context

def uriBytes (context : Context) (start : Place) : (steps : Nat) → List Char →
    Except Fault (List UInt8 × List Char)
  | 0, cs => .ok ([], cs)
  | steps + 1, cs =>
    match cs with
    | '%' :: rest =>
      match if (rest.take 2).length = 2 then Text.ofHex? (rest.take 2) else none with
      | some n => (uriBytes context start steps (rest.drop 2)).map fun (bytes, rest) =>
        (n.toUInt8 :: bytes, rest)
      | none =>
        complainWhile context.scanning start
          ("expected URI escape sequence of 2 hexadecimal numbers, but found " ++
            shownNext (Scalar.fromNoDigit rest)) (.before rest)
    | _ => .ok ([], cs)

/-- Characters of an address. Bytes that are escaped one after the other are a text together. -/
def uriText (context : Context) (start : Place) : (steps : Nat) → List Char →
    Except Fault (List Char × List Char)
  | 0, cs => .ok ([], cs)
  | steps + 1, cs => do
    match cs with
    | '%' :: _ =>
      let (bytes, rest) ← uriBytes context start (cs.length + 1) cs
      match String.fromUTF8? ⟨bytes.toArray⟩ with
      | some part =>
        let (text, rest) ← uriText context start steps rest
        .ok (part.toList ++ text, rest)
      | none =>
        complainWhile context.scanning start "the escaped bytes are no text" (.before cs)
    | c :: more =>
      if isUriChar c then
        let (text, rest) ← uriText context start steps more
        .ok (c :: text, rest)
      else .ok ([], cs)
    | [] => .ok ([], [])

def uri (context : Context) (start : Place) (cs : List Char) :
    Except Fault (String × List Char) := do
  let (text, rest) ← uriText context start (cs.length + 1) cs
  if (cs.head?.map isUriChar).getD false then .ok (String.ofList text, rest)
  else expected context.parsing start "URI" cs

def handle (context : Context) (start : Place) (cs : List Char) :
    Except Fault (String × List Char) :=
  let unmarked (rest : List Char) : Except Fault (String × List Char) :=
    expected context.scanning start "'!'" rest
  match cs with
  | '!' :: rest =>
    if rest.head? = some ' ' then .ok ("!", rest)
    else
      match rest.dropWhile isNameChar with
      | '!' :: more => .ok (String.ofList ('!' :: rest.takeWhile isNameChar ++ ['!']), more)
      | other => unmarked other
  | other => unmarked other

def skipBlanks (cs : List Char) : List Char := cs.dropWhile (· == ' ')

def inDirective : String := Context.directive.scanning

def number (start : Place) (cs : List Char) : Except Fault (Nat × List Char) :=
  let digits := cs.takeWhile Char.isDigit
  if digits.isEmpty then expected inDirective start "a digit" cs
  else .ok (digits.foldl (fun n c => 10 * n + (c.toNat - 48)) 0, cs.dropWhile Char.isDigit)

def versionDirective (start : Place) (cs : List Char) :
    Except Fault (Directive × List Char) := do
  let (major, rest) ← number start (skipBlanks cs)
  match rest with
  | '.' :: rest =>
    let (_, rest) ← number start rest
    if endsField rest.head? then .ok (.version major, rest)
    else expected inDirective start "a digit or ' '" rest
  | _ => expected inDirective start "a digit or '.'" rest

def tagDirective (start : Place) (cs : List Char) : Except Fault (Directive × List Char) := do
  let (handle, rest) ← handle .directive start (skipBlanks cs)
  if rest.head? ≠ some ' ' then expected inDirective start "' '" rest
  else
    let (uri, rest) ← uri .directive start (skipBlanks rest)
    if endsField rest.head? then .ok (.tag handle uri, rest)
    else expected inDirective start "' '" rest

def nameExpected : String := "alphabetic or numeric character"

def scanDirective (cs : List Char) : Except Fault (Lexeme × List Char) := do
  let start := Place.before cs
  let name := (cs.drop 1).takeWhile isNameChar
  let rest := (cs.drop 1).dropWhile isNameChar
  if name.isEmpty ∨ !endsField rest.head? then expected inDirective start nameExpected rest
  else
    let (found, rest) ←
      if name = "YAML".toList then versionDirective start rest
      else if name = "TAG".toList then tagDirective start rest
      else .ok (.unknown, rest.dropWhile (!isBreak ·))
    let rest ← Scalar.restOfLine inDirective start rest
    .ok (.directive found, rest)

def scanName (activity : String) (cs : List Char) : Except Fault (String × List Char) :=
  let name := (cs.drop 1).takeWhile isNameChar
  let rest := (cs.drop 1).dropWhile isNameChar
  let ended := match rest.head? with
    | none => true
    | some c => endsWord (some c) || "?:,]\x7d%@\x60".toList.contains c
  if name.isEmpty ∨ !ended then expected activity (.before cs) nameExpected rest
  else .ok (String.ofList name, rest)

def scanTag (cs : List Char) : Except Fault (Lexeme × List Char) := do
  let start := Place.before cs
  let (found, rest) ←
    match cs.drop 1 with
    | '<' :: rest => do
      let (suffix, rest) ← uri .tag start rest
      match rest with
      | '>' :: rest => .ok (Lexeme.tag none suffix, rest)
      | _ => expected Context.tag.parsing start "'>'" rest
    | rest =>
      if endsWord rest.head? then .ok (Lexeme.tag none "!", rest)
      else do
        let named := (rest.takeWhile fun c => !endsField (some c)).contains '!'
        let (handle, rest) ← if named then handle .tag start cs else .ok ("!", rest)
        let (suffix, rest) ← uri .tag start rest
        .ok (Lexeme.tag (some handle) suffix, rest)
  if endsField rest.head? then .ok (found, rest)
  else expected Context.tag.scanning start "' '" rest

end Handover.Yaml.Lexeme
