import Handover.Text.Hex
import Handover.Text.Printable

/-!
Quoted text, as messages and log records show a value. Single quotes enclose it, unless it holds a
single quote and no double quote. What has no visible form is written as an escape.
-/

namespace Handover.Text

def codePointEscape (n : Nat) : List Char :=
  if n ≤ 0xff then '\\' :: 'x' :: hexDigits 2 n
  else if n ≤ 0xffff then '\\' :: 'u' :: hexDigits 4 n
  else '\\' :: 'U' :: hexDigits 8 n

def quotedChar (delimiter c : Char) : List Char :=
  if c = delimiter ∨ c = '\\' then ['\\', c]
  else if c = '\n' then ['\\', 'n']
  else if c = '\r' then ['\\', 'r']
  else if c = '\t' then ['\\', 't']
  else if isPrintable c then [c]
  else codePointEscape c.toNat

def delimiterFor (cs : List Char) : Char :=
  if cs.contains '\x27' && !cs.contains '\x22' then '\x22' else '\x27'

def quoted (s : String) : String :=
  let delimiter := delimiterFor s.toList
  String.ofList (delimiter :: s.toList.flatMap (quotedChar delimiter) ++ [delimiter])

def quotedList (texts : List String) : String :=
  "[" ++ String.intercalate ", " (texts.map quoted) ++ "]"

end Handover.Text
