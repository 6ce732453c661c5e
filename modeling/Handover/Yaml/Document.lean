import Handover.Failure
import Handover.Yaml.Excerpt
import Handover.Yaml.Node.Content
import Handover.Yaml.Node.Parser

/-! A text as a document: the value that it holds, or the fault that is found first in it. -/

namespace Handover.Yaml

def isAllowed (c : Char) : Bool :=
  let n := c.toNat
  n == 0x09 || n == 0x0a || n == 0x0d || (0x20 ≤ n && n ≤ 0x7e) || n == 0x85 ||
    (0xa0 ≤ n && n ≤ 0xd7ff) || (0xe000 ≤ n && n ≤ 0xfffd) || 0x10000 ≤ n

/-- The value of the only document of a text. A text without a document holds null. -/
def load (text : String) : Except Fault Value := do
  let cs := text.toList
  match cs.dropWhile isAllowed with
  | c :: rest => .error (.forbidden c (cs.length - (c :: rest).length))
  | [] =>
    match ← Node.ofLexemes (Located.ofText cs) with
    | some node => node.value
    | none => .ok .null

def Fault.error (text : List Char) : Fault → DocumentError
  | .malformed complaint => .invalid (complaint.message text)
  | .forbidden c position => .invalid (forbiddenMessage c position)
  | .outOfRange => .broken .outOfRange
  | .numberWithoutDigits => .broken .numberWithoutDigits
  | .notABoolean => .broken .notABoolean
  | .notATimestamp => .broken .notATimestamp

def read (text : String) : Except DocumentError Value :=
  (load text).mapError (Fault.error text.toList)

end Handover.Yaml
