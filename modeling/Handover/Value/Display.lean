import Handover.Number.Read
import Handover.Text.Quoted
import Handover.Value.Basic

/-!
How a value is shown. By itself a text stands as it is and a date in the usual notation. Inside a
list or a mapping every value is a literal.
-/

namespace Handover

namespace Value

def bytesLiteral (bytes : List UInt8) : String :=
  let cs := bytes.map fun b => Char.ofNat b.toNat
  let delimiter := Text.delimiterFor cs
  let shown (c : Char) : List Char :=
    if c.toNat < 0x7f then Text.quotedChar delimiter c else '\\' :: 'x' :: Text.hexDigits 2 c.toNat
  String.ofList ('b' :: delimiter :: cs.flatMap shown ++ [delimiter])

mutual

def literal : Value → String
  | .null => "None"
  | .bool b => if b then "True" else "False"
  | .int n => Number.integer n
  | .float x => Number.Layout.render {} x
  | .text s => Text.quoted s
  | .bytes bs => bytesLiteral bs
  | .date d => d.literal
  | .moment m => m.literal
  | .list items => "[" ++ String.intercalate ", " (literals items) ++ "]"
  | .pair key value => "(" ++ key.literal ++ ", " ++ value.literal ++ ")"
  | .set [] => "set()"
  | .set items => "\x7b" ++ String.intercalate ", " (literals items) ++ "\x7d"
  | .mapping entries => "\x7b" ++ String.intercalate ", " (entryLiterals entries) ++ "\x7d"
  | .enclosingList => "[...]"
  | .enclosingMapping => "\x7b...\x7d"
  | .foreign written => written.getD ""

def literals : List Value → List String
  | [] => []
  | value :: rest => value.literal :: literals rest

def entryLiterals : List (Value × Value) → List String
  | [] => []
  | (key, value) :: rest => (key.literal ++ ": " ++ value.literal) :: entryLiterals rest

end

/-- Integers with too many digits are not written out in base ten, as they are not read. -/
def isWritableInt (n : Int) : Bool := (Nat.toDigits 10 n.natAbs).length ≤ Number.digitLimit

mutual

def isWritable : Value → Bool
  | .int n => isWritableInt n
  | .foreign written => written.isSome
  | .list items => areWritable items
  | .pair key value => key.isWritable && value.isWritable
  | .set items => areWritable items
  | .mapping entries => entriesAreWritable entries
  | _ => true

def areWritable : List Value → Bool
  | [] => true
  | value :: rest => value.isWritable && areWritable rest

def entriesAreWritable : List (Value × Value) → Bool
  | [] => true
  | (key, value) :: rest => key.isWritable && value.isWritable && entriesAreWritable rest

end

def display : Value → String
  | .text s => s
  | .date d => d.iso
  | .moment m => m.iso
  | value => value.literal

end Value

end Handover
