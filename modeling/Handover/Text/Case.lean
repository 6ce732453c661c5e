import Handover.Text.Case.Context
import Handover.Text.Case.Lower
import Handover.Text.Case.Upper

/-!
Upper and lower case of whole texts. A letter may become several, and a capital sigma becomes the
final form at the end of a word.
-/

namespace Handover.Text

def mapCase (expansions : List (Nat × List Nat)) (runs : List Shift) (c : Char) : List Char :=
  match expansions.lookup c.toNat with
  | some images => images.map Char.ofNat
  | none => [Char.ofNat (Shift.lookup runs c.toNat)]

def upperChar (c : Char) : List Char :=
  if c.toNat < 0x80 then [c.toUpper] else mapCase upperExpansions upperShifts c

def lowerChar (c : Char) : List Char :=
  if c.toNat < 0x80 then [c.toLower] else mapCase lowerExpansions lowerShifts c

def upper (s : String) : String := String.ofList (s.toList.flatMap upperChar)

def meetsCased (cs : List Char) : Bool :=
  match cs.dropWhile isTransparent with
  | c :: _ => isCased c
  | [] => false

/-- Lower case of the characters that follow `before`, which is read backwards. -/
def lowerAfter (before : List Char) : List Char → List Char
  | [] => []
  | c :: rest =>
    let images :=
      if c = 'Σ' then [if meetsCased before && !meetsCased rest then 'ς' else 'σ'] else lowerChar c
    images ++ lowerAfter (c :: before) rest

def lower (s : String) : String := String.ofList (lowerAfter [] s.toList)

end Handover.Text
