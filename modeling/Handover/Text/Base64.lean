/-!
Base 64. Characters outside the alphabet are passed over, and data ends at its padding. It has to
end in a whole group, or in a group that is filled up by padding.
-/

namespace Handover.Text.Base64

def sextet? (c : Char) : Option Nat :=
  if 'A' ≤ c ∧ c ≤ 'Z' then some (c.toNat - 65)
  else if 'a' ≤ c ∧ c ≤ 'z' then some (c.toNat - 71)
  else if '0' ≤ c ∧ c ≤ '9' then some (c.toNat + 4)
  else if c = '+' then some 62
  else if c = '/' then some 63
  else none

/-- The characters that carry data, and whether they end well. Padding counts once two characters
of a group are there, and ends the data when the group is full. -/
def sextets (place pads : Nat) : List Char → List Nat × Bool
  | [] => ([], place = 0)
  | c :: rest =>
    if c = '=' then
      if 2 ≤ place ∧ 4 ≤ place + pads + 1 then ([], true)
      else sextets place (if 2 ≤ place then pads + 1 else pads) rest
    else
      match sextet? c with
      | some n =>
        let (more, whole) := sextets ((place + 1) % 4) 0 rest
        (n :: more, whole)
      | none => sextets place pads rest

/-- The bytes of groups of four. The bits of a last group that fill no byte are dropped. -/
def bytes : List Nat → List UInt8
  | a :: b :: c :: d :: rest =>
    (4 * a + b / 16).toUInt8 :: (16 * (b % 16) + c / 4).toUInt8 ::
      (64 * (c % 4) + d).toUInt8 :: bytes rest
  | [a, b, c] => [(4 * a + b / 16).toUInt8, (16 * (b % 16) + c / 4).toUInt8]
  | [a, b] => [(4 * a + b / 16).toUInt8]
  | _ => []

inductive Defect where
  | loneCharacter (count : Nat)
  | unpadded
  deriving DecidableEq

def Defect.message : Defect → String
  | .loneCharacter count => "Invalid base64-encoded string: number of data characters (" ++
    Nat.repr count ++ ") cannot be 1 more than a multiple of 4"
  | .unpadded => "Incorrect padding"

def decode (cs : List Char) : Except Defect (List UInt8) :=
  match sextets 0 0 cs with
  | (data, true) => .ok (bytes data)
  | (data, false) =>
    if data.length % 4 = 1 then .error (.loneCharacter data.length) else .error .unpadded

end Handover.Text.Base64
