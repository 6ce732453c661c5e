import Handover.Number.Double
import Handover.Text.Blank

/-! Numbers read from text that holds nothing else but blanks around them. -/

namespace Handover.Number

def digitValue? (c : Char) : Option Nat :=
  if c.isDigit then some (c.toNat - 48)
  else if 'a' ≤ c.toLower ∧ c.toLower ≤ 'f' then some (c.toLower.toNat - 87)
  else none

def readDigits (base : Nat) (cs : List Char) : Option Nat :=
  if cs.isEmpty then none
  else cs.foldl (fun sum c => do
    let digit ← digitValue? c
    if digit < base then some (base * (← sum) + digit) else none) (some 0)

def splitSign (cs : List Char) : Bool × List Char :=
  match cs with
  | '-' :: rest => (true, rest)
  | '+' :: rest => (false, rest)
  | _ => (false, cs)

def baseMark : Nat → Option Char
  | 2 => some 'b'
  | 8 => some 'o'
  | 16 => some 'x'
  | _ => none

/-- Digits beyond this count are not read in base ten. -/
def digitLimit : Nat := 4300

def readInteger (base : Nat) (cs : List Char) : Option Int := do
  let (negative, digits) := splitSign (Text.trimBlanks cs)
  let digits := match digits with
    | '0' :: mark :: rest => if baseMark base = some mark.toLower then rest else digits
    | _ => digits
  if base = 10 ∧ digitLimit < digits.length then none
  else
    let n ← readDigits base digits
    some (if negative then -(n : Int) else n)

def readDecimal (negative : Bool) (cs : List Char) : Option Double := do
  let whole := cs.takeWhile Char.isDigit
  let rest := cs.dropWhile Char.isDigit
  let (fraction, rest) := match rest with
    | '.' :: digits => (digits.takeWhile Char.isDigit, digits.dropWhile Char.isDigit)
    | _ => ([], rest)
  let digits ← readDigits 10 (whole ++ fraction)
  let exponent ←
    match rest with
    | [] => some 0
    | mark :: power =>
      if mark.toLower = 'e' then
        let (negative, power) := splitSign power
        (readDigits 10 power).map fun n => if negative then -(n : Int) else n
      else none
  some (Double.ofDecimal negative digits (exponent - fraction.length))

def readDouble (cs : List Char) : Option Double :=
  let (negative, rest) := splitSign (Text.trimBlanks cs)
  let word := String.ofList (rest.map Char.toLower)
  if word = "inf" ∨ word = "infinity" then some (.infinite negative)
  else if word = "nan" then some .nan
  else readDecimal negative rest

end Handover.Number
