import Handover.Number.Read
import Handover.Text.Base64
import Handover.Text.Case
import Handover.Value.Basic
import Handover.Yaml.Fault
import Handover.Yaml.Plain

/-! What the text of a scalar means under its tag. -/

namespace Handover.Yaml.Meaning

def withoutUnderscores (cs : List Char) : List Char := cs.filter (· != '_')

def orOutOfRange {α : Type} : Option α → Except Fault α
  | some a => .ok a
  | none => .error .outOfRange

/-- Parts in base sixty, the last one counting once. -/
def sexagesimal {α : Type} (add mul : α → α → α) (ofNat : Nat → α) (parts : List α) : α :=
  parts.reverse.zipIdx.foldl (fun sum (part, i) => add sum (mul part (ofNat (Nat.pow 60 i))))
    (ofNat 0)

def integer (text : String) : Except Fault Value := do
  let (negative, digits) := Number.splitSign (withoutUnderscores text.toList)
  let n : Int ←
    match digits with
    | [] => .error .numberWithoutDigits
    | '0' :: 'b' :: rest => orOutOfRange (Number.readInteger 2 rest)
    | '0' :: 'x' :: rest => orOutOfRange (Number.readInteger 16 rest)
    | '0' :: _ => orOutOfRange (Number.readInteger 8 digits)
    | _ =>
      if digits.contains ':' then do
        let parts ← (Plain.parts ':' digits).mapM fun part =>
          orOutOfRange (Number.readInteger 10 part)
        .ok (sexagesimal (· + ·) (· * ·) (fun n => (n : Int)) parts)
      else orOutOfRange (Number.readInteger 10 digits)
  .ok (.int (if negative then -n else n))

/-- Numbers in base sixty with more parts need a power of sixty that is out of range. -/
def partLimit : Nat := 174

def float (text : String) : Except Fault Value := do
  let cs := (Text.lower (String.ofList (withoutUnderscores text.toList))).toList
  if cs.isEmpty then .error .numberWithoutDigits
  else
    let (negative, digits) := Number.splitSign cs
    let x : Number.Double ←
      if digits = ".inf".toList then .ok (.infinite false)
      else if digits = ".nan".toList then .ok .nan
      else if digits.contains ':' then do
        let parts ← (Plain.parts ':' digits).mapM fun part => orOutOfRange (Number.readDouble part)
        if partLimit < parts.length then .error .outOfRange
        .ok (sexagesimal Number.Double.add Number.Double.mul Number.Double.ofNat parts)
      else orOutOfRange (Number.readDouble digits)
    .ok (.float (if negative then x.negate else x))

def truths : List (String × Bool) := [
  ("yes", true), ("no", false), ("true", true), ("false", false), ("on", true), ("off", false)]

def bool (text : String) : Except Fault Value :=
  match truths.lookup (Text.lower text) with
  | some b => .ok (.bool b)
  | none => .error .notABoolean

def isAscii (c : Char) : Bool := c.toNat < 0x80

def unencodable (before : Nat) (run : List Char) : String :=
  let which := match run with
    | [c] => "character '" ++ String.ofList (Text.codePointEscape c.toNat) ++ "' in position " ++
      Nat.repr before
    | _ => "characters in position " ++ Nat.repr before ++ "-" ++
      Nat.repr (before + run.length - 1)
  "failed to convert base64 data into ascii: 'ascii' codec can't encode " ++ which ++
    ": ordinal not in range(128)"

def binary (place : Place) (text : String) : Except Fault Value :=
  match text.toList.dropWhile isAscii with
  | [] =>
    match Text.Base64.decode text.toList with
    | .ok bytes => .ok (.bytes bytes)
    | .error defect => complain ("failed to decode base64 data: " ++ defect.message) place
  | rest =>
    complain (unencodable (text.length - rest.length) (rest.takeWhile (!isAscii ·))) place

def digits (cs : List Char) : Nat := (Number.readDigits 10 cs).getD 0

def microseconds (fraction : List Char) : Nat :=
  digits ((fraction ++ List.replicate 6 '0').take 6)

def offset (zone : Option Char × List Char × List Char) : Int :=
  let (sign, hours, minutes) := zone
  let distance : Int := 60 * digits hours + digits minutes
  if sign = some '-' then -distance else distance

def timestamp (text : String) : Except Fault Value := do
  match Plain.timestamp? (Plain.withoutFinalBreak text.toList) with
  | none => .error .notATimestamp
  | some t =>
    let date : Date := { year := digits t.year, month := digits t.month, day := digits t.day }
    match t.time with
    | none => if date.isValid then .ok (.date date) else .error .outOfRange
    | some (hour, minute, second) =>
      let moment : Moment := {
        date
        hour := digits hour
        minute := digits minute
        second := digits second
        microsecond := microseconds t.fraction
        offset := t.zone.map offset }
      if moment.isValid then .ok (.moment moment) else .error .outOfRange

def without {α : Type} (tag : Tag) (place : Place) : Except Fault α :=
  complain ("could not determine a constructor for the tag " ++ Text.quoted tag.uri) place

def scalar (tag : Tag) (text : String) (place : Place) : Except Fault Value :=
  match tag with
  | .null => .ok .null
  | .bool => bool text
  | .int => integer text
  | .float => float text
  | .binary => binary place text
  | .timestamp => timestamp text
  | .text => .ok (.text text)
  | _ => without tag place

end Handover.Yaml.Meaning
