import Handover.Yaml.Tag

/-!
The forms of plain scalars. A scalar without a tag is what its form says, and a text if it has none
of these forms.
-/

namespace Handover.Yaml.Plain

def isDigits (cs : List Char) : Bool :=
  match cs with
  | c :: rest => c.isDigit && rest.all fun c => c.isDigit || c == '_'
  | [] => false

def unsigned (cs : List Char) : List Char :=
  match cs with
  | '-' :: rest | '+' :: rest => rest
  | _ => cs

def isSixtieth (cs : List Char) : Bool :=
  match cs with
  | [c] => c.isDigit
  | [c, d] => '0' ≤ c && c ≤ '5' && d.isDigit
  | _ => false

def parts (separator : Char) (cs : List Char) : List (List Char) :=
  cs.foldr (fun c parts =>
    if c = separator then [] :: parts
    else
      match parts with
      | part :: more => (c :: part) :: more
      | [] => [[c]]) [[]]

/-- A number in base sixty: digits, and after each colon a sixtieth. -/
def isSexagesimal (cs : List Char) : Bool :=
  match parts ':' cs with
  | first :: rest => isDigits first && !rest.isEmpty && rest.all isSixtieth
  | [] => false

def isInteger (cs : List Char) : Bool :=
  let digits (allowed : Char → Bool) (cs : List Char) : Bool :=
    !cs.isEmpty && cs.all fun c => allowed c || c == '_'
  match unsigned cs with
  | ['0'] => true
  | '0' :: 'b' :: rest => digits (fun c => c == '0' || c == '1') rest
  | '0' :: 'x' :: rest => digits (fun c => c.isDigit || ('a' ≤ c.toLower && c.toLower ≤ 'f')) rest
  | '0' :: rest => digits (fun c => '0' ≤ c && c ≤ '7') rest
  | rest => isDigits rest || isSexagesimal rest

def isExponent (cs : List Char) : Bool :=
  match cs with
  | [] => true
  | mark :: sign :: digits =>
    (mark == 'e' || mark == 'E') && (sign == '+' || sign == '-') && !digits.isEmpty &&
      digits.all Char.isDigit
  | _ => false

def isFloat (cs : List Char) : Bool :=
  let isFraction (c : Char) : Bool := c.isDigit || c == '_'
  let rest := unsigned cs
  if [".inf", ".Inf", ".INF"].contains (String.ofList rest) then true
  else if [".nan", ".NaN", ".NAN"].contains (String.ofList cs) then true
  else
    match cs with
    | '.' :: digits =>
      isDigits (digits.takeWhile isFraction) && isExponent (digits.dropWhile isFraction)
    | _ =>
      match rest.dropWhile (· != '.') with
      | _ :: digits =>
        let whole := rest.takeWhile (· != '.')
        (isDigits whole && isExponent (digits.dropWhile isFraction)) ||
          ((parts ':' whole).drop 1 != [] && isSexagesimalWhole whole && digits.all isFraction)
      | [] => false
where
  /-- Before the point of a number in base sixty the first part may start with a zero. -/
  isSexagesimalWhole (cs : List Char) : Bool :=
    match parts ':' cs with
    | first :: rest => isDigits first && rest.all isSixtieth
    | [] => false

def isBool (cs : List Char) : Bool :=
  ["yes", "Yes", "YES", "no", "No", "NO", "true", "True", "TRUE", "false", "False", "FALSE", "on",
    "On", "ON", "off", "Off", "OFF"].contains (String.ofList cs)

def isNull (cs : List Char) : Bool := ["~", "null", "Null", "NULL", ""].contains (String.ofList cs)

structure Timestamp where
  year : List Char
  month : List Char
  day : List Char
  time : Option (List Char × List Char × List Char) := none
  fraction : List Char := []
  zone : Option (Option Char × List Char × List Char) := none

def someDigits (least most : Nat) (cs : List Char) : Option (List Char × List Char) :=
  let digits := (cs.take most).takeWhile Char.isDigit
  if digits.length < least then none else some (digits, cs.drop digits.length)

def literal (c : Char) : List Char → Option (List Char)
  | d :: rest => if c = d then some rest else none
  | [] => none

def isTimeBlank (c : Char) : Bool := c == ' ' || c == '\t'

def zone? (cs : List Char) : Option (Option (Option Char × List Char × List Char)) :=
  match cs with
  | [] => some none
  | _ =>
    match cs.dropWhile isTimeBlank with
    | ['Z'] => some (some (none, [], []))
    | sign :: rest => do
      guard (sign == '+' || sign == '-')
      let (hours, rest) ← someDigits 1 2 rest
      match rest with
      | [] => some (some (some sign, hours, []))
      | _ => do
        let (minutes, rest) ← someDigits 2 2 (← literal ':' rest)
        guard rest.isEmpty
        some (some (some sign, hours, minutes))
    | [] => none

def timestamp? (cs : List Char) : Option Timestamp := do
  let (year, rest) ← someDigits 4 4 cs
  let (month, rest) ← someDigits 1 2 (← literal '-' rest)
  let (day, rest) ← someDigits 1 2 (← literal '-' rest)
  match rest with
  | [] => some { year, month, day }
  | c :: more => do
    let rest ←
      if c = 'T' ∨ c = 't' then some more
      else if isTimeBlank c then some (rest.dropWhile isTimeBlank) else none
    let (hour, rest) ← someDigits 1 2 rest
    let (minute, rest) ← someDigits 2 2 (← literal ':' rest)
    let (second, rest) ← someDigits 2 2 (← literal ':' rest)
    let (fraction, rest) := match rest with
      | '.' :: digits => (digits.takeWhile Char.isDigit, digits.dropWhile Char.isDigit)
      | _ => ([], rest)
    let zone ← zone? rest
    some { year, month, day, time := some (hour, minute, second), fraction, zone }

/-- Without a tag, a date alone has two digits for the month and the day. -/
def isTimestamp (cs : List Char) : Bool :=
  match timestamp? cs with
  | some t => t.time.isSome || (t.month.length == 2 && t.day.length == 2)
  | none => false

def withoutFinalBreak (cs : List Char) : List Char :=
  if cs.getLast? = some '\n' then cs.dropLast else cs

def tag (text : String) : Tag :=
  let cs := if text = "\n" then text.toList else withoutFinalBreak text.toList
  if isBool cs then .bool
  else if isFloat cs then .float
  else if isInteger cs then .int
  else if cs = ['<', '<'] then .merge
  else if isNull cs then .null
  else if isTimestamp cs then .timestamp
  else if cs = ['='] then .value
  else if [['!'], ['&'], ['*']].contains cs then .unknown (Tag.standard ++ "yaml")
  else .text

end Handover.Yaml.Plain
