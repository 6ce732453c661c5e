import Handover.Number.Layout

/-! Dates of the Gregorian calendar from the year 1 to 9999, and moments in them. -/

namespace Handover

structure Date where
  year : Nat
  month : Nat
  day : Nat
  deriving DecidableEq

namespace Date

def isLeapYear (year : Nat) : Bool :=
  year % 4 == 0 && (year % 100 != 0 || year % 400 == 0)

def monthLength (year month : Nat) : Nat :=
  match month with
  | 1 | 3 | 5 | 7 | 8 | 10 | 12 => 31
  | 4 | 6 | 9 | 11 => 30
  | 2 => if isLeapYear year then 29 else 28
  | _ => 0

def isValid (d : Date) : Bool :=
  1 ≤ d.year && d.year ≤ 9999 && 1 ≤ d.day && d.day ≤ monthLength d.year d.month

def ordinal (d : Date) : Nat :=
  let past := d.year - 1
  365 * past + past / 4 - past / 100 + past / 400 +
    ((List.range (d.month - 1)).map fun m => monthLength d.year (m + 1)).foldr (· + ·) d.day

def iso (d : Date) : String :=
  Number.padded 4 d.year ++ "-" ++ Number.padded 2 d.month ++ "-" ++ Number.padded 2 d.day

def literal (d : Date) : String :=
  "datetime.date(" ++
    String.intercalate ", " ([d.year, d.month, d.day].map Nat.repr) ++ ")"

end Date

structure Moment where
  date : Date
  hour : Nat
  minute : Nat
  second : Nat
  microsecond : Nat := 0
  offset : Option Int := none
  deriving DecidableEq

namespace Moment

def isValid (m : Moment) : Bool :=
  m.date.isValid && m.hour < 24 && m.minute < 60 && m.second < 60 &&
    match m.offset with
    | some offset => offset.natAbs < 24 * 60
    | none => true

/-- Whether two moments are the same point in time. A moment without a zone is no point in time
and equals only those without a zone. -/
def same (m n : Moment) : Bool :=
  let minutes (m : Moment) (offset : Int) : Int :=
    ((m.date.ordinal * 24 + m.hour) * 60 + m.minute : Nat) - offset
  match m.offset, n.offset with
  | some here, some there =>
    minutes m here == minutes n there && m.second == n.second && m.microsecond == n.microsecond
  | none, none => m == n
  | _, _ => false

def isoOffset (offset : Int) : String :=
  (if offset < 0 then "-" else "+") ++ Number.padded 2 (offset.natAbs / 60) ++ ":" ++
    Number.padded 2 (offset.natAbs % 60)

def iso (m : Moment) : String :=
  m.date.iso ++ " " ++ Number.padded 2 m.hour ++ ":" ++ Number.padded 2 m.minute ++ ":" ++
    Number.padded 2 m.second ++
    (if m.microsecond = 0 then "" else "." ++ Number.padded 6 m.microsecond) ++
    (m.offset.map isoOffset).getD ""

/-- A time zone is written through its distance from universal time in seconds, a negative one as
a day back and the rest forward. -/
def zoneLiteral (offset : Int) : String :=
  if offset = 0 then "datetime.timezone.utc"
  else "datetime.timezone(datetime.timedelta(" ++
    (if offset < 0 then "days=-1, seconds=" ++ Number.integer (86400 + offset * 60)
    else "seconds=" ++ Number.integer (offset * 60)) ++ "))"

def literal (m : Moment) : String :=
  let fields : List Nat := [m.date.year, m.date.month, m.date.day, m.hour, m.minute] ++
    (if m.microsecond ≠ 0 then [m.second, m.microsecond]
    else if m.second ≠ 0 then [m.second] else [])
  "datetime.datetime(" ++ String.intercalate ", " (fields.map Nat.repr) ++
    (match m.offset with
      | some offset => ", tzinfo=" ++ zoneLiteral offset
      | none => "") ++ ")"

end Moment

end Handover
