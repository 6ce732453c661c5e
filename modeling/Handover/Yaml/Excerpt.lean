import Handover.Number.Layout
import Handover.Yaml.Cursor
import Handover.Yaml.Fault

/-! The wording of faults. A place is shown by the line around it with a mark below. -/

namespace Handover.Yaml

structure Position where
  before : List Char
  after : List Char

namespace Position

def ofPlace (text : List Char) (place : Place) : Position where
  before := text.take (text.length - place.left)
  after := text.drop (text.length - place.left)

def line (p : Position) : Nat := p.before.countP isBreak + 1

def left (p : Position) : List Char := p.before.reverse.takeWhile (!isBreak ·)

def right (p : Position) : List Char := p.after.takeWhile (!isBreak ·)

def column (p : Position) : Nat := p.left.countP (· != '\ufeff') + 1

/-- Of more characters than `limit` the nearest `shown` ones, with dots for the others. -/
def clip (limit shown : Nat) (cs : List Char) : List Char × String :=
  if limit < cs.length then (cs.take shown, " ... ") else (cs, "")

def excerpt (p : Position) : String :=
  let (left, leftDots) := clip 36 32 p.left
  let (right, rightDots) := clip 36 32 p.right
  let start := "    " ++ leftDots ++ String.ofList left.reverse
  start ++ String.ofList right ++ rightDots ++ "\n" ++
    String.ofList (List.replicate start.length ' ') ++ "^"

def describe (p : Position) : String :=
  "  in \x22<unicode string>\x22, line " ++ Nat.repr p.line ++ ", column " ++ Nat.repr p.column ++
    ":\n" ++ p.excerpt

end Position

def Position.same (p q : Position) : Bool := p.line == q.line && p.column == q.column

/-- Where an activity started is told if it is another position than that of the problem. -/
def Complaint.message (text : List Char) (c : Complaint) : String :=
  let found := Position.ofPlace text c.place
  let start := (c.start.map (Position.ofPlace text)).filter (!·.same found)
  String.intercalate "\n"
    (c.activity.toList ++ (start.map (·.describe)).toList ++ [c.problem, found.describe])

def forbiddenMessage (c : Char) (position : Nat) : String :=
  "unacceptable character #x" ++ String.ofList (Number.padZeros 4 (Nat.toDigits 16 c.toNat)) ++
    ": special characters are not allowed\n  in \x22<unicode string>\x22, position " ++
    Nat.repr position

end Handover.Yaml
