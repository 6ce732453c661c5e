import Handover.Text.Quoted

/-!
What is wrong with a text as a document. A complaint says what it finds at a place, and often what
was being read there and where that started.
-/

namespace Handover.Yaml

/-- A place in a text, told by the number of characters from there to the end. -/
structure Place where
  left : Nat
  deriving DecidableEq, Inhabited

def Place.before (rest : List Char) : Place := ⟨rest.length⟩

structure Complaint where
  problem : String
  place : Place
  activity : Option String := none
  start : Option Place := none
  deriving DecidableEq

inductive Fault where
  | malformed (complaint : Complaint)
  | forbidden (c : Char) (position : Nat)
  | outOfRange
  | numberWithoutDigits
  | notABoolean
  | notATimestamp
  deriving DecidableEq

variable {α : Type}

def complain (problem : String) (place : Place) : Except Fault α :=
  .error (.malformed { problem, place })

def complainWhile (activity : String) (start : Place) (problem : String) (place : Place) :
    Except Fault α :=
  .error (.malformed { problem, place, activity := some activity, start := some start })

def shownNext (rest : List Char) : String := Text.quoted (String.ofList [rest.headD '\x00'])

def expected (activity : String) (start : Place) (what : String) (rest : List Char) :
    Except Fault α :=
  complainWhile activity start ("expected " ++ what ++ ", but found " ++ shownNext rest)
    (.before rest)

end Handover.Yaml
