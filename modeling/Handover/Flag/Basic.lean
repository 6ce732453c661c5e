import Handover.Entries
import Handover.Text.Given

/-!
Legacy flags. An entry says how a flag is spelled for the current tool, how faithful that is,
whether a value follows, and what the caller is to be told.
-/

namespace Handover

inductive Fidelity where
  | exact
  | approximate
  | noOp
  | unsupported
  deriving DecidableEq

namespace Fidelity

def all : List Fidelity := [.exact, .approximate, .noOp, .unsupported]

def name : Fidelity → String
  | .exact => "exact"
  | .approximate => "approximate"
  | .noOp => "no-op"
  | .unsupported => "unsupported"

def ofName? (name : String) : Option Fidelity := all.find? (·.name == name)

theorem ofName?_name (f : Fidelity) : ofName? f.name = some f := by cases f <;> decide

end Fidelity

structure Flag where
  legacy : String
  current : Option String
  fidelity : Fidelity := .exact
  takesValue : Bool := false
  warning : Option String := none
  deriving DecidableEq

namespace Flag

/-- What is passed on for the flag: its current spelling, or the legacy one if there is none. -/
def spelling (flag : Flag) : String := (Text.nonempty? flag.current).getD flag.legacy

def warnings (flag : Flag) : List String := (Text.nonempty? flag.warning).toList

def isLossy (flag : Flag) : Bool := flag.fidelity == .approximate

end Flag

abbrev FlagTable := List (String × Flag)

namespace FlagTable

def get? (table : FlagTable) (token : String) : Option Flag := Entries.get? (· == ·) token table

def letter? (table : FlagTable) (letter : Char) : Option Flag :=
  table.get? (String.ofList ['-', letter])

def ofFlags (flags : List Flag) : FlagTable :=
  Entries.ofList (· == ·) (flags.map fun flag => (flag.legacy, flag))

end FlagTable

end Handover
