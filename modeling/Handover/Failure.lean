import Handover.Text.Quoted

/-!
What can go wrong. A `Failure` is answered: its message goes to the error stream and its status
becomes the exit status. A `Breakdown` is answered nowhere and ends the program.
-/

namespace Handover

namespace Failure

inductive Kind where
  | general
  | unsupported
  | malformed
  | dispatch
  | settings
  deriving DecidableEq

namespace Kind

def all : List Kind := [.general, .unsupported, .malformed, .dispatch, .settings]

/-- Exit statuses from the range that the current tool does not use itself. -/
def status : Kind → Int
  | .unsupported => 77
  | .malformed => 64
  | .general | .dispatch | .settings => 69

def reason : Kind → String
  | .general => "shim"
  | .unsupported => "unsupported"
  | .malformed => "malformed"
  | .dispatch | .settings => "dispatch"

/-- Whether every failure of the second kind counts as one of the first. -/
def includes : Kind → Kind → Bool
  | .general, _ => true
  | .dispatch, .settings => true
  | kind, other => kind == other

end Kind

end Failure

structure Failure where
  kind : Failure.Kind
  message : String
  status : Int := kind.status
  detail : String := ""
  deriving DecidableEq

def Failure.text (failure : Failure) : String := failure.message ++ failure.detail

inductive Breakdown where
  | unknownCommand (name : String)
  | notACluster (token : String)
  | unknownLevel (name : String)
  | notAVerdict (given : String)
  | unknownFidelity
  | undecodable
  | nullInPath
  | keyNotText
  /-- A number or a date is out of range, or a value is too large to be written out. -/
  | outOfRange
  | numberWithoutDigits
  | notABoolean
  | notATimestamp
  | inaccessible (errorNumber : Nat)
  | other (name : String)
  deriving DecidableEq

def Breakdown.message? : Breakdown → Option String
  | .unknownCommand name => some (Text.quoted name ++ " is not a valid LegacyCommand")
  | .notACluster token => some ("not a short-flag cluster: " ++ Text.quoted token)
  | .unknownLevel name => some ("Unknown level: " ++ Text.quoted name)
  | .notAVerdict given => some ("Unexpected translation result: " ++ Text.quoted given)
  | _ => none

inductive Trouble where
  | failure (failure : Failure)
  | breakdown (breakdown : Breakdown)
  deriving DecidableEq

/-- Why a text gives no value. Only an invalid text is to blame for that itself. -/
inductive DocumentError where
  | invalid (description : String)
  | broken (breakdown : Breakdown)

end Handover
