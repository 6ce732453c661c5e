import Handover.Number.Layout
import Handover.World.Signal

/-!
What the started tool does: whether it starts, which signals arrive while it runs, and how it ends.
-/

namespace Handover

inductive StartError where
  | coded (number : Int) (description : String)
  | described (text : String)
  | silent
  deriving DecidableEq

/-- The description if there is one, and otherwise whatever text the error has. -/
def StartError.detail : StartError → String
  | .coded number "" => "[Errno " ++ Number.integer number ++ "] "
  | .coded _ description => description
  | .described text => text
  | .silent => ""

inductive Child.Ending where
  | code (code : Int)
  /-- Killed by the first signal that reached it. Without one it ends well. -/
  | bySignal
  deriving DecidableEq

structure Arrival where
  signal : Signal
  /-- Whether the child still runs, if it is asked for at that moment. -/
  alive : Bool := true
  deriving DecidableEq

structure Child where
  ending : Child.Ending := .code 0
  startError : Option StartError := none
  before : List Signal := []
  during : List Arrival := []
  deriving DecidableEq

def Child.returnCode (child : Child) (sent : List Signal) : Int :=
  match child.ending, sent with
  | .code code, _ => code
  | .bySignal, signal :: _ => -signal.number
  | .bySignal, [] => 0

end Handover
