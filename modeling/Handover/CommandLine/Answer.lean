import Handover.CommandLine.Basic
import Handover.Delivery
import Handover.Flag.Listing
import Handover.Text.Json

/-! What the program does for its arguments, and how it ends. -/

namespace Handover

namespace Invocation

def explanation (i : Invocation) (dispatch : Dispatch) : String :=
  Text.Json.object [
    ("legacy", i.command.script :: i.tokens),
    ("argv", "ztc" :: dispatch.argv),
    ("warnings", dispatch.warnings)]

/-- Nothing is started, and the world is not looked at. -/
def explain (i : Invocation) : Run Int := do
  match ← i.announce with
  | .dispatch dispatch =>
    .print (Text.withoutSequences (i.explanation dispatch) ++ "\n")
    pure 0
  | .refuse failure => pure failure.status
  | .help _ => pure 0

end Invocation

namespace Request

def listings (w : World) (chosen : Option Command) : List String :=
  (chosen.map ([·])).getD Command.all |>.flatMap fun command =>
    (Listing.ofCommand command).picture w.emoji? w.columns

def perform (request : Request) (w : World) (handlers : Handlers) : Run Int :=
  match request with
  | .run invocation => invocation.carryOut w handlers none
  | .explain invocation => invocation.explain
  | .mappings chosen => do
    .print (String.join ((listings w chosen).map (· ++ "\n")))
    pure 0

end Request

namespace CommandLine

inductive Ending where
  | status (code : Int)
  | helped
  | refused
  deriving DecidableEq

def Ending.exitStatus : Ending → Int
  | .status code => code
  | .helped => 0
  | .refused => 2

def perform (line : CommandLine) (w : World) (handlers : Handlers) : Run Ending := do
  match line with
  | .request asked => .status <$> asked.perform w handlers
  | .help => pure .helped
  | .completion =>
    .diagnose (Diagnostics.written .red "No shell is known.")
    pure (.status 1)
  | .misuse => pure .refused

end CommandLine

end Handover
