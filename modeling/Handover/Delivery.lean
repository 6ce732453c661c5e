import Handover.Diagnostics
import Handover.Dispatcher
import Handover.Logging.Configure
import Handover.Settings.Load

/-!
Carrying out an invocation from beginning to end: its verdict, what its caller is told, and for a
dispatch the start of the current tool. The result is the exit status.
-/

namespace Handover.Invocation

def judge (i : Invocation) : Run Verdict := do
  .log .debug .verdict ("Classified " ++ i.command.name ++ " " ++ Text.quotedList i.tokens ++
    " as " ++ i.style.name)
  let verdict ← .ofExcept (i.verdict.mapError .breakdown)
  match i.style, verdict with
  | .flags, .refuse failure =>
    .log .debug .verdict ("Refusing " ++ i.command.name ++ ": " ++ failure.kind.reason)
  | _, _ => pure ()
  pure verdict

def announce (i : Invocation) : Run Verdict := do
  let verdict ← i.judge
  .diagnose (Diagnostics.ofVerdict verdict)
  pure verdict

end Invocation

def unavailability (failure : Failure) : Option (Run Int) :=
  if Failure.Kind.dispatch.includes failure.kind then
    some ⟨{ diagnostics := Diagnostics.refusal failure.text }, .ok failure.status⟩
  else none

/-- Starts the tool with settings that are given, or else with those found in the world. -/
def Dispatch.deliver (dispatch : Dispatch) (w : World) (handlers : Handlers)
    (given : Option Settings) : Run Int := do
  let settings ←
    match given with
    | some settings => pure settings
    | none => Settings.load w none
  Logging.configure settings.logLevel
  let dispatcher ←
    .ofExcept ((Dispatcher.ofPath settings.toolPath settings.mode).mapError .failure)
  dispatcher.run w handlers true dispatch

/-- Nothing but a dispatch looks at the world. -/
def Verdict.carryOut (verdict : Verdict) (w : World) (handlers : Handlers)
    (given : Option Settings) : Run Int :=
  match verdict with
  | .dispatch d => (d.deliver w handlers given).answering unavailability
  | .refuse failure => pure failure.status
  | .help _ => pure 0

def Invocation.carryOut (i : Invocation) (w : World) (handlers : Handlers)
    (given : Option Settings) : Run Int := do
  (← i.announce).carryOut w handlers given

end Handover
