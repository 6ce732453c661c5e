import Handover.Failure
import Handover.Logging.Logger
import Handover.World.Signal

/-!
What an operation does, apart from its result: processes it starts, events in this process, and
text it writes. The trace stays when the operation fails.
-/

namespace Handover

inductive Started where
  | replaced (path : String) (argv : List String)
  /-- Beside this process, with the signals that are forwarded at that moment and the signals that
  are sent to it. -/
  | beside (argv : List String) (forwarding sent : List Signal)
  deriving DecidableEq

inductive Event where
  | record (severity : Logging.Severity) (logger : Logging.Logger) (message : String)
  | setLevel (logger : Logging.Logger) (level : Nat)
  | setHandlers (handlers : Handlers)
  deriving DecidableEq

structure Trace where
  started : List Started := []
  events : List Event := []
  diagnostics : String := ""
  output : String := ""
  deriving DecidableEq

namespace Trace

instance : Append Trace where
  append first second := {
    started := first.started ++ second.started
    events := first.events ++ second.events
    diagnostics := first.diagnostics ++ second.diagnostics
    output := first.output ++ second.output }

@[simp] theorem started_append (first second : Trace) :
    (first ++ second).started = first.started ++ second.started := rfl

@[simp] theorem events_append (first second : Trace) :
    (first ++ second).events = first.events ++ second.events := rfl

@[simp] theorem diagnostics_append (first second : Trace) :
    (first ++ second).diagnostics = first.diagnostics ++ second.diagnostics := rfl

@[simp] theorem output_append (first second : Trace) :
    (first ++ second).output = first.output ++ second.output := rfl

end Trace

structure Run (α : Type) where
  trace : Trace
  result : Except Trouble α

namespace Run

variable {α β : Type}

def pure (a : α) : Run α := ⟨{}, .ok a⟩

def bind (run : Run α) (next : α → Run β) : Run β :=
  match run.result with
  | .ok a => ⟨run.trace ++ (next a).trace, (next a).result⟩
  | .error trouble => ⟨run.trace, .error trouble⟩

instance : Monad Run where
  pure := Run.pure
  bind := Run.bind

def fail (failure : Failure) : Run α := ⟨{}, .error (.failure failure)⟩

def breakDown (breakdown : Breakdown) : Run α := ⟨{}, .error (.breakdown breakdown)⟩

def ofExcept (result : Except Trouble α) : Run α := ⟨{}, result⟩

def tell (trace : Trace) : Run Unit := ⟨trace, .ok ()⟩

def event (event : Event) : Run Unit := tell { events := [event] }

def log (severity : Logging.Severity) (logger : Logging.Logger) (message : String) : Run Unit :=
  event (.record severity logger message)

def diagnose (text : String) : Run Unit := tell { diagnostics := text }

def print (text : String) : Run Unit := tell { output := text }

def answering (run : Run α) (answer : Failure → Option (Run α)) : Run α :=
  match run.result with
  | .error (.failure failure) =>
    match answer failure with
    | some next => ⟨run.trace ++ next.trace, next.result⟩
    | none => run
  | _ => run

end Run

end Handover
