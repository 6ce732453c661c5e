import Handover.Run
import Handover.Settings.Basic
import Handover.Text.ShellWord
import Handover.Verdict
import Handover.World.Basic

/-!
Starting the current tool: in place of this process, or beside it under supervision. A supervisor
passes signals on to the child, and keeps those that arrive before the child is known.
-/

namespace Handover

structure Dispatcher where
  path : String
  mode : String := "exec"

namespace Dispatcher

def unavailable (path detail : String) : Failure where
  kind := .dispatch
  message := "ERROR: cannot run " ++ path ++ ": " ++ detail ++ ".\n\n" ++
    "The ztc package provides this binary. Reinstall it, or point the\n" ++
    "shim at the installed location with ztc_path in /etc/ztc-shim.yaml\n" ++
    "or the ZTC_SHIM_BINARY environment variable."

/-- The tool is never searched for, so its path has to be absolute. -/
def ofPath (path mode : String) : Except Failure Dispatcher :=
  if Path.isAbsolute path then .ok { path, mode }
  else .error (unavailable path "path is not absolute")

def defect? (w : World) (path : String) : Option String :=
  match w.find path with
  | .error _ => some "no such file"
  | .ok .directory => some "not a regular file"
  | .ok (.file _ executable) => if executable then none else some "permission denied"

def check (w : World) (path : String) : Except Failure Unit :=
  match defect? w path with
  | some detail => .error (unavailable path detail)
  | none => .ok ()

def commandLine (d : Dispatcher) (dispatch : Dispatch) : List String := d.path :: dispatch.argv

def replace (w : World) (path : String) (argv : List String) : Run Int := do
  .tell { started := [.replaced path argv] }
  match w.child.startError with
  | some error => .fail (unavailable path error.detail)
  | none => pure (w.child.returnCode [])

end Dispatcher

structure Supervision where
  handlers : Handlers
  known : Bool := false
  pending : List Signal := []
  sent : List Signal := []
  deriving DecidableEq

namespace Supervision

/-- A child that is not known is not asked for. Its signals are kept. -/
def receive (s : Supervision) (arrival : Arrival) : Supervision :=
  if s.handlers.get arrival.signal ≠ .forwarding then s
  else if !s.known then { s with pending := s.pending ++ [arrival.signal] }
  else if arrival.alive then { s with sent := s.sent ++ [arrival.signal] }
  else s

def release (s : Supervision) : Supervision :=
  { s with known := true, pending := [], sent := s.sent ++ s.pending }

/-- Installs the forwarding handlers. Only the main thread may do so. -/
def install (mainThread : Bool) (handlers : Handlers) : Handlers :=
  if mainThread then Signal.forwarded.foldl (fun h signal => h.set signal .forwarding) handlers
  else handlers

def restore (mainThread : Bool) (previous handlers : Handlers) : Handlers :=
  if mainThread then
    Signal.forwarded.foldl (fun h signal => h.set signal (previous.get signal)) handlers
  else handlers

def early (child : Child) (handlers : Handlers) : Supervision :=
  child.before.foldl (fun s signal => s.receive { signal }) { handlers }

def wait (child : Child) (s : Supervision) : Supervision :=
  child.during.foldl receive s.release

end Supervision

namespace Dispatcher

/-- The exit status of a return code. A death by signal counts from 128 up. -/
def exitStatus (returnCode : Int) : Int := if returnCode < 0 then 128 - returnCode else returnCode

def supervise (w : World) (handlers : Handlers) (mainThread : Bool) (path : String)
    (argv : List String) : Run Int := do
  let installed := Supervision.install mainThread handlers
  let early := Supervision.early w.child installed
  let restored : Event := .setHandlers (Supervision.restore mainThread handlers installed)
  match w.child.startError with
  | some error =>
    .tell {
      started := [.beside argv installed.forwarding early.sent]
      events := [.setHandlers installed, restored] }
    .fail (unavailable path error.detail)
  | none =>
    let last := Supervision.wait w.child early
    .tell {
      started := [.beside argv installed.forwarding last.sent]
      events := [.setHandlers installed, restored] }
    pure (exitStatus (w.child.returnCode last.sent))

def run (d : Dispatcher) (w : World) (handlers : Handlers) (mainThread : Bool)
    (dispatch : Dispatch) : Run Int := do
  let argv := d.commandLine dispatch
  .ofExcept ((check w d.path).mapError .failure)
  .log .debug .dispatch ("Dispatching (" ++ d.mode ++ "): " ++ Text.shellLine argv)
  if d.mode = "exec" then replace w d.path argv
  else supervise w handlers mainThread d.path argv

end Dispatcher

end Handover
