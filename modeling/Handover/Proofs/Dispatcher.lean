import Handover.Dispatcher
import Handover.Proofs.Diagnostics
import Handover.Proofs.Run

/-!
What starting the tool comes to. Nothing is started unless the tool is there, and what is started
carries the whole dispatch. The exit status is the one that the process itself ends with.
-/

namespace Handover

/-- An absolute path that leads to an executable file. -/
def World.HasTool (w : World) (path : String) : Prop :=
  Path.isAbsolute path = true ∧ ∃ content, w.find path = .ok (.file content true)

def World.equipped : World where
  files := { entries := [
    (["usr", "bin", "ztc"], .file ⟨#[]⟩ true), (["usr", "bin"], .directory),
    (["usr"], .directory)] }

/-- The process is the tool of the settings, with the arguments of the dispatch. -/
inductive Started.Carries (s : Settings) (d : Dispatch) : Started → Prop where
  | replaced (mode : s.mode = "exec") : Carries s d (.replaced s.toolPath (s.toolPath :: d.argv))
  | beside {forwarding sent : List Signal} (mode : s.mode ≠ "exec") :
    Carries s d (.beside (s.toolPath :: d.argv) forwarding sent)

def Started.argv : Started → List String
  | .replaced _ argv => argv
  | .beside argv _ _ => argv

theorem Started.argv_of_carries {p : Started} {s : Settings} {d : Dispatch}
    (carries : p.Carries s d) : p.argv = s.toolPath :: d.argv := by
  cases carries <;> rfl

/-- The exit status that a process comes to. -/
inductive Child.Concludes (child : Child) : Started → Int → Prop where
  | replaced {path : String} {argv : List String} :
    Concludes child (.replaced path argv) (child.returnCode [])
  | ended {argv : List String} {forwarding sent : List Signal} {code : Int}
    (returns : child.returnCode sent = code) (alive : 0 ≤ code) :
    Concludes child (.beside argv forwarding sent) code
  | killed {argv : List String} {forwarding sent : List Signal} {number : Int}
    (returns : child.returnCode sent = -number) (dead : 0 < number) :
    Concludes child (.beside argv forwarding sent) (128 + number)

structure Failure.Unavailable (failure : Failure) : Prop where
  answered : Failure.Kind.dispatch.includes failure.kind = true
  status : failure.status = 69
  announced : Diagnostics.IsError failure.text

namespace Dispatcher

variable {w : World} {handlers : Handlers} {mainThread : Bool} {path : String}
  {dispatcher : Dispatcher} {d : Dispatch}

theorem unavailable_unavailable (path detail : String) :
    (unavailable path detail).Unavailable where
  answered := rfl
  status := rfl
  announced := by
    simp only [Failure.text, unavailable, String.append_assoc]
    exact Diagnostics.isError_append (by decide) _

theorem defect?_eq_none_iff :
    defect? w path = none ↔ ∃ content, w.find path = .ok (.file content true) := by
  unfold defect?
  cases w.find path with
  | error error => simp
  | ok entry =>
    cases entry with
    | directory => simp
    | file content executable => cases executable <;> simp

theorem concludes_exitStatus (child : Child) (argv : List String) (forwarding sent : List Signal) :
    child.Concludes (.beside argv forwarding sent) (exitStatus (child.returnCode sent)) := by
  unfold exitStatus
  split
  next negative =>
    have returns : child.returnCode sent = -(-child.returnCode sent) := by omega
    exact .killed returns (by omega)
  next alive => exact .ended rfl (by omega)

theorem run_of_defect {detail : String} (defect : defect? w dispatcher.path = some detail) :
    dispatcher.run w handlers mainThread d =
      ⟨{}, .error (.failure (unavailable dispatcher.path detail))⟩ := by
  unfold run check
  rw [defect]
  rfl

theorem run_of_fit (fit : defect? w dispatcher.path = none) :
    dispatcher.run w handlers mainThread d =
      Run.log .debug .dispatch ("Dispatching (" ++ dispatcher.mode ++ "): " ++
        Text.shellLine (dispatcher.commandLine d)) >>= fun _ =>
          if dispatcher.mode = "exec" then replace w dispatcher.path (dispatcher.commandLine d)
          else supervise w handlers mainThread dispatcher.path (dispatcher.commandLine d) := by
  unfold run check
  rw [fit]
  exact Run.pure_bind ()

theorem run_of_start {s : Settings} (fit : defect? w s.toolPath = none)
    (starts : w.child.startError = none) :
    ∃ p events status, p.Carries s d ∧ w.child.Concludes p status ∧
      Dispatcher.run ⟨s.toolPath, s.mode⟩ w handlers mainThread d =
        ⟨{ started := [p], events }, .ok status⟩ := by
  rw [run_of_fit fit]
  by_cases mode : s.mode = "exec"
  · rw [if_pos mode, replace, starts]
    exact ⟨_, _, _, .replaced mode, .replaced, rfl⟩
  · rw [if_neg mode, supervise, starts]
    exact ⟨_, _, _, .beside mode, concludes_exitStatus w.child _ _ _, rfl⟩

theorem run_of_startError {s : Settings} {error : StartError}
    (fit : defect? w s.toolPath = none) (fails : w.child.startError = some error) :
    ∃ p events, p.Carries s d ∧
      Dispatcher.run ⟨s.toolPath, s.mode⟩ w handlers mainThread d =
        ⟨{ started := [p], events }, .error (.failure (unavailable s.toolPath error.detail))⟩ := by
  rw [run_of_fit fit]
  by_cases mode : s.mode = "exec"
  · rw [if_pos mode, replace, fails]
    exact ⟨_, _, .replaced mode, rfl⟩
  · rw [if_neg mode, supervise, fails]
    exact ⟨_, _, .beside mode, rfl⟩

end Dispatcher

end Handover
