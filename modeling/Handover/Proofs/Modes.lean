import Handover.Proofs.Session

/-!
The two ways to start the tool, in place of this process and beside it. The caller cannot tell them
apart as long as the child is not killed: the same program is handed over with the same arguments,
the same status or the same failure comes back, and this process is left as it was.
-/

namespace Handover

/-- The program that the operating system is asked for, and its arguments. A process beside this one
runs the program that its first argument names. -/
def Started.handed : Started → Option String × List String
  | .replaced path argv => (some path, argv)
  | .beside argv _ _ => (argv.head?, argv)

inductive Child.EndsWith (child : Child) : List Started → Int → Prop where
  | watched {argv : List String} {forwarding sent : List Signal}
    (starts : child.startError = none) :
    EndsWith child [.beside argv forwarding sent] (child.returnCode sent)

theorem Child.returnCode_of_alive {child : Child} {sent : List Signal}
    (alive : 0 ≤ child.returnCode sent) : child.returnCode sent = child.returnCode [] := by
  unfold returnCode at alive ⊢
  generalize child.ending = ending at alive ⊢
  cases ending with
  | code code => rfl
  | bySignal =>
    cases sent with
    | nil => rfl
    | cons signal rest =>
      have number : 0 < signal.number := by cases signal <;> decide
      dsimp only at alive
      omega

/-- What is handed over in a run and how it ends. A process with these handlers is the same after
it. -/
structure Run.Comes (run : Run Int) (handlers : Handlers)
    (handed : List (Option String × List String)) (result : Except Trouble Int) : Prop where
  handed : run.trace.started.map Started.handed = handed
  result : run.result = result
  unchanged : ∀ p : Process, p.handlers = handlers → (p.replay run.trace.events).1 = p

namespace Dispatcher

variable {w : World} {handlers : Handlers} {mainThread : Bool} {path : String}
  {args : List String} {dispatcher : Dispatcher} {d : Dispatch}

def ending (w : World) (path : String) (code : Int) : Except Trouble Int :=
  match w.child.startError with
  | some error => .error (.failure (unavailable path error.detail))
  | none => .ok code

theorem comes_replace (w : World) (handlers : Handlers) (path : String) (argv : List String) :
    (replace w path argv).Comes handlers [(some path, argv)]
      (ending w path (w.child.returnCode [])) := by
  unfold replace ending
  cases w.child.startError with
  | none => exact ⟨rfl, rfl, fun p _ => rfl⟩
  | some error => exact ⟨rfl, rfl, fun p _ => rfl⟩

theorem replay_handlerEvents (mainThread : Bool) {p : Process} (installed : p.handlers = handlers) :
    (p.replay (handlerEvents mainThread handlers)).1 = p := by
  subst installed
  rfl

theorem comes_supervise
    (alive : ∀ code, w.child.EndsWith
      (supervise w handlers mainThread path (path :: args)).trace.started code → 0 ≤ code) :
    (supervise w handlers mainThread path (path :: args)).Comes handlers
      [(some path, path :: args)] (ending w path (w.child.returnCode [])) := by
  unfold ending
  cases starts : w.child.startError with
  | none =>
    rw [supervise_of_start starts] at alive ⊢
    have positive := alive _ (.watched starts)
    have status : ∀ sent, 0 ≤ w.child.returnCode sent →
        exitStatus (w.child.returnCode sent) = w.child.returnCode [] := by
      intro sent positive
      rw [exitStatus, if_neg (by omega), Child.returnCode_of_alive positive]
    exact ⟨rfl, congrArg Except.ok (status _ positive), fun p => replay_handlerEvents mainThread⟩
  | some error =>
    rw [supervise_of_startError starts]
    exact ⟨rfl, rfl, fun p => replay_handlerEvents mainThread⟩

/-- A record before a run is no part of what it comes to. -/
theorem comes_after_log {run : Run Int} {handed : List (Option String × List String)}
    {result : Except Trouble Int} (severity : Logging.Severity) (logger : Logging.Logger)
    (message : String) (comes : run.Comes handlers handed result) :
    (Run.log severity logger message >>= fun _ => run).Comes handlers handed result :=
  ⟨comes.handed, comes.result, comes.unchanged⟩

theorem comes_run_of_defect {detail : String} (defect : defect? w dispatcher.path = some detail) :
    (dispatcher.run w handlers mainThread d).Comes handlers []
      (.error (.failure (unavailable dispatcher.path detail))) := by
  rw [run_of_defect defect]
  exact ⟨rfl, rfl, fun p _ => rfl⟩

theorem comes_run (fit : defect? w dispatcher.path = none)
    (alive : dispatcher.mode ≠ "exec" → ∀ code, w.child.EndsWith
      (dispatcher.run w handlers mainThread d).trace.started code → 0 ≤ code) :
    (dispatcher.run w handlers mainThread d).Comes handlers
      [(some dispatcher.path, dispatcher.commandLine d)]
      (ending w dispatcher.path (w.child.returnCode [])) := by
  rw [run_of_fit fit] at alive ⊢
  refine comes_after_log _ _ _ ?_
  by_cases mode : dispatcher.mode = "exec"
  · rw [if_pos mode]
    exact comes_replace w handlers _ _
  · rw [if_neg mode] at alive ⊢
    exact comes_supervise (alive mode)

theorem exists_endsWith_run (fit : defect? w dispatcher.path = none)
    (watched : dispatcher.mode ≠ "exec") (starts : w.child.startError = none) :
    ∃ sent, w.child.EndsWith (dispatcher.run w handlers mainThread d).trace.started
      (w.child.returnCode sent) := by
  rw [run_of_fit fit, if_neg watched, supervise_of_start starts]
  exact ⟨_, .watched starts⟩

end Dispatcher

namespace Session

variable {s : Session} {path mode : String} {d : Dispatch}

theorem perform_start (absolute : Path.isAbsolute path = true) (mode : String) (w : World)
    (handlers : Handlers) (mainThread : Bool) (d : Dispatch) :
    Operation.perform (.start path mode mainThread d) w handlers =
      Operation.exited (Dispatcher.run ⟨path, mode⟩ w handlers mainThread d) := by
  have found : Dispatcher.ofPath path mode = .ok ⟨path, mode⟩ := if_pos absolute
  rw [Operation.perform, found]
  exact congrArg Operation.exited (Run.pure_bind _)

theorem comes_report (absolute : Path.isAbsolute path = true) {mainThread : Bool}
    {handed : List (Option String × List String)} {result : Except Trouble Int}
    (comes : (Dispatcher.run ⟨path, mode⟩ s.world s.process.handlers mainThread d).Comes
      s.process.handlers handed result) :
    (s.report (.start path mode mainThread d)).run.trace.started.map Started.handed = handed ∧
      (s.report (.start path mode mainThread d)).run.result =
        result.map (fun status => .ended (.status status)) ∧
      s.after (.operate (.start path mode mainThread d)) = s := by
  have performed :
      Operation.perform (.start path mode mainThread d) s.world s.process.handlers = _ :=
    (perform_start absolute mode s.world s.process.handlers mainThread d).trans (Run.map_eq _ _)
  refine ⟨?_, ?_, ?_⟩
  · exact (congrArg (·.trace.started.map Started.handed) performed).trans comes.handed
  · exact (congrArg Run.result performed).trans (congrArg (Except.map _) comes.result)
  · have same := comes.unchanged s.process rfl
    simp only [after, performed, same]

/-- In place of this process or beside it, in the main thread or in another: the same is handed
over, or nothing is. The code of the child is the status, or else the failure to start is the same.
The session goes on as if nothing had happened. -/
theorem report_of_either_mode (absolute : Path.isAbsolute path = true) (watched : mode ≠ "exec")
    (here there : Bool)
    (alive : ∀ code, s.world.child.EndsWith
      (s.report (.start path mode there d)).run.trace.started code → 0 ≤ code) :
    (∃ handed, (handed = [] ∨ handed = [(some path, path :: d.argv)]) ∧
      (s.report (.start path "exec" here d)).run.trace.started.map Started.handed = handed ∧
      (s.report (.start path mode there d)).run.trace.started.map Started.handed = handed) ∧
    (∃ result,
      (s.report (.start path "exec" here d)).run.result = result ∧
      (s.report (.start path mode there d)).run.result = result ∧
      ((∃ code, s.world.child.EndsWith
          (s.report (.start path mode there d)).run.trace.started code ∧
            result = .ok (.ended (.status code))) ∨
        ∃ failure, result = .error (.failure failure) ∧ failure.kind = .dispatch ∧
          failure.status = 69)) ∧
    s.after (.operate (.start path "exec" here d)) = s ∧
    s.after (.operate (.start path mode there d)) = s := by
  have started : (s.report (.start path mode there d)).run.trace.started =
      (Dispatcher.run ⟨path, mode⟩ s.world s.process.handlers there d).trace.started :=
    congrArg (·.trace.started)
      ((perform_start absolute mode s.world s.process.handlers there d).trans (Run.map_eq _ _))
  rw [started] at alive
  cases defect : Dispatcher.defect? s.world path with
  | some detail =>
    have inPlace : (Dispatcher.run ⟨path, "exec"⟩ s.world s.process.handlers here d).Comes
        s.process.handlers [] _ := Dispatcher.comes_run_of_defect defect
    have beside : (Dispatcher.run ⟨path, mode⟩ s.world s.process.handlers there d).Comes
        s.process.handlers [] _ := Dispatcher.comes_run_of_defect defect
    obtain ⟨nothing, failed, left⟩ := comes_report absolute inPlace
    obtain ⟨nothingThere, failedThere, leftThere⟩ := comes_report absolute beside
    exact ⟨⟨_, .inl rfl, nothing, nothingThere⟩,
      ⟨_, failed, failedThere, .inr ⟨_, rfl, rfl, rfl⟩⟩, left, leftThere⟩
  | none =>
    have inPlace : (Dispatcher.run ⟨path, "exec"⟩ s.world s.process.handlers here d).Comes
        s.process.handlers [(some path, path :: d.argv)] _ :=
      Dispatcher.comes_run defect fun other => absurd rfl other
    have beside : (Dispatcher.run ⟨path, mode⟩ s.world s.process.handlers there d).Comes
        s.process.handlers [(some path, path :: d.argv)] _ :=
      Dispatcher.comes_run defect fun _ => alive
    obtain ⟨one, ended, left⟩ := comes_report absolute inPlace
    obtain ⟨oneThere, endedThere, leftThere⟩ := comes_report absolute beside
    refine ⟨⟨_, .inr rfl, one, oneThere⟩, ⟨_, ended, endedThere, ?_⟩, left, leftThere⟩
    unfold Dispatcher.ending
    cases starts : s.world.child.startError with
    | some error => exact .inr ⟨_, rfl, rfl, rfl⟩
    | none =>
      obtain ⟨sent, ends⟩ : ∃ sent, s.world.child.EndsWith
          (Dispatcher.run ⟨path, mode⟩ s.world s.process.handlers there d).trace.started
            (s.world.child.returnCode sent) := Dispatcher.exists_endsWith_run defect watched starts
      have same := Child.returnCode_of_alive (alive _ ends)
      rw [← started] at ends
      exact .inl ⟨_, ends, by rw [same]; rfl⟩

def disturbed : Session where
  world := { World.equipped with
    child := { ending := .code 3, before := [.hangup], during := [{ signal := .interrupt }] } }
  process := { handlers := { interrupt := .custom 7 } }

theorem report_of_either_mode_disturbed :
    (disturbed.report (.start "/usr/bin/ztc" "exec" true { command := "scan" })).run.result =
        .ok (.ended (.status 3)) ∧
      (disturbed.report (.start "/usr/bin/ztc" "spawn" true { command := "scan" })).run.result =
        .ok (.ended (.status 3)) ∧
      disturbed.after (.operate (.start "/usr/bin/ztc" "spawn" true { command := "scan" })) =
        disturbed := by
  have alive : ∀ code, disturbed.world.child.EndsWith (disturbed.report
      (.start "/usr/bin/ztc" "spawn" true { command := "scan" })).run.trace.started code →
        0 ≤ code := by
    intro code ends
    cases ends
    decide
  obtain ⟨-, ⟨result, inPlace, beside, ends⟩, -, left⟩ :=
    report_of_either_mode (d := { command := "scan" }) (s := disturbed)
      (by decide : Path.isAbsolute "/usr/bin/ztc" = true) (by decide : "spawn" ≠ "exec") true true
      alive
  have three : result = .ok (.ended (.status 3)) := inPlace.symm.trans rfl
  exact ⟨inPlace.trans three, beside.trans three, left⟩

end Session

end Handover
