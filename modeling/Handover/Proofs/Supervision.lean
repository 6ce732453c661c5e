import Handover.Proofs.Dispatcher

/-!
What becomes of the signals that reach a supervisor. Those that come before the child is known are
kept for it, and those that come later are passed on while it runs. None is lost, none is sent
twice, and their order stays. After the child, the handlers are those from before.
-/

namespace Handover

namespace Supervision

variable {s : Supervision} {arrival : Arrival} {handlers : Handlers}

/-- The signals that find the child running. -/
def passed (arrivals : List Arrival) : List Signal :=
  (arrivals.filter Arrival.alive).map Arrival.signal

theorem passed_append (first second : List Arrival) :
    passed (first ++ second) = passed first ++ passed second := by
  unfold passed
  rw [List.filter_append, List.map_append]

/-- Every signal runs the handler that passes it on. -/
def Attends (s : Supervision) : Prop := ∀ signal, s.handlers.get signal = .forwarding

theorem attends_install (handlers : Handlers) :
    ({ handlers := install true handlers } : Supervision).Attends := by
  intro signal
  cases signal <;> rfl

theorem restore_install (mainThread : Bool) (handlers : Handlers) :
    restore mainThread handlers (install mainThread handlers) = handlers := by
  cases mainThread with
  | true => rfl
  | false => rfl

/-! One signal. -/

theorem receive_of_unknown (attends : s.Attends) (unknown : s.known = false) :
    s.receive arrival = { s with pending := s.pending ++ [arrival.signal] } := by
  have forwarding : ¬s.handlers.get arrival.signal ≠ .forwarding :=
    not_not_intro (attends arrival.signal)
  rw [receive, if_neg forwarding, if_pos (by simp [unknown])]

theorem receive_of_known (attends : s.Attends) (known : s.known = true) :
    s.receive arrival = { s with sent := s.sent ++ passed [arrival] } := by
  have forwarding : ¬s.handlers.get arrival.signal ≠ .forwarding :=
    not_not_intro (attends arrival.signal)
  rw [receive, if_neg forwarding, if_neg (by simp [known])]
  cases alive : arrival.alive <;> simp [passed, alive]

/-! A sequence of signals. -/

theorem foldl_of_unknown (attends : s.Attends) (unknown : s.known = false)
    (signals : List Signal) :
    signals.foldl (fun s signal => s.receive { signal }) s =
      { s with pending := s.pending ++ signals } := by
  induction signals generalizing s with
  | nil => rw [List.foldl_nil, List.append_nil]
  | cons signal rest ih =>
    let next : Supervision := { s with pending := s.pending ++ [signal] }
    have step : s.receive { signal } = next := receive_of_unknown attends unknown
    have still : next.Attends := attends
    rw [List.foldl_cons, step, ih still unknown, List.append_cons]

theorem foldl_of_known (attends : s.Attends) (known : s.known = true) (arrivals : List Arrival) :
    arrivals.foldl receive s = { s with sent := s.sent ++ passed arrivals } := by
  induction arrivals generalizing s with
  | nil =>
    have none : passed [] = [] := rfl
    rw [List.foldl_nil, none, List.append_nil]
  | cons arrival rest ih =>
    let next : Supervision := { s with sent := s.sent ++ passed [arrival] }
    have step : s.receive arrival = next := receive_of_known attends known
    have still : next.Attends := attends
    rw [List.foldl_cons, step, ih still known, ← List.singleton_append, passed_append,
      List.append_assoc]

theorem early_install (child : Child) (handlers : Handlers) :
    early child (install true handlers) =
      { handlers := install true handlers, pending := child.before } :=
  foldl_of_unknown (attends_install handlers) rfl child.before

/-- Over the whole life of a child, the early signals are sent first, and the late ones after them
if they find the child running. -/
theorem sent_wait (child : Child) (handlers : Handlers) :
    (wait child (early child (install true handlers))).sent =
      child.before ++ passed child.during := by
  have attends : (early child (install true handlers)).release.Attends := by
    rw [early_install]
    exact attends_install handlers
  rw [wait, foldl_of_known attends rfl, early_install]
  rfl

end Supervision

namespace Dispatcher

section Supervise

variable {w : World} {handlers : Handlers} {mainThread : Bool} {path : String}
  {argv : List String}

def handlerEvents (mainThread : Bool) (handlers : Handlers) : List Event :=
  [.setHandlers (Supervision.install mainThread handlers), .setHandlers handlers]

theorem supervise_of_start (starts : w.child.startError = none) :
    supervise w handlers mainThread path argv =
      let installed := Supervision.install mainThread handlers
      let sent := (Supervision.wait w.child (Supervision.early w.child installed)).sent
      ⟨{ started := [.beside argv installed.forwarding sent]
         events := handlerEvents mainThread handlers },
        .ok (exitStatus (w.child.returnCode sent))⟩ := by
  have restored := Supervision.restore_install mainThread handlers
  unfold supervise
  simp only [restored, starts]
  rfl

theorem supervise_of_startError {error : StartError} (fails : w.child.startError = some error) :
    supervise w handlers mainThread path argv =
      let installed := Supervision.install mainThread handlers
      ⟨{ started := [.beside argv installed.forwarding (Supervision.early w.child installed).sent]
         events := handlerEvents mainThread handlers },
        .error (.failure (unavailable path error.detail))⟩ := by
  have restored := Supervision.restore_install mainThread handlers
  unfold supervise
  simp only [restored, fails]
  rfl

/-- What a start under supervision does with signals. All of them are passed on when the child is
started. It is sent the early ones, and each late one that finds it running. Without a child none is
sent. -/
structure Relays (w : World) (path : String) (argv : List String) (run : Run Int)
    (sent : List Signal) : Prop where
  started : run.trace.started = [.beside argv Signal.forwarded sent]
  alive : w.child.startError = none →
    sent = w.child.before ++ Supervision.passed w.child.during ∧
      run.result = .ok (exitStatus (w.child.returnCode sent))
  unstarted : ∀ error, w.child.startError = some error →
    sent = [] ∧ ∃ failure, run.result = .error (.failure failure) ∧
      failure = unavailable path error.detail ∧ failure.kind = .dispatch ∧ failure.status = 69

theorem exists_relays (w : World) (handlers : Handlers) (path : String) (argv : List String) :
    ∃ sent, Relays w path argv (supervise w handlers true path argv) sent := by
  cases starts : w.child.startError with
  | none =>
    rw [supervise_of_start starts]
    refine ⟨_, rfl, fun _ => ⟨Supervision.sent_wait w.child handlers, rfl⟩, ?_⟩
    intro error fails
    cases starts.symm.trans fails
  | some error =>
    rw [supervise_of_startError starts]
    refine ⟨_, rfl, fun none => ?_, fun other same => ?_⟩
    · cases starts.symm.trans none
    · cases starts.symm.trans same
      exact ⟨congrArg Supervision.sent (Supervision.early_install w.child handlers), _, rfl, rfl,
        rfl, rfl⟩

theorem events_supervise : (supervise w handlers mainThread path argv).trace.events =
    handlerEvents mainThread handlers := by
  cases starts : w.child.startError with
  | none => rw [supervise_of_start starts]
  | some error => rw [supervise_of_startError starts]

theorem restores_supervise : (supervise w handlers mainThread path argv).Restores handlers := by
  intro p installed
  rw [events_supervise]
  rfl

theorem keeps_supervise : (supervise w handlers false path argv).Keeps handlers := by
  have same : handlerEvents false handlers = [.setHandlers handlers, .setHandlers handlers] := rfl
  intro event member
  rw [events_supervise, same, List.mem_cons, List.mem_singleton, or_self] at member
  rw [member]
  rfl

end Supervise

section Start

variable {dispatcher : Dispatcher} {w : World} {handlers : Handlers} {d : Dispatch}

theorem keeps_replace (w : World) (path : String) (argv : List String) :
    (replace w path argv).Keeps handlers := by
  refine Run.keeps_of_silent ?_
  unfold replace
  cases w.child.startError with
  | none => rfl
  | some error => rfl

theorem keeps_log (severity : Logging.Severity) (logger : Logging.Logger) (message : String) :
    (Run.log severity logger message).Keeps handlers :=
  Run.keeps_event trivial

theorem restores_run (dispatcher : Dispatcher) (w : World) (handlers : Handlers)
    (mainThread : Bool) (d : Dispatch) :
    (dispatcher.run w handlers mainThread d).Restores handlers := by
  cases defect : defect? w dispatcher.path with
  | some detail =>
    rw [run_of_defect defect]
    exact Run.restores_of_silent rfl
  | none =>
    rw [run_of_fit defect]
    refine Run.restores_bind (Run.restores_of_keeps (keeps_log _ _ _)) fun _ _ => ?_
    split
    · exact Run.restores_of_keeps (keeps_replace w _ _)
    · exact restores_supervise

theorem keeps_run (dispatcher : Dispatcher) (w : World) (handlers : Handlers) (d : Dispatch) :
    (dispatcher.run w handlers false d).Keeps handlers := by
  cases defect : defect? w dispatcher.path with
  | some detail =>
    rw [run_of_defect defect]
    exact Run.keeps_of_silent rfl
  | none =>
    rw [run_of_fit defect]
    refine Run.keeps_bind (keeps_log _ _ _) fun _ _ => ?_
    split
    · exact keeps_replace w _ _
    · exact keeps_supervise

theorem defect?_of_check (passes : check w dispatcher.path = .ok ()) :
    defect? w dispatcher.path = none := by
  unfold check at passes
  cases defect : defect? w dispatcher.path with
  | none => rfl
  | some detail => simp [defect] at passes

theorem relays_run {sent : List Signal} (spawns : dispatcher.mode ≠ "exec")
    (fit : defect? w dispatcher.path = none)
    (relays : Relays w dispatcher.path (dispatcher.commandLine d)
      (supervise w handlers true dispatcher.path (dispatcher.commandLine d)) sent) :
    Relays w dispatcher.path (dispatcher.commandLine d) (dispatcher.run w handlers true d)
      sent := by
  rw [run_of_fit fit, if_neg spawns]
  exact ⟨relays.started, relays.alive, relays.unstarted⟩

/-- In the main thread a supervised start relays every signal once and in order. It leaves the
handlers as they were, however it ends, and outside the main thread they are never touched. -/
theorem signals_of_run (dispatcher : Dispatcher) (w : World) (handlers : Handlers) (d : Dispatch) :
    (dispatcher.mode ≠ "exec" → check w dispatcher.path = .ok () →
      ∃ sent, Relays w dispatcher.path (dispatcher.commandLine d)
        (dispatcher.run w handlers true d) sent) ∧
    (dispatcher.run w handlers true d).Restores handlers ∧
    ∀ p : Process, p.handlers = handlers →
      ∀ events, events <+: (dispatcher.run w handlers false d).trace.events →
        (p.replay events).1.handlers = handlers := by
  refine ⟨?_, restores_run dispatcher w handlers true d, ?_⟩
  · intro spawns passes
    obtain ⟨sent, relays⟩ :=
      exists_relays w handlers dispatcher.path (dispatcher.commandLine d)
    exact ⟨sent, relays_run spawns (defect?_of_check passes) relays⟩
  · intro p installed events start
    refine Process.handlers_replay installed fun event member => ?_
    exact keeps_run dispatcher w handlers d event (start.subset member)

/-- The tool outlives a hangup that comes before it is known, and an interrupt. A termination ends
it, and what comes after that finds it gone. -/
def doomed : World := { World.equipped with
  child := {
    ending := .code (-15)
    before := [.hangup]
    during := [⟨.interrupt, true⟩, ⟨.terminate, true⟩, ⟨.terminate, false⟩, ⟨.hangup, false⟩] } }

theorem signals_of_run_killed :
    (Dispatcher.run ⟨"/usr/bin/ztc", "spawn"⟩ doomed { interrupt := .custom 7 } true
        { command := "scan" }).trace.started =
      [.beside ["/usr/bin/ztc", "scan"] [.interrupt, .terminate, .hangup]
        [.hangup, .interrupt, .terminate]] ∧
    (Dispatcher.run ⟨"/usr/bin/ztc", "spawn"⟩ doomed { interrupt := .custom 7 } true
        { command := "scan" }).result = .ok 143 ∧
    (Dispatcher.run ⟨"/usr/bin/ztc", "spawn"⟩ doomed { interrupt := .custom 7 } true
        { command := "scan" }).Restores { interrupt := .custom 7 } := by
  obtain ⟨relays, restores, -⟩ :=
    signals_of_run ⟨"/usr/bin/ztc", "spawn"⟩ doomed { interrupt := .custom 7 } { command := "scan" }
  obtain ⟨sent, relayed⟩ := relays (by decide) rfl
  obtain ⟨all, ended⟩ := relayed.alive rfl
  have three : sent = [.hangup, .interrupt, .terminate] := all
  have started := relayed.started
  rw [three] at started ended
  exact ⟨started, ended, restores⟩

end Start

end Dispatcher

end Handover
