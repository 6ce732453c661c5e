import Handover.Process
import Handover.Proofs.Except

/-!
Runs step by step. A run goes on as long as its steps succeed, and keeps the traces of all steps
that it took. Most steps start nothing and write nothing, and leave only events of some kind.
-/

namespace Handover

namespace Trace

theorem ext {first second : Trace} (started : first.started = second.started)
    (events : first.events = second.events) (diagnostics : first.diagnostics = second.diagnostics)
    (output : first.output = second.output) : first = second := by
  cases first
  cases second
  simp_all

@[simp] theorem empty_append (t : Trace) : ({} : Trace) ++ t = t := by
  apply ext <;> simp

@[simp] theorem append_empty (t : Trace) : t ++ ({} : Trace) = t := by
  apply ext <;> simp

theorem started_of_none {t : Trace} {fit : Started → Prop} (none : t.started = []) :
    t.started.length ≤ 1 ∧ ∀ p ∈ t.started, fit p := by
  rw [none]
  exact ⟨Nat.zero_le 1, fun p member => by cases member⟩

theorem started_of_one {t : Trace} {fit : Started → Prop} {p : Started} (one : t.started = [p])
    (fits : fit p) : t.started.length ≤ 1 ∧ ∀ p ∈ t.started, fit p := by
  rw [one]
  refine ⟨Nat.le_refl 1, fun other member => ?_⟩
  rw [List.mem_singleton.mp member]
  exact fits

end Trace

def Event.IsRecord : Event → Prop
  | .record .. => True
  | _ => False

namespace Run

variable {α β : Type} {run : Run α} {next : α → Run β} {allowed : Event → Prop}

theorem bind_of_ok {a : α} (ended : run.result = .ok a) :
    run >>= next = ⟨run.trace ++ (next a).trace, (next a).result⟩ := by
  change run.bind next = _
  simp only [Run.bind, ended]

theorem bind_of_error {trouble : Trouble} (failed : run.result = .error trouble) :
    run >>= next = ⟨run.trace, .error trouble⟩ := by
  change run.bind next = _
  simp only [Run.bind, failed]

@[simp] theorem pure_bind (a : α) : (Pure.pure a : Run α) >>= next = next a := by
  rw [bind_of_ok rfl]
  exact congrArg (Run.mk · (next a).result) (Trace.empty_append _)

theorem map_eq (f : α → β) (run : Run α) : f <$> run = ⟨run.trace, run.result.map f⟩ := by
  change run >>= (fun a => Pure.pure (f a)) = _
  cases ended : run.result with
  | error trouble => exact bind_of_error ended
  | ok a =>
    rw [bind_of_ok ended]
    exact congrArg (Run.mk · _) (Trace.append_empty run.trace)

theorem result_bind_eq_ok_iff {b : β} :
    (run >>= next).result = .ok b ↔ ∃ a, run.result = .ok a ∧ (next a).result = .ok b := by
  cases ended : run.result with
  | error trouble => simp [bind_of_error ended]
  | ok a => simp [bind_of_ok ended]

theorem result_bind_eq_error_iff {trouble : Trouble} :
    (run >>= next).result = .error trouble ↔
      run.result = .error trouble ∨ ∃ a, run.result = .ok a ∧ (next a).result = .error trouble := by
  cases ended : run.result with
  | error other => simp [bind_of_error ended]
  | ok a => simp [bind_of_ok ended]

/-- The run starts nothing and writes nothing, and all its events are of a kind. -/
def OnlyLeaves (run : Run α) (allowed : Event → Prop) : Prop :=
  ∃ events, run.trace = { events } ∧ ∀ event ∈ events, allowed event

theorem onlyLeaves_of_empty (empty : run.trace = {}) : run.OnlyLeaves allowed :=
  ⟨[], empty, by simp⟩

theorem onlyLeaves_event {event : Event} (fine : allowed event) :
    (Run.event event).OnlyLeaves allowed :=
  ⟨[event], rfl, by simpa using fine⟩

theorem onlyLeaves_bind (first : run.OnlyLeaves allowed)
    (second : ∀ a, run.result = .ok a → (next a).OnlyLeaves allowed) :
    (run >>= next).OnlyLeaves allowed := by
  obtain ⟨events, trace, fine⟩ := first
  cases ended : run.result with
  | error trouble => exact ⟨events, by rw [bind_of_error ended, trace], fine⟩
  | ok a =>
    obtain ⟨later, laterTrace, laterFine⟩ := second a ended
    refine ⟨events ++ later, ?_, ?_⟩
    · rw [bind_of_ok ended, trace, laterTrace]
      rfl
    · intro event member
      exact (List.mem_append.mp member).elim (fine event) (laterFine event)

end Run

theorem Process.replay_append (p : Process) (first second : List Event) :
    (p.replay (first ++ second)).1 = ((p.replay first).1.replay second).1 := by
  induction first generalizing p with
  | nil => rfl
  | cons event rest ih => exact ih (p.after event)

theorem Process.replay_of_records (p : Process) {events : List Event}
    (records : ∀ event ∈ events, event.IsRecord) : (p.replay events).1 = p := by
  induction events generalizing p with
  | nil => rfl
  | cons event rest ih =>
    have later := ih (p.after event) fun other member =>
      records other (List.mem_cons_of_mem _ member)
    have first := records event List.mem_cons_self
    cases event with
    | record severity logger message => exact later
    | setLevel logger level => exact first.elim
    | setHandlers handlers => exact first.elim

def Event.Keeps (handlers : Handlers) : Event → Prop
  | .setHandlers others => others = handlers
  | _ => True

theorem Event.keeps_of_isRecord {event : Event} (record : event.IsRecord) (handlers : Handlers) :
    event.Keeps handlers := by
  cases event with
  | record severity logger message => trivial
  | setLevel logger level => trivial
  | setHandlers others => exact record.elim

theorem Process.handlers_replay {p : Process} {handlers : Handlers} {events : List Event}
    (installed : p.handlers = handlers) (keeps : ∀ event ∈ events, event.Keeps handlers) :
    (p.replay events).1.handlers = handlers := by
  induction events generalizing p with
  | nil => exact installed
  | cons event rest ih =>
    have first := keeps event List.mem_cons_self
    have still : (p.after event).handlers = handlers := by
      cases event with
      | record severity logger message => exact installed
      | setLevel logger level => exact installed
      | setHandlers others => exact first
    exact ih still fun other member => keeps other (List.mem_cons_of_mem _ member)

namespace Run

variable {α β : Type} {run : Run α} {next : α → Run β} {handlers : Handlers}

def Keeps (run : Run α) (handlers : Handlers) : Prop :=
  ∀ event ∈ run.trace.events, event.Keeps handlers

/-- A process that has these handlers before the run has them after it. -/
def Restores (run : Run α) (handlers : Handlers) : Prop :=
  ∀ p : Process, p.handlers = handlers → (p.replay run.trace.events).1.handlers = handlers

theorem keeps_of_onlyLeaves (leaves : run.OnlyLeaves Event.IsRecord) : run.Keeps handlers := by
  obtain ⟨events, trace, records⟩ := leaves
  intro event member
  rw [trace] at member
  exact Event.keeps_of_isRecord (records event member) handlers

theorem keeps_event {event : Event} (keeps : event.Keeps handlers) :
    (Run.event event).Keeps handlers := by
  intro other member
  rw [List.mem_singleton.mp member]
  exact keeps

theorem keeps_of_silent (silent : run.trace.events = []) : run.Keeps handlers := by
  intro event member
  rw [silent] at member
  cases member

theorem keeps_bind (first : run.Keeps handlers)
    (second : ∀ a, run.result = .ok a → (next a).Keeps handlers) :
    (run >>= next).Keeps handlers := by
  intro event member
  cases ended : run.result with
  | error trouble =>
    rw [bind_of_error ended] at member
    exact first event member
  | ok a =>
    rw [bind_of_ok ended] at member
    rcases List.mem_append.mp member with early | late
    · exact first event early
    · exact second a ended event late

theorem restores_of_keeps (keeps : run.Keeps handlers) : run.Restores handlers := by
  intro p installed
  exact Process.handlers_replay installed keeps

theorem restores_of_silent (silent : run.trace.events = []) : run.Restores handlers :=
  restores_of_keeps (keeps_of_silent silent)

theorem restores_bind (first : run.Restores handlers)
    (second : ∀ a, run.result = .ok a → (next a).Restores handlers) :
    (run >>= next).Restores handlers := by
  intro p installed
  cases ended : run.result with
  | error trouble =>
    rw [bind_of_error ended]
    exact first p installed
  | ok a =>
    rw [bind_of_ok ended]
    change (p.replay (run.trace.events ++ (next a).trace.events)).1.handlers = handlers
    rw [p.replay_append]
    exact second a ended _ (first p installed)

theorem restores_map (f : α → β) (restores : run.Restores handlers) :
    (f <$> run).Restores handlers := by
  intro p installed
  rw [map_eq]
  exact restores p installed

/-- An answered failure goes on from the handlers that the failed run has given back. -/
theorem restores_answering {answer : Failure → Option (Run α)} (restores : run.Restores handlers)
    (answers : ∀ failure next, answer failure = some next → next.Restores handlers) :
    (run.answering answer).Restores handlers := by
  intro p installed
  unfold answering
  split
  · next failure failed =>
    split
    · next next answered =>
      change (p.replay (run.trace.events ++ next.trace.events)).1.handlers = handlers
      rw [p.replay_append]
      exact answers failure next answered _ (restores p installed)
    · exact restores p installed
  · exact restores p installed

end Run

end Handover
