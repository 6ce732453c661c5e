import Handover.Proofs.Modes
import Handover.Proofs.Text.ShellWord

/-!
The record of a start. It names the mode, and a shell splits the rest of it into the very arguments
that are handed over. So whoever has the record knows what was started, and how.
-/

namespace Handover

namespace Dispatcher

variable {w : World} {path : String}

/-- What is recorded before the tool is started. -/
def startMessage (mode : String) (argv : List String) : String :=
  "Dispatching (" ++ mode ++ "): " ++ Text.shellLine argv

/-- A start that nothing stands in the way of is recorded, and then one process is handed over. What
comes after it is no record. -/
theorem exists_started (fit : defect? w path = none) (mode : String) (handlers : Handlers)
    (mainThread : Bool) (d : Dispatch) :
    ∃ p events, p.Carries { toolPath := path, mode } d ∧
      (run ⟨path, mode⟩ w handlers mainThread d).trace.started = [p] ∧
      (run ⟨path, mode⟩ w handlers mainThread d).trace.events =
        .record .debug .dispatch (startMessage mode p.argv) :: events ∧
      ∀ q : Process, (q.replay events).2 = [] := by
  rw [run_of_fit fit]
  by_cases inPlace : mode = "exec"
  · rw [if_pos inPlace, replace]
    refine ⟨_, [], .replaced inPlace, ?_⟩
    cases w.child.startError with
    | none => exact ⟨rfl, rfl, fun q => rfl⟩
    | some error => exact ⟨rfl, rfl, fun q => rfl⟩
  · rw [if_neg inPlace]
    cases starts : w.child.startError with
    | none =>
      rw [supervise_of_start starts]
      exact ⟨_, _, .beside inPlace, rfl, rfl, fun q => rfl⟩
    | some error =>
      rw [supervise_of_startError starts]
      exact ⟨_, _, .beside inPlace, rfl, rfl, fun q => rfl⟩

end Dispatcher

namespace Session

variable {s : Session} {path mode : String}

structure Traces (s : Session) (path mode : String) : Prop where
  mode : mode ∈ ["exec", "spawn"]
  tool : s.world.HasTool path
  debug : s.process.levels.admits .dispatch .debug = true

theorem exists_record (traces : s.Traces path mode) (mainThread : Bool) (d : Dispatch) :
    ∃ p, p.Carries { toolPath := path, mode } d ∧
      (s.report (.start path mode mainThread d)).run.trace.started = [p] ∧
      (s.report (.start path mode mainThread d)).records =
        [⟨.debug, .dispatch, Dispatcher.startMessage mode p.argv⟩] := by
  obtain ⟨absolute, fit⟩ := traces.tool
  obtain ⟨p, events, carries, started, recorded, silent⟩ :=
    Dispatcher.exists_started (Dispatcher.defect?_eq_none_iff.mpr fit) mode s.process.handlers
      mainThread d
  have performed :
      Operation.perform (.start path mode mainThread d) s.world s.process.handlers = _ :=
    (perform_start absolute mode s.world s.process.handlers mainThread d).trans (Run.map_eq _ _)
  refine ⟨p, carries, ?_, ?_⟩
  · exact (congrArg (·.trace.started) performed).trans started
  · simp only [report, performed, recorded]
    have first := traces.debug
    simp only [Process.replay, Process.records, first, if_true, silent]
    rfl

theorem startMessage_inj {mode other : String} (known : mode ∈ ["exec", "spawn"])
    (otherKnown : other ∈ ["exec", "spawn"]) {argv args : List String}
    (same : Dispatcher.startMessage mode argv = Dispatcher.startMessage other args) :
    mode = other ∧ argv = args := by
  simp only [Dispatcher.startMessage, String.append_assoc, String.append_right_inj] at same
  have modes : mode = other := by
    -- the modes differ in their first characters
    have first := congrArg (·.toList.head?) same
    simp only [List.mem_cons, List.not_mem_nil, or_false] at known otherKnown
    rcases known with rfl | rfl <;> rcases otherKnown with rfl | rfl
    · rfl
    · simp at first
    · simp at first
    · rfl
  subst modes
  simp only [String.append_right_inj] at same
  have read := congrArg Text.shellWords? same
  rw [Text.shellWords?_shellLine, Text.shellWords?_shellLine] at read
  exact ⟨rfl, Option.some.inj read⟩

/-- The record of a start is the only one that is kept. Behind the mode it has a line that a shell
splits into the arguments that are handed over, so another start with the same record was made in
the same mode and with the same arguments. -/
theorem records_of_start (traces : s.Traces path mode) (mainThread : Bool) (d : Dispatch) :
    ∃ p line, p.Carries { toolPath := path, mode } d ∧
      (s.report (.start path mode mainThread d)).run.trace.started = [p] ∧
      (s.report (.start path mode mainThread d)).records =
        [⟨.debug, .dispatch, "Dispatching (" ++ mode ++ "): " ++ line⟩] ∧
      Text.shellWords? line = some p.argv ∧
      ∀ (other : Session) (otherPath otherMode : String) (otherThread : Bool)
        (otherDispatch : Dispatch) (q : Started), other.Traces otherPath otherMode →
        (other.report (.start otherPath otherMode otherThread otherDispatch)).run.trace.started =
          [q] →
        (other.report (.start otherPath otherMode otherThread otherDispatch)).records =
          (s.report (.start path mode mainThread d)).records →
        otherMode = mode ∧ q.argv = p.argv := by
  obtain ⟨p, carries, started, records⟩ := exists_record traces mainThread d
  refine ⟨p, Text.shellLine p.argv, carries, started, records,
    Text.shellWords?_shellLine p.argv, ?_⟩
  intro other otherPath otherMode otherThread otherDispatch q otherTraces otherStarted same
  obtain ⟨r, -, rStarted, rRecords⟩ := exists_record otherTraces otherThread otherDispatch
  obtain rfl : r = q := List.singleton_inj.mp (rStarted.symm.trans otherStarted)
  have messages := (List.singleton_inj.mp (rRecords.symm.trans (same.trans records)))
  exact startMessage_inj otherTraces.mode traces.mode (LogRecord.mk.inj messages).2.2

def blankPath : Session where
  world := { World.equipped with
    files := { entries := [(["my ztc"], .file ⟨#[]⟩ true)] }
    child := { startError := some .silent } }
  process := { levels := { dispatch := 10 } }

theorem records_of_start_blankPath :
    ∃ line, (blankPath.report (.start "/my ztc" "spawn" false
        { command := "scan", args := ["--limit", "", "it's"] })).records =
      [⟨.debug, .dispatch, "Dispatching (spawn): " ++ line⟩] ∧
      Text.shellWords? line = some ["/my ztc", "scan", "--limit", "", "it's"] := by
  have traces : blankPath.Traces "/my ztc" "spawn" :=
    ⟨by decide, ⟨by decide, _, rfl⟩, by decide⟩
  obtain ⟨p, line, carries, -, records, words, -⟩ :=
    records_of_start traces false { command := "scan", args := ["--limit", "", "it's"] }
  rw [Started.argv_of_carries carries] at words
  exact ⟨line, records, words⟩

end Session

end Handover
