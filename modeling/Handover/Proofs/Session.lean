import Handover.Proofs.Supervision
import Handover.Proofs.World
import Handover.Proofs.Explanation

/-!
What an operation leaves to those that come after it. It may leave levels of loggers, but the signal
handlers are back however it ends, and the world is changed by nothing but changes. So a later
operation cannot tell how a session came to the world that it finds.
-/

namespace Handover

variable {handlers : Handlers}

theorem Logging.keeps_setLevel (logger : Option Logger) (level : String) :
    (setLevel logger level).Keeps handlers := by
  rcases setLevel_cases logger level with same | ⟨target, number, -, -, set⟩ | ⟨-, broken⟩
  · rw [same]
    exact Run.keeps_of_silent rfl
  · rw [set]
    exact Run.keeps_event trivial
  · rw [broken]
    exact Run.keeps_of_silent rfl

theorem Dispatch.restores_deliver (d : Dispatch) (w : World) (handlers : Handlers)
    (given : Option Settings) : (d.deliver w handlers given).Restores handlers := by
  rw [deliver_eq]
  have settled : (Settings.settle w given).Keeps handlers :=
    Run.keeps_of_onlyLeaves (Settings.onlyLeaves_settle w given)
  refine Run.restores_bind (Run.restores_of_keeps settled) fun s _ => ?_
  have configured : (Logging.configure s.logLevel).Keeps handlers :=
    Logging.keeps_setLevel (some .package) s.logLevel
  refine Run.restores_bind (Run.restores_of_keeps configured) fun _ _ => ?_
  refine Run.restores_bind (Run.restores_of_silent rfl) fun dispatcher _ => ?_
  exact Dispatcher.restores_run dispatcher w handlers true d

namespace Invocation

theorem keeps_announce (i : Invocation) : i.announce.Keeps handlers := by
  refine Run.keeps_bind (Run.keeps_of_onlyLeaves i.onlyLeaves_judge) fun verdict _ => ?_
  exact Run.keeps_of_silent rfl

theorem restores_carryOut (i : Invocation) (w : World) (handlers : Handlers)
    (given : Option Settings) : (i.carryOut w handlers given).Restores handlers := by
  refine Run.restores_bind (Run.restores_of_keeps i.keeps_announce) fun verdict _ => ?_
  cases verdict with
  | dispatch d =>
    refine Run.restores_answering (d.restores_deliver w handlers given) ?_
    intro failure next answered
    unfold unavailability at answered
    split at answered
    · cases answered
      exact Run.restores_of_silent rfl
    · cases answered
  | refuse failure => exact Run.restores_of_silent rfl
  | help message => exact Run.restores_of_silent rfl

theorem keeps_explain (i : Invocation) : i.explain.Keeps handlers := by
  refine Run.keeps_bind i.keeps_announce fun verdict _ => ?_
  cases verdict with
  | dispatch d => exact Run.keeps_of_silent rfl
  | refuse failure => exact Run.keeps_of_silent rfl
  | help message => exact Run.keeps_of_silent rfl

end Invocation

theorem CommandLine.restores_perform (line : CommandLine) (w : World) (handlers : Handlers) :
    (line.perform w handlers).Restores handlers := by
  cases line with
  | request asked =>
    refine Run.restores_map Ending.status ?_
    cases asked with
    | run i => exact i.restores_carryOut w handlers none
    | explain i => exact Run.restores_of_keeps i.keeps_explain
    | mappings chosen => exact Run.restores_of_silent rfl
  | help => exact Run.restores_of_silent rfl
  | completion => exact Run.restores_of_silent rfl
  | misuse => exact Run.restores_of_silent rfl

namespace Operation

/-- Every operation gives the handlers back, whether it fails or not. -/
theorem restores_perform (operation : Operation) (w : World) (handlers : Handlers) :
    (operation.perform w handlers).Restores handlers := by
  cases operation with
  | load requested given =>
    refine Run.restores_map Outcome.loaded (Run.restores_of_keeps ?_)
    exact Run.keeps_of_onlyLeaves (Settings.onlyLeaves_load _ requested)
  | check path =>
    refine Run.restores_bind (Run.restores_of_silent rfl) fun dispatcher _ => ?_
    refine Run.restores_bind (Run.restores_of_silent rfl) fun _ _ => ?_
    exact Run.restores_of_silent rfl
  | start path mode mainThread dispatch =>
    refine Run.restores_map _ ?_
    refine Run.restores_bind (Run.restores_of_silent rfl) fun dispatcher _ => ?_
    exact Dispatcher.restores_run dispatcher w handlers mainThread dispatch
  | call name tokens settings =>
    simp only [perform]
    cases Command.ofName? name with
    | none => exact Run.restores_of_silent rfl
    | some command =>
      exact Run.restores_map _ (Invocation.restores_carryOut _ w handlers settings)
  | script invocation => exact Run.restores_map _ (invocation.restores_carryOut w handlers none)
  | program args =>
    exact Run.restores_map _ ((CommandLine.ofArguments args).restores_perform w handlers)
  | configure level =>
    refine Run.restores_bind (Run.restores_of_keeps (Logging.keeps_setLevel _ level)) fun _ _ => ?_
    exact Run.restores_of_silent rfl
  | logger name level =>
    refine Run.restores_bind (Run.restores_of_keeps (Logging.keeps_setLevel _ level)) fun _ _ => ?_
    exact Run.restores_of_silent rfl

end Operation

theorem World.fixed_changed (w : World) (change : Change) :
    (w.changed change).fixed = w.fixed := by
  cases change <;> rfl

namespace Session

theorem handlers_after (s : Session) (step : Step) :
    (s.after step).process.handlers = s.process.handlers := by
  cases step with
  | change change => rfl
  | operate operation =>
    exact operation.restores_perform s.world s.process.handlers s.process rfl

theorem fixed_after (s : Session) (step : Step) : (s.after step).world.fixed = s.world.fixed := by
  cases step with
  | change change => exact s.world.fixed_changed change
  | operate operation => rfl

theorem kept_afterAll (s : Session) (history : List Step) :
    (s.afterAll history).process.handlers = s.process.handlers ∧
      (s.afterAll history).world.fixed = s.world.fixed := by
  induction history generalizing s with
  | nil => exact ⟨rfl, rfl⟩
  | cons step rest ih =>
    obtain ⟨handlers, fixed⟩ := ih (s.after step)
    exact ⟨handlers.trans (s.handlers_after step), fixed.trans (s.fixed_after step)⟩

/-- Two histories that leave the same files, the same variables and the same child leave nothing
else that an operation could find out about. Its whole run is the same, and only the records that
are kept may differ. -/
theorem report_of_same_world (s : Session) (history other : List Step)
    (entry : ∀ place, (s.afterAll history).world.files.entry? place =
      (s.afterAll other).world.files.entry? place)
    (value : ∀ name, (s.afterAll history).world.environment.lookup name =
      (s.afterAll other).world.environment.lookup name)
    (child : (s.afterAll history).world.child = (s.afterAll other).world.child)
    (operation : Operation) :
    ((s.afterAll history).report operation).run = ((s.afterAll other).report operation).run := by
  obtain ⟨handlers, fixed⟩ := s.kept_afterAll history
  obtain ⟨otherHandlers, otherFixed⟩ := s.kept_afterAll other
  have alike : (s.afterAll history).world.Alike (s.afterAll other).world :=
    ⟨entry, value, child, fixed.trans otherFixed.symm⟩
  have same : (s.afterAll history).process.handlers = (s.afterAll other).process.handlers :=
    handlers.trans otherHandlers.symm
  calc ((s.afterAll history).report operation).run
    _ = operation.perform (s.afterAll history).world (s.afterAll other).process.handlers :=
      congrArg (operation.perform (s.afterAll history).world) same
    _ = ((s.afterAll other).report operation).run := operation.perform_of_alike alike _

def eventful : List Step := [
  .change (.remove "/usr/bin/ztc"),
  .operate (.program ["run", "scan", "-n"]),
  .operate (.call "no-such-script" [] none),
  .change (.write "/usr/bin/ztc" (.file ⟨#[]⟩ true)),
  .operate (.logger "ztcshim.dispatch" "debug"),
  .change (.setVariable "ZTC_SHIM_LOG_LEVEL" (some "info")),
  .change (.setVariable "ZTC_SHIM_DISPATCH_MODE" (some "spawn"))]

def quiet : List Step := [
  .change (.setVariable "ZTC_SHIM_DISPATCH_MODE" (some "spawn")),
  .change (.setVariable "ZTC_SHIM_LOG_LEVEL" (some "info"))]

def scanAfter (history : List Step) : Report :=
  (afterAll { world := .equipped } history).report (.program ["run", "scan", "-n"])

theorem report_of_same_world_scan :
    (scanAfter eventful).run = (scanAfter quiet).run ∧
      (scanAfter eventful).records ≠ (scanAfter quiet).records ∧
      (scanAfter quiet).run.trace.started =
        [.beside ["/usr/bin/ztc", "scan", "--nopush"] [.interrupt, .terminate, .hangup] []] := by
  have value : ∀ name,
      (afterAll { world := .equipped } eventful).world.environment.lookup name =
        (afterAll { world := .equipped } quiet).world.environment.lookup name := by
    intro name
    by_cases level : name = "ZTC_SHIM_LOG_LEVEL"
    · rw [level]
      rfl
    by_cases mode : name = "ZTC_SHIM_DISPATCH_MODE"
    · rw [mode]
      rfl
    have absent (first second : String × String) (one : name ≠ first.1) (two : name ≠ second.1) :
        List.lookup name [first, second] = none := by
      refine List.lookup_eq_none_iff.mpr ?_
      simp [one, two]
    exact (absent _ _ mode level).trans (absent _ _ level mode).symm
  exact ⟨report_of_same_world { world := .equipped } eventful quiet (fun place => by rfl) value rfl
    (.program ["run", "scan", "-n"]), by decide, by rfl⟩

end Session

end Handover
