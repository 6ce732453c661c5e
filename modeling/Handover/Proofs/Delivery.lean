import Handover.Delivery
import Handover.Proofs.Dispatcher
import Handover.Proofs.Settings.Loading

/-!
What carrying out an invocation comes to. A dispatch ends in one of four ways, and everything else
ends before the world is looked at.
-/

namespace Handover

variable {w : World} {handlers : Handlers} {given : Option Settings} {s : Settings}

namespace Logging

theorem setLevel_cases (logger : Option Logger) (level : String) :
    setLevel logger level = pure () ∨
      (∃ target number, logger = some target ∧ level? (Text.upper level) = some number ∧
        setLevel logger level = .event (.setLevel target number)) ∨
      level? (Text.upper level) = none ∧
        setLevel logger level = .breakDown (.unknownLevel (Text.upper level)) := by
  by_cases empty : level.isEmpty = true
  · exact .inl (if_pos empty)
  · unfold setLevel
    rw [if_neg empty]
    cases level? (Text.upper level) with
    | none => exact .inr (.inr ⟨rfl, rfl⟩)
    | some number =>
      cases logger with
      | none => exact .inl rfl
      | some target => exact .inr (.inl ⟨target, number, rfl, rfl, rfl⟩)

theorem onlyLeaves_configure (level : String) :
    (configure level).OnlyLeaves fun _ => True := by
  unfold configure
  rcases setLevel_cases (some .package) level with same | ⟨target, number, -, -, set⟩ | ⟨-, broken⟩
  · rw [same]
    exact Run.onlyLeaves_of_empty rfl
  · rw [set]
    exact Run.onlyLeaves_event trivial
  · rw [broken]
    exact Run.onlyLeaves_of_empty rfl

theorem breakdown_of_configure {level : String} {trouble : Trouble}
    (failed : (configure level).result = .error trouble) :
    ∃ breakdown, trouble = .breakdown breakdown := by
  unfold configure at failed
  rcases setLevel_cases (some .package) level with same | ⟨target, number, -, -, set⟩ | ⟨-, broken⟩
  · rw [same] at failed
    cases failed
  · rw [set] at failed
    cases failed
  · rw [broken] at failed
    cases failed
    exact ⟨_, rfl⟩

end Logging

namespace Settings

def settle (w : World) (given : Option Settings) : Run Settings :=
  match given with
  | some s => pure s
  | none => load w none

theorem onlyLeaves_settle (w : World) (given : Option Settings) :
    (settle w given).OnlyLeaves Event.IsRecord := by
  cases given with
  | some s => exact Run.onlyLeaves_of_empty rfl
  | none => exact onlyLeaves_load w none

theorem unavailable_of_settle {failure : Failure}
    (failed : (settle w given).result = .error (.failure failure)) : failure.Unavailable := by
  cases given with
  | some s => cases failed
  | none =>
    rcases error_of_load failed with ⟨other, same, kind, status, announced⟩ | unanswered
    · cases same
      exact ⟨by rw [kind]; rfl, status, announced⟩
    · obtain ⟨breakdown, broken⟩ := (load_breakdown_iff w none).mpr unanswered
      rw [settle, broken] at failed
      cases failed

end Settings

namespace Dispatch

/-- The ways in which the start of the tool ends. A broken run never got to it. -/
inductive Delivered (d : Dispatch) (w : World) (given : Option Settings) : Run Int → Prop where
  | ran {s : Settings} {p : Started} {events : List Event} {status : Int}
    (settled : (Settings.settle w given).result = .ok s) (tool : w.HasTool s.toolPath)
    (starts : w.child.startError = none) (carries : p.Carries s d)
    (concludes : w.child.Concludes p status) :
    Delivered d w given ⟨{ started := [p], events }, .ok status⟩
  | unstarted {s : Settings} {p : Started} {events : List Event} {error : StartError}
    {failure : Failure} (settled : (Settings.settle w given).result = .ok s)
    (tool : w.HasTool s.toolPath) (fails : w.child.startError = some error)
    (carries : p.Carries s d) (unavailable : failure.Unavailable) :
    Delivered d w given ⟨{ started := [p], events }, .error (.failure failure)⟩
  | unfit {events : List Event} {failure : Failure}
    (no_tool : ∀ s, (Settings.settle w given).result = .ok s → ¬w.HasTool s.toolPath)
    (unavailable : failure.Unavailable) :
    Delivered d w given ⟨{ events }, .error (.failure failure)⟩
  | broken {events : List Event} {breakdown : Breakdown}
    (cause : (Settings.settle w given >>= fun s => Logging.configure s.logLevel).result =
      .error (.breakdown breakdown)) :
    Delivered d w given ⟨{ events }, .error (.breakdown breakdown)⟩

variable {d : Dispatch}

theorem Delivered.after {run : Run Int} (delivered : Delivered d w given run)
    (before : List Event) :
    Delivered d w given ⟨{ events := before } ++ run.trace, run.result⟩ := by
  cases delivered with
  | ran settled tool starts carries concludes => exact .ran settled tool starts carries concludes
  | unstarted settled tool fails carries unavailable =>
    exact .unstarted settled tool fails carries unavailable
  | unfit no_tool unavailable => exact .unfit no_tool unavailable
  | broken cause => exact .broken cause

theorem deliver_eq (d : Dispatch) (w : World) (handlers : Handlers) (given : Option Settings) :
    d.deliver w handlers given = Settings.settle w given >>= fun s =>
      Logging.configure s.logLevel >>= fun _ =>
        Run.ofExcept ((Dispatcher.ofPath s.toolPath s.mode).mapError .failure) >>= fun dispatcher =>
          dispatcher.run w handlers true d := by
  cases given <;> rfl

theorem deliver_of_error (d : Dispatch) (handlers : Handlers) {trouble : Trouble}
    (failed : (Settings.settle w given).result = .error trouble) :
    ∃ events, d.deliver w handlers given = ⟨{ events }, .error trouble⟩ := by
  obtain ⟨events, trace, -⟩ := Settings.onlyLeaves_settle w given
  refine ⟨events, ?_⟩
  rw [deliver_eq, Run.bind_of_error failed, trace]

theorem unfit_of_settled {failure : Failure} (settled : (Settings.settle w given).result = .ok s)
    (no_tool : ¬w.HasTool s.toolPath) (unavailable : failure.Unavailable) :
    Delivered d w given ⟨{}, .error (.failure failure)⟩ := by
  refine .unfit ?_ unavailable
  intro other same
  rw [settled] at same
  cases same
  exact no_tool

theorem delivered_of_settled (settled : (Settings.settle w given).result = .ok s) :
    Delivered d w given
      (Run.ofExcept ((Dispatcher.ofPath s.toolPath s.mode).mapError .failure) >>= fun dispatcher =>
        dispatcher.run w handlers true d) := by
  by_cases absolute : Path.isAbsolute s.toolPath = true
  · have found : Dispatcher.ofPath s.toolPath s.mode = .ok ⟨s.toolPath, s.mode⟩ := if_pos absolute
    rw [found]
    change Delivered d w given ((pure _ : Run Dispatcher) >>= _)
    rw [Run.pure_bind]
    cases defect : Dispatcher.defect? w s.toolPath with
    | some detail =>
      rw [Dispatcher.run_of_defect defect]
      refine unfit_of_settled settled ?_ (Dispatcher.unavailable_unavailable _ _)
      rintro ⟨-, tool⟩
      rw [Dispatcher.defect?_eq_none_iff.mpr tool] at defect
      cases defect
    | none =>
      have tool : w.HasTool s.toolPath := ⟨absolute, Dispatcher.defect?_eq_none_iff.mp defect⟩
      cases starts : w.child.startError with
      | none =>
        obtain ⟨p, events, status, carries, concludes, run⟩ :=
          Dispatcher.run_of_start defect starts
        rw [run]
        exact .ran settled tool starts carries concludes
      | some error =>
        obtain ⟨p, events, carries, run⟩ := Dispatcher.run_of_startError defect starts
        rw [run]
        exact .unstarted settled tool starts carries (Dispatcher.unavailable_unavailable _ _)
  · have relative : Dispatcher.ofPath s.toolPath s.mode =
        .error (Dispatcher.unavailable s.toolPath "path is not absolute") := if_neg absolute
    rw [relative]
    exact unfit_of_settled settled (fun tool => absolute tool.1)
      (Dispatcher.unavailable_unavailable _ _)

theorem delivered_deliver (d : Dispatch) (w : World) (handlers : Handlers)
    (given : Option Settings) : Delivered d w given (d.deliver w handlers given) := by
  cases settled : (Settings.settle w given).result with
  | error trouble =>
    obtain ⟨events, delivered⟩ := deliver_of_error d handlers settled
    rw [delivered]
    cases trouble with
    | failure failure =>
      refine .unfit ?_ (Settings.unavailable_of_settle settled)
      intro s same
      rw [settled] at same
      cases same
    | breakdown breakdown => exact .broken (by rw [Run.bind_of_error settled])
  | ok s =>
    obtain ⟨before, trace, -⟩ := Settings.onlyLeaves_settle w given
    rw [deliver_eq, Run.bind_of_ok settled, trace]
    refine Delivered.after ?_ before
    obtain ⟨events, configuring, -⟩ := Logging.onlyLeaves_configure s.logLevel
    cases configured : (Logging.configure s.logLevel).result with
    | error trouble =>
      obtain ⟨breakdown, rfl⟩ := Logging.breakdown_of_configure configured
      rw [Run.bind_of_error configured, configuring]
      exact .broken (by rw [Run.bind_of_ok settled, configured])
    | ok _ =>
      rw [Run.bind_of_ok configured, configuring]
      exact (delivered_of_settled settled).after events

end Dispatch

end Handover
