import Handover.Proofs.Delivery

/-!
What holds of every invocation from beginning to end: what may be started, when the world has a
say in it, and what the caller is told.
-/

namespace Handover

variable {i : Invocation} {v : Verdict} {d : Dispatch} {w : World} {handlers : Handlers}
  {given : Option Settings}

theorem answering_of_unavailable {failure : Failure} (unavailable : failure.Unavailable)
    (trace : Trace) :
    (⟨trace, .error (.failure failure)⟩ : Run Int).answering unavailability =
      ⟨trace ++ { diagnostics := Diagnostics.refusal failure.text }, .ok 69⟩ := by
  simp only [Run.answering, unavailability, unavailable.answered, if_true, unavailable.status]

namespace Invocation

theorem onlyLeaves_judge (i : Invocation) : i.judge.OnlyLeaves Event.IsRecord := by
  unfold judge
  refine Run.onlyLeaves_bind (Run.onlyLeaves_event trivial) fun _ _ => ?_
  refine Run.onlyLeaves_bind (Run.onlyLeaves_of_empty rfl) fun verdict _ => ?_
  split
  · exact Run.onlyLeaves_bind (Run.onlyLeaves_event trivial) fun _ _ => Run.onlyLeaves_of_empty rfl
  · exact Run.onlyLeaves_of_empty rfl

theorem result_judge (i : Invocation) : i.judge.result = i.verdict.mapError .breakdown := by
  unfold judge
  cases i.verdict with
  | error breakdown => rfl
  | ok v => cases i.style <;> cases v <;> rfl

theorem announce_of_verdict (verdict : i.verdict = .ok v) :
    ∃ events, (∀ event ∈ events, event.IsRecord) ∧
      i.announce = ⟨{ events, diagnostics := Diagnostics.ofVerdict v }, .ok v⟩ := by
  obtain ⟨events, trace, records⟩ := onlyLeaves_judge i
  have judged : i.judge.result = .ok v := by rw [result_judge, verdict]; rfl
  refine ⟨events, records, ?_⟩
  unfold announce
  rw [Run.bind_of_ok judged, trace]
  refine congrArg (Run.mk · _) (Trace.ext rfl ?_ ?_ rfl)
  · exact List.append_nil events
  · exact String.empty_append.trans String.append_empty

theorem carryOut_of_breakdown {breakdown : Breakdown} (verdict : i.verdict = .error breakdown) :
    ∃ events, i.carryOut w handlers given = ⟨{ events }, .error (.breakdown breakdown)⟩ := by
  obtain ⟨events, trace, -⟩ := onlyLeaves_judge i
  have judged : i.judge.result = .error (.breakdown breakdown) := by
    rw [result_judge, verdict]
    rfl
  refine ⟨events, ?_⟩
  unfold carryOut announce
  rw [Run.bind_of_error judged, trace]
  rfl

/-- The run is the same one in every world. It ends with the status after the text is written, it
starts nothing, and it leaves the process as it is. -/
def EndsAlone (i : Invocation) (status : Int) (text : String) : Prop :=
  ∃ events, (∀ p : Process, (p.replay events).1 = p) ∧
    ∀ w handlers given,
      i.carryOut w handlers given = ⟨{ events, diagnostics := text }, .ok status⟩

theorem endsAlone_of_status {status : Int} (verdict : i.verdict = .ok v)
    (ends : v.status? = some status) : i.EndsAlone status (Diagnostics.ofVerdict v) := by
  obtain ⟨events, records, announced⟩ := announce_of_verdict verdict
  refine ⟨events, fun p => p.replay_of_records records, fun w handlers given => ?_⟩
  unfold carryOut
  rw [announced, Run.bind_of_ok rfl]
  cases v with
  | dispatch d => cases ends
  | refuse failure =>
    cases ends
    exact congrArg (Run.mk · _) (Trace.append_empty _)
  | help message =>
    cases ends
    exact congrArg (Run.mk · _) (Trace.append_empty _)

theorem carryOut_of_dispatch (verdict : i.verdict = .ok (.dispatch d)) :
    ∃ events, i.carryOut w handlers given =
      ⟨{ events, diagnostics := Diagnostics.ofVerdict (.dispatch d) } ++
        ((d.deliver w handlers given).answering unavailability).trace,
        ((d.deliver w handlers given).answering unavailability).result⟩ := by
  obtain ⟨events, -, announced⟩ := announce_of_verdict verdict
  refine ⟨events, ?_⟩
  unfold carryOut
  rw [announced, Run.bind_of_ok rfl]
  rfl

theorem started_of_dispatch (verdict : i.verdict = .ok (.dispatch d)) :
    (i.carryOut w handlers given).trace.started.length ≤ 1 ∧
      ∀ p ∈ (i.carryOut w handlers given).trace.started,
        ∃ s, (Settings.settle w given).result = .ok s ∧ w.HasTool s.toolPath ∧ p.Carries s d := by
  obtain ⟨events, carried⟩ := carryOut_of_dispatch verdict
  have delivered := d.delivered_deliver w handlers given
  rw [carried]
  generalize d.deliver w handlers given = run at delivered
  cases delivered with
  | ran settled tool starts carries concludes =>
    exact Trace.started_of_one rfl ⟨_, settled, tool, carries⟩
  | unstarted settled tool fails carries unavailable =>
    rw [answering_of_unavailable unavailable]
    exact Trace.started_of_one rfl ⟨_, settled, tool, carries⟩
  | unfit no_tool unavailable =>
    rw [answering_of_unavailable unavailable]
    exact Trace.started_of_none rfl
  | broken cause => exact Trace.started_of_none rfl

theorem status_of_dispatch {status : Int} (verdict : i.verdict = .ok (.dispatch d))
    (returned : (i.carryOut w handlers given).result = .ok status) :
    (w.child.startError = none ∧
        (∃ p, (i.carryOut w handlers given).trace.started = [p] ∧ w.child.Concludes p status) ∧
        (i.carryOut w handlers given).trace.diagnostics = Diagnostics.ofVerdict (.dispatch d)) ∨
      (status = 69 ∧
        (∀ s, (Settings.settle w given).result = .ok s → w.HasTool s.toolPath →
          w.child.startError ≠ none) ∧
        ∃ text, Diagnostics.IsError text ∧ (i.carryOut w handlers given).trace.diagnostics =
          Diagnostics.ofVerdict (.dispatch d) ++ text) := by
  obtain ⟨events, carried⟩ := carryOut_of_dispatch verdict
  have delivered := d.delivered_deliver w handlers given
  rw [carried] at returned ⊢
  generalize d.deliver w handlers given = run at delivered returned
  cases delivered with
  | ran settled tool starts carries concludes =>
    cases returned
    exact .inl ⟨starts, ⟨_, rfl, concludes⟩, String.append_empty⟩
  | unstarted settled tool fails carries unavailable =>
    rw [answering_of_unavailable unavailable] at returned ⊢
    cases returned
    refine .inr ⟨rfl, fun _ _ _ => by simp [fails], _,
      Diagnostics.isError_refusal unavailable.announced, ?_⟩
    exact congrArg (_ ++ ·) String.empty_append
  | unfit no_tool unavailable =>
    rw [answering_of_unavailable unavailable] at returned ⊢
    cases returned
    refine .inr ⟨rfl, fun s settled tool => absurd tool (no_tool s settled), _,
      Diagnostics.isError_refusal unavailable.announced, ?_⟩
    exact congrArg (_ ++ ·) String.empty_append
  | broken cause => cases returned

/-- What is started, what ends without the world, and what a status means. -/
theorem carryOut_safe (i : Invocation) (w : World) (handlers : Handlers)
    (given : Option Settings) :
    ((i.carryOut w handlers given).trace.started.length ≤ 1 ∧
      ∀ p ∈ (i.carryOut w handlers given).trace.started,
        ∃ d s, i.verdict = .ok (.dispatch d) ∧ (Settings.settle w given).result = .ok s ∧
          w.HasTool s.toolPath ∧ p.Carries s d) ∧
    ((∀ v status, i.verdict = .ok v → v.status? = some status →
        i.EndsAlone status (Diagnostics.ofVerdict v)) ∧
      (i.command = .fix → ∃ text, i.EndsAlone 77 text) ∧
      (i.command = .prepare → i.tokens = [] → ∃ text, i.EndsAlone 0 text)) ∧
    ∀ d status, i.verdict = .ok (.dispatch d) →
      (i.carryOut w handlers given).result = .ok status →
        (w.child.startError = none ∧
            (∃ p, (i.carryOut w handlers given).trace.started = [p] ∧
              w.child.Concludes p status) ∧
            (i.carryOut w handlers given).trace.diagnostics =
              Diagnostics.ofVerdict (.dispatch d)) ∨
          (status = 69 ∧
            (∀ s, (Settings.settle w given).result = .ok s → w.HasTool s.toolPath →
              w.child.startError ≠ none) ∧
            ∃ text, Diagnostics.IsError text ∧ (i.carryOut w handlers given).trace.diagnostics =
              Diagnostics.ofVerdict (.dispatch d) ++ text) := by
  refine ⟨?started, ⟨?alone, ?fix, ?prepare⟩, fun d status => status_of_dispatch⟩
  case alone => exact fun v status => endsAlone_of_status
  case fix =>
    intro fix
    have verdict : i.verdict = .ok (.refuse (positionalRefusal i.tokens)) := by
      simp only [Invocation.verdict, style, fix]
    exact ⟨_, endsAlone_of_status verdict rfl⟩
  case prepare =>
    intro prepare empty
    have verdict : i.verdict = .ok (.help prepareHelp) := by
      simp only [Invocation.verdict, style, prepare, empty, withoutArguments]
    exact ⟨_, endsAlone_of_status verdict rfl⟩
  case started =>
    cases verdict : i.verdict with
    | error breakdown =>
      obtain ⟨events, carried⟩ := carryOut_of_breakdown verdict
      rw [carried]
      exact Trace.started_of_none rfl
    | ok v =>
      cases v with
      | dispatch d =>
        obtain ⟨single, carries⟩ := started_of_dispatch verdict
        refine ⟨single, fun p member => ?_⟩
        obtain ⟨s, settled, tool, carried⟩ := carries p member
        exact ⟨d, s, rfl, settled, tool, carried⟩
      | refuse failure =>
        obtain ⟨events, -, carried⟩ := endsAlone_of_status verdict rfl
        rw [carried]
        exact Trace.started_of_none rfl
      | help message =>
        obtain ⟨events, -, carried⟩ := endsAlone_of_status verdict rfl
        rw [carried]
        exact Trace.started_of_none rfl

def fragileTool : World where
  files := { entries := [
    (["usr", "bin", "ztc"], .file ⟨#[]⟩ true), (["usr", "bin"], .directory),
    (["usr"], .directory)] }
  child := { ending := .bySignal, during := [{ signal := .terminate }] }

theorem carryOut_safe_terminated :
    (Invocation.carryOut ⟨.scan, ["-n"]⟩ fragileTool {} (some { mode := "spawn" })).result =
        .ok 143 ∧
      (∃ p, (Invocation.carryOut ⟨.scan, ["-n"]⟩ fragileTool {}
          (some { mode := "spawn" })).trace.started = [p] ∧
        fragileTool.child.Concludes p 143) ∧
      (∃ text, EndsAlone ⟨.fix, ["-n"]⟩ 77 text) ∧ ∃ text, EndsAlone ⟨.prepare, []⟩ 0 text := by
  have verdict : Invocation.verdict ⟨.scan, ["-n"]⟩ =
      .ok (.dispatch { command := "scan", args := ["--nopush"] }) := by
    rfl
  have returned : (Invocation.carryOut ⟨.scan, ["-n"]⟩ fragileTool {}
      (some { mode := "spawn" })).result = .ok 143 := by
    rfl
  obtain ⟨-, -, concluded⟩ :=
    carryOut_safe ⟨.scan, ["-n"]⟩ fragileTool {} (some { mode := "spawn" })
  refine ⟨returned, ?_, (carryOut_safe ⟨.fix, ["-n"]⟩ {} {} none).2.1.2.1 rfl,
    (carryOut_safe ⟨.prepare, []⟩ {} {} none).2.1.2.2 rfl rfl⟩
  rcases concluded _ 143 verdict returned with ⟨-, concludes, -⟩ | ⟨other, -⟩
  · exact concludes
  · exact absurd other (by decide)

end Invocation

end Handover
